import Mathlib.Data.List.TakeWhile
import LiveVisuals.Proofs.Json.RoundTrip

/-!
# Places in JSON text

Whether a place is inside of a string is told by the quotation marks and backslashes before it.
The reader of tokens goes along with this, one character at a time. Outside of strings a text that
can be read has only blanks of its own kind and no slashes.

Main definitions:

- {lit}`Json.Mode`: what a place in a text belongs to.
- {lit}`Json.Leads`: what a character leads to.
- {lit}`Json.Clean`: outside of strings a text has no slashes and no blanks but those of JSON.
- {lit}`Json.Unreadable`: what remains of a text completes no value.

Main results:

- Theorem {lit}`Json.tokensFrom?_step`: a character leads on, or it cannot be read.
- Theorem {lit}`Json.clean_of_isSome_tokensFrom?`: texts that have tokens are clean.
- Theorem {lit}`Json.Unreadable.of_tokens`: no token before an unreadable text makes it readable.
-/

namespace LiveVisuals

/-! ## Characters of numerals -/

namespace Decimal

/-- The characters that numerals are made of. -/
def isNumeric (c : Char) : Bool := c.isDigit || ['-', '+', '.', 'e', 'E'].contains c

/-- A character of a text with a run of digits belongs to the run or comes after it. -/
theorem isNumeric_or_mem_digitRun {cs : List Char} {c : Char} (h : c ∈ cs) :
    isNumeric c ∨ c ∈ (digitRun cs).2 := by
  rw [← List.takeWhile_append_dropWhile (p := Char.isDigit) (l := cs), List.mem_append] at h
  rcases h with h | h
  · have hdigit : c.isDigit := List.mem_takeWhile_imp h
    exact .inl (by simp [isNumeric, hdigit])
  · exact .inr h

/-- A character of a text belongs to the fraction at its start or comes after it. -/
theorem isNumeric_or_mem_readFraction {cs : List Char} {c : Char} (h : c ∈ cs) :
    isNumeric c ∨ c ∈ (readFraction cs).2 := by
  unfold readFraction
  split
  · next rest =>
    split
    · exact .inr h
    · next ds after _ hrun =>
      rcases List.mem_cons.mp h with rfl | h
      · exact .inl (by decide)
      · have hrest := isNumeric_or_mem_digitRun h
        rwa [hrun] at hrest
  · exact .inr h

/-- A character of a text belongs to the power of ten at its start or comes after it. -/
theorem isNumeric_or_mem_readExponent {cs : List Char} {c : Char} (h : c ∈ cs) :
    isNumeric c ∨ c ∈ (readExponent cs).2 := by
  unfold readExponent
  split
  · exact .inr h
  · next mark rest =>
    split
    · next hmark =>
      split
      next sign tail hsigned =>
      split
      · exact .inr h
      · next ds after _ hrun =>
        have hdigits (hc : c ∈ tail) : isNumeric c ∨ c ∈ after := by
          have hrest := isNumeric_or_mem_digitRun hc
          rwa [hrun] at hrest
        rcases List.mem_cons.mp h with rfl | h
        · exact .inl (by rcases hmark with rfl | rfl <;> decide)
        -- A sign is no part of the digits.
        split at hsigned <;> cases hsigned
        · rcases List.mem_cons.mp h with rfl | h
          · exact .inl (by decide)
          · exact hdigits h
        · rcases List.mem_cons.mp h with rfl | h
          · exact .inl (by decide)
          · exact hdigits h
        · exact hdigits h
    · exact .inr h

/-- A text that is a numeral as a whole has only the characters of numerals. -/
theorem isNumeric_of_readStrict {cs : List Char} {d : Decimal}
    (h : readStrict cs = some (d, [])) : ∀ c ∈ cs, isNumeric c := by
  intro c hc
  have hparts {unsigned : List Char}
      (hrest : (readExponent (readFraction (digitRun unsigned).2).2).2 = [])
      (hc : c ∈ unsigned) : isNumeric c := by
    rcases isNumeric_or_mem_digitRun hc with hc | hc
    · exact hc
    rcases isNumeric_or_mem_readFraction hc with hc | hc
    · exact hc
    rcases isNumeric_or_mem_readExponent hc with hc | hc
    · exact hc
    · rw [hrest] at hc
      cases hc
  unfold readStrict at h
  split at h
  next negative unsigned hsigned =>
  simp only [Option.ite_none_right_eq_some, Option.some.injEq, Prod.mk.injEq] at h
  obtain ⟨-, -, hrest⟩ := h
  split at hsigned <;> cases hsigned
  · rcases List.mem_cons.mp hc with rfl | hc
    · decide
    · exact hparts hrest hc
  · exact hparts hrest hc

end Decimal

namespace Json

open Text (isBlank)

/-! ## Modes -/

/-- What a place in a text belongs to. -/
inductive Mode where
  | plain
  | quoted
  /-- After the backslash of an escape. -/
  | escaped
deriving DecidableEq

/-- What the place after a character belongs to. -/
def Mode.next : Mode → Char → Mode
  | plain, c => if c = quote then quoted else plain
  | quoted, c => if c = quote then plain else if c = backslash then escaped else quoted
  | escaped, _ => quoted

/-- A blank is no quotation mark. -/
theorem ne_quote_of_isBlank {c : Char} (h : isBlank c = true) : c ≠ quote := by
  rintro rfl
  cases h

/-- No string starts with a blank. -/
theorem Mode.next_of_isBlank {c : Char} (h : isBlank c = true) : Mode.plain.next c = .plain := by
  rw [Mode.next, if_neg (ne_quote_of_isBlank h)]

/-- Only a quotation mark leads out of a string. -/
theorem Mode.eq_plain_of_next {mode : Mode} {c : Char} (hc : c ≠ quote)
    (h : mode.next c = .plain) : mode = .plain := by
  cases mode with
  | plain => rfl
  | quoted =>
      rw [Mode.next, if_neg hc] at h
      split at h <;> cases h
  | escaped => cases h

/-- What a place belongs to for a reader that stands there. -/
def Position.mode : Position → Mode
  | between | atom _ => .plain
  | text _ | hex .. => .quoted
  | escape _ => .escaped

variable {α : Type}

/-- Where a character between tokens leads. -/
theorem enter_cases (c : Char) :
    (c = quote ∧ enter (α := α) c = ([], .text [])) ∨
      (endsAtom c = true ∧ c ≠ quote ∧ ∃ ts, enter (α := α) c = (ts, .between)) ∨
      (endsAtom c = false ∧ c ≠ quote ∧ enter (α := α) c = ([], .atom [c])) := by
  have hpunctuation : (punctuation? (α := α) c).isSome = (punctuation? (α := Unit) c).isSome := by
    unfold punctuation?
    split <;> rfl
  by_cases hquote : c = quote
  · subst hquote
    exact .inl ⟨rfl, rfl⟩
  by_cases hspace : isSpace c = true
  · exact .inr (.inl ⟨by simp [endsAtom, hspace], hquote, [], by simp [enter, hspace]⟩)
  · cases hmark : punctuation? (α := α) c with
    | some t =>
        rw [hmark] at hpunctuation
        exact .inr (.inl ⟨by simp [endsAtom, ← hpunctuation], hquote, [t],
          by simp [enter, hspace, hquote, hmark]⟩)
    | none =>
        rw [hmark] at hpunctuation
        exact .inr (.inr ⟨by simp [endsAtom, hspace, hquote, ← hpunctuation], hquote,
          by simp [enter, hspace, hquote, hmark]⟩)

variable [Scalar α]

/-- A character makes tokens at a position and leads on to another one, whatever comes after it. -/
structure Leads (p : Position) (c : Char) (ts : List (Token α)) (p' : Position) : Prop where
  mode : p'.mode = p.mode.next c
  between : endsAtom c = true → p'.mode = .plain → p' = .between
  tokens : ∀ cs, tokensFrom? p (c :: cs) = (tokensFrom? p' cs).map (ts ++ ·)

/-- A character that leads into a string or on in one. -/
theorem Leads.of_not_plain {p p' : Position} {c : Char} (hmode : p'.mode = p.mode.next c)
    (hplain : p'.mode ≠ .plain)
    (htokens : ∀ cs, tokensFrom? (α := α) p (c :: cs) = tokensFrom? p' cs) :
    Leads (α := α) p c [] p' :=
  ⟨hmode, fun _ h => absurd h hplain, fun cs => by simp [htokens]⟩

/-- A character cannot be read at a position, or it leads on to another one. -/
theorem tokensFrom?_step (p : Position) (c : Char) :
    (∀ cs, tokensFrom? (α := α) p (c :: cs) = none) ∨ ∃ ts p', Leads (α := α) p c ts p' := by
  have henter : ∃ ts p', enter (α := α) c = (ts, p') ∧ p'.mode = Mode.plain.next c ∧
      (endsAtom c = true → p'.mode = .plain → p' = .between) := by
    rcases enter_cases (α := α) c with ⟨rfl, h⟩ | ⟨-, hquote, ts, h⟩ | ⟨hends, hquote, h⟩
    · exact ⟨_, _, h, rfl, fun _ h => by cases h⟩
    · exact ⟨_, _, h, by simp [Position.mode, Mode.next, hquote], fun _ _ => rfl⟩
    · exact ⟨_, _, h, by simp [Position.mode, Mode.next, hquote], fun h => by simp [hends] at h⟩
  cases p with
  | between =>
      obtain ⟨ts, p', henter, hmode, hends⟩ := henter
      exact .inr ⟨ts, p', hmode, hends, fun cs => by simp only [tokensFrom?, henter]⟩
  | atom seen =>
      by_cases hends : endsAtom c = true
      · cases hatom : atom? (α := α) seen.reverse with
        | none => exact .inl fun cs => by simp [tokensFrom?, hends, hatom]
        | some t =>
            obtain ⟨ts, p', henter, hmode, hends'⟩ := henter
            exact .inr ⟨t :: ts, p', hmode, hends',
              fun cs => by simp [tokensFrom?, hends, hatom, henter]⟩
      · have hquote : c ≠ quote := by
          rintro rfl
          exact hends rfl
        exact .inr ⟨[], .atom (c :: seen), by simp [Position.mode, Mode.next, hquote],
          fun h => absurd h hends, fun cs => by simp [tokensFrom?, hends]⟩
  | text codes =>
      have hslash : backslash ≠ quote := by decide
      by_cases hquote : c = quote
      · exact .inr ⟨[.str (String.ofList (joinSurrogates codes.reverse))], .between,
          by simp [Position.mode, Mode.next, hquote], fun _ _ => rfl,
          fun cs => by simp [tokensFrom?, hquote]⟩
      by_cases hescape : c = backslash
      · exact .inr ⟨[], .escape codes,
          .of_not_plain (by simp [Position.mode, Mode.next, hescape, hslash]) (by simp [Position.mode])
            fun cs => by simp [tokensFrom?, hescape, hslash]⟩
      by_cases hlow : c.toNat < 0x20
      · exact .inl fun cs => by simp [tokensFrom?, hquote, hescape, hlow]
      · exact .inr ⟨[], .text (c.toNat :: codes),
          .of_not_plain (by simp [Position.mode, Mode.next, hquote, hescape]) (by simp [Position.mode])
            fun cs => by simp [tokensFrom?, hquote, hescape, hlow]⟩
  | escape codes =>
      by_cases hu : c = 'u'
      · exact .inr ⟨[], .hex codes 0 4,
          .of_not_plain rfl (by simp [Position.mode]) fun cs => by simp [tokensFrom?, hu]⟩
      cases hletter : escape? c with
      | none => exact .inl fun cs => by simp [tokensFrom?, hu, hletter]
      | some n =>
          exact .inr ⟨[], .text (n :: codes),
            .of_not_plain rfl (by simp [Position.mode])
              fun cs => by simp [tokensFrom?, hu, hletter]⟩
  | hex codes value left =>
      cases hdigit : hexDigit? c with
      | none => exact .inl fun cs => by simp [tokensFrom?, hdigit]
      | some d =>
          have hmode : Mode.quoted.next c = .quoted := by
            have hquote : c ≠ quote := by
              rintro rfl
              cases hdigit
            have hslash : c ≠ backslash := by
              rintro rfl
              cases hdigit
            simp [Mode.next, hquote, hslash]
          by_cases hlast : left ≤ 1
          · exact .inr ⟨[], .text ((value * 16 + d) :: codes),
              .of_not_plain hmode.symm (by simp [Position.mode])
                fun cs => by simp [tokensFrom?, hdigit, hlast]⟩
          · exact .inr ⟨[], .hex codes (value * 16 + d) (left - 1),
              .of_not_plain hmode.symm (by simp [Position.mode])
                fun cs => by simp [tokensFrom?, hdigit, hlast]⟩

/-! ## Atoms -/

/-- A character that no atom has: a slash, or a blank that is none of JSON. -/
def IsForeign (c : Char) : Prop := c = '/' ∨ (isBlank c = true ∧ isSpace c = false)

instance (c : Char) : Decidable (IsForeign c) := inferInstanceAs (Decidable (_ ∨ _))

/-- A blank that is not foreign is one of JSON. -/
theorem isSpace_of_not_isForeign {c : Char} (h : ¬ IsForeign c) (hblank : isBlank c = true) :
    isSpace c = true := by
  by_contra hspace
  exact h (.inr ⟨hblank, by simpa using hspace⟩)

/-- Foreign characters do not end an atom. -/
theorem IsForeign.endsAtom_eq_false {c : Char} (h : IsForeign c) : endsAtom c = false := by
  rcases h with rfl | ⟨hblank, hspace⟩
  · rfl
  · have hquote : c ≠ quote := by
      rintro rfl
      exact absurd hblank (by decide)
    have hmark : punctuation? (α := Unit) c = none := by
      unfold punctuation?
      split <;> simp_all [isBlank]
    simp [endsAtom, hspace, hquote, hmark]

/-- Atoms have no foreign characters. -/
theorem not_isForeign_of_atom? {cs : List Char} {t : Token α} (h : atom? cs = some t) :
    ∀ c ∈ cs, ¬ IsForeign c := by
  have hnumeric {c : Char} (h : Decimal.isNumeric c) : ¬ IsForeign c := by
    simp only [Decimal.isNumeric, Bool.or_eq_true, List.contains_iff_mem, List.mem_cons,
      List.not_mem_nil, or_false] at h
    rcases h with h | rfl | rfl | rfl | rfl | rfl
    · have hrange : 48 ≤ c.toNat ∧ c.toNat ≤ 57 := by
        simpa [Char.isDigit, UInt32.le_iff_toNat_le] using h
      rintro (rfl | ⟨hblank, -⟩)
      · exact absurd hrange (by decide)
      · simp [isBlank] at hblank
        omega
    all_goals decide
  have hword {word : String} (h : (word.toList.all fun c => !decide (IsForeign c)) = true) :
      ∀ c ∈ word.toList, ¬ IsForeign c := by
    simpa using h
  unfold atom? at h
  split at h
  · next hnull => exact hnull ▸ hword rfl
  · split at h
    · next htrue => exact htrue ▸ hword rfl
    · split at h
      · next hfalse => exact hfalse ▸ hword rfl
      · split at h
        · next d hnumeral =>
          exact fun c hc => hnumeric (Decimal.isNumeric_of_readStrict hnumeral c hc)
        · cases h

/-- An atom that has a foreign character is none. -/
theorem tokensFrom?_atom_of_isForeign {seen : List Char} {c : Char} (hc : c ∈ seen)
    (hforeign : IsForeign c) (cs : List Char) : tokensFrom? (α := α) (.atom seen) cs = none := by
  have hatom {seen : List Char} (hc : c ∈ seen) : atom? (α := α) seen.reverse = none := by
    refine Option.eq_none_iff_forall_not_mem.mpr fun t ht => ?_
    exact not_isForeign_of_atom? ht c (List.mem_reverse.mpr hc) hforeign
  induction cs generalizing seen with
  | nil => simp [tokensFrom?, hatom hc]
  | cons d cs ih =>
      by_cases hends : endsAtom d = true
      · simp [tokensFrom?, hends, hatom hc]
      · simp [tokensFrom?, hends, ih (List.mem_cons_of_mem d hc)]

/-- A foreign character outside of strings cannot be read. -/
theorem tokensFrom?_of_isForeign {p : Position} (hp : p.mode = .plain) {c : Char}
    (hforeign : IsForeign c) (cs : List Char) : tokensFrom? (α := α) p (c :: cs) = none := by
  have hends := hforeign.endsAtom_eq_false
  cases p with
  | between =>
      rcases enter_cases (α := α) c with ⟨rfl, -⟩ | ⟨hends', -⟩ | ⟨-, -, henter⟩
      · cases hends
      · rw [hends] at hends'
        cases hends'
      · simp [tokensFrom?, henter, tokensFrom?_atom_of_isForeign List.mem_cons_self hforeign]
  | atom seen =>
      simp [tokensFrom?, hends, tokensFrom?_atom_of_isForeign List.mem_cons_self hforeign]
  | _ => cases hp

/-- Where an atom cannot go on, it is a token by itself. -/
theorem tokensFrom?_atom_of_separate {cs : List Char} (h : Separate cs) (seen : List Char) :
    tokensFrom? (α := α) (.atom seen) cs =
      (atom? seen.reverse).bind fun t => (tokensFrom? .between cs).map (t :: ·) := by
  cases cs with
  | nil => cases hatom : atom? (α := α) seen.reverse <;> simp [tokensFrom?, hatom]
  | cons c cs =>
      have hends : endsAtom c = true := h c rfl
      cases hatom : atom? (α := α) seen.reverse <;>
        simp [tokensFrom?, hends, hatom, Function.comp_def]

/-! ## Clean texts -/

/-- Outside of strings a text has no foreign characters. -/
def Clean : Mode → List Char → Prop
  | _, [] => True
  | mode, c :: cs => (mode = .plain → ¬ IsForeign c) ∧ Clean (mode.next c) cs

/-- Texts that have tokens are clean. -/
theorem clean_of_isSome_tokensFrom? {p : Position} {cs : List Char}
    (h : (tokensFrom? (α := α) p cs).isSome) : Clean p.mode cs := by
  induction cs generalizing p with
  | nil => trivial
  | cons c cs ih =>
      refine ⟨fun hp hforeign => ?_, ?_⟩
      · rw [tokensFrom?_of_isForeign hp hforeign] at h
        cases h
      · rcases tokensFrom?_step (α := α) p c with hnone | ⟨ts, p', hlead⟩
        · rw [hnone] at h
          cases h
        · rw [hlead.tokens, Option.isSome_map] at h
          rw [← hlead.mode]
          exact ih h

/-! ## Texts that cannot be read -/

variable (α) in
/-- What remains of a text completes no value. -/
def Unreadable (p : Position) (cs : List Char) : Prop :=
  ∀ stack (awaiting : Awaiting α),
    (tokensFrom? p cs).bind (ofTokensFrom? stack awaiting) = none

/-- Text without tokens completes no value. -/
theorem unreadable_of_eq_none {p : Position} {cs : List Char}
    (h : tokensFrom? (α := α) p cs = none) : Unreadable α p cs := fun _ _ => by rw [h]; rfl

/-- What completes no value does not do so after further tokens. -/
theorem Unreadable.of_tokens {p p' : Position} {cs cs' : List Char} (h : Unreadable α p' cs')
    (ts : List (Token α)) (htokens : tokensFrom? p cs = (tokensFrom? p' cs').map (ts ++ ·)) :
    Unreadable α p cs := by
  have hall (us : List (Token α)) (hus : ∀ stack awaiting, ofTokensFrom? stack awaiting us = none)
      (stack : List (Frame α)) (awaiting : Awaiting α) :
      ofTokensFrom? stack awaiting (ts ++ us) = none := by
    clear htokens
    induction ts generalizing stack awaiting with
    | nil => exact hus stack awaiting
    | cons t ts ih =>
        rw [List.cons_append, ofTokensFrom?]
        cases takeToken stack t awaiting with
        | none => rfl
        | some next => exact ih next.1 next.2
  intro stack awaiting
  rw [htokens]
  cases hus : tokensFrom? (α := α) p' cs' with
  | none => rfl
  | some us =>
      refine hall us (fun stack awaiting => ?_) stack awaiting
      have hnone := h stack awaiting
      rwa [hus] at hnone

end Json

end LiveVisuals
