import Mathlib.Data.List.DropRight
import LiveVisuals.Proofs.Json.Place
import LiveVisuals.Proofs.Shader.Comment
import LiveVisuals.Proofs.Shader.Lookup
import LiveVisuals.Shader.Header

/-!
# The liberties that authors take

Authors of headers put lines between those of a JSON text that hold only a comment, and commas
behind the last items of arrays and objects. Where a text has neither, it is JSON and has the same
tokens; otherwise no strict reader takes it. In no case does the text end the comment that it
stands in.

Main definitions:

- {lit}`Header.IsNote`: what a comment line may say.
- {lit}`Header.Loosened`: a text with comment lines and trailing commas added.

Main results:

- Theorem {lit}`Header.Loosened.reads_or_unreadable`: how a strict reader takes the text.
- Theorem {lit}`Header.Loosened.not_hasEndMark`: the text does not end a block comment.
- Theorem {lit}`Header.Loosened.trimEnd`: blanks at the end do not matter.
-/

namespace LiveVisuals

/-! ## Ends of texts -/

namespace Shader

/-- An end mark stands at the start of a text or further on. -/
theorem hasEndMark_cons {c : Char} {cs : List Char} :
    HasEndMark (c :: cs) ↔ (c = '*' ∧ cs.head? = some '/') ∨ HasEndMark cs := by
  rw [HasEndMark, List.infix_cons_iff, HasEndMark]
  refine or_congr_left ?_
  cases cs with
  | nil => simp
  | cons d cs => simp [List.cons_prefix_cons, eq_comm]

/-- Two texts have no end mark one after the other if neither has one and the second does not start
with a slash. -/
theorem not_hasEndMark_append {cs ds : List Char} (hcs : ¬ HasEndMark cs) (hds : ¬ HasEndMark ds)
    (hhead : ds.head? ≠ some '/') : ¬ HasEndMark (cs ++ ds) := by
  induction cs with
  | nil => exact hds
  | cons c cs ih =>
      rw [hasEndMark_cons, not_or] at hcs
      rw [List.cons_append, hasEndMark_cons, not_or]
      refine ⟨?_, ih hcs.2⟩
      rintro ⟨hc, hslash⟩
      cases cs with
      | nil => exact hhead hslash
      | cons d cs => exact hcs.1 ⟨hc, hslash⟩

/-- A block comment goes up to an end mark that comes after a text without one. -/
theorem untilClose?_of_not_hasEndMark {cs : List Char} (h : ¬ HasEndMark cs) (rest : List Char) :
    untilClose? (cs ++ '*' :: '/' :: rest) = some (cs, rest) := by
  induction cs with
  | nil => rfl
  | cons c cs ih =>
      rw [hasEndMark_cons, not_or] at h
      rw [List.cons_append, untilClose?.eq_3, ih h.2]
      · rfl
      · rintro rest' rfl hslash
        cases cs with
        | nil => cases hslash
        | cons d cs => exact h.1 ⟨rfl, congrArg List.head? hslash⟩

end Shader

namespace Text

/-- Only the end of a text is taken off. -/
theorem trimEnd_prefix (cs : List Char) : trimEnd cs <+: cs := List.rdropWhile_prefix isBlank cs

/-- Blanks at the end of a text are those at the end of its second part, and those of the first
part if nothing remains of the second. -/
theorem trimEnd_append (cs ds : List Char) :
    trimEnd (cs ++ ds) = if trimEnd ds = [] then trimEnd cs else cs ++ trimEnd ds := by
  rw [trimEnd, trimEnd, trimEnd, List.reverse_append, skipBlanks, skipBlanks, skipBlanks,
    List.dropWhile_append]
  by_cases hnone : ds.reverse.dropWhile isBlank = []
  · simp [hnone]
  · simp [hnone]

/-- A blank is taken off if nothing remains of what comes after it. -/
theorem trimEnd_cons_of_isBlank {c : Char} (h : isBlank c = true) (cs : List Char) :
    trimEnd (c :: cs) = if trimEnd cs = [] then [] else c :: trimEnd cs := by
  have hblank : trimEnd [c] = [] := by simp [trimEnd, skipBlanks, h]
  rw [← List.singleton_append, trimEnd_append, hblank]
  rfl

end Text

namespace Header

open Json Text
open Shader (endsLine)

theorem isSpace_of_endsLine {c : Char} (h : endsLine c = true) : isSpace c = true := by
  simp only [endsLine, Bool.or_eq_true, beq_iff_eq] at h
  rcases h with rfl | rfl <;> rfl

theorem isLineEnd_of_endsLine {c : Char} (h : endsLine c = true) : isLineEnd c = true := by
  simp only [endsLine, Bool.or_eq_true, beq_iff_eq] at h
  rcases h with rfl | rfl <;> rfl

/-- The blanks of JSON are among those of authors. -/
theorem isBlank_of_isSpace {c : Char} (h : isSpace c = true) : isBlank c = true := by
  simp only [isSpace, Bool.or_eq_true, beq_iff_eq] at h
  rcases h with ((rfl | rfl) | rfl) | rfl <;> rfl

/-- A comment stays on its line and does not end the block comment around it. -/
structure IsNote (text : List Char) : Prop where
  line : ∀ c ∈ text, isLineEnd c = false
  mark : ¬ Shader.HasEndMark text

/-- A JSON text from some place on, and the same text with comment lines and trailing commas added
outside of strings. The mode and {lit}`prev` are those of the place in the first text. A line may
be added where the second text starts one, which {lit}`fresh` tells, and for this, blanks may be
added between tokens. A comma may be added ahead of a closing bracket unless {lit}`used` says that
this has been done. -/
inductive Loosened : Mode → (prev : Char) → (fresh used : Bool) → List Char → List Char → Prop where
  | done {mode : Mode} {prev : Char} {fresh used : Bool} : Loosened mode prev fresh used [] []
  | same {mode : Mode} {prev : Char} {fresh used : Bool} (c : Char) {cs cs' : List Char}
      (h : Loosened (mode.next c) c (endsLine c) (used && isBlank c) cs cs') :
      Loosened mode prev fresh used (c :: cs) (c :: cs')
  | space {prev : Char} {fresh used : Bool} {c : Char} {cs cs' : List Char}
      (hspace : isSpace c = true) (hgap : endsAtom prev = true ∨ Separate cs)
      (h : Loosened .plain prev (endsLine c) used cs cs') :
      Loosened .plain prev fresh used cs (c :: cs')
  | note {prev : Char} {used : Bool} {blanks text : List Char} {newline : Char}
      {cs cs' : List Char} (hblanks : ∀ c ∈ blanks, isBlank c = true) (htext : IsNote text)
      (hnewline : endsLine newline = true) (h : Loosened .plain prev true used cs cs') :
      Loosened .plain prev true used cs (blanks ++ '/' :: '/' :: (text ++ newline :: cs'))
  | last {prev : Char} {used : Bool} {blanks text : List Char}
      (hblanks : ∀ c ∈ blanks, isBlank c = true) (htext : IsNote text) :
      Loosened .plain prev true used [] (blanks ++ '/' :: '/' :: text)
  | comma {prev : Char} {fresh : Bool} {cs cs' : List Char} (hcloses : closesNext cs = true)
      (h : Loosened .plain prev false true cs cs') :
      Loosened .plain prev fresh false cs (',' :: cs')

/-! ## Closing brackets -/

/-- Blanks ahead of a closing bracket do not matter. -/
theorem closesNext_of_isBlank {c : Char} (h : isBlank c = true) (cs : List Char) :
    closesNext (c :: cs) = closesNext cs := by
  simp [closesNext, skipBlanks, h]

/-- Anything else is a closing bracket or not. -/
theorem closesNext_of_not_isBlank {c : Char} (h : isBlank c = false) (cs : List Char) :
    closesNext (c :: cs) = (c.toNat == 0x7D || c.toNat == 0x5D) := by
  simp [closesNext, skipBlanks, h]

variable {α : Type}

/-- No value goes on with a comma and a closing bracket. -/
theorem ofTokensFrom?_comma_close {t : Token α} (ht : t = .closeArray ∨ t = .closeObject)
    (stack : List (Frame α)) (awaiting : Awaiting α) (ts : List (Token α)) :
    ofTokensFrom? stack awaiting (.comma :: t :: ts) = none := by
  cases awaiting with
  | separator v =>
      cases stack with
      | nil => rfl
      | cons frame stack => cases frame <;> rcases ht with rfl | rfl <;> rfl
  | _ => rfl

variable [Scalar α]

/-- A blank between tokens of a clean text has no token. -/
theorem tokensFrom?_between_of_isSpace {c : Char} (h : isSpace c = true) (cs : List Char) :
    tokensFrom? (α := α) .between (c :: cs) = tokensFrom? .between cs := by
  simp [tokensFrom?, enter, h]

/-- A closing bracket comes first among the tokens. -/
theorem exists_close_of_closesNext {cs : List Char} (hclean : Clean .plain cs)
    (h : closesNext cs = true) : ∃ t : Token α, (t = .closeArray ∨ t = .closeObject) ∧
      (tokensFrom? (α := α) .between cs = none ∨
        ∃ ts, tokensFrom? .between cs = some (t :: ts)) := by
  induction cs with
  | nil => cases h
  | cons c cs ih =>
      by_cases hblank : isBlank c = true
      · have hspace := isSpace_of_not_isForeign (hclean.1 rfl) hblank
        have hrest := hclean.2
        rw [Mode.next_of_isBlank hblank] at hrest
        rw [closesNext_of_isBlank hblank] at h
        rw [tokensFrom?_between_of_isSpace hspace]
        exact ih hrest h
      · rw [closesNext_of_not_isBlank (by simpa using hblank)] at h
        obtain ⟨t, ht, hmark⟩ : ∃ t : Token α, (t = .closeArray ∨ t = .closeObject) ∧
            punctuation? c = some t := by
          simp only [Bool.or_eq_true, beq_iff_eq] at h
          rcases h with h | h
          · exact ⟨_, .inr rfl, by simp [punctuation?, h]⟩
          · exact ⟨_, .inl rfl, by simp [punctuation?, h]⟩
        obtain ⟨hspace, hquote⟩ := punctuation?_eq_some hmark
        refine ⟨t, ht, ?_⟩
        cases htokens : tokensFrom? (α := α) .between cs with
        | none => exact .inl (by simp [tokensFrom?, enter, hspace, hquote, hmark, htokens])
        | some ts => exact .inr ⟨ts, by simp [tokensFrom?, enter, hspace, hquote, hmark, htokens]⟩

/-- A text that goes on with a comma ahead of a closing bracket completes no value. -/
theorem unreadable_comma {cs cs' : List Char} (hclean : Clean .plain cs)
    (hcloses : closesNext cs = true)
    (htokens : tokensFrom? (α := α) .between cs' = tokensFrom? .between cs) :
    Unreadable α .between (',' :: cs') := by
  have hcomma : tokensFrom? (α := α) .between (',' :: cs') =
      (tokensFrom? .between cs).map (.comma :: ·) := by
    rw [← htokens]
    rfl
  obtain ⟨t, ht, hnone | ⟨ts, hsome⟩⟩ := exists_close_of_closesNext (α := α) hclean hcloses
  · exact unreadable_of_eq_none (by rw [hcomma, hnone]; rfl)
  · intro stack awaiting
    rw [hcomma, hsome]
    exact ofTokensFrom?_comma_close ht stack awaiting ts

/-- Where an atom cannot go on, a text that completes no value does not do so after an atom. -/
theorem Unreadable.of_separate {p : Position} {cs : List Char} (hp : p.mode = .plain)
    (hseparate : Separate cs) (h : Unreadable α .between cs) : Unreadable α p cs := by
  cases p with
  | between => exact h
  | atom seen =>
      cases hatom : atom? (α := α) seen.reverse with
      | none =>
          refine unreadable_of_eq_none ?_
          rw [tokensFrom?_atom_of_separate hseparate, hatom]
          rfl
      | some t =>
          refine h.of_tokens [t] ?_
          rw [tokensFrom?_atom_of_separate hseparate, hatom]
          rfl
  | _ => cases hp

/-- A blank between tokens or where an atom cannot go on changes nothing. -/
theorem tokensFrom?_space {p : Position} (hp : p.mode = .plain) {c : Char}
    (hspace : isSpace c = true) {cs cs' : List Char} (hgap : p = .between ∨ Separate cs)
    (h : tokensFrom? (α := α) .between cs' = tokensFrom? .between cs) :
    tokensFrom? (α := α) p (c :: cs') = tokensFrom? p cs := by
  have hends : endsAtom c = true := by simp [endsAtom, hspace]
  cases p with
  | between => rw [tokensFrom?_between_of_isSpace hspace, h]
  | atom seen =>
      have hseparate : Separate cs := hgap.resolve_left (by simp)
      rw [tokensFrom?_atom_of_separate (separate_cons hends cs'),
        tokensFrom?_between_of_isSpace hspace, h, tokensFrom?_atom_of_separate hseparate]
  | _ => cases hp

/-- A comment cannot be read. -/
theorem tokensFrom?_comment {blanks : List Char} (hblanks : ∀ c ∈ blanks, isBlank c = true)
    {p : Position} (hp : p.mode = .plain) (cs : List Char) :
    tokensFrom? (α := α) p (blanks ++ '/' :: cs) = none := by
  induction blanks generalizing p with
  | nil => exact tokensFrom?_of_isForeign hp (.inl rfl) cs
  | cons c blanks ih =>
      rcases tokensFrom?_step (α := α) p c with hnone | ⟨ts, p', hlead⟩
      · exact hnone _
      · have hp' : p'.mode = .plain := by
          rw [hlead.mode, hp, Mode.next_of_isBlank (hblanks c List.mem_cons_self)]
        have hrest := ih (fun c hc => hblanks c (List.mem_cons_of_mem _ hc)) hp'
        rw [List.cons_append, hlead.tokens, hrest]
        rfl

/-- Blanks have no part in end marks. -/
theorem not_hasEndMark_blanks {blanks : List Char} (hblanks : ∀ c ∈ blanks, isBlank c = true)
    {cs : List Char} (h : ¬ Shader.HasEndMark cs) : ¬ Shader.HasEndMark (blanks ++ cs) := by
  induction blanks with
  | nil => exact h
  | cons c blanks ih =>
      rw [List.forall_mem_cons] at hblanks
      rw [List.cons_append, Shader.hasEndMark_cons, not_or]
      refine ⟨?_, ih hblanks.2⟩
      rintro ⟨rfl, -⟩
      cases hblanks.1

/-! ## Strict readers -/

namespace Loosened

variable {mode : Mode} {prev : Char} {fresh used : Bool} {cs cs' : List Char}

/-- A strict reader takes the text for the same as before, or it finds no value in it. -/
theorem reads_or_unreadable (h : Loosened mode prev fresh used cs cs') {p : Position}
    (hp : p.mode = mode) (hprev : endsAtom prev = true → mode = .plain → p = .between) (hclean : Clean mode cs) :
    tokensFrom? (α := α) p cs' = tokensFrom? p cs ∨ Unreadable α p cs' := by
  induction h generalizing p with
  | done => exact .inl rfl
  | @same mode prev fresh used c cs cs' _ ih =>
      rcases tokensFrom?_step (α := α) p c with hnone | ⟨ts, p', hlead⟩
      · exact .inl (by rw [hnone, hnone])
      · have hmode : p'.mode = mode.next c := by rw [hlead.mode, hp]
        have hends : endsAtom c = true → mode.next c = .plain → p' = .between :=
          fun hc hplain => hlead.between hc (hmode.trans hplain)
        rcases ih hmode hends hclean.2 with htokens | hunreadable
        · exact .inl (by rw [hlead.tokens, hlead.tokens, htokens])
        · exact .inr (hunreadable.of_tokens ts (hlead.tokens _))
  | @space prev fresh used c cs cs' hspace hgap _ ih =>
      have hrest := ih (p := .between) rfl (fun _ _ => rfl) hclean
      have hends : endsAtom c = true := by simp [endsAtom, hspace]
      have hblank := tokensFrom?_between_of_isSpace (α := α) hspace cs'
      rcases hrest with htokens | hunreadable
      · exact .inl
          (tokensFrom?_space hp hspace (hgap.imp_left fun hends => hprev hends rfl) htokens)
      · refine .inr (Unreadable.of_separate hp (separate_cons hends cs') ?_)
        exact hunreadable.of_tokens [] (by simp [hblank])
  | @note prev used blanks text newline cs cs' hblanks htext hnewline _ ih =>
      exact .inr (unreadable_of_eq_none (tokensFrom?_comment hblanks hp _))
  | @last prev used blanks text hblanks htext =>
      exact .inr (unreadable_of_eq_none (tokensFrom?_comment hblanks hp _))
  | @comma prev fresh cs cs' hcloses _ ih =>
      refine .inr (Unreadable.of_separate hp (separate_cons rfl cs') ?_)
      rcases ih (p := .between) rfl (fun _ _ => rfl) hclean with htokens | hunreadable
      · exact unreadable_comma hclean hcloses htokens
      · exact hunreadable.of_tokens [.comma] rfl

/-! ## The block comment around the text -/

/-- The text has no end mark if the first one had none, and a slash comes first only if it did so
before or starts a line. -/
theorem not_hasEndMark (h : Loosened mode prev fresh used cs cs') (hcs : ¬ Shader.HasEndMark cs) :
    ¬ Shader.HasEndMark cs' ∧
      (cs'.head? = some '/' → fresh = true ∨ cs.head? = some '/') := by
  have hcons {c : Char} {cs : List Char} (hc : c ≠ '*') (h : ¬ Shader.HasEndMark cs) :
      ¬ Shader.HasEndMark (c :: cs) := by
    rw [Shader.hasEndMark_cons]
    exact fun h' => h'.elim (fun hmark => hc hmark.1) h
  induction h with
  | done => exact ⟨hcs, fun h => .inr h⟩
  | @same mode prev fresh used c cs cs' _ ih =>
      rw [Shader.hasEndMark_cons, not_or] at hcs
      obtain ⟨hrest, hhead⟩ := ih hcs.2
      refine ⟨?_, fun h => .inr h⟩
      rw [Shader.hasEndMark_cons, not_or]
      refine ⟨?_, hrest⟩
      rintro ⟨rfl, hslash⟩
      rcases hhead hslash with hfresh | hslash
      · cases hfresh
      · exact hcs.1 ⟨rfl, hslash⟩
  | @space prev fresh used c cs cs' hspace _ _ ih =>
      refine ⟨hcons ?_ (ih hcs).1, fun hslash => ?_⟩
      · rintro rfl
        cases hspace
      · obtain rfl := Option.some.inj hslash
        cases hspace
  | @note prev used blanks text newline cs cs' hspaces htext hnewline _ ih =>
      have hend : newline ≠ '*' ∧ newline ≠ '/' := by
        constructor <;>
          · rintro rfl
            cases hnewline
      have hline : ¬ Shader.HasEndMark (text ++ newline :: cs') :=
        Shader.not_hasEndMark_append htext.mark (hcons hend.1 (ih hcs).1) (by simpa using hend.2)
      exact ⟨not_hasEndMark_blanks hspaces (hcons (by decide) (hcons (by decide) hline)),
        fun _ => .inl rfl⟩
  | @last prev used blanks text hspaces htext =>
      exact ⟨not_hasEndMark_blanks hspaces (hcons (by decide) (hcons (by decide) htext.mark)),
        fun _ => .inl rfl⟩
  | @comma prev fresh cs cs' _ _ ih =>
      exact ⟨hcons (by decide) (ih hcs).1, fun h => by cases h⟩

/-- Nothing is taken away from the first text. -/
theorem eq_nil (h : Loosened mode prev fresh used cs []) : cs = [] := by
  generalize hnil : ([] : List Char) = cs' at h
  cases h with
  | done => rfl
  | note => simp at hnil
  | last => simp at hnil
  | _ => cases hnil

/-- Blanks at the end do not matter. -/
theorem trimEnd (h : Loosened mode prev fresh used cs cs')
    (hcs : ∀ c ∈ cs.getLast?, isBlank c = false) :
    Loosened mode prev fresh used cs (Text.trimEnd cs') := by
  have hslash (blanks text : List Char) : Text.trimEnd (blanks ++ '/' :: '/' :: text) =
      blanks ++ '/' :: '/' :: Text.trimEnd text := by
    have hsecond := Text.trimEnd_append_cons [] (c := '/') rfl text
    rw [Text.trimEnd_append_cons _ rfl]
    exact congrArg (blanks ++ '/' :: ·) hsecond
  have hshorter {text : List Char} (h : IsNote text) : IsNote (Text.trimEnd text) :=
    ⟨fun c hc => h.line c ((Text.trimEnd_prefix text).subset hc),
      fun hmark => h.mark (hmark.trans (Text.trimEnd_prefix text).isInfix)⟩
  induction h with
  | done => exact .done
  | @same mode prev fresh used c cs cs' _ ih =>
      have hrest := ih fun d hd => hcs d (by cases cs <;> simp_all)
      have hkeep : Text.trimEnd (c :: cs') = c :: Text.trimEnd cs' := by
        by_cases hblank : isBlank c = true
        · rw [Text.trimEnd_cons_of_isBlank hblank, if_neg]
          intro hnone
          rw [hnone] at hrest
          obtain rfl := hrest.eq_nil
          simp [hblank] at hcs
        · exact Text.trimEnd_append_cons [] (by simpa using hblank) cs'
      rw [hkeep]
      exact .same c hrest
  | @space prev fresh used c cs cs' hspace hgap _ ih =>
      have hrest := ih hcs
      rw [Text.trimEnd_cons_of_isBlank (isBlank_of_isSpace hspace)]
      split
      · next hnone =>
        rw [hnone] at hrest
        obtain rfl := hrest.eq_nil
        exact .done
      · exact .space hspace hgap hrest
  | @note prev used blanks text newline cs cs' hblanks htext hnewline _ ih =>
      have hrest := ih hcs
      have hblank := isBlank_of_isSpace (isSpace_of_endsLine hnewline)
      have hend := Text.trimEnd_cons_of_isBlank hblank cs'
      rw [hslash, Text.trimEnd_append, hend]
      by_cases hnone : Text.trimEnd cs' = []
      · rw [hnone] at hrest
        obtain rfl := hrest.eq_nil
        rw [if_pos hnone, if_pos rfl]
        exact .last hblanks (hshorter htext)
      · rw [if_neg hnone, if_neg (List.cons_ne_nil _ _)]
        exact .note hblanks htext hnewline hrest
  | @last prev used blanks text hblanks htext =>
      rw [hslash]
      exact .last hblanks (hshorter htext)
  | @comma prev fresh cs cs' hcloses _ ih =>
      have hcomma : Text.trimEnd (',' :: cs') = ',' :: Text.trimEnd cs' :=
        Text.trimEnd_append_cons [] rfl cs'
      rw [hcomma]
      exact .comma hcloses (ih hcs)

end Loosened

end Header

end LiveVisuals
