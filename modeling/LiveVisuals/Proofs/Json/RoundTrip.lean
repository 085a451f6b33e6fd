import Mathlib.Data.List.Forall2
import LiveVisuals.Json.Printer
import LiveVisuals.Json.Reader

/-!
# Reading what was written

A value that is written and then read is the same value, on one line or indented, provided that
its numbers are read back as they were written and that no object has a key twice. The text is
followed token by token: a piece of text that is complete by itself keeps its tokens when more
text comes after it.

Main definitions:

- {lit}`Json.ReadsBack`: a value is read back from its one-line text.
- {lit}`Json.Legible`: the numbers of a value are read back, and its keys are distinct.
- {lit}`Json.spell`: the tokens of a value.

Main results:

- Theorem {lit}`Json.tokens?_append`: texts one after the other have their tokens one after the
  other.
- Theorem {lit}`Json.tokens?_write`: the tokens of a written value, in any layout.
- Theorem {lit}`Json.ofTokens?_spell`: the tokens of a value are read as that value.
- Theorem {lit}`Json.readString?_write`: what was written is read.
-/

namespace LiveVisuals.Json

variable {α : Type}

/-! ## Texts one after the other -/

/-- An atom cannot go on in a text. -/
def Separate (cs : List Char) : Prop := ∀ c ∈ cs.head?, endsAtom c = true

theorem separate_cons {c : Char} (h : endsAtom c = true) (cs : List Char) :
    Separate (c :: cs) := by
  simpa [Separate] using h

theorem Separate.append {cs cs' : List Char} (h : Separate cs) (h' : Separate cs') :
    Separate (cs ++ cs') := by
  cases cs with
  | nil => exact h'
  | cons c cs => exact separate_cons (h c rfl) _

variable [Scalar α]

/-- A complete text keeps its tokens when a separate text comes after it. -/
theorem tokensFrom?_append {cs rest : List Char} (hrest : Separate rest) {p : Position}
    {ts : List (Token α)} (h : tokensFrom? p cs = some ts) :
    tokensFrom? p (cs ++ rest) = (tokens? rest).map (ts ++ ·) := by
  induction cs generalizing p ts with
  | nil =>
      cases p with
      | between =>
          cases h
          simp [tokens?]
      | atom seen =>
          simp only [tokensFrom?, Option.map_eq_some_iff] at h
          obtain ⟨t, ht, rfl⟩ := h
          cases rest with
          | nil => simp [tokensFrom?, tokens?, ht]
          | cons c rest =>
              have hc : endsAtom c = true := hrest c rfl
              simp [tokensFrom?, tokens?, ht, hc, Function.comp_def]
      | text codes => cases h
      | escape codes => cases h
      | hex codes value left => cases h
  | cons c cs ih =>
      -- What a character leads to does not depend on the text after it.
      cases p with
      | between =>
          simp only [tokensFrom?, Option.map_eq_some_iff] at h
          obtain ⟨us, hus, rfl⟩ := h
          simp [tokensFrom?, ih hus, Function.comp_def]
      | atom seen =>
          simp only [List.cons_append, tokensFrom?] at h ⊢
          split at h
          · split at h
            · simp only [Option.map_eq_some_iff] at h
              obtain ⟨us, hus, rfl⟩ := h
              simp [*, ih hus, Function.comp_def]
            · cases h
          · simp [*, ih h]
      | text codes =>
          simp only [List.cons_append, tokensFrom?] at h ⊢
          split at h
          · simp only [Option.map_eq_some_iff] at h
            obtain ⟨us, hus, rfl⟩ := h
            simp [*, ih hus, Function.comp_def]
          · next hquote =>
            rw [if_neg hquote]
            split at h
            · simp [*, ih h]
            · split at h
              · cases h
              · simp [*, ih h]
      | escape codes =>
          simp only [List.cons_append, tokensFrom?] at h ⊢
          split at h
          · simp [*, ih h]
          · split at h
            · simp [*, ih h]
            · cases h
      | hex codes value left =>
          simp only [List.cons_append, tokensFrom?] at h ⊢
          split at h
          · split at h
            · simp [*, ih h]
            · simp [*, ih h]
          · cases h

example : tokensFrom? (α := α) .between (['['] ++ [']']) = some [.openArray, .closeArray] := by
  cbv

/-- Texts one after the other have their tokens one after the other. -/
theorem tokens?_append {cs rest : List Char} {ts us : List (Token α)} (h : tokens? cs = some ts)
    (hrest : tokens? rest = some us) (hseparate : Separate rest) :
    tokens? (cs ++ rest) = some (ts ++ us) := by
  rw [tokens?, tokensFrom?_append hseparate h, hrest]
  rfl

omit [Scalar α] in
/-- Punctuation is neither a blank nor a quotation mark. -/
theorem punctuation?_eq_some {c : Char} {t : Token α} (h : punctuation? c = some t) :
    isSpace c = false ∧ c ≠ quote := by
  constructor
  · rw [← Bool.not_eq_true]
    intro hspace
    simp only [isSpace, Bool.or_eq_true, beq_iff_eq] at hspace
    rcases hspace with ((rfl | rfl) | rfl) | rfl <;> cases h
  · rintro rfl
    cases h

/-- Punctuation is a token by itself. -/
theorem tokens?_punctuation {c : Char} {t : Token α} (hc : punctuation? c = some t)
    {cs : List Char} {ts : List (Token α)} (h : tokens? cs = some ts) :
    tokens? (c :: cs) = some (t :: ts) := by
  obtain ⟨hspace, hquote⟩ := punctuation?_eq_some hc
  have henter : enter c = ([t], .between) := by simp [enter, hspace, hquote, hc]
  rw [tokens?] at h
  simp [tokens?, tokensFrom?, henter, h]

/-- Blanks have no tokens. -/
theorem tokens?_blanks {blanks : List Char} (hblanks : ∀ c ∈ blanks, isSpace c = true)
    (cs : List Char) : tokens? (α := α) (blanks ++ cs) = tokens? cs := by
  induction blanks with
  | nil => rfl
  | cons c blanks ih =>
      have henter : enter (α := α) c = ([], .between) := by
        simp [enter, hblanks c List.mem_cons_self]
      have hrest := ih fun c hc => hblanks c (List.mem_cons_of_mem _ hc)
      rw [tokens?, tokens?] at hrest
      simp [tokens?, tokensFrom?, henter, hrest]

/-! ## Strings -/

/-- A digit that is written is read. -/
theorem hexDigit?_hexChar {n : Nat} (h : n < 16) : hexDigit? (hexChar n) = some n := by
  have hall : ∀ n < 16, hexDigit? (hexChar n) = some n := by decide
  exact hall n h

/-- A character inside quotation marks is read as its code. -/
theorem tokensFrom?_quotedChar (codes : List Nat) (c : Char) (rest : List Char) :
    tokensFrom? (α := α) (.text codes) ((quotedChar c).toList ++ rest) =
      tokensFrom? (.text (c.toNat :: codes)) rest := by
  have hslash : backslash ≠ quote := by decide
  have hescape (letter : Char) (hu : letter ≠ 'u') {n : Nat} (hletter : escape? letter = some n)
      (hn : c.toNat = n) :
      tokensFrom? (α := α) (.text codes) (backslash :: letter :: rest) =
        tokensFrom? (.text (c.toNat :: codes)) rest := by
    simp [tokensFrom?, hslash, hletter, hu, hn]
  unfold quotedChar
  split
  · next h => exact hescape quote (by decide) rfl h
  · next h => exact hescape backslash (by decide) rfl h
  · next h => exact hescape 'b' (by decide) rfl h
  · next h => exact hescape 't' (by decide) rfl h
  · next h => exact hescape 'n' (by decide) rfl h
  · next h => exact hescape 'f' (by decide) rfl h
  · next h => exact hescape 'r' (by decide) rfl h
  · next hquote hbackslash _ _ _ _ _ =>
    split
    · next hlow =>
      have hzero : hexDigit? '0' = some 0 := by decide
      have hhigh := hexDigit?_hexChar (n := c.toNat / 16) (by omega)
      have hdigit := hexDigit?_hexChar (n := c.toNat % 16) (by omega)
      have hcode : c.toNat / 16 * 16 + c.toNat % 16 = c.toNat := by omega
      rw [String.toList_append, String.toList_ofList]
      change tokensFrom? (.text codes) (backslash :: 'u' :: '0' :: '0' :: _) = _
      simp [tokensFrom?, hslash, hzero, hhigh, hdigit, hcode]
    · next hhigh =>
      have hc : c ≠ quote := by
        rintro rfl
        exact hquote rfl
      have hc' : c ≠ backslash := by
        rintro rfl
        exact hbackslash rfl
      have htext : c.toString.toList = [c] := String.toList_singleton c
      rw [htext]
      simp [tokensFrom?, hc, hc', hhigh]

/-- No character is half of a surrogate pair, so that nothing is joined. -/
theorem joinSurrogates_map_toNat (cs : List Char) : joinSurrogates (cs.map Char.toNat) = cs := by
  have hscalar (c : Char) : ¬(0xD800 ≤ c.toNat ∧ c.toNat < 0xE000) := by
    rcases c.valid with h | h
    · exact fun hc => absurd (show c.toNat < 0xD800 from h) (by omega)
    · exact fun hc => absurd (show 0xDFFF < c.toNat from h.1) (by omega)
  induction cs with
  | nil => rfl
  | cons c cs ih =>
      cases cs with
      | nil => simp [joinSurrogates, hscalar]
      | cons d cs =>
          have hpair : ¬(0xD800 ≤ c.toNat ∧ c.toNat < 0xDC00 ∧ 0xDC00 ≤ d.toNat ∧
              d.toNat < 0xE000) := fun h => hscalar c ⟨h.1, by omega⟩
          simp only [List.map_cons] at ih ⊢
          rw [joinSurrogates, if_neg hpair, if_neg (hscalar c), ih, Char.ofNat_toNat]

/-- A string is read as it was written. -/
theorem tokens?_quoted (s : String) : tokens? (α := α) (quoted s).toList = some [.str s] := by
  have hfold (cs : List Char) (acc : String) :
      (cs.foldl (fun acc c => acc ++ quotedChar c) acc).toList =
        acc.toList ++ cs.flatMap fun c => (quotedChar c).toList := by
    induction cs generalizing acc with
    | nil => simp
    | cons c cs ih => simp [ih]
  have hread (cs : List Char) (codes : List Nat) (rest : List Char) :
      tokensFrom? (α := α) (.text codes) (cs.flatMap (fun c => (quotedChar c).toList) ++ rest) =
        tokensFrom? (.text ((cs.map Char.toNat).reverse ++ codes)) rest := by
    induction cs generalizing codes with
    | nil => rfl
    | cons c cs ih =>
        rw [List.flatMap_cons, List.append_assoc, tokensFrom?_quotedChar, ih]
        simp
  have htext : (quoted s).toList =
      quote :: (s.toList.flatMap (fun c => (quotedChar c).toList) ++ [quote]) := by
    rw [quoted, String.toList_append, String.toList_append, hfold]
    rfl
  have henter : enter (α := α) quote = ([], .text []) := rfl
  rw [htext, tokens?, tokensFrom?, henter]
  simp only
  rw [hread]
  simp [tokensFrom?, joinSurrogates_map_toNat]

/-! ## Tokens of written values -/

mutual

/-- The tokens of a value. -/
def spell : Json α → List (Token α)
  | null => [.null]
  | bool b => [.bool b]
  | num x => [.num x]
  | str s => [.str s]
  | arr items => .openArray :: ([.comma].intercalate (spellItems items) ++ [.closeArray])
  | obj fields => .openObject :: ([.comma].intercalate (spellFields fields) ++ [.closeObject])

/-- The tokens of each item. -/
def spellItems : List (Json α) → List (List (Token α))
  | [] => []
  | v :: vs => spell v :: spellItems vs

/-- The tokens of each member. -/
def spellFields : List (String × Json α) → List (List (Token α))
  | [] => []
  | (k, v) :: rest => (.str k :: .colon :: spell v) :: spellFields rest

end

/-- A value is read back from its one-line text. -/
def ReadsBack (v : Json α) : Prop := readString? v.compact = some v

/-- All numbers of a value are read back, and no object has a key twice. -/
inductive Legible : Json α → Prop where
  | null : Legible .null
  | bool (b : Bool) : Legible (.bool b)
  | num {x : α} (h : ReadsBack (.num x)) : Legible (.num x)
  | str (s : String) : Legible (.str s)
  | arr {items : List (Json α)} (h : ∀ v ∈ items, Legible v) : Legible (.arr items)
  | obj {fields : List (String × Json α)} (hkeys : (Keyed.keys fields).Nodup)
      (h : ∀ f ∈ fields, Legible f.2) : Legible (.obj fields)

/-! ### Numbers -/

/-- Whether a value is an array or an object. -/
def isNested : Json α → Prop
  | arr _ | obj _ => True
  | _ => False

/-- The reader is inside of an array or object, or has just left one. -/
def Inside (stack : List (Frame α)) : Awaiting α → Prop
  | .value => stack ≠ []
  | .separator v => stack ≠ [] ∨ v.isNested
  | .firstItem | .firstKey | .key _ | .colon .. => True

omit [Scalar α] in
/-- An array or object is not left for anything else. -/
theorem inside_takeToken {stack stack' : List (Frame α)} {t : Token α}
    {awaiting awaiting' : Awaiting α} (h : takeToken stack t awaiting = some (stack', awaiting'))
    (hinside : Inside stack awaiting) : Inside stack' awaiting' := by
  have hstart {s : List (Frame α)} (hs : s ≠ [])
      (h : startValue s t = some (stack', awaiting')) : Inside stack' awaiting' := by
    cases t <;> cases h <;> simp [Inside, hs]
  cases awaiting with
  | value => exact hstart hinside h
  | firstItem =>
      simp only [takeToken] at h
      split at h
      · cases h
        exact .inr trivial
      · exact hstart (by simp) h
  | firstKey =>
      simp only [takeToken] at h
      split at h
      · cases h
        exact .inr trivial
      · cases h
        trivial
      · cases h
  | key fields =>
      simp only [takeToken] at h
      split at h <;> cases h
      trivial
  | colon fields key =>
      simp only [takeToken] at h
      split at h <;> cases h
      simp [Inside]
  | separator v =>
      simp only [takeToken, afterValue] at h
      split at h <;> cases h <;> simp [Inside, isNested]

omit [Scalar α] in
/-- What is read from inside of an array or object is an array or object. -/
theorem isNested_of_inside {ts : List (Token α)} {stack : List (Frame α)}
    {awaiting : Awaiting α} (hinside : Inside stack awaiting) {v : Json α}
    (h : ofTokensFrom? stack awaiting ts = some v) : v.isNested := by
  induction ts generalizing stack awaiting with
  | nil =>
      cases awaiting with
      | separator w =>
          simp only [ofTokensFrom?] at h
          split at h
          · next hempty =>
            cases h
            exact hinside.resolve_left fun hne => hne (List.isEmpty_iff.mp hempty)
          · cases h
      | _ => cases h
  | cons t ts ih =>
      simp only [ofTokensFrom?] at h
      split at h
      · next htake => exact ih (inside_takeToken htake hinside) h
      · cases h

omit [Scalar α] in
/-- A number is read from a single token. -/
theorem eq_of_ofTokens?_num {ts : List (Token α)} {x : α} (h : ofTokens? ts = some (.num x)) :
    ts = [.num x] := by
  have hdone {v : Json α} {ts : List (Token α)}
      (h : ofTokensFrom? [] (.separator v) ts = some (.num x)) : v = .num x ∧ ts = [] := by
    cases ts with
    | nil =>
        cases h
        exact ⟨rfl, rfl⟩
    | cons t ts => cases h
  cases ts with
  | nil => cases h
  | cons t ts =>
      cases t with
      | num y =>
          obtain ⟨hy, rfl⟩ := hdone h
          cases hy
          rfl
      | null => cases (hdone h).1
      | bool b => cases (hdone h).1
      | str s => cases (hdone h).1
      | openArray =>
          have hinside : Inside ([] : List (Frame α)) .firstItem := trivial
          exact (isNested_of_inside hinside h).elim
      | openObject =>
          have hinside : Inside ([] : List (Frame α)) .firstKey := trivial
          exact (isNested_of_inside hinside h).elim
      | closeArray | closeObject | colon | comma => cases h

/-- A number that is read back is finite and has one token. -/
theorem ReadsBack.num {x : α} (h : ReadsBack (.num x)) :
    Scalar.isFinite x = true ∧ tokens? (Scalar.text x).toList = some [.num x] := by
  rw [ReadsBack, compact, write] at h
  split at h
  · next hfinite =>
    simp only [readString?, read?, Option.bind_eq_some_iff] at h
    obtain ⟨ts, hts, hread⟩ := h
    rw [eq_of_ofTokens?_num hread] at hts
    exact ⟨hfinite, hts⟩
  · have hnull : readString? (α := α) "null" = some .null := rfl
    rw [hnull] at h
    cases h

/-! ### Brackets -/

/-- The breaks of a layout are blank. -/
theorem isSpace_lineBreak (l : Layout) (depth : Nat) :
    ∀ c ∈ (l.lineBreak depth).toList, isSpace c = true := by
  intro c hc
  unfold Layout.lineBreak at hc
  split at hc
  · cases hc
  · rw [String.toList_append, String.toList_ofList, List.mem_append] at hc
    rcases hc with hc | hc
    · rw [List.mem_singleton.mp hc]
      rfl
    · rw [String.toList_ofList] at hc
      rw [List.eq_of_mem_replicate hc]
      rfl

/-- Blanks end an atom. -/
theorem separate_lineBreak (l : Layout) (depth : Nat) : Separate (l.lineBreak depth).toList := by
  intro c hc
  have hspace := isSpace_lineBreak l depth c (List.mem_of_mem_head? hc)
  simp [endsAtom, hspace]

/-- Items with commas between have the tokens of the items with commas between. -/
theorem tokens?_intercalate {blanks : List Char} (hblanks : ∀ c ∈ blanks, isSpace c = true)
    {texts : List String} {pieces : List (List (Token α))}
    (h : List.Forall₂ (fun text piece => tokens? text.toList = some piece) texts pieces)
    {tail : List Char} {us : List (Token α)} (htail : tokens? tail = some us)
    (hseparate : Separate tail) :
    tokens? ((',' :: blanks).intercalate (texts.map String.toList) ++ tail) =
      some ([.comma].intercalate pieces ++ us) := by
  induction h with
  | nil => exact htail
  | @cons text piece texts pieces hpiece hrest ih =>
      cases hrest with
      | nil =>
          simp only [List.map_cons, List.map_nil, List.intercalate_singleton]
          exact tokens?_append hpiece htail hseparate
      | cons hnext hmore =>
          simp only [List.map_cons, List.intercalate_cons_cons, List.append_assoc,
            List.cons_append, List.nil_append] at ih ⊢
          have hcomma := tokens?_punctuation (c := ',') (t := .comma) rfl
            ((tokens?_blanks hblanks _).trans ih)
          exact tokens?_append hpiece hcomma (separate_cons (by decide) _)

/-- Bracketed items have the tokens of the items with commas between and brackets around. -/
theorem tokens?_bracket (l : Layout) (depth : Nat) {opening closing : String} {o c : Char}
    (ho : opening.toList = [o]) (hc : closing.toList = [c]) {t u : Token α}
    (ht : punctuation? o = some t) (hu : punctuation? c = some u) (hends : endsAtom c = true)
    {texts : List String} {pieces : List (List (Token α))}
    (h : List.Forall₂ (fun text piece => tokens? text.toList = some piece) texts pieces) :
    tokens? (l.bracket depth opening closing texts).toList =
      some (t :: ([.comma].intercalate pieces ++ [u])) := by
  have hclose : tokens? [c] = some [u] := tokens?_punctuation hu rfl
  unfold Layout.bracket
  split
  · next hempty =>
    rw [List.isEmpty_iff] at hempty
    subst hempty
    cases h
    rw [String.toList_append, ho, hc]
    exact tokens?_punctuation ht hclose
  · have hbreak := isSpace_lineBreak l (depth + 1)
    have hend : tokens? ((l.lineBreak depth).toList ++ [c]) = some [u] :=
      (tokens?_blanks (isSpace_lineBreak l depth) _).trans hclose
    have hitems := tokens?_intercalate hbreak h hend
      ((separate_lineBreak l depth).append (separate_cons hends []))
    have hcomma : ("," ++ l.lineBreak (depth + 1)).toList =
        ',' :: (l.lineBreak (depth + 1)).toList := by
      rw [String.toList_append]
      rfl
    simp only [String.toList_append, String.toList_intercalate, ho, hc, List.append_assoc,
      List.cons_append, List.nil_append]
    rw [← String.toList_append, hcomma]
    exact tokens?_punctuation ht ((tokens?_blanks hbreak _).trans hitems)

/-- The tokens of a written value, in any layout. -/
theorem tokens?_write {v : Json α} (h : v.Legible) (l : Layout) (depth : Nat) :
    tokens? (write l depth v).toList = some (spell v) := by
  induction h generalizing depth with
  | null =>
      rw [write, spell]
      rfl
  | bool b =>
      rw [write, spell]
      cases b <;> rfl
  | num h => rw [write, if_pos h.num.1, h.num.2, spell]
  | str s =>
      rw [write, spell]
      exact tokens?_quoted s
  | @arr items _ ih =>
      have hitems (vs : List (Json α)) (hvs : vs ⊆ items) :
          List.Forall₂ (fun text piece => tokens? text.toList = some piece)
            (writeItems l (depth + 1) vs) (spellItems vs) := by
        induction vs with
        | nil => exact .nil
        | cons v vs ihvs =>
            rw [List.cons_subset] at hvs
            exact .cons (ih v hvs.1 (depth + 1)) (ihvs hvs.2)
      rw [write, spell]
      exact tokens?_bracket l depth rfl rfl rfl rfl rfl (hitems items (List.Subset.refl items))
  | @obj fields _ _ ih =>
      have hcolon {text : List Char} {ts : List (Token α)} (h : tokens? text = some ts) :
          tokens? (l.colon.toList ++ text) = some (.colon :: ts) := by
        have hspace : ∀ c ∈ [' '], isSpace c = true := List.forall_mem_singleton.mpr rfl
        have hblank : tokens? (' ' :: text) = some ts := (tokens?_blanks hspace text).trans h
        unfold Layout.colon
        split
        · exact tokens?_punctuation (c := ':') rfl hblank
        · exact tokens?_punctuation (c := ':') rfl h
      have hseparate (text : List Char) : Separate (l.colon.toList ++ text) := by
        unfold Layout.colon
        split <;> exact separate_cons (c := ':') rfl _
      have hfields (fs : List (String × Json α)) (hfs : fs ⊆ fields) :
          List.Forall₂ (fun text piece => tokens? text.toList = some piece)
            (writeFields l (depth + 1) fs) (spellFields fs) := by
        induction fs with
        | nil => exact .nil
        | cons f fs ihfs =>
            rw [List.cons_subset] at hfs
            refine .cons ?_ (ihfs hfs.2)
            rw [String.toList_append, String.toList_append, List.append_assoc]
            exact tokens?_append (tokens?_quoted f.1) (hcolon (ih f hfs.1 (depth + 1)))
              (hseparate _)
      rw [write, spell]
      exact tokens?_bracket l depth rfl rfl rfl rfl rfl (hfields fields (List.Subset.refl fields))

/-! ## Values of tokens -/

omit [Scalar α] in
/-- An array that has items is read like any further items of it. -/
theorem firstItem_spellItems (stack : List (Frame α)) (v : Json α) (vs : List (Json α))
    (rest : List (Token α)) :
    ofTokensFrom? stack .firstItem ([.comma].intercalate (spellItems (v :: vs)) ++ rest) =
      ofTokensFrom? (.array [] :: stack) .value
        ([.comma].intercalate (spellItems (v :: vs)) ++ rest) := by
  cases vs <;> cases v <;> simp [spellItems, spell, ofTokensFrom?, takeToken]

omit [Scalar α] in
/-- An object that has members is read like any further members of it. -/
theorem firstKey_spellFields (stack : List (Frame α)) (f : String × Json α)
    (fs : List (String × Json α)) (rest : List (Token α)) :
    ofTokensFrom? stack .firstKey ([.comma].intercalate (spellFields (f :: fs)) ++ rest) =
      ofTokensFrom? stack (.key []) ([.comma].intercalate (spellFields (f :: fs)) ++ rest) := by
  cases fs <;> simp [spellFields, ofTokensFrom?, takeToken]

/-- The tokens of a value are read as that value, wherever a value may stand. -/
theorem ofTokensFrom?_spell {v : Json α} (h : v.Legible) (stack : List (Frame α))
    (rest : List (Token α)) :
    ofTokensFrom? stack .value (spell v ++ rest) = ofTokensFrom? stack (.separator v) rest := by
  induction h generalizing stack rest with
  | null | bool b | num h | str s => simp [spell, ofTokensFrom?, takeToken, startValue]
  | @arr items _ ih =>
      have hitems (acc vs : List (Json α)) {v : Json α} (hvs : v :: vs ⊆ items) :
          ofTokensFrom? (.array acc :: stack) .value
              ([.comma].intercalate (spellItems (v :: vs)) ++ .closeArray :: rest) =
            ofTokensFrom? stack (.separator (.arr (acc.reverse ++ v :: vs))) rest := by
        induction vs generalizing acc v with
        | nil =>
            rw [spellItems, spellItems, List.intercalate_singleton, ih v (hvs List.mem_cons_self)]
            simp [ofTokensFrom?, takeToken, afterValue]
        | cons w vs ihvs =>
            have hrest := ihvs (v :: acc) (List.cons_subset.mp hvs).2
            rw [spellItems] at hrest ⊢
            rw [spellItems, List.intercalate_cons_cons, List.append_assoc, List.append_assoc,
              ih v (hvs List.mem_cons_self)]
            simpa [ofTokensFrom?, takeToken, afterValue] using hrest
      cases items with
      | nil => simp [spell, spellItems, ofTokensFrom?, takeToken, startValue]
      | cons v vs =>
          rw [spell, List.cons_append, List.append_assoc]
          exact (firstItem_spellItems stack v vs _).trans (hitems [] vs (List.Subset.refl _))
  | @obj fields hkeys _ ih =>
      have hput {acc fs : List (String × Json α)} {f : String × Json α}
          (hdistinct : (Keyed.keys (acc ++ f :: fs)).Nodup) :
          Keyed.put f.1 f.2 acc = acc ++ [f] := by
        apply Keyed.put_of_not_mem
        simp only [Keyed.keys, List.map_append, List.map_cons, List.nodup_append] at hdistinct
        exact fun hmem => hdistinct.2.2 f.1 hmem f.1 List.mem_cons_self rfl
      have hfields (acc fs : List (String × Json α)) {f : String × Json α}
          (hfs : f :: fs ⊆ fields) (hdistinct : (Keyed.keys (acc ++ f :: fs)).Nodup) :
          ofTokensFrom? stack (.key acc)
              ([.comma].intercalate (spellFields (f :: fs)) ++ .closeObject :: rest) =
            ofTokensFrom? stack (.separator (.obj (acc ++ f :: fs))) rest := by
        induction fs generalizing acc f with
        | nil =>
            have hvalue := ih f (hfs List.mem_cons_self) (.object acc f.1 :: stack)
              (.closeObject :: rest)
            simpa [spellFields, ofTokensFrom?, takeToken, afterValue, hput hdistinct] using hvalue
        | cons g fs ihfs =>
            have hvalue := ih f (hfs List.mem_cons_self) (.object acc f.1 :: stack)
              (.comma :: ([.comma].intercalate (spellFields (g :: fs)) ++ .closeObject :: rest))
            have hrest := ihfs (acc ++ [f]) (List.cons_subset.mp hfs).2 (by simpa using hdistinct)
            rw [spellFields] at hrest hvalue ⊢
            rw [spellFields, List.intercalate_cons_cons]
            rw [List.append_assoc] at hrest
            refine Eq.trans ?_ hrest
            simpa [ofTokensFrom?, takeToken, afterValue, hput hdistinct] using hvalue
      cases fields with
      | nil => simp [spell, spellFields, ofTokensFrom?, takeToken, startValue]
      | cons f fs =>
          rw [spell, List.cons_append, List.append_assoc]
          exact (firstKey_spellFields stack f fs _).trans
            (hfields [] fs (List.Subset.refl _) hkeys)

/-- The tokens of a value are read as that value. -/
theorem ofTokens?_spell {v : Json α} (h : v.Legible) : ofTokens? (spell v) = some v := by
  have hread := ofTokensFrom?_spell h [] []
  rw [List.append_nil] at hread
  exact hread

/-- What was written is read, in any layout. -/
theorem readString?_write {v : Json α} (h : v.Legible) (l : Layout) (depth : Nat) :
    readString? (write l depth v) = some v := by
  rw [readString?, read?, tokens?_write h, Option.bind_some, ofTokens?_spell h]

end LiveVisuals.Json
