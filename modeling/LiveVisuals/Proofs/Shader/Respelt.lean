import LiveVisuals.Proofs.Shader.Comment
import LiveVisuals.Proofs.Shader.Scan

/-!
# Texts that are spelled differently

When a text is written line by line its line breaks become line feeds, and in the ISF dialect the
name of the fragment coordinate starts with other letters. The comments of the two texts are the
same, and so are their lexemes but for words with an underscore. Such words are no keywords, so the
scans find the same in both texts, names with an underscore apart.

Main definitions:

- {lit}`Shader.Respelt`: one text is the other one with other line breaks and other names.
- {lit}`Shader.Lexeme.mask`: a lexeme without the spelling of words with an underscore.

Main results:

- Theorem {lit}`Shader.Respelt.stripComments`: what comments leave is respelt.
- Theorem {lit}`Shader.Respelt.map_mask`: the lexemes are the same but for words with an underscore.
- Theorems {lit}`Shader.Respelt.mem_declaredUniforms`, {lit}`Shader.Respelt.setsPrecision_eq` and
  {lit}`Shader.Respelt.isDirective_iff`: the scans find the same.
-/

namespace LiveVisuals.Shader

open Text

/-! ## Respelling -/

/-- The second text is the first one with line feeds for some of its line breaks and with names
that start otherwise. -/
inductive Respelt : List Char → List Char → Prop
  | nil : Respelt [] []
  | keep (c : Char) {cs ds : List Char} (h : Respelt cs ds) : Respelt (c :: cs) (c :: ds)
  | crlf {cs ds : List Char} (h : Respelt cs ds) : Respelt ('\r' :: '\n' :: cs) ('\n' :: ds)
  | cr {cs ds : List Char} (h : Respelt cs ds) : Respelt ('\r' :: cs) ('\n' :: ds)
  | rename {cs ds : List Char} (h : Respelt cs ds) :
      Respelt ('g' :: 'l' :: '_' :: cs) ('v' :: 'j' :: '_' :: ds)

namespace Respelt

variable {cs ds : List Char}

protected theorem refl (cs : List Char) : Respelt cs cs := by
  induction cs with
  | nil => exact .nil
  | cons c cs ih => exact .keep c ih

theorem append {cs' ds' : List Char} (h : Respelt cs ds) (h' : Respelt cs' ds') :
    Respelt (cs ++ cs') (ds ++ ds') := by
  induction h with
  | nil => exact h'
  | keep c _ ih => exact .keep c ih
  | crlf _ ih => exact .crlf ih
  | cr _ ih => exact .cr ih
  | rename _ ih => exact .rename ih

/-- Marks stay. -/
theorem exists_of_cons_left {c : Char} (hc : c ∉ ['\r', 'g']) (h : Respelt (c :: cs) ds) :
    ∃ ds', ds = c :: ds' ∧ Respelt cs ds' := by
  cases h with
  | keep _ h => exact ⟨_, rfl, h⟩
  | crlf _ => simp at hc
  | cr _ => simp at hc
  | rename _ => simp at hc

/-- No mark comes of anything else. -/
theorem exists_of_cons_right {d : Char} (hd : d ∉ ['\n', 'v']) (h : Respelt cs (d :: ds)) :
    ∃ cs', cs = d :: cs' ∧ Respelt cs' ds := by
  cases h with
  | keep _ h => exact ⟨_, rfl, h⟩
  | crlf _ => simp at hd
  | cr _ => simp at hd
  | rename _ => simp at hd

/-! ### Comments -/

/-- A character that is no part of the end mark is passed over. -/
theorem map_snd_untilClose?_cons {c : Char} {cs : List Char}
    (h : ∀ es, c = '*' → cs = '/' :: es → False) :
    (untilClose? (c :: cs)).map Prod.snd = (untilClose? cs).map Prod.snd := by
  rw [untilClose?.eq_3 c cs h, Option.map_map]
  rfl

/-- Block comments end at the same place. -/
theorem untilClose? (h : Respelt cs ds) :
    Option.Rel Respelt ((Shader.untilClose? cs).map Prod.snd)
      ((Shader.untilClose? ds).map Prod.snd) := by
  induction h with
  | nil => exact .none
  | @keep c cs ds h ih =>
      by_cases hmark : c = '*' ∧ ∃ es, cs = '/' :: es
      · obtain ⟨rfl, es, rfl⟩ := hmark
        obtain ⟨ds', rfl, hrest⟩ := h.exists_of_cons_left (by simp)
        exact .some hrest
      · have hmark' : ∀ es, c = '*' → ds = '/' :: es → False := by
          rintro es hc rfl
          obtain ⟨cs', rfl, -⟩ := h.exists_of_cons_right (by simp)
          exact hmark ⟨hc, cs', rfl⟩
        rwa [map_snd_untilClose?_cons fun es hc hcs => hmark ⟨hc, es, hcs⟩,
          map_snd_untilClose?_cons hmark']
  | crlf _ ih =>
      rwa [map_snd_untilClose?_cons (by simp), map_snd_untilClose?_cons (by simp),
        map_snd_untilClose?_cons (by simp)]
  | cr _ ih =>
      rwa [map_snd_untilClose?_cons (by simp), map_snd_untilClose?_cons (by simp)]
  | rename _ ih =>
      rwa [map_snd_untilClose?_cons (by simp), map_snd_untilClose?_cons (by simp),
        map_snd_untilClose?_cons (by simp), map_snd_untilClose?_cons (by simp),
        map_snd_untilClose?_cons (by simp), map_snd_untilClose?_cons (by simp)]

/-- What block comments leave is respelt. -/
theorem stripBlockComments (h : Respelt cs ds) :
    Respelt (Shader.stripBlockComments cs) (Shader.stripBlockComments ds) := by
  induction hlength : cs.length using Nat.strong_induction_on generalizing cs ds with
  | h n ih =>
  subst hlength
  have hplain {c : Char} (hc : c ≠ '/') (cs : List Char) :
      Shader.stripBlockComments (c :: cs) = c :: Shader.stripBlockComments cs :=
    stripBlockComments_cons fun _ h => absurd h hc
  cases h with
  | nil =>
      rw [Shader.stripBlockComments]
      exact .nil
  | @keep c cs ds h =>
      by_cases hmark : c = '/' ∧ ∃ inside, cs = '*' :: inside
      · obtain ⟨rfl, inside, rfl⟩ := hmark
        have hstar := h
        obtain ⟨inside', rfl, hinside⟩ := h.exists_of_cons_left (by simp)
        have hclose := hinside.untilClose?
        cases hleft : Shader.untilClose? inside with
        | none =>
            cases hright : Shader.untilClose? inside' with
            | none =>
                rw [stripBlockComments_open hleft, stripBlockComments_open hright]
                exact .keep _ (ih _ (Nat.lt_succ_self _) hstar rfl)
            | some found =>
                rw [hleft, hright] at hclose
                cases hclose
        | some found =>
            cases hright : Shader.untilClose? inside' with
            | none =>
                rw [hleft, hright] at hclose
                cases hclose
            | some found' =>
                obtain ⟨inner, rest⟩ := found
                obtain ⟨inner', rest'⟩ := found'
                rw [hleft, hright] at hclose
                obtain ⟨hrest⟩ := hclose
                have hlt : rest.length < ('/' :: '*' :: inside).length := by
                  have := length_of_untilClose? hleft
                  simp only [List.length_cons]
                  omega
                rw [stripBlockComments_closed hleft, stripBlockComments_closed hright]
                exact .keep _ (ih _ hlt hrest rfl)
      · have hmark' : ∀ inside, c = '/' → ds ≠ '*' :: inside := by
          rintro inside hc rfl
          obtain ⟨cs', rfl, -⟩ := h.exists_of_cons_right (by simp)
          exact hmark ⟨hc, cs', rfl⟩
        rw [stripBlockComments_cons fun inside hc hcs => hmark ⟨hc, inside, hcs⟩,
          stripBlockComments_cons hmark']
        exact .keep c (ih _ (Nat.lt_succ_self _) h rfl)
  | crlf h =>
      rw [hplain (by simp), hplain (by simp), hplain (by simp)]
      exact .crlf (ih _ (by simp only [List.length_cons]; omega) h rfl)
  | cr h =>
      rw [hplain (by simp), hplain (by simp)]
      exact .cr (ih _ (Nat.lt_succ_self _) h rfl)
  | rename h =>
      rw [hplain (by simp), hplain (by simp), hplain (by simp), hplain (by simp),
        hplain (by simp), hplain (by simp)]
      exact .rename (ih _ (by simp only [List.length_cons]; omega) h rfl)

/-- What line comments leave is respelt. -/
theorem stripLineCommentsFrom (h : Respelt cs ds) (inside : Bool) :
    Respelt (Shader.stripLineCommentsFrom inside cs) (Shader.stripLineCommentsFrom inside ds) := by
  induction hlength : cs.length using Nat.strong_induction_on generalizing cs ds inside with
  | h n ih =>
  subst hlength
  cases h with
  | nil =>
      cases inside <;> exact .nil
  | @keep c cs ds h =>
      have hnext (inside : Bool) := ih _ (Nat.lt_succ_self _) h inside rfl
      cases inside with
      | true =>
          rw [Shader.stripLineCommentsFrom, Shader.stripLineCommentsFrom]
          split
          · exact .keep c (hnext false)
          · exact hnext true
      | false =>
          by_cases hmark : c = '/' ∧ ∃ es, cs = '/' :: es
          · obtain ⟨rfl, es, rfl⟩ := hmark
            obtain ⟨es', rfl, hrest⟩ := h.exists_of_cons_left (by simp)
            exact ih es.length (by simp only [List.length_cons]; omega) hrest true rfl
          · have hmark' : ∀ es, c = '/' → ds = '/' :: es → False := by
              rintro es hc rfl
              obtain ⟨cs', rfl, -⟩ := h.exists_of_cons_right (by simp)
              exact hmark ⟨hc, cs', rfl⟩
            rw [stripLineCommentsFrom.eq_4 c cs fun es hc hcs => hmark ⟨hc, es, hcs⟩,
              stripLineCommentsFrom.eq_4 c ds hmark']
            exact .keep c (hnext false)
  | crlf h =>
      have hnext := ih _ (by simp only [List.length_cons]; omega) h false rfl
      cases inside <;> simpa [Shader.stripLineCommentsFrom, endsLine] using hnext.crlf
  | cr h =>
      have hnext := ih _ (Nat.lt_succ_self _) h false rfl
      cases inside <;> simpa [Shader.stripLineCommentsFrom, endsLine] using hnext.cr
  | rename h =>
      have hnext := fun inside =>
        ih _ (by simp only [List.length_cons]; omega) h inside rfl
      cases inside with
      | true => simpa [Shader.stripLineCommentsFrom, endsLine] using hnext true
      | false => simpa [Shader.stripLineCommentsFrom] using (hnext false).rename

/-- What comments leave is respelt. -/
theorem stripComments (h : Respelt cs ds) :
    Respelt (Shader.stripComments cs) (Shader.stripComments ds) :=
  h.stripBlockComments.stripLineCommentsFrom false

/-! ### Words and gaps -/

/-- A run of characters of one kind is respelt, and so is what follows it, if the kind does not
tell line breaks from each other nor the letters of the names. -/
theorem span {p : Char → Bool} (hbreak : p '\r' = p '\n')
    (hletter : ['l', '_', 'v', 'j'].map p = List.replicate 4 (p 'g')) (h : Respelt cs ds) :
    Respelt (cs.takeWhile p) (ds.takeWhile p) ∧ Respelt (cs.dropWhile p) (ds.dropWhile p) := by
  simp only [List.map_cons, List.map_nil, List.replicate, List.cons.injEq, and_true] at hletter
  obtain ⟨hl, hline, hv, hj⟩ := hletter
  induction h with
  | nil => exact ⟨.nil, .nil⟩
  | keep c h ih =>
      by_cases hc : p c
      · simpa [hc, ih.2] using ih.1.keep c
      · simpa [hc, Respelt.nil] using h.keep c
  | crlf h ih =>
      by_cases hc : p '\n'
      · simpa [hbreak, hc, ih.2] using ih.1.crlf
      · simpa [hbreak, hc, Respelt.nil] using h.crlf
  | cr h ih =>
      by_cases hc : p '\n'
      · simpa [hbreak, hc, ih.2] using ih.1.cr
      · simpa [hbreak, hc, Respelt.nil] using h.cr
  | rename h ih =>
      by_cases hc : p 'g'
      · simpa [hl, hline, hv, hj, hc, ih.2] using ih.1.rename
      · simpa [hl, hline, hv, hj, hc, Respelt.nil] using h.rename

/-- Words are respelt as words, and blanks as blanks. -/
theorem exists_of_cons {c : Char} (h : Respelt (c :: cs) ds) :
    ∃ d ds', ds = d :: ds' ∧ isWordChar d = isWordChar c ∧ isBlank d = isBlank c := by
  cases h with
  | keep _ _ => exact ⟨_, _, rfl, rfl, rfl⟩
  | crlf _ => exact ⟨_, _, rfl, by decide⟩
  | cr _ => exact ⟨_, _, rfl, by decide⟩
  | rename _ => exact ⟨_, _, rfl, by decide⟩

/-- A word that is spelled differently has an underscore. -/
theorem eq_or_mem (h : Respelt cs ds) (hword : ∀ c ∈ cs, isWordChar c) :
    cs = ds ∨ '_' ∈ cs ∧ '_' ∈ ds := by
  have hbreak : isWordChar '\r' = false := by decide
  induction h with
  | nil => exact .inl rfl
  | keep c _ ih =>
      rcases ih fun d hd => hword d (List.mem_cons_of_mem c hd) with rfl | ⟨hcs, hds⟩
      · exact .inl rfl
      · exact .inr ⟨List.mem_cons_of_mem c hcs, List.mem_cons_of_mem c hds⟩
  | crlf _ => simp [hbreak] at hword
  | cr _ => simp [hbreak] at hword
  | rename _ => exact .inr (by simp)

/-- A word is an identifier however it is spelled. -/
theorem isIdentifier_eq (h : Respelt cs ds) (hcs : ∀ c ∈ cs, isWordChar c)
    (hds : ∀ d ∈ ds, isWordChar d) : isIdentifier cs = isIdentifier ds := by
  have hbreak : isWordChar '\r' = false := by decide
  have hword {c : Char} {cs : List Char} (h : ∀ d ∈ c :: cs, isWordChar d) :
      isIdentifier (c :: cs) = startsIdentifier c := by
    have hall : cs.all isWordChar :=
      List.all_eq_true.mpr fun d hd => h d (List.mem_cons_of_mem c hd)
    rw [isIdentifier, hall, Bool.and_true]
  cases h with
  | nil => rfl
  | keep c _ => rw [hword hcs, hword hds]
  | crlf _ => simp [hbreak] at hcs
  | cr _ => simp [hbreak] at hcs
  | rename _ =>
      rw [hword hcs, hword hds]
      decide

end Respelt

/-! ## Masked lexemes -/

/-- A word, or a fixed one if it has an underscore; identifiers stay identifiers. -/
def maskWord (w : List Char) : List Char :=
  if '_' ∈ w then if isIdentifier w then ['_'] else ['0', '_'] else w

/-- A lexeme without the spelling of words with an underscore. -/
def Lexeme.mask : Lexeme → Lexeme
  | word w => word (maskWord w)
  | gap => gap
  | mark c => mark c

theorem underscore_mem_maskWord {w : List Char} : '_' ∈ maskWord w ↔ '_' ∈ w := by
  rw [maskWord]
  split
  · next hw =>
      split <;> simp [hw]
  · rfl

/-- Words without an underscore are masked as nothing else. -/
theorem maskWord_eq_iff {w v : List Char} (hv : '_' ∉ v) : maskWord w = v ↔ w = v := by
  constructor
  · rintro rfl
    rw [underscore_mem_maskWord] at hv
    rw [maskWord, if_neg hv]
  · rintro rfl
    rw [maskWord, if_neg hv]

@[simp] theorem isIdentifier_maskWord (w : List Char) :
    isIdentifier (maskWord w) = isIdentifier w := by
  rw [maskWord]
  split
  · split
    · next hw =>
        rw [hw]
        decide
    · next hw =>
        rw [Bool.not_eq_true] at hw
        rw [hw]
        decide
  · rfl

theorem Respelt.maskWord_eq {w v : List Char} (h : Respelt w v) (hw : ∀ c ∈ w, isWordChar c)
    (hv : ∀ c ∈ v, isWordChar c) : maskWord w = maskWord v := by
  rcases h.eq_or_mem hw with rfl | ⟨hw', hv'⟩
  · rfl
  · rw [maskWord, maskWord, if_pos hw', if_pos hv', h.isIdentifier_eq hw hv]

/-- The lexemes of a text that starts with a word character. -/
theorem lexemes_eq_word {c : Char} (hc : isWordChar c) (cs : List Char) :
    lexemes (c :: cs) = .word ((c :: cs).takeWhile isWordChar) ::
      lexemes ((c :: cs).dropWhile isWordChar) := by
  rw [lexemes_word_cons hc, List.takeWhile_cons_of_pos hc, List.dropWhile_cons_of_pos hc]

/-- The lexemes are the same but for words with an underscore. -/
theorem Respelt.map_mask {cs ds : List Char} (h : Respelt cs ds) :
    (lexemes cs).map Lexeme.mask = (lexemes ds).map Lexeme.mask := by
  induction hlength : cs.length using Nat.strong_induction_on generalizing cs ds with
  | h n ih =>
  subst hlength
  cases cs with
  | nil =>
      cases h
      rfl
  | cons c cs =>
      obtain ⟨d, ds, rfl, hword, hblank⟩ := h.exists_of_cons
      by_cases hc : isWordChar c
      · obtain ⟨hrun, hrest⟩ := h.span (by decide : isWordChar '\r' = isWordChar '\n') (by decide)
        have hlt : ((c :: cs).dropWhile isWordChar).length < (c :: cs).length := by
          rw [List.dropWhile_cons_of_pos hc]
          exact Nat.lt_succ_of_le (length_dropWhile_le cs)
        have hmask := hrun.maskWord_eq (fun _ => List.mem_takeWhile_imp)
          (fun _ => List.mem_takeWhile_imp)
        rw [lexemes_eq_word hc, lexemes_eq_word (hword.trans hc), List.map_cons, List.map_cons,
          ih _ hlt hrest rfl, Lexeme.mask, hmask, Lexeme.mask]
      · have hc' : isWordChar c = false := by simpa using hc
        by_cases hb : isBlank c
        · obtain ⟨-, hrest⟩ := h.span (by decide : isBlank '\r' = isBlank '\n') (by decide)
          rw [List.dropWhile_cons_of_pos hb, List.dropWhile_cons_of_pos (hblank.trans hb)] at hrest
          rw [lexemes_blank_cons hb, lexemes_blank_cons (hblank.trans hb), List.map_cons,
            List.map_cons, skipBlanks, skipBlanks,
            ih _ (Nat.lt_succ_of_le (length_skipBlanks_le cs)) hrest rfl]
        · have hb' : isBlank c = false := by simpa using hb
          have hplain : c ∉ ['\r', 'g'] := by
            simp only [List.mem_cons, List.not_mem_nil, or_false, not_or]
            constructor
            · rintro rfl
              exact absurd hb (by decide)
            · rintro rfl
              exact absurd hc (by decide)
          obtain ⟨ds', hds, hrest⟩ := h.exists_of_cons_left hplain
          cases hds
          rw [lexemes_mark_cons hc' hb', lexemes_mark_cons hc' hb', List.map_cons, List.map_cons,
            ih _ (Nat.lt_succ_self _) hrest rfl]

/-! ## Scans of masked lexemes -/

namespace Lexeme

/-- A name and what follows it, masked. -/
def maskFound : List Char × List Lexeme → List Char × List Lexeme :=
  Prod.map maskWord (List.map mask)

theorem name?_map (ls : List Lexeme) : name? (ls.map mask) = (name? ls).map maskFound := by
  cases ls with
  | nil => rfl
  | cons l ls =>
      cases l with
      | word w =>
          by_cases hw : isIdentifier w
          · simp [name?, mask, hw, maskFound]
          · simp [name?, mask, hw]
      | gap => rfl
      | mark c => rfl

theorem afterGap?_map (ls : List Lexeme) :
    afterGap? (ls.map mask) = (afterGap? ls).map (List.map mask) := by
  cases ls with
  | nil => rfl
  | cons l ls => cases l <;> rfl

theorem afterWord?_map {w : List Char} (hw : '_' ∉ w) (ls : List Lexeme) :
    afterWord? w (ls.map mask) = (afterWord? w ls).map (List.map mask) := by
  cases ls with
  | nil => rfl
  | cons l ls =>
      cases l with
      | word v =>
          by_cases hv : v = w
          · simp [afterWord?, mask, maskWord_eq_iff hw, hv, afterGap?_map]
          · simp [afterWord?, mask, maskWord_eq_iff hw, hv]
      | gap => rfl
      | mark c => rfl

/-- Keywords have no underscore. -/
theorem underscore_notMem_keyword :
    ∀ w ∈ "uniform".toList :: "precision".toList :: "float".toList :: precisionWords, '_' ∉ w := by
  decide

theorem afterPrecision?_map (ls : List Lexeme) :
    afterPrecision? (ls.map mask) = (afterPrecision? ls).map (List.map mask) := by
  have hwords : ∀ words ⊆ precisionWords,
      words.findSome? (fun w => afterWord? w (ls.map mask)) =
        (words.findSome? fun w => afterWord? w ls).map (List.map mask) := by
    intro words hwords
    induction words with
    | nil => rfl
    | cons w words ih =>
        have hw : '_' ∉ w :=
          underscore_notMem_keyword w (by simp [hwords List.mem_cons_self])
        rw [List.findSome?_cons, List.findSome?_cons, afterWord?_map hw,
          ih fun v hv => hwords (List.mem_cons_of_mem w hv)]
        cases afterWord? w ls <;> rfl
  exact hwords precisionWords (List.Subset.refl _)

theorem typedName?_map (ls : List Lexeme) :
    typedName? (ls.map mask) = (typedName? ls).map maskFound := by
  rw [typedName?, typedName?, name?_map]
  cases name? ls with
  | none => rfl
  | some found =>
      obtain ⟨type, afterType⟩ := found
      simp only [Option.map_some, maskFound, Prod.map, Option.bind_eq_bind, Option.bind_some,
        afterGap?_map]
      cases afterGap? afterType with
      | none => rfl
      | some nameStart => exact name?_map nameStart

theorem declaration?_map (ls : List Lexeme) :
    declaration? (ls.map mask) = (declaration? ls).map maskFound := by
  have hword : '_' ∉ "uniform".toList := underscore_notMem_keyword _ List.mem_cons_self
  rw [declaration?, declaration?, afterWord?_map hword]
  cases afterWord? "uniform".toList ls with
  | none => rfl
  | some start =>
      simp only [Option.map_some, Option.bind_eq_bind, Option.bind_some, afterPrecision?_map,
        typedName?_map]
      cases afterPrecision? start with
      | none => rfl
      | some start' =>
          simp only [Option.map_some, Option.bind_some, typedName?_map]
          cases typedName? start' <;> rfl

/-- Masking the lexemes masks the names that are declared. -/
theorem declaredNames_map (ls : List Lexeme) :
    declaredNames (ls.map mask) = (declaredNames ls).map maskWord := by
  induction ls using declaredNames.induct with
  | case1 => simp [declaredNames]
  | case2 l ls name rest hfound ih =>
      have hmasked := declaration?_map (l :: ls)
      rw [hfound] at hmasked
      rw [declaredNames_of_some hfound, declaredNames_of_some hmasked, List.map_cons, ih]
  | case3 l ls hfound ih =>
      have hmasked := declaration?_map (l :: ls)
      rw [hfound] at hmasked
      rw [declaredNames_of_none hfound, ← ih]
      exact declaredNames_of_none hmasked

theorem skipGap_map (ls : List Lexeme) : skipGap (ls.map mask) = (skipGap ls).map mask := by
  cases ls with
  | nil => rfl
  | cons l ls => cases l <;> rfl

theorem floatAt_map (ls : List Lexeme) : floatAt (ls.map mask) = floatAt ls := by
  have hword : '_' ∉ "float".toList := by decide
  have hmark (ls : List Lexeme) : startsWith ';' (ls.map mask) = startsWith ';' ls := by
    cases ls with
    | nil => rfl
    | cons l ls => cases l <;> rfl
  cases ls with
  | nil => rfl
  | cons l ls =>
      cases l with
      | word w =>
          have hname : decide (maskWord w = "float".toList) = decide (w = "float".toList) :=
            decide_eq_decide.mpr (maskWord_eq_iff hword)
          rw [List.map_cons, mask, floatAt, floatAt, skipGap_map, hmark, hname]
      | gap => rfl
      | mark c => rfl

theorem precisionAt_map (ls : List Lexeme) : precisionAt (ls.map mask) = precisionAt ls := by
  have hword : '_' ∉ "precision".toList := by decide
  rw [precisionAt, precisionAt, afterWord?_map hword]
  cases afterWord? "precision".toList ls with
  | none => rfl
  | some start =>
      simp only [Option.map_some, Option.bind_some, afterPrecision?_map]
      cases afterPrecision? start with
      | none => rfl
      | some type => exact floatAt_map type

/-- Masking the lexemes keeps the statement that sets the float precision. -/
theorem setsPrecision_map (ls : List Lexeme) : setsPrecision (ls.map mask) = setsPrecision ls := by
  induction ls with
  | nil => rfl
  | cons l ls ih =>
      rw [setsPrecision, ← ih, ← precisionAt_map]
      rfl

/-- Masking the lexemes masks the directive. -/
theorem directive?_map (ls : List Lexeme) :
    directive? (ls.map mask) = (directive? ls).map maskWord := by
  rw [directive?, directive?, skipGap_map]
  cases hls : skipGap ls with
  | nil => rfl
  | cons l ls =>
      cases l with
      | word w => rfl
      | gap => rfl
      | mark c =>
          by_cases hc : c = '#'
          · subst hc
            cases ls with
            | nil => rfl
            | cons l ls => cases l <;> rfl
          · simp [mask, hc]

end Lexeme

/-! ## What the scans find -/

namespace Respelt

variable {cs ds : List Char}

/-- Names without an underscore are declared in both texts. -/
theorem mem_declaredUniforms (h : Respelt cs ds) {name : String} (hname : '_' ∉ name.toList) :
    name ∈ declaredUniforms cs ↔ name ∈ declaredUniforms ds := by
  have hmem (ls : List Lexeme) : name.toList ∈ Lexeme.declaredNames ls ↔
      name.toList ∈ Lexeme.declaredNames (ls.map Lexeme.mask) := by
    rw [Lexeme.declaredNames_map, List.mem_map]
    constructor
    · intro h
      exact ⟨_, h, (maskWord_eq_iff hname).mpr rfl⟩
    · rintro ⟨w, hw, hmask⟩
      rwa [← (maskWord_eq_iff hname).mp hmask]
  rw [mem_declaredUniforms_iff, mem_declaredUniforms_iff, hmem, h.stripComments.map_mask, ← hmem]

/-- Both texts set the float precision, or neither does. -/
theorem setsPrecision_eq (h : Respelt cs ds) : setsPrecision cs = setsPrecision ds := by
  rw [Shader.setsPrecision_eq, Shader.setsPrecision_eq, ← Lexeme.setsPrecision_map,
    h.stripComments.map_mask, Lexeme.setsPrecision_map]

/-- Both lines are a given directive, or neither is. -/
theorem isDirective_iff (h : Respelt cs ds) {word : String} (hne : word.toList ≠ [])
    (hword : word.toList.all isWordChar) (hplain : '_' ∉ word.toList) :
    isDirective word cs ↔ isDirective word ds := by
  have hmask (ls : List Lexeme) : Lexeme.directive? ls = some word.toList ↔
      Lexeme.directive? (ls.map Lexeme.mask) = some word.toList := by
    rw [Lexeme.directive?_map]
    cases Lexeme.directive? ls with
    | none => simp
    | some w => simp [maskWord_eq_iff hplain]
  rw [Shader.isDirective_iff hne hword, Shader.isDirective_iff hne hword, hmask, h.map_mask,
    ← hmask]

end Respelt

end LiveVisuals.Shader
