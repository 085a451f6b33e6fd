import LiveVisuals.Proofs.Shader.Lexeme

/-!
# Scans by lexemes

What the scans for declarations, for the float precision and for directives find in a text is
determined by its lexemes: blanks count as gaps only, and words as a whole. A declaration of
uniforms is what leads to a name, and the name; reading goes on behind the name.

Main definitions:

- {lit}`Shader.Lexeme.Leads`: what stands before the first name of a declaration.
- {lit}`Shader.Lexeme.declaredNames`: the names that are declared.
- {lit}`Shader.Lexeme.setsPrecision`: whether the float precision is set.
- {lit}`Shader.Lexeme.directive?`: the directive that a line is.

Main results:

- Theorem {lit}`Shader.Lexeme.declaration?_eq_some`: the form of a declaration.
- Theorem {lit}`Shader.mem_declaredUniforms_iff`: which uniforms a body declares.
- Theorem {lit}`Shader.setsPrecision_eq`: whether a body sets the float precision.
- Theorem {lit}`Shader.isDirective_iff`: which directive a line is.
-/

namespace LiveVisuals.Shader

open Text

/-! ## Declarations -/

namespace Lexeme

/-- What follows a precision qualifier and a gap. -/
def afterPrecision? (ls : List Lexeme) : Option (List Lexeme) :=
  precisionWords.findSome? fun w => afterWord? w ls

/-- A type and a name: the name and what follows it. -/
def typedName? (ls : List Lexeme) : Option (List Char × List Lexeme) := do
  let (_, afterType) ← name? ls
  let nameStart ← afterGap? afterType
  name? nameStart

/-- A declaration of uniforms up to its first name: the name and what follows it. -/
def declaration? (ls : List Lexeme) : Option (List Char × List Lexeme) := do
  let typeStart ← afterWord? "uniform".toList ls
  ((afterPrecision? typeStart).bind typedName?).or (typedName? typeStart)

theorem afterPrecision?_eq_some {ls rest : List Lexeme} (h : afterPrecision? ls = some rest) :
    ∃ w ∈ precisionWords, ls = word w :: gap :: rest := by
  obtain ⟨w, hw, hrest⟩ := List.exists_of_findSome?_eq_some h
  exact ⟨w, hw, afterWord?_eq_some.mp hrest⟩

theorem typedName?_eq_some {ls rest : List Lexeme} {name : List Char} :
    typedName? ls = some (name, rest) ↔
      ∃ type, isIdentifier type ∧ isIdentifier name ∧
        ls = word type :: gap :: word name :: rest := by
  simp only [typedName?, Option.bind_eq_bind, Option.bind_eq_some_iff, Prod.exists, name?_eq_some,
    afterGap?_eq_some]
  constructor
  · rintro ⟨type, afterType, ⟨htype, rfl⟩, nameStart, rfl, hname, rfl⟩
    exact ⟨type, htype, hname, rfl⟩
  · rintro ⟨type, htype, hname, rfl⟩
    exact ⟨type, _, ⟨htype, rfl⟩, _, rfl, hname, rfl⟩

/-- What stands before the first name of a declaration of uniforms. -/
inductive Leads : List Lexeme → Prop
  | plain {type : List Char} (htype : isIdentifier type) :
      Leads [word "uniform".toList, gap, word type, gap]
  | qualified {precision type : List Char} (hprecision : precision ∈ precisionWords)
      (htype : isIdentifier type) :
      Leads [word "uniform".toList, gap, word precision, gap, word type, gap]

/-- A declaration is what leads to a name, and the name. -/
theorem declaration?_eq_some {ls rest : List Lexeme} {name : List Char}
    (h : declaration? ls = some (name, rest)) :
    isIdentifier name ∧ ∃ lead, Leads lead ∧ ls = lead ++ word name :: rest := by
  simp only [declaration?, Option.bind_eq_bind, Option.bind_eq_some_iff, afterWord?_eq_some,
    Option.or_eq_some_iff] at h
  obtain ⟨start, rfl, ⟨start', hstart', htyped⟩ | ⟨-, htyped⟩⟩ := h
  · obtain ⟨precision, hprecision, rfl⟩ := afterPrecision?_eq_some hstart'
    obtain ⟨type, htype, hname, rfl⟩ := typedName?_eq_some.mp htyped
    exact ⟨hname, _, .qualified hprecision htype, rfl⟩
  · obtain ⟨type, htype, hname, rfl⟩ := typedName?_eq_some.mp htyped
    exact ⟨hname, _, .plain htype, rfl⟩

/-- A declaration without precision is found. -/
theorem declaration?_plain {type name : List Char} (htype : isIdentifier type)
    (hprecision : type ∉ precisionWords) (hname : isIdentifier name) (rest : List Lexeme) :
    declaration? (word "uniform".toList :: gap :: word type :: gap :: word name :: rest) =
      some (name, rest) := by
  have hnone : afterPrecision? (word type :: gap :: word name :: rest) = none := by
    cases hsome : afterPrecision? (word type :: gap :: word name :: rest) with
    | none => rfl
    | some ls =>
        obtain ⟨w, hw, hls⟩ := afterPrecision?_eq_some hsome
        cases hls
        exact absurd hw hprecision
  have htyped : typedName? (word type :: gap :: word name :: rest) = some (name, rest) :=
    typedName?_eq_some.mpr ⟨type, htype, hname, rfl⟩
  simp [declaration?, afterWord?, afterGap?, hnone, htyped]

/-- A declaration with precision is found. -/
theorem declaration?_qualified {precision type name : List Char}
    (hprecision : precision ∈ precisionWords) (htype : isIdentifier type)
    (hname : isIdentifier name) (rest : List Lexeme) :
    declaration? (word "uniform".toList :: gap :: word precision :: gap :: word type :: gap ::
      word name :: rest) = some (name, rest) := by
  have hafter : afterPrecision? (word precision :: gap :: word type :: gap :: word name :: rest) =
      some (word type :: gap :: word name :: rest) := by
    cases hsome : afterPrecision?
        (word precision :: gap :: word type :: gap :: word name :: rest) with
    | none =>
        have := List.findSome?_eq_none_iff.mp hsome precision hprecision
        simp [afterWord?, afterGap?] at this
    | some ls =>
        obtain ⟨w, hw, hls⟩ := afterPrecision?_eq_some hsome
        cases hls
        rfl
  have htyped : typedName? (word type :: gap :: word name :: rest) = some (name, rest) :=
    typedName?_eq_some.mpr ⟨type, htype, hname, rfl⟩
  simp [declaration?, afterWord?, afterGap?, hafter, htyped]

/-- A declaration is shorter than what it stands in. -/
theorem length_of_declaration? {ls rest : List Lexeme} {name : List Char}
    (h : declaration? ls = some (name, rest)) : rest.length < ls.length := by
  obtain ⟨-, lead, -, rfl⟩ := declaration?_eq_some h
  simp only [List.length_append, List.length_cons]
  omega

/-- The names that are declared, read from left to right. -/
def declaredNames : List Lexeme → List (List Char)
  | [] => []
  | l :: ls =>
      match _h : declaration? (l :: ls) with
      | some (name, rest) => name :: declaredNames rest
      | none => declaredNames ls
termination_by ls => ls.length
decreasing_by
  · exact length_of_declaration? ‹_›
  · exact Nat.lt_succ_self _

theorem declaredNames_of_some {ls rest : List Lexeme} {name : List Char}
    (h : declaration? ls = some (name, rest)) : declaredNames ls = name :: declaredNames rest := by
  cases ls with
  | nil => cases h
  | cons l ls =>
      rw [declaredNames]
      split
      · next name' rest' h' =>
          rw [h] at h'
          cases h'
          rfl
      · next h' =>
          rw [h] at h'
          cases h'

theorem declaredNames_of_none {l : Lexeme} {ls : List Lexeme} (h : declaration? (l :: ls) = none) :
    declaredNames (l :: ls) = declaredNames ls := by
  rw [declaredNames]
  split
  · next h' =>
      rw [h] at h'
      cases h'
  · rfl

/-- Nothing but its word starts a declaration. -/
theorem declaredNames_cons {l : Lexeme} (h : l ≠ word "uniform".toList) (ls : List Lexeme) :
    declaredNames (l :: ls) = declaredNames ls := by
  apply declaredNames_of_none
  cases hdeclared : declaration? (l :: ls) with
  | none => rfl
  | some found =>
      obtain ⟨-, lead, hlead, hls⟩ := declaration?_eq_some hdeclared
      cases hlead <;> exact absurd (List.cons.inj hls).1 h

end Lexeme

/-! ## A declaration at the start of a text -/

/-- The words that the scans look for are words. -/
theorem isWordChar_of_mem_keyword :
    ∀ w ∈ "uniform".toList :: "precision".toList :: "float".toList :: precisionWords,
      w ≠ [] ∧ ∀ c ∈ w, isWordChar c := by
  have hall : ∀ w ∈ "uniform".toList :: "precision".toList :: "float".toList :: precisionWords,
      w ≠ [] ∧ w.all isWordChar := by decide
  intro w hw
  exact ⟨(hall w hw).1, List.all_eq_true.mp (hall w hw).2⟩

/-- Two precision qualifiers do not start alike. -/
theorem eq_of_mem_precisionWords :
    ∀ w ∈ precisionWords, ∀ w' ∈ precisionWords, w.head? = w'.head? → w = w' := by
  decide

/-- No text starts with two precision qualifiers. -/
theorem eq_of_strip?_precision {cs : List Char} {w w' : List Char} (hw : w ∈ precisionWords)
    (hw' : w' ∈ precisionWords) (h : (strip? w cs).isSome) (h' : (strip? w' cs).isSome) :
    w = w' := by
  obtain ⟨rest, hrest⟩ := Option.isSome_iff_exists.mp h
  obtain ⟨rest', hrest'⟩ := Option.isSome_iff_exists.mp h'
  have hsame := (strip?_eq_some_iff.mp hrest).symm.trans (strip?_eq_some_iff.mp hrest')
  have hne := (isWordChar_of_mem_keyword w (by simp [hw])).1
  have hne' := (isWordChar_of_mem_keyword w' (by simp [hw'])).1
  apply eq_of_mem_precisionWords w hw w' hw'
  have hhead := congrArg List.head? hsame
  rwa [List.head?_append_of_ne_nil w hne, List.head?_append_of_ne_nil w' hne'] at hhead

theorem map_stripPrecision? (cs : List Char) :
    ((stripPrecision? cs).bind skipSomeBlanks).map lexemes =
      Lexeme.afterPrecision? (lexemes cs) := by
  have hword : ∀ w ∈ precisionWords,
      Lexeme.afterWord? w (lexemes cs) = ((strip? w cs).bind skipSomeBlanks).map lexemes := by
    intro w hw
    have hmem := isWordChar_of_mem_keyword w (by simp [hw])
    exact (map_strip?_skipSomeBlanks hmem.1 hmem.2 cs).symm
  cases hstrip : stripPrecision? cs with
  | none =>
      have hnone : Lexeme.afterPrecision? (lexemes cs) = none := by
        refine List.findSome?_eq_none_iff.mpr fun w hw => ?_
        rw [hword w hw, List.findSome?_eq_none_iff.mp hstrip w hw]
        rfl
      rw [hnone]
      rfl
  | some rest =>
      obtain ⟨w, hw, hrest⟩ := List.exists_of_findSome?_eq_some hstrip
      -- of the other qualifiers nothing is found
      have hother : ∀ w' ∈ precisionWords, w' ≠ w → Lexeme.afterWord? w' (lexemes cs) = none := by
        intro w' hw' hne
        rw [hword w' hw']
        cases hstrip' : strip? w' cs with
        | none => rfl
        | some rest' =>
            exact absurd (eq_of_strip?_precision hw' hw (by rw [hstrip']; rfl) (by rw [hrest]; rfl))
              hne
      have hself := hword w hw
      rw [hrest] at hself
      rw [← hself]
      cases hfound : Lexeme.afterPrecision? (lexemes cs) with
      | none => exact List.findSome?_eq_none_iff.mp hfound w hw
      | some ls =>
          obtain ⟨w', hw', hls⟩ := List.exists_of_findSome?_eq_some hfound
          by_cases hne : w' = w
          · rw [← hne, hls]
          · rw [hother w' hw' hne] at hls
            cases hls

theorem map_typedName? (cs : List Char) :
    (typedName? cs).map (Prod.map id lexemes) = Lexeme.typedName? (lexemes cs) := by
  rw [typedName?, Lexeme.typedName?, ← map_takeIdentifier]
  cases takeIdentifier cs with
  | none => rfl
  | some found =>
      have hgap := map_skipSomeBlanks found.2
      cases hskip : skipSomeBlanks found.2 with
      | none =>
          rw [hskip] at hgap
          simp [hskip, ← hgap]
      | some rest =>
          rw [hskip] at hgap
          simp [hskip, ← hgap, map_takeIdentifier]

/-- The declaration that stands at the start of a text stands at the start of its lexemes. -/
theorem map_uniformDeclaration? (cs : List Char) :
    (uniformDeclaration? cs).map (Prod.map id lexemes) = Lexeme.declaration? (lexemes cs) := by
  have hword := isWordChar_of_mem_keyword "uniform".toList (by simp)
  have hread : uniformDeclaration? cs = ((strip? "uniform".toList cs).bind skipSomeBlanks).bind
      fun start => (((stripPrecision? start).bind skipSomeBlanks).bind typedName?) <|>
        typedName? start := by
    simp only [uniformDeclaration?, Option.bind_eq_bind, Option.bind_assoc]
  rw [hread, Lexeme.declaration?, ← map_strip?_skipSomeBlanks hword.1 hword.2]
  cases (strip? "uniform".toList cs).bind skipSomeBlanks with
  | none => rfl
  | some start =>
      have hqualified := map_stripPrecision? start
      have hplain := map_typedName? start
      simp only [Option.bind_some, Option.map_some, Option.bind_eq_bind, ← hqualified, ← hplain]
      cases (stripPrecision? start).bind skipSomeBlanks with
      | none => rfl
      | some start' =>
          simp only [Option.map_some, Option.bind_some, ← map_typedName?]
          cases typedName? start' <;> rfl

/-- No declaration stands where no word starts. -/
theorem uniformDeclaration?_of_not_word {c : Char} (hc : isWordChar c = false) (cs : List Char) :
    uniformDeclaration? (c :: cs) = none := by
  have hmap := map_uniformDeclaration? (c :: cs)
  rcases lexemes_of_not_word hc cs with h | h <;>
    · rw [h] at hmap
      exact Option.map_eq_none_iff.mp hmap

/-- An identifier is taken with all that belongs to its word. -/
theorem exists_of_takeIdentifier {cs name rest : List Char}
    (h : takeIdentifier cs = some (name, rest)) : cs = name ++ rest ∧ endsWord rest := by
  cases cs with
  | nil => cases h
  | cons c cs =>
      rw [takeIdentifier] at h
      split at h
      · cases h
        exact ⟨by simp, endsWord_dropWhile cs⟩
      · cases h

/-- Blanks are skipped at the start of a text. -/
theorem suffix_of_skipSomeBlanks {cs rest : List Char} (h : skipSomeBlanks cs = some rest) :
    rest <:+ cs := by
  cases cs with
  | nil => cases h
  | cons c cs =>
      rw [skipSomeBlanks] at h
      split at h
      · cases h
        exact (List.dropWhile_suffix _).trans (List.suffix_cons c cs)
      · cases h

/-- What follows a type and a name stands at the end of the text. -/
theorem suffix_of_typedName? {cs name rest : List Char} (h : typedName? cs = some (name, rest)) :
    rest <:+ cs ∧ endsWord rest := by
  simp only [typedName?, Option.bind_eq_bind, Option.bind_eq_some_iff, Prod.exists] at h
  obtain ⟨type, afterType, htype, nameStart, hskip, hname⟩ := h
  obtain ⟨rfl, -⟩ := exists_of_takeIdentifier htype
  obtain ⟨rfl, hends⟩ := exists_of_takeIdentifier hname
  exact ⟨(List.suffix_append name rest).trans
    ((suffix_of_skipSomeBlanks hskip).trans (List.suffix_append type afterType)), hends⟩

/-- What follows a declaration stands at the end of the text, behind more than one character. -/
theorem suffix_of_uniformDeclaration? {c : Char} {cs name rest : List Char}
    (h : uniformDeclaration? (c :: cs) = some (name, rest)) : rest <:+ cs ∧ endsWord rest := by
  simp only [uniformDeclaration?, Option.bind_eq_bind, Option.bind_eq_some_iff] at h
  obtain ⟨afterWord, hword, start, hstart, hnamed⟩ := h
  have hafter : afterWord <:+ cs := by
    have huniform : "uniform".toList = 'u' :: "niform".toList := by decide
    have hsplit := strip?_eq_some_iff.mp hword
    rw [huniform, List.cons_append] at hsplit
    exact ⟨_, (List.cons.inj hsplit).2.symm⟩
  have hstart' : start <:+ cs := (suffix_of_skipSomeBlanks hstart).trans hafter
  have hnamed : ∃ start', start' <:+ start ∧ typedName? start' = some (name, rest) := by
    simp only [Option.orElse_eq_orElse, Option.orElse_eq_or, Option.or_eq_some_iff,
      Option.bind_eq_some_iff] at hnamed
    rcases hnamed with ⟨afterPrecision, hprecision, start', hskip, htyped⟩ | ⟨-, htyped⟩
    · obtain ⟨w, -, hstrip⟩ := List.exists_of_findSome?_eq_some hprecision
      rw [strip?_eq_some_iff.mp hstrip]
      exact ⟨start', (suffix_of_skipSomeBlanks hskip).trans (List.suffix_append w afterPrecision),
        htyped⟩
    · exact ⟨start, List.suffix_refl start, htyped⟩
  obtain ⟨start', hsuffix, htyped⟩ := hnamed
  obtain ⟨hrest, hends⟩ := suffix_of_typedName? htyped
  exact ⟨hrest.trans (hsuffix.trans hstart'), hends⟩

/-! ## The scan for declarations -/

/-- A scan that only looks at words passes over a character that is of no word. -/
theorem scan_lexemes_cons {β : Type} {scan : List Lexeme → β}
    (hscan : ∀ l ls, (∀ w, l ≠ .word w) → scan (l :: ls) = scan ls) {c : Char}
    (hc : isWordChar c = false) (cs : List Char) :
    scan (lexemes (c :: cs)) = scan (lexemes cs) := by
  rcases lexemes_of_not_word hc cs with h | h
  · -- the gap may go on
    rw [h, hscan _ _ (by simp)]
    cases cs with
    | nil => rfl
    | cons d ds =>
        by_cases hd : isBlank d
        · have hskip : skipBlanks (d :: ds) = skipBlanks ds := by simp [skipBlanks, hd]
          rw [lexemes_blank_cons hd, hskip, hscan _ _ (by simp)]
        · have hskip : skipBlanks (d :: ds) = d :: ds := by simp [skipBlanks, hd]
          rw [hskip]
  · rw [h, hscan _ _ (by simp)]

theorem declaredNames_of_not_word (l : Lexeme) (ls : List Lexeme) (h : ∀ w, l ≠ .word w) :
    Lexeme.declaredNames (l :: ls) = Lexeme.declaredNames ls :=
  Lexeme.declaredNames_cons (h _) ls

/-- What was read before does not matter where no word goes on. -/
theorem uniformNamesFrom_eq_none {before : Option Char} {cs : List Char}
    (h : before.any isWordChar = false ∨ endsWord cs) :
    uniformNamesFrom before 0 cs = uniformNamesFrom none 0 cs := by
  cases cs with
  | nil => rfl
  | cons c cs =>
      rcases h with hbefore | hends
      · simp [uniformNamesFrom, hbefore]
      · have hc : isWordChar c = false := by simpa [endsWord] using hends
        simp [uniformNamesFrom, uniformDeclaration?_of_not_word hc]

/-- No declaration starts inside a word. -/
theorem uniformNamesFrom_inside {before : Option Char} (hbefore : before.any isWordChar)
    (cs : List Char) :
    uniformNamesFrom before 0 cs = uniformNamesFrom none 0 (cs.dropWhile isWordChar) := by
  induction cs generalizing before with
  | nil => rfl
  | cons c cs ih =>
      by_cases hc : isWordChar c
      · have hnext := @ih (some c) (by simpa using hc)
        simp [uniformNamesFrom, hbefore, hnext, hc]
      · have hends : endsWord (c :: cs) := by simpa [endsWord] using hc
        rw [List.dropWhile_cons, if_neg hc]
        exact uniformNamesFrom_eq_none (.inr hends)

/-- The scan for declarations is a scan of the lexemes. -/
theorem uniformNamesFrom_eq_declaredNames (cs : List Char) :
    uniformNamesFrom none 0 cs = Lexeme.declaredNames (lexemes cs) := by
  induction hlength : cs.length using Nat.strong_induction_on generalizing cs with
  | h n ih =>
  subst hlength
  cases cs with
  | nil => rw [lexemes_nil, Lexeme.declaredNames]; rfl
  | cons c cs =>
      by_cases hc : isWordChar c
      · have hmap := map_uniformDeclaration? (c :: cs)
        cases hfound : uniformDeclaration? (c :: cs) with
        | none =>
            -- no declaration starts here, and none starts in the rest of the word
            have hrest := ih (cs.dropWhile isWordChar).length
              (Nat.lt_succ_of_le (length_dropWhile_le cs)) _ rfl
            rw [hfound, lexemes_word_cons hc] at hmap
            rw [lexemes_word_cons hc, Lexeme.declaredNames_of_none hmap.symm, ← hrest,
              uniformNamesFrom, hfound]
            exact uniformNamesFrom_inside (by simpa using hc) cs
        | some found =>
            obtain ⟨name, rest⟩ := found
            obtain ⟨⟨taken, rfl⟩, hends⟩ := suffix_of_uniformDeclaration? hfound
            have hlt : rest.length < (c :: (taken ++ rest)).length := by
              simp only [List.length_cons, List.length_append]
              omega
            have hrest := ih rest.length hlt rest rfl
            have hlength : (taken ++ rest).length - rest.length = taken.length := by simp
            obtain ⟨before, hskip⟩ := uniformNamesFrom_skip (some c) taken rest
            rw [hfound] at hmap
            rw [Lexeme.declaredNames_of_some hmap.symm, uniformNamesFrom, hfound]
            simp only [Option.any_none, Bool.false_eq_true, if_false, hlength, hskip, id]
            rw [uniformNamesFrom_eq_none (.inr hends), hrest]
      · -- nothing starts here
        have hc' : isWordChar c = false := by simpa using hc
        have hrest := ih cs.length (Nat.lt_succ_self _) cs rfl
        have hnext : uniformNamesFrom (some c) 0 cs = uniformNamesFrom none 0 cs :=
          uniformNamesFrom_eq_none (.inl hc')
        rw [scan_lexemes_cons declaredNames_of_not_word hc', ← hrest, uniformNamesFrom,
          uniformDeclaration?_of_not_word hc', ← hnext]
        rfl

/-- The first of equal items is kept. -/
theorem mem_firstOfEach {β : Type} [BEq β] [LawfulBEq β] {items : List β} {i : β} :
    i ∈ firstOfEach items ↔ i ∈ items := by
  have hfold : ∀ seen : List β,
      i ∈ items.foldl (fun seen i => if seen.contains i then seen else seen ++ [i]) seen ↔
        i ∈ seen ∨ i ∈ items := by
    induction items with
    | nil => simp
    | cons j items ih =>
        intro seen
        rw [List.foldl_cons, ih, List.mem_cons]
        split
        · next hj =>
            have hj : j ∈ seen := List.contains_iff_mem.mp hj
            constructor
            · rintro (h | h)
              · exact .inl h
              · exact .inr (.inr h)
            · rintro (h | rfl | h)
              · exact .inl h
              · exact .inl hj
              · exact .inr h
        · rw [List.mem_append, List.mem_singleton, or_assoc]
  rw [firstOfEach, hfold, List.mem_nil_iff, false_or]

/-- Which uniforms a body declares is read off the lexemes of its live text. -/
theorem mem_declaredUniforms_iff {body : List Char} {name : String} :
    name ∈ declaredUniforms body ↔
      name.toList ∈ Lexeme.declaredNames (lexemes (stripComments body)) := by
  rw [declaredUniforms, mem_firstOfEach, uniformNamesFrom_eq_declaredNames, List.mem_map]
  constructor
  · rintro ⟨w, hw, rfl⟩
    rwa [String.toList_ofList]
  · intro h
    exact ⟨name.toList, h, String.ofList_toList⟩

/-! ## The scan for the float precision -/

namespace Lexeme

/-- Whether the end of the statement that sets the float precision stands at the start. -/
def floatAt : List Lexeme → Bool
  | word w :: ls => w = "float".toList && startsWith ';' (skipGap ls)
  | _ => false

/-- Whether the statement that sets the float precision stands at the start. -/
def precisionAt (ls : List Lexeme) : Bool :=
  ((afterWord? "precision".toList ls).bind afterPrecision?).any floatAt

/-- Whether the float precision is set, read from left to right. -/
def setsPrecision : List Lexeme → Bool
  | [] => false
  | l :: ls => precisionAt (l :: ls) || setsPrecision ls

end Lexeme

/-- The end of the statement that sets the float precision. -/
theorem isSome_strip?_float (cs : List Char) :
    ((strip? "float".toList cs).bind fun rest => strip? [';'] (skipBlanks rest)).isSome =
      Lexeme.floatAt (lexemes cs) := by
  have hword := isWordChar_of_mem_keyword "float".toList (by simp)
  have hmark : isWordChar ';' = false ∧ isBlank ';' = false := by decide
  -- a longer word, or another one, is not the type
  have hother (h : ∀ rest, cs = "float".toList ++ rest → ∃ c ∈ rest.head?, isWordChar c) :
      Lexeme.floatAt (lexemes cs) = false := by
    cases hls : lexemes cs with
    | nil => rfl
    | cons l ls =>
        cases l with
        | word w =>
            obtain ⟨rest, hsplit, -, hends⟩ := exists_of_lexemes_word hls
            have hw : w ≠ "float".toList := by
              rintro rfl
              obtain ⟨c, hc, hcword⟩ := h rest hsplit
              rw [hends c hc] at hcword
              cases hcword
            simp only [Lexeme.floatAt, hw, decide_false, Bool.false_and]
        | gap => rfl
        | mark c => rfl
  cases hstrip : strip? "float".toList cs with
  | none =>
      rw [hother]
      · rfl
      · rintro rest rfl
        rw [strip?_eq_some_iff.mpr rfl] at hstrip
        cases hstrip
  | some rest =>
      obtain rfl := strip?_eq_some_iff.mp hstrip
      rw [Option.bind_some]
      by_cases hends : ∀ c ∈ rest.head?, isWordChar c = false
      · rw [lexemes_word hword.1 hword.2 hends, isSome_strip?_mark hmark.1 hmark.2,
          lexemes_skipBlanks]
        simp [Lexeme.floatAt]
      · rw [hother]
        · cases rest with
          | nil => simp at hends
          | cons d ds =>
              have hd : isWordChar d := by simpa using hends
              have hne : ';' ≠ d := by
                rintro rfl
                rw [hmark.1] at hd
                cases hd
              simp [skipBlanks, isBlank_of_isWordChar hd, strip?, hne]
        · intro rest' hsplit
          rw [← List.append_cancel_left hsplit]
          simpa using hends

/-- The statement that sets the float precision stands at the start of a text if it stands at the
start of its lexemes. -/
theorem precisionStatementAt_eq (cs : List Char) :
    precisionStatementAt cs = Lexeme.precisionAt (lexemes cs) := by
  have hword := isWordChar_of_mem_keyword "precision".toList (by simp)
  have hread : precisionStatementAt cs = ((((strip? "precision".toList cs).bind
      skipSomeBlanks).bind fun start => (stripPrecision? start).bind skipSomeBlanks).bind
        fun type => (strip? "float".toList type).bind
          fun rest => strip? [';'] (skipBlanks rest)).isSome := by
    simp only [precisionStatementAt, Option.bind_eq_bind, Option.bind_assoc]
  rw [hread, Lexeme.precisionAt, ← map_strip?_skipSomeBlanks hword.1 hword.2]
  cases (strip? "precision".toList cs).bind skipSomeBlanks with
  | none => rfl
  | some start =>
      rw [Option.map_some, Option.bind_some, Option.bind_some, ← map_stripPrecision?]
      cases (stripPrecision? start).bind skipSomeBlanks with
      | none => rfl
      | some type => exact isSome_strip?_float type

/-- The statement does not stand where no word starts. -/
theorem precisionAt_of_not_word (l : Lexeme) (ls : List Lexeme) (h : ∀ w, l ≠ .word w) :
    Lexeme.precisionAt (l :: ls) = false := by
  cases l with
  | word w => exact absurd rfl (h w)
  | gap => rfl
  | mark c => rfl

theorem setsPrecision_of_not_word (l : Lexeme) (ls : List Lexeme) (h : ∀ w, l ≠ .word w) :
    Lexeme.setsPrecision (l :: ls) = Lexeme.setsPrecision ls := by
  rw [Lexeme.setsPrecision, precisionAt_of_not_word l ls h, Bool.false_or]

theorem precisionStatementAt_of_not_word {c : Char} (hc : isWordChar c = false) (cs : List Char) :
    precisionStatementAt (c :: cs) = false := by
  rw [precisionStatementAt_eq]
  rcases lexemes_of_not_word hc cs with h | h <;>
    · rw [h]
      exact precisionAt_of_not_word _ _ (by simp)

/-- What was read before does not matter where no word goes on. -/
theorem setsPrecisionFrom_eq_none {before : Option Char} {cs : List Char}
    (h : before.any isWordChar = false ∨ endsWord cs) :
    setsPrecisionFrom before cs = setsPrecisionFrom none cs := by
  cases cs with
  | nil => rfl
  | cons c cs =>
      rcases h with hbefore | hends
      · simp [setsPrecisionFrom, hbefore]
      · have hc : isWordChar c = false := by simpa [endsWord] using hends
        simp [setsPrecisionFrom, precisionStatementAt_of_not_word hc]

/-- Inside a word the float precision is not set. -/
theorem setsPrecisionFrom_inside {before : Option Char} (hbefore : before.any isWordChar)
    (cs : List Char) :
    setsPrecisionFrom before cs = setsPrecisionFrom none (cs.dropWhile isWordChar) := by
  induction cs generalizing before with
  | nil => rfl
  | cons c cs ih =>
      by_cases hc : isWordChar c
      · have hnext := @ih (some c) (by simpa using hc)
        simp [setsPrecisionFrom, hbefore, hnext, hc]
      · have hends : endsWord (c :: cs) := by simpa [endsWord] using hc
        rw [List.dropWhile_cons, if_neg hc]
        exact setsPrecisionFrom_eq_none (.inr hends)

/-- The scan for the float precision is a scan of the lexemes. -/
theorem setsPrecisionFrom_eq_setsPrecision (cs : List Char) :
    setsPrecisionFrom none cs = Lexeme.setsPrecision (lexemes cs) := by
  induction hlength : cs.length using Nat.strong_induction_on generalizing cs with
  | h n ih =>
  subst hlength
  cases cs with
  | nil => rw [lexemes_nil]; rfl
  | cons c cs =>
      rw [setsPrecisionFrom, precisionStatementAt_eq]
      by_cases hc : isWordChar c
      · have hrest := ih (cs.dropWhile isWordChar).length
          (Nat.lt_succ_of_le (length_dropWhile_le cs)) _ rfl
        rw [setsPrecisionFrom_inside (by simpa using hc) cs, hrest, lexemes_word_cons hc,
          Lexeme.setsPrecision]
        rfl
      · have hc' : isWordChar c = false := by simpa using hc
        have hrest := ih cs.length (Nat.lt_succ_self _) cs rfl
        have hnext : setsPrecisionFrom (some c) cs = setsPrecisionFrom none cs :=
          setsPrecisionFrom_eq_none (.inl hc')
        rw [scan_lexemes_cons setsPrecision_of_not_word hc', ← hrest, ← precisionStatementAt_eq,
          precisionStatementAt_of_not_word hc', Bool.and_false, Bool.false_or, hnext]

/-- Whether a body sets the float precision is read off the lexemes of its live text. -/
theorem setsPrecision_eq (body : List Char) :
    setsPrecision body = Lexeme.setsPrecision (lexemes (stripComments body)) := by
  rw [setsPrecision, setsPrecisionFrom_eq_setsPrecision]

/-! ## Directives -/

/-- The directive that a line is. -/
def Lexeme.directive? (ls : List Lexeme) : Option (List Char) :=
  match Lexeme.skipGap ls with
  | .mark '#' :: .word w :: _ => some w
  | _ => none

/-- Which directive a line is is read off its lexemes. -/
theorem isDirective_iff {word : String} (hne : word.toList ≠ [])
    (hword : word.toList.all isWordChar) {line : List Char} :
    isDirective word line ↔ Lexeme.directive? (lexemes line) = some word.toList := by
  have hhash : isWordChar '#' = false ∧ isBlank '#' = false := by decide
  rw [Lexeme.directive?, ← lexemes_skipBlanks, isDirective]
  generalize skipBlanks line = text
  constructor
  · intro h
    cases hstrip : strip? ('#' :: word.toList) text with
    | none =>
        rw [hstrip] at h
        cases h
    | some rest =>
        rw [hstrip] at h
        have hends : ∀ c ∈ rest.head?, isWordChar c = false := endsWord_iff.mp h
        rw [strip?_eq_some_iff.mp hstrip, List.cons_append, lexemes_mark_cons hhash.1 hhash.2,
          lexemes_word hne (List.all_eq_true.mp hword) hends]
        rfl
  · intro h
    split at h
    · next w ls hls =>
        obtain rfl : w = word.toList := Option.some.inj h
        obtain ⟨rest, rfl, hls'⟩ := exists_of_lexemes_mark hls
        obtain ⟨rest', rfl, -, hends⟩ := exists_of_lexemes_word hls'.symm
        rw [strip?_eq_some_iff.mpr (rfl : '#' :: (word.toList ++ rest') = _)]
        exact endsWord_iff.mpr hends
    · cases h

end LiveVisuals.Shader
