import LiveVisuals.Proofs.Shader.Declarator
import LiveVisuals.Proofs.Shader.Hoisted
import LiveVisuals.Proofs.Shader.Respelt

/-!
# Texts are fixed points

When the text of a source is taken for a source itself, and the source has no directives, nothing
changes. The injected lines stand alone: neither a comment nor a word nor a gap goes on from one of
them into what stands below. So the scans find in the text what they find in the injected lines and
what they find in the body, which is respelt only: all standard and audio uniforms, and a statement
that sets the float precision.

Main definitions:

- {lit}`Shader.StandsAlone`: a line whose lexemes come ahead of those of the text below it.
- {lit}`Shader.above`: lines ahead of a text.

Main results:

- Theorem {lit}`Transpiled.declaredNames_above`: what a text declares below injected lines.
- Theorem {lit}`Transpiled.scans_text`: what is found in a text.
- Theorem {lit}`compileText_compileText`: nothing is added to a text.
-/

namespace LiveVisuals

namespace Shader

open Text

/-! ## Lines that stand alone -/

/-- What the first pass leaves of a text behind one that starts no block comment. -/
theorem stripBlockComments_append {l : List Char} (h : ¬ ['/', '*'] <:+: l) {cs : List Char}
    (hcs : ∀ c ∈ cs.head?, c ≠ '*') :
    stripBlockComments (l ++ cs) = l ++ stripBlockComments cs := by
  induction l with
  | nil => rfl
  | cons c l ih =>
      rw [List.infix_cons_iff, not_or] at h
      have hstart : ∀ inside, c = '/' → l ++ cs ≠ '*' :: inside := by
        rintro inside rfl hinside
        cases l with
        | nil =>
            rw [List.nil_append] at hinside
            exact hcs '*' (by rw [hinside]; rfl) rfl
        | cons d l =>
            obtain ⟨rfl, -⟩ := List.cons.inj hinside
            exact h.1 ⟨l, rfl⟩
      rw [List.cons_append, stripBlockComments_cons hstart, ih h.2, List.cons_append]

/-- What the second pass leaves of a text below a line. -/
theorem stripLineCommentsFrom_below {l : List Char} (hl : IsUnbroken l) (inside : Bool)
    (cs : List Char) :
    stripLineCommentsFrom inside (l ++ '\n' :: cs) =
      stripLineCommentsFrom inside l ++ '\n' :: stripLineCommentsFrom false cs := by
  have hfeed : endsLine '\n' := by decide
  fun_induction stripLineCommentsFrom inside l with
  | case1 inside =>
      cases inside with
      | true => simp [stripLineCommentsFrom, hfeed]
      | false => simp [stripLineCommentsFrom]
  | case2 c l hc ih =>
      have hc' := hl c List.mem_cons_self
      simp [endsLine, hc'] at hc
  | case3 c l hc ih =>
      have hl' := (isUnbroken_cons.mp hl).2
      simpa [stripLineCommentsFrom, hc] using ih hl'
  | case4 l ih =>
      have hl' := (isUnbroken_cons.mp (isUnbroken_cons.mp hl).2).2
      simpa [stripLineCommentsFrom] using ih hl'
  | case5 c l hmark ih =>
      have hl' := (isUnbroken_cons.mp hl).2
      have hmark' : ∀ es, c = '/' → l ++ '\n' :: cs = '/' :: es → False := by
        intro es hc hes
        cases l with
        | nil => simp at hes
        | cons d l =>
            obtain ⟨rfl, -⟩ := List.cons.inj hes
            exact hmark l hc rfl
      rw [List.cons_append, stripLineCommentsFrom.eq_4 c _ hmark', ih hl', List.cons_append]

/-- The lexemes of a line come ahead of those of the text below it. -/
def StandsAlone (l : List Char) : Prop :=
  ∀ cs, lexemes (stripComments (l ++ '\n' :: cs)) =
    lexemes (stripComments l) ++ lexemes ('\n' :: stripComments cs)

/-- A line stands alone if it starts no block comment and ends with no blank. -/
theorem standsAlone {l : List Char} (hl : IsUnbroken l) (hstart : ¬ ['/', '*'] <:+: l)
    (hlast : (stripComments l).getLast?.any isBlank = false) : StandsAlone l := by
  intro cs
  have hfeed : isWordChar '\n' = false := by decide
  have hself : stripBlockComments l = l := by
    have := stripBlockComments_append hstart (by simp : ∀ c ∈ ([] : List Char).head?, c ≠ '*')
    simpa [stripBlockComments] using this
  have hbelow : stripBlockComments (l ++ '\n' :: cs) = l ++ '\n' :: stripBlockComments cs := by
    rw [stripBlockComments_append hstart (by simp), stripBlockComments_cons (by simp)]
  have hsplit : stripComments (l ++ '\n' :: cs) = stripComments l ++ '\n' :: stripComments cs := by
    rw [stripComments, hbelow, stripComments, hself, stripComments, stripLineComments,
      stripLineCommentsFrom_below hl, stripLineComments, stripLineComments]
  rw [hsplit]
  apply lexemes_append
  · rintro c - - d ⟨⟩
    exact hfeed
  · intro c hc hblank
    rw [Option.mem_def.mp hc, Option.any_some, hblank] at hlast
    cases hlast

/-- Lines ahead of a text. -/
def above (ls : List (List Char)) (cs : List Char) : List Char :=
  ls.foldr (fun l cs => l ++ '\n' :: cs) cs

/-- Lines are joined one above the other. -/
theorem intercalate_append {ls ms : List (List Char)} (hms : ms ≠ []) :
    List.intercalate ['\n'] (ls ++ ms) = above ls (List.intercalate ['\n'] ms) := by
  induction ls with
  | nil => rfl
  | cons l ls ih =>
      have hne : ls ++ ms ≠ [] := List.append_ne_nil_of_right_ne_nil ls hms
      obtain ⟨m, rest, hrest⟩ := List.exists_cons_of_ne_nil hne
      rw [List.cons_append, hrest, List.intercalate_cons_cons, ← hrest, ih]
      simp [above]

/-! ## Scans of texts below lines -/

namespace Lexeme

/-- Without its word nothing is declared. -/
theorem declaredNames_append {ls : List Lexeme} (h : word "uniform".toList ∉ ls)
    (ms : List Lexeme) : declaredNames (ls ++ ms) = declaredNames ms := by
  induction ls with
  | nil => rfl
  | cons l ls ih =>
      rw [List.mem_cons, not_or] at h
      rw [List.cons_append, declaredNames_cons (Ne.symm h.1), ih h.2]

/-- The float precision stays set behind anything. -/
theorem setsPrecision_append (ls : List Lexeme) {ms : List Lexeme} (h : setsPrecision ms) :
    setsPrecision (ls ++ ms) := by
  induction ls with
  | nil => exact h
  | cons l ls ih => rw [List.cons_append, setsPrecision, ih, Bool.or_true]

end Lexeme

/-- A line without the word of declarations that stands alone declares nothing. -/
theorem declaredNames_below {l : List Char} (hl : StandsAlone l)
    (hword : .word "uniform".toList ∉ lexemes (stripComments l)) (cs : List Char) :
    Lexeme.declaredNames (lexemes (stripComments (l ++ '\n' :: cs))) =
      Lexeme.declaredNames (lexemes (stripComments cs)) := by
  rw [hl cs, Lexeme.declaredNames_append hword,
    scan_lexemes_cons declaredNames_of_not_word (by decide)]

/-- Without the word of declarations a text declares nothing. -/
theorem declaredUniforms_eq_nil {cs : List Char}
    (hword : .word "uniform".toList ∉ lexemes (stripComments cs)) : declaredUniforms cs = [] := by
  refine List.eq_nil_iff_forall_not_mem.mpr fun name hname => ?_
  have hnone := Lexeme.declaredNames_append hword []
  rw [List.append_nil, Lexeme.declaredNames] at hnone
  rw [mem_declaredUniforms_iff, hnone] at hname
  cases hname

/-- Below a line that stands alone the float precision stays set. -/
theorem setsPrecision_below {l cs : List Char} (hl : StandsAlone l) (h : setsPrecision cs) :
    setsPrecision (l ++ '\n' :: cs) := by
  rw [setsPrecision_eq] at h
  rw [setsPrecision_eq, hl cs]
  apply Lexeme.setsPrecision_append
  rwa [scan_lexemes_cons setsPrecision_of_not_word (by decide)]

end Shader

namespace Transpiled

open Shader

variable {α : Type}

/-! ## Injected lines above a text -/

/-- The declaration of a uniform, lexeme by lexeme. -/
theorem lexemes_uniformLine {s : UniformSlot α} (h : Text.isIdentifier s.name.toList) :
    lexemes (uniformLine s).toList =
      [.word "uniform".toList, .gap, .word s.glslType.name.toList, .gap, .word s.name.toList,
        .mark ';'] := by
  have hkeyword := isWordChar_of_mem_keyword "uniform".toList (by simp)
  have htype : Text.isIdentifier s.glslType.name.toList := by
    cases s.glslType <;> decide
  have hgap : IsGap [' '] := by decide
  have hmark : ∀ c ∈ [';'].head?, Text.isWordChar c = false := by
    rintro c ⟨⟩
    decide
  have hsplit : (uniformLine s).toList = "uniform".toList ++ ([' '] ++
      (s.glslType.name.toList ++ ([' '] ++ (s.name.toList ++ [';'])))) := by
    rw [toList_uniformLine]
    simp
  rw [hsplit, lexemes_word_gap hkeyword.1 hkeyword.2 hgap (head_of_isIdentifier htype _),
    lexemes_word_gap (ne_nil_of_isIdentifier htype) (Text.isWordChar_of_isIdentifier htype) hgap
      (head_of_isIdentifier h _),
    lexemes_word (ne_nil_of_isIdentifier h) (Text.isWordChar_of_isIdentifier h) hmark,
    lexemes_mark_cons (by decide) (by decide), lexemes_nil]

/-- The lines that are the same for many shaders stand alone. No declaration starts in them, and
they are no directives that would be hoisted. -/
theorem standsAlone_of_mem_fixedLines :
    ∀ cs ∈ fixedLines.map String.toList, StandsAlone cs ∧
      .word "uniform".toList ∉ lexemes (stripComments cs) ∧
      isDirective "version" cs = false ∧ isDirective "extension" cs = false := by
  have hfixed : ∀ cs ∈ fixedLines.map String.toList,
      (cs.all (fun c => c ≠ '\r' && c ≠ '\n') ∧ ¬ ['/', '*'] <:+: cs ∧
        (stripComments cs).getLast?.any Text.isBlank = false) ∧
      .word "uniform".toList ∉ lexemes (stripComments cs) ∧
      isDirective "version" cs = false ∧ isDirective "extension" cs = false := by
    simp only [fixedLines, precisionStatement, isfMacros, List.cons_append, List.nil_append,
      List.map_cons, List.map_nil]
    repeat rw [String.toList_ofList]
    decide +kernel
  intro cs hcs
  obtain ⟨⟨hunbroken, hstart, hlast⟩, hrest⟩ := hfixed cs hcs
  have hunbroken : Text.IsUnbroken cs := by simpa [Text.IsUnbroken] using hunbroken
  exact ⟨standsAlone hunbroken hstart hlast, hrest⟩

/-- The declaration of a uniform stands alone. -/
theorem standsAlone_uniformLine {s : UniformSlot α} (h : Text.isIdentifier s.name.toList) :
    StandsAlone (uniformLine s).toList := by
  obtain ⟨hslash, -⟩ := mark_notMem_uniformLine h
  apply standsAlone (isUnbroken_uniformLine h)
  · exact fun hstart => hslash (hstart.subset List.mem_cons_self)
  · have hlast : (uniformLine s).toList.getLast? = some ';' := by
      rw [toList_uniformLine]
      simp [List.getLast?_append, List.getLast?_cons]
    rw [stripComments_eq_self hslash, hlast]
    decide

/-- An injected line declares what it declares on its own, whatever stands below it. -/
theorem declaredNames_prologue {source : ShaderSource α} {uniforms : UniformSet α}
    (h : ∀ s ∈ uniforms.slots, Text.isIdentifier s.name.toList) :
    ∀ l ∈ prologue source uniforms, StandsAlone l.toList ∧
      ∀ cs, Lexeme.declaredNames (lexemes (stripComments (l.toList ++ '\n' :: cs))) =
        (declaredUniforms l.toList).map String.toList ++
          Lexeme.declaredNames (lexemes (stripComments cs)) := by
  refine forall_mem_prologue (P := fun l => StandsAlone l ∧
    ∀ cs, Lexeme.declaredNames (lexemes (stripComments (l ++ '\n' :: cs))) =
      (declaredUniforms l).map String.toList ++
        Lexeme.declaredNames (lexemes (stripComments cs))) ?_ ?_
  · intro l hl
    obtain ⟨halone, hword, -⟩ := standsAlone_of_mem_fixedLines l hl
    refine ⟨halone, fun cs => ?_⟩
    rw [declaredNames_below halone hword, declaredUniforms_eq_nil hword]
    rfl
  · intro s hs
    have hname := h s hs
    have htype : Text.isIdentifier s.glslType.name.toList := by
      cases s.glslType <;> decide
    have hprecision : s.glslType.name.toList ∉ precisionWords := by
      cases s.glslType <;> decide
    refine ⟨standsAlone_uniformLine hname, fun cs => ?_⟩
    have hdeclared := Lexeme.declaration?_plain htype hprecision hname
      (.mark ';' :: lexemes ('\n' :: stripComments cs))
    rw [standsAlone_uniformLine hname cs, stripComments_eq_self (mark_notMem_uniformLine hname).1,
      lexemes_uniformLine hname, declaredUniforms_uniformLine hname]
    refine (Lexeme.declaredNames_of_some hdeclared).trans ?_
    rw [Lexeme.declaredNames_cons (by simp),
      scan_lexemes_cons declaredNames_of_not_word (by decide)]
    rfl

/-- Below the injected lines a text declares what it declared, besides what they declare. -/
theorem declaredNames_above {lines : List String}
    (h : ∀ l ∈ lines, ∀ cs,
      Lexeme.declaredNames (lexemes (stripComments (l.toList ++ '\n' :: cs))) =
        (declaredUniforms l.toList).map String.toList ++
          Lexeme.declaredNames (lexemes (stripComments cs))) (cs : List Char) :
    Lexeme.declaredNames (lexemes (stripComments (above (lines.map (·.toList)) cs))) =
      (declaredIn lines).map String.toList ++
        Lexeme.declaredNames (lexemes (stripComments cs)) := by
  induction lines with
  | nil => rfl
  | cons l lines ih =>
      have ih := ih fun l' hl' => h l' (List.mem_cons_of_mem l hl')
      have hfirst := h l List.mem_cons_self (above (lines.map (·.toList)) cs)
      rw [ih] at hfirst
      rw [declaredIn, List.flatMap_cons, List.map_append, List.append_assoc]
      exact hfirst

/-- Below lines that stand alone the float precision stays set. -/
theorem setsPrecision_above {lines : List String} (h : ∀ l ∈ lines, StandsAlone l.toList)
    {cs : List Char} (hcs : setsPrecision cs) :
    setsPrecision (above (lines.map (·.toList)) cs) := by
  induction lines with
  | nil => exact hcs
  | cons l lines ih =>
      exact setsPrecision_below (h l List.mem_cons_self)
        (ih fun l' hl' => h l' (List.mem_cons_of_mem l hl'))

/-- The statement that sets the float precision does so whatever stands below it. -/
theorem setsPrecision_precisionStatement (cs : List Char) :
    setsPrecision (precisionStatement.toList ++ '\n' :: cs) := by
  have halone := (standsAlone_of_mem_fixedLines precisionStatement.toList List.mem_cons_self).1
  have hlexemes : lexemes (stripComments precisionStatement.toList) =
      [.word "precision".toList, .gap, .word "highp".toList, .gap, .word "float".toList,
        .mark ';'] := by
    decide +kernel
  rw [setsPrecision_eq, halone cs, hlexemes]
  rfl

/-! ## The body in the text -/

/-- The lines of a body, written as they are, are the body with other line breaks. -/
theorem respelt_lines (cs : List Char) :
    Respelt cs (List.intercalate ['\n'] (Text.lines cs)) := by
  have hbreak {cs : List Char} : List.intercalate ['\n'] ([] :: Text.lines cs) =
      '\n' :: List.intercalate ['\n'] (Text.lines cs) := by
    obtain ⟨l, ls, hls⟩ := List.exists_cons_of_ne_nil (Text.lines_ne_nil cs)
    rw [hls, List.intercalate_cons_cons]
    rfl
  fun_induction Text.lines cs with
  | case1 => exact .nil
  | case2 cs ih => exact hbreak ▸ .crlf ih
  | case3 cs _ ih => exact hbreak ▸ .cr ih
  | case4 cs ih => exact hbreak ▸ .keep '\n' ih
  | case5 c cs _ _ _ hlines => exact absurd hlines (Text.lines_ne_nil cs)
  | case6 c cs _ _ _ l ls hlines ih =>
      rw [hlines] at ih
      cases ls with
      | nil => simpa using ih.keep c
      | cons l' ls =>
          rw [List.intercalate_cons_cons] at ih ⊢
          exact ih.keep c

/-- Renaming the fragment coordinate respells a line. -/
theorem respelt_renamed (dialect : Dialect) (l : List Char) : Respelt l (renamed dialect l) := by
  cases dialect with
  | glsl => exact .refl l
  | isf =>
      have hword (w : List Char) :
          Respelt w (if w = "gl_FragCoord".toList then "vj_FragCoord".toList else w) := by
        split
        · next hw =>
            rw [hw]
            exact .rename (.refl "FragCoord".toList)
        · exact .refl w
      have hwords (ws : List (List Char)) : Respelt ws.flatten
          ((ws.map fun w => if w = "gl_FragCoord".toList then "vj_FragCoord".toList
            else w).flatten) := by
        induction ws with
        | nil => exact .nil
        | cons w ws ih => exact (hword w).append ih
      have htokens := hwords (Text.tokens l)
      rwa [Text.flatten_tokens] at htokens

/-- Respelling each line respells the text. -/
theorem respelt_intercalate {f : List Char → List Char} (hf : ∀ l, Respelt l (f l))
    (ls : List (List Char)) :
    Respelt (List.intercalate ['\n'] ls) (List.intercalate ['\n'] (ls.map f)) := by
  induction ls with
  | nil => exact .nil
  | cons l ls ih =>
      cases ls with
      | nil => simpa using hf l
      | cons l' ls =>
          rw [List.map_cons, List.map_cons, List.intercalate_cons_cons,
            List.intercalate_cons_cons, List.append_assoc, List.append_assoc]
          exact (hf l).append (ih.keep '\n')

/-- The body of a text without directives declares what the body of its source declared, names with
an underscore apart, and sets the float precision if that did. -/
theorem scans_joined (dialect : Dialect) (body : List Char) :
    let joined := List.intercalate ['\n'] ((Text.lines body).map (renamed dialect))
    (∀ name : String, '_' ∉ name.toList →
      (name ∈ declaredUniforms body ↔ name ∈ declaredUniforms joined)) ∧
    setsPrecision body = setsPrecision joined := by
  have hlines := respelt_lines body
  have hrenamed := respelt_intercalate (respelt_renamed dialect) (Text.lines body)
  refine ⟨fun name hname => ?_, hlines.setsPrecision_eq.trans hrenamed.setsPrecision_eq⟩
  exact (hlines.mem_declaredUniforms hname).trans (hrenamed.mem_declaredUniforms hname)

/-! ## The second pass -/

/-- Without directives nothing is hoisted. -/
theorem hoistedPlaces_eq_nil {body : List (List Char)}
    (h : ∀ l ∈ body, isDirective "version" l = false ∧ isDirective "extension" l = false) :
    hoistedPlaces body = [] := by
  have hplace {i : Nat} (hi : i < body.length) : body.getD i [] ∈ body :=
    List.mem_of_getElem? (getElem?_eq_getD hi)
  refine List.eq_nil_iff_forall_not_mem.mpr fun i hi => ?_
  rcases mem_hoistedPlaces.mp hi with hversion | ⟨hlt, hextension⟩
  · have hlt := List.mem_range.mp (List.mem_of_find?_eq_some hversion)
    have hdirective : directiveAt "version" body i := List.find?_some hversion
    rw [directiveAt, (h _ (hplace hlt)).1] at hdirective
    cases hdirective
  · rw [directiveAt, (h _ (hplace hlt)).2] at hextension
    cases hextension

/-- Without directives all lines stay. -/
theorem leftLines_eq_map (dialect : Dialect) {body : List (List Char)}
    (h : hoistedPlaces body = []) : leftLines dialect body = body.map (renamed dialect) := by
  refine List.ext_getElem? fun i => ?_
  rw [List.getElem?_map]
  by_cases hi : i < body.length
  · rw [getElem?_leftLines dialect hi, h, if_neg List.not_mem_nil, getElem?_eq_getD hi]
    rfl
  · rw [List.getElem?_eq_none (by simpa using hi), List.getElem?_eq_none (by simpa using hi)]
    rfl

/-- No injected line is a directive that would be hoisted. -/
theorem not_isDirective_of_mem_prologue {source : ShaderSource α} {uniforms : UniformSet α}
    (h : ∀ s ∈ uniforms.slots, Text.isIdentifier s.name.toList) :
    ∀ l ∈ prologue source uniforms,
      isDirective "version" l.toList = false ∧ isDirective "extension" l.toList = false := by
  refine forall_mem_prologue (P := fun l => isDirective "version" l = false ∧
    isDirective "extension" l = false) (fun l hl => (standsAlone_of_mem_fixedLines l hl).2.2) ?_
  intro s hs
  have hnone : Lexeme.directive? (lexemes (uniformLine s).toList) = none := by
    rw [lexemes_uniformLine (h s hs)]
    rfl
  have hother {word : String} (hne : word.toList ≠ []) (hword : word.toList.all Text.isWordChar) :
      isDirective word (uniformLine s).toList = false := by
    rw [← Bool.not_eq_true, isDirective_iff hne hword, hnone]
    simp
  exact ⟨hother (by decide) (by decide), hother (by decide) (by decide)⟩

/-- A line that is no directive is none when the fragment coordinate is renamed. -/
theorem isDirective_renamed (dialect : Dialect) {word : String} (hne : word.toList ≠ [])
    (hword : word.toList.all Text.isWordChar) (hplain : '_' ∉ word.toList) (l : List Char) :
    isDirective word (renamed dialect l) = isDirective word l := by
  rw [Bool.eq_iff_iff, ← (respelt_renamed dialect l).isDirective_iff hne hword hplain]

/-- Nothing is injected into a text that declares all uniforms and sets the float precision. -/
theorem prologue_eq_nil {raw : String} {uniforms : UniformSet α}
    (hprecision : setsPrecision raw.toList)
    (h : ∀ s ∈ uniforms.slots, s.name ∈ declaredUniforms raw.toList) :
    prologue (.glsl raw) uniforms = [] := by
  have hmissing : (uniforms.slots.filter fun s =>
      !(declaredUniforms raw.toList).contains s.name) = [] := by
    refine List.filter_eq_nil_iff.mpr fun s hs => ?_
    simpa using h s hs
  have hprologue : prologue (.glsl raw) uniforms =
      (if setsPrecision raw.toList then [] else [precisionStatement]) ++
        uniformLines none (uniforms.slots.filter fun s =>
          !(declaredUniforms raw.toList).contains s.name) ++ [] := rfl
  rw [hprologue, hmissing, if_pos hprecision]
  rfl

/-- The names of standard and audio uniforms have no underscore. -/
theorem underscore_notMem_of_mem_builtin :
    ∀ s ∈ (UniformSet.standardSlots ++ UniformSet.audioSlots : List (UniformSlot α)),
      '_' ∉ s.name.toList := by
  have hstandard : ∀ b ∈ standardUniforms, '_' ∉ b.name.toList := by decide
  have haudio : ∀ a ∈ audioUniforms, '_' ∉ a.name.toList := by decide
  intro s hs
  rcases List.mem_append.mp hs with hs | hs
  · obtain ⟨b, hb, rfl⟩ := List.mem_map.mp hs
    exact hstandard b hb
  · obtain ⟨a, ha, rfl⟩ := List.mem_map.mp hs
    exact haudio a ha

variable [Scalar α]

/-- A text is its lines, joined. -/
theorem toList_text (dialect : Dialect) (raw : String) :
    let t : Transpiled α := ofSource dialect raw
    t.text.toList = List.intercalate ['\n'] (Text.lines t.text.toList) := by
  obtain ⟨source, hread⟩ : ∃ s : ShaderSource α, (ShaderSource.read dialect raw).1 = s := ⟨_, rfl⟩
  obtain ⟨-, -, hwritten⟩ := ofSource_of_read hread
  have hlines := lines_outputLines (ShaderSource.isIdentifier_of_mem_inputs hread)
  intro t
  rw [text, hwritten, hlines, Text.joinLines, String.toList_intercalate, List.map_map]
  rfl

/-- The lines of the text of a source without directives: injected lines above those of the body. -/
theorem lines_text_of_plain {dialect : Dialect} {raw : String} {source : ShaderSource α}
    (hread : (ShaderSource.read dialect raw).1 = source)
    (hplaces : hoistedPlaces (Text.lines source.body.toList) = []) :
    Text.lines (ofSource (α := α) dialect raw).text.toList =
      (prologue source (UniformSet.compile source.inputs)).map (·.toList) ++
        (Text.lines source.body.toList).map (renamed source.dialect) := by
  have hleft := leftLines_eq_map source.dialect hplaces
  rw [leftLines, hplaces] at hleft
  rw [lines_text hread, hplaces, List.map_nil, List.nil_append, hleft]

/-- The text of a source without directives: injected lines above the body. -/
theorem toList_text_of_plain {dialect : Dialect} {raw : String} {source : ShaderSource α}
    (hread : (ShaderSource.read dialect raw).1 = source)
    (hplaces : hoistedPlaces (Text.lines source.body.toList) = []) :
    (ofSource (α := α) dialect raw).text.toList =
      above ((prologue source (UniformSet.compile source.inputs)).map (·.toList))
        (List.intercalate ['\n']
          ((Text.lines source.body.toList).map (renamed source.dialect))) := by
  have hne : (Text.lines source.body.toList).map (renamed source.dialect) ≠ [] := by
    simpa using Text.lines_ne_nil source.body.toList
  rw [← intercalate_append hne, ← lines_text_of_plain hread hplaces]
  exact toList_text dialect raw

/-- A text whose source has no directives declares all standard and audio uniforms and sets the
float precision. -/
theorem scans_text {dialect : Dialect} {raw : String} {source : ShaderSource α}
    (hread : (ShaderSource.read dialect raw).1 = source)
    (hplaces : hoistedPlaces (Text.lines source.body.toList) = []) :
    (∀ s ∈ UniformSet.standardSlots ++ UniformSet.audioSlots (α := α),
      s.name ∈ declaredUniforms (ofSource (α := α) dialect raw).text.toList) ∧
    setsPrecision (ofSource (α := α) dialect raw).text.toList := by
  have hnames :=
    UniformSet.isIdentifier_of_mem_compile (ShaderSource.isIdentifier_of_mem_inputs hread)
  have halone : ∀ l ∈ prologue source (UniformSet.compile source.inputs), _ :=
    declaredNames_prologue hnames
  obtain ⟨hbody, hbodyPrecision⟩ := scans_joined source.dialect source.body.toList
  rw [toList_text_of_plain hread hplaces]
  constructor
  · intro s hs
    rw [mem_declaredUniforms_iff, declaredNames_above fun l hl => (halone l hl).2, List.mem_append]
    by_cases hdeclared : s.name ∈ declaredUniforms source.body.toList
    · right
      rw [← mem_declaredUniforms_iff]
      exact (hbody s.name (underscore_notMem_of_mem_builtin s hs)).mp hdeclared
    · left
      apply List.mem_map_of_mem
      rw [declaredIn_prologue hnames, List.mem_filter]
      refine ⟨UniformSet.mem_names_compile ?_, by simpa using hdeclared⟩
      rw [UniformSet.offered, List.mem_append, List.mem_append]
      exact (List.mem_append.mp hs).imp_left .inl
  · by_cases hprecision : setsPrecision source.body.toList
    · exact setsPrecision_above (fun l hl => (halone l hl).1) (hbodyPrecision ▸ hprecision)
    · obtain ⟨rest, hrest⟩ :=
        prologue_eq_cons (UniformSet.compile source.inputs) (Bool.not_eq_true _ ▸ hprecision)
      rw [hrest]
      exact setsPrecision_precisionStatement _

/-- Plain text without directives that declares all standard and audio uniforms and sets the float
precision keeps its lines, and nothing is injected. -/
theorem lines_of_complete {raw : String}
    (hplain : ∀ l ∈ Text.lines raw.toList,
      isDirective "version" l = false ∧ isDirective "extension" l = false)
    (hdeclared : ∀ s ∈ UniformSet.standardSlots ++ UniformSet.audioSlots (α := α),
      s.name ∈ declaredUniforms raw.toList)
    (hprecision : setsPrecision raw.toList) :
    (ofSource (α := α) .glsl raw).injected = [] ∧
      Text.lines (ofSource (α := α) .glsl raw).text.toList = Text.lines raw.toList := by
  have hread : (ShaderSource.read (α := α) .glsl raw).1 = .glsl raw := rfl
  have hnone : (ofSource (α := α) .glsl raw).injected = [] := by
    rw [injected_ofSource hread]
    refine prologue_eq_nil hprecision (UniformSet.forall_mem_compile ?_ ?_ ?_)
    · exact fun b hb => hdeclared _ (List.mem_append_left _ (List.mem_map_of_mem hb))
    · exact fun d hd => absurd hd List.not_mem_nil
    · exact fun a ha => hdeclared _ (List.mem_append_right _ (List.mem_map.mpr ⟨a, ha, rfl⟩))
  refine ⟨hnone, ?_⟩
  rw [lines_text_of_plain hread (hoistedPlaces_eq_nil hplain), ← injected_ofSource hread, hnone]
  exact List.map_id _

/-- No line of a text is a directive if no line of the body of its source is. -/
theorem not_isDirective_of_mem_text {dialect : Dialect} {raw : String} {source : ShaderSource α}
    (hread : (ShaderSource.read dialect raw).1 = source)
    (h : ∀ l ∈ Text.lines source.body.toList,
      isDirective "version" l = false ∧ isDirective "extension" l = false) :
    ∀ l ∈ Text.lines (ofSource (α := α) dialect raw).text.toList,
      isDirective "version" l = false ∧ isDirective "extension" l = false := by
  have hnames :=
    UniformSet.isIdentifier_of_mem_compile (ShaderSource.isIdentifier_of_mem_inputs hread)
  intro l hl
  rw [lines_text_of_plain hread (hoistedPlaces_eq_nil h), List.mem_append] at hl
  rcases hl with hl | hl
  · obtain ⟨l, hinjected, rfl⟩ := List.mem_map.mp hl
    exact not_isDirective_of_mem_prologue hnames l hinjected
  · obtain ⟨l, hbody, rfl⟩ := List.mem_map.mp hl
    rw [isDirective_renamed source.dialect (by decide) (by decide) (by decide),
      isDirective_renamed source.dialect (by decide) (by decide) (by decide)]
    exact h l hbody

/-- A text whose source has no directives is not changed when it is taken for a source itself, and
nothing is injected into it. -/
theorem text_ofSource_text {dialect : Dialect} {raw : String} {source : ShaderSource α}
    (hread : (ShaderSource.read dialect raw).1 = source)
    (h : ∀ l ∈ Text.lines source.body.toList,
      isDirective "version" l = false ∧ isDirective "extension" l = false) :
    (ofSource (α := α) .glsl (ofSource (α := α) dialect raw).text).text =
        (ofSource (α := α) dialect raw).text ∧
      (ofSource (α := α) .glsl (ofSource (α := α) dialect raw).text).injected = [] := by
  have hplain := not_isDirective_of_mem_text hread h
  obtain ⟨hdeclared, hprecision⟩ := scans_text hread (hoistedPlaces_eq_nil h)
  have htext : (ofSource (α := α) dialect raw).text.toList = _ := toList_text dialect raw
  generalize (ofSource (α := α) dialect raw).text = text at *
  obtain ⟨hnone, hlines⟩ := lines_of_complete hplain hdeclared hprecision
  have hagain : (ofSource (α := α) .glsl text).text.toList = _ := toList_text .glsl text
  refine ⟨?_, hnone⟩
  apply String.toList_injective
  rw [hagain, hlines, ← htext]

end Transpiled

open Shader in
/-- The text of a source without directives is its own text when it is read as plain text. It
declares all standard and audio uniforms and sets the float precision, so nothing is added to
it. -/
theorem compileText_compileText (dialect : Dialect) (raw : String)
    (h : ∀ l ∈ Text.lines (ShaderSource.read (α := Float) dialect raw).1.body.toList,
      isDirective "version" l = false ∧ isDirective "extension" l = false) :
    let text := compileText dialect raw
    compileText .glsl text = text ∧
    (Transpiled.ofSource (α := Float) .glsl text).injected = [] ∧
    setsPrecision text.toList ∧
    ∀ s ∈ UniformSet.standardSlots ++ UniformSet.audioSlots (α := Float),
      s.name ∈ declaredUniforms text.toList := by
  obtain ⟨htext, hinjected⟩ := Transpiled.text_ofSource_text (α := Float) rfl h
  obtain ⟨hdeclared, hprecision⟩ :=
    Transpiled.scans_text (α := Float) rfl (Transpiled.hoistedPlaces_eq_nil h)
  exact ⟨htext, hinjected, hprecision, hdeclared⟩

/-- A source with a header, two kinds of line breaks, and the fragment coordinate. -/
def brokenSource : String :=
  "/*\x7b\x7d*/\r\nuniform/* s */float time;\rvec2 at = gl_FragCoord.xy; // gl_FragCoord"

theorem compileText_compileText_of_brokenSource :
    compileText .glsl (compileText .isf brokenSource) = compileText .isf brokenSource := by
  have hplain : ∀ l ∈ Text.lines (ShaderSource.read (α := Float) .isf brokenSource).1.body.toList,
      Shader.isDirective "version" l = false ∧ Shader.isDirective "extension" l = false := by
    decide +kernel
  exact (compileText_compileText .isf brokenSource hplain).1

end LiveVisuals
