import LiveVisuals.Proofs.Shader.LineMap

/-!
# Each uniform is declared once

The uniforms of a shader are offered by three sources, of which the first that offers a name
decides. The injected lines declare those that the body does not declare itself, each on a line
of its own and in the order of the set, and nothing else. What a line declares is what the scan
for declarations finds in it.

Main definitions:

- {lit}`UniformSet.offered`: the slots that the sources offer, in order.
- {lit}`Transpiled.injected`: the lines of a text that no source line stands for.
- {lit}`Shader.declaredIn`: the uniforms that lines declare.

Main results:

- Theorem {lit}`UniformSet.slot?_compile`: the first source that offers a name decides.
- Theorem {lit}`Shader.declaredUniforms_declaration`: what the declaration of a uniform declares.
- Theorem {lit}`Transpiled.declaredIn_prologue`: what the injected lines declare.
- Theorem {lit}`Transpiled.each_declared_once`: each uniform is declared once.
-/

namespace LiveVisuals

variable {α : Type}

/-! ## Sets of uniforms -/

namespace UniformSet

/-- The slots that the sources of a shader with these inputs offer: standard uniforms, inputs and
audio uniforms. -/
def offered (inputs : List (InputDeclaration α)) : List (UniformSlot α) :=
  standardSlots ++ inputs.map inputSlot ++ audioSlots

/-- A set has a slot for each of its names. -/
theorem slot?_isSome_iff {u : UniformSet α} {name : String} :
    (u.slot? name).isSome ↔ name ∈ u.names := by
  simp [slot?, names]

/-- A slot is found by its name. -/
theorem slot?_of_mem {u : UniformSet α} {s : UniformSlot α} (hs : s ∈ u.slots) :
    u.slot? s.name = some s := by
  obtain ⟨found, hfound⟩ := Option.isSome_iff_exists.mp
    (slot?_isSome_iff.mpr (List.mem_map_of_mem hs))
  have hname : found.name = s.name := by simpa using List.find?_some hfound
  rw [hfound, List.inj_on_of_nodup_map u.distinct (List.mem_of_find?_eq_some hfound) hs hname]

/-- A slot that is added is found unless its name was taken. -/
theorem slot?_add (u : UniformSet α) (s : UniformSlot α) (name : String) :
    (u.add s).slot? name = (u.slots ++ [s]).find? (·.name == name) := by
  by_cases htaken : s.name ∈ u.names
  · rw [add_of_mem u s htaken, slot?, List.find?_append]
    by_cases hname : s.name = name
    · have hfound : (u.slot? name).isSome := slot?_isSome_iff.mpr (hname ▸ htaken)
      obtain ⟨first, hfirst⟩ := Option.isSome_iff_exists.mp hfound
      rw [slot?] at hfirst
      rw [hfirst]
      rfl
    · simp [hname]
  · have hslots : (u.add s).slots = u.slots ++ [s] := by
      unfold add
      exact congrArg slots (dif_neg htaken)
    rw [slot?, hslots]

/-- Of the slots that are added the first of each name is found. -/
theorem slot?_addAll (u : UniformSet α) (ss : List (UniformSlot α)) (name : String) :
    (u.addAll ss).slot? name = (u.slots ++ ss).find? (·.name == name) := by
  induction ss generalizing u with
  | nil => rw [List.append_nil]; rfl
  | cons s ss ih =>
      have hrest : (u.addAll (s :: ss)).slot? name =
          ((u.add s).slots ++ ss).find? (·.name == name) := ih (u.add s)
      have hfirst : (u.add s).slots.find? (·.name == name) =
          (u.slots ++ [s]).find? (·.name == name) := slot?_add u s name
      rw [hrest, List.find?_append, hfirst, ← List.find?_append, List.append_assoc]
      rfl

/-- The first source that offers a name decides. -/
theorem slot?_compile (inputs : List (InputDeclaration α)) (name : String) :
    (compile inputs).slot? name = (offered inputs).find? (·.name == name) := by
  have hinputs := slot?_addAll (empty.addAll standardSlots) (inputs.map inputSlot) name
  have hstandard := slot?_addAll (empty (α := α)) standardSlots name
  rw [slot?] at hinputs hstandard
  rw [compile, slot?_addAll, List.find?_append, hinputs, List.find?_append, hstandard, offered,
    List.find?_append, List.find?_append, List.find?_append]
  rfl

/-- All names that are offered are in the set. -/
theorem mem_names_compile {inputs : List (InputDeclaration α)} {s : UniformSlot α}
    (hs : s ∈ offered inputs) : s.name ∈ (compile inputs).names := by
  rw [← slot?_isSome_iff, slot?_compile, List.find?_isSome]
  exact ⟨s, hs, beq_self_eq_true s.name⟩

end UniformSet

/-! ## Scanning lines -/

namespace Shader

open Text

/-- The uniforms that lines declare, line by line. -/
def declaredIn (lines : List String) : List String :=
  lines.flatMap fun l => declaredUniforms l.toList

theorem declaredIn_append (ls ms : List String) :
    declaredIn (ls ++ ms) = declaredIn ls ++ declaredIn ms :=
  List.flatMap_append

/-- A text without slashes has no comments. -/
theorem stripComments_eq_self {cs : List Char} (h : '/' ∉ cs) : stripComments cs = cs := by
  have hblock : stripBlockComments cs = cs := by
    induction cs with
    | nil => rw [stripBlockComments]
    | cons c cs ih =>
        rw [List.mem_cons, not_or] at h
        rw [stripBlockComments.eq_3 c cs (fun _ hc _ => h.1 hc.symm), ih h.2]
  have hline : stripLineCommentsFrom false cs = cs := by
    clear hblock
    induction cs with
    | nil => rfl
    | cons c cs ih =>
        rw [List.mem_cons, not_or] at h
        rw [stripLineCommentsFrom.eq_4 c cs (fun _ hc _ => h.1 hc.symm), ih h.2]
  rw [stripComments, hblock, stripLineComments, hline]

/-- An identifier is taken up to the first character that is not of a word. -/
theorem takeIdentifier_append {name : List Char} (h : isIdentifier name) {c : Char}
    (hc : isWordChar c = false) (rest : List Char) :
    takeIdentifier (name ++ c :: rest) = some (name, c :: rest) := by
  cases name with
  | nil => cases h
  | cons d ds =>
      simp only [isIdentifier, Bool.and_eq_true, List.all_eq_true] at h
      have htake : (ds ++ c :: rest).takeWhile isWordChar = ds := by
        rw [List.takeWhile_append_of_pos h.2]
        simp [hc]
      have hdrop : (ds ++ c :: rest).dropWhile isWordChar = c :: rest := by
        rw [List.dropWhile_append_of_pos h.2]
        simp [hc]
      simp [takeIdentifier, h.1, htake, hdrop]

/-- A word starts with no blank. -/
theorem isBlank_of_isWordChar {c : Char} (h : isWordChar c) : isBlank c = false := by
  have hrange : 0x30 ≤ c.toNat ∧ c.toNat ≤ 0x7A := by
    simp only [isWordChar, isLetter, Char.isDigit, Bool.or_eq_true, Bool.and_eq_true,
      decide_eq_true_eq, beq_iff_eq, Char.le_def, UInt32.le_iff_toNat_le] at h
    rcases h with ((⟨hlow, hhigh⟩ | ⟨hlow, hhigh⟩) | ⟨hlow, hhigh⟩) | rfl
    · exact ⟨Nat.le_trans (by decide) hlow, hhigh⟩
    · exact ⟨Nat.le_trans (by decide) hlow, Nat.le_trans hhigh (by decide)⟩
    · exact ⟨hlow, Nat.le_trans hhigh (by decide)⟩
    · decide
  simp only [isBlank, Bool.or_eq_false_iff, Bool.and_eq_false_iff, decide_eq_false_iff_not,
    beq_eq_false_iff_ne]
  omega

/-- One blank ahead of an identifier is skipped. -/
theorem skipSomeBlanks_of_isIdentifier {name : List Char} (h : isIdentifier name)
    (rest : List Char) : skipSomeBlanks (' ' :: (name ++ rest)) = some (name ++ rest) := by
  cases name with
  | nil => cases h
  | cons c cs =>
      have hblank : isBlank c = false :=
        isBlank_of_isWordChar (isWordChar_of_isIdentifier h c List.mem_cons_self)
      have hspace : isBlank ' ' := by decide
      simp [skipSomeBlanks, hspace, skipBlanks, hblank]

/-- The declaration of one uniform, read at its start. -/
theorem uniformDeclaration?_eq {type name : List Char} (htype : isIdentifier type)
    (hprecision : ∀ rest, stripPrecision? (type ++ ' ' :: rest) = none)
    (hname : isIdentifier name) :
    uniformDeclaration? ("uniform".toList ++ ' ' :: (type ++ ' ' :: (name ++ [';']))) =
      some (name, [';']) := by
  have hword := strip?_eq_some_iff.mpr (rfl : "uniform".toList ++
    ' ' :: (type ++ ' ' :: (name ++ [';'])) = _)
  have htyped : typedName? (type ++ ' ' :: (name ++ [';'])) = some (name, [';']) := by
    have hspace : isWordChar ' ' = false := by decide
    have hsemicolon : isWordChar ';' = false := by decide
    simp [typedName?, takeIdentifier_append htype hspace, skipSomeBlanks_of_isIdentifier hname,
      takeIdentifier_append hname hsemicolon]
  rw [uniformDeclaration?, hword]
  simp [skipSomeBlanks_of_isIdentifier htype, hprecision, htyped]

/-- Characters that belong to a declaration are passed over. -/
theorem uniformNamesFrom_skip (before : Option Char) (taken rest : List Char) :
    ∃ before', uniformNamesFrom before taken.length (taken ++ rest) =
      uniformNamesFrom before' 0 rest := by
  induction taken generalizing before with
  | nil => exact ⟨before, rfl⟩
  | cons c taken ih => exact ih (some c)

/-- The declaration of one uniform declares it and nothing else. -/
theorem declaredUniforms_declaration {type name : List Char} (htype : isIdentifier type)
    (hprecision : ∀ rest, stripPrecision? (type ++ ' ' :: rest) = none)
    (hname : isIdentifier name) :
    declaredUniforms ("uniform".toList ++ ' ' :: (type ++ ' ' :: (name ++ [';']))) =
      [String.ofList name] := by
  have hslash {cs : List Char} (h : isIdentifier cs) : '/' ∉ cs := by
    intro hmem
    exact absurd (isWordChar_of_isIdentifier h '/' hmem) (by decide)
  have hplain : '/' ∉ "uniform".toList ++ ' ' :: (type ++ ' ' :: (name ++ [';'])) := by
    have hword : '/' ∉ "uniform".toList := by decide
    simp [hslash htype, hslash hname]
  have hdeclared := uniformDeclaration?_eq htype hprecision hname
  let tail : List Char := "niform".toList ++ ' ' :: (type ++ ' ' :: name)
  have hsplit : "uniform".toList ++ ' ' :: (type ++ ' ' :: (name ++ [';'])) =
      'u' :: (tail ++ [';']) := by simp [tail]
  obtain ⟨before, hskip⟩ := uniformNamesFrom_skip (some 'u') tail [';']
  have hend : uniformNamesFrom before 0 [';'] = [] := by
    have hnone : uniformDeclaration? [';'] = none := by decide
    simp [uniformNamesFrom, hnone]
  rw [declaredUniforms, stripComments_eq_self hplain]
  rw [hsplit] at hdeclared ⊢
  rw [uniformNamesFrom, hdeclared]
  simp [hskip, hend, firstOfEach]

/-- A line that declares one uniform does so as often as it is there. -/
theorem count_le_count_declaredIn {l name : String} (hl : declaredUniforms l.toList = [name])
    (lines : List String) : lines.count l ≤ (declaredIn lines).count name := by
  induction lines with
  | nil => simp
  | cons l' lines ih =>
      have hsplit : declaredIn (l' :: lines) = declaredUniforms l'.toList ++ declaredIn lines := rfl
      rw [hsplit, List.count_append, List.count_cons]
      by_cases heq : l' = l
      · subst heq
        rw [hl, List.count_singleton_self, beq_self_eq_true, if_pos rfl]
        omega
      · rw [beq_eq_false_iff_ne.mpr heq, if_neg Bool.false_ne_true]
        omega

/-- A line that declares one uniform is there once if that is declared once. -/
theorem count_eq_one {lines : List String} {l name : String}
    (hl : declaredUniforms l.toList = [name]) (hmem : l ∈ lines)
    (honce : (declaredIn lines).Nodup) : lines.count l = 1 := by
  have hle := count_le_count_declaredIn hl lines
  have hone : (declaredIn lines).count name ≤ 1 := List.nodup_iff_count_le_one.mp honce name
  have hpos : 0 < lines.count l := List.count_pos_iff.mpr hmem
  omega

end Shader

/-! ## Injected lines -/

namespace Transpiled

open Shader

/-- The lines of a text that no source line stands for. -/
def injected (t : Transpiled α) : List String :=
  (t.lines.filter (·.source.isNone)).map (·.text)

/-- The lines of a text that no source line stands for are those between the hoisted directives
and the body. -/
theorem injected_outputLines (source : ShaderSource α) (uniforms : UniformSet α) :
    ((outputLines source uniforms).filter (·.source.isNone)).map (·.text) =
      prologue source uniforms := by
  have hkept (places : List Nat) (f : Nat → OutputLine) (hf : ∀ i, (f i).source.isSome) :
      (places.map f).filter (·.source.isNone) = [] := by
    rw [List.filter_map, List.map_eq_nil_iff, List.filter_eq_nil_iff]
    intro i _ hi
    have hsome := hf i
    rw [Function.comp_apply, Option.isNone_iff_eq_none] at hi
    rw [hi] at hsome
    cases hsome
  have hnew (ls : List String) : (ls.map OutputLine.injected).filter (·.source.isNone) =
      ls.map OutputLine.injected := by
    rw [List.filter_eq_self]
    intro o ho
    obtain ⟨l, -, rfl⟩ := List.mem_map.mp ho
    rfl
  rw [outputLines_eq, List.filter_append, List.filter_append, hkept _ _ (fun _ => rfl),
    hkept _ _ (fun _ => rfl), hnew, List.nil_append, List.append_nil, List.map_map]
  exact List.map_id _

/-- The declaration of a uniform, character by character. -/
theorem toList_uniformLine (s : UniformSlot α) :
    (uniformLine s).toList =
      "uniform".toList ++ ' ' :: (s.glslType.name.toList ++ ' ' :: (s.name.toList ++ [';'])) := by
  simp [uniformLine, ToString.toString]

/-- The declaration of a uniform declares it. -/
theorem declaredUniforms_uniformLine {s : UniformSlot α} (h : Text.isIdentifier s.name.toList) :
    declaredUniforms (uniformLine s).toList = [s.name] := by
  have htype : Text.isIdentifier s.glslType.name.toList := by
    cases s.glslType <;> decide
  have hprecision : ∀ rest, stripPrecision? (s.glslType.name.toList ++ ' ' :: rest) = none := by
    intro rest
    cases s.glslType <;> rfl
  rw [toList_uniformLine, declaredUniforms_declaration htype hprecision h, String.ofList_toList]

/-- The comment above a group of uniforms declares nothing. -/
theorem declaredUniforms_comment (o : UniformOrigin) :
    declaredUniforms s!"// {o.name} uniforms".toList = [] := by
  cases o <;> decide +kernel

/-- The declarations of uniforms that are named by identifiers declare them in order. -/
theorem declaredIn_uniformLines {ss : List (UniformSlot α)}
    (h : ∀ s ∈ ss, Text.isIdentifier s.name.toList) (current : Option UniformOrigin) :
    declaredIn (uniformLines current ss) = ss.map (·.name) := by
  induction ss generalizing current with
  | nil => rfl
  | cons s ss ih =>
      have hline := declaredUniforms_uniformLine (h s List.mem_cons_self)
      have hrest := ih (fun s' hs' => h s' (List.mem_cons_of_mem s hs')) (some s.origin)
      rw [declaredIn] at hrest
      by_cases hgroup : current = some s.origin
      · simp [uniformLines, hgroup, declaredIn, hline, hrest]
      · have hcomment := declaredUniforms_comment s.origin
        simp only [uniformLines, hgroup, if_false, declaredIn, List.flatMap_cons, hcomment, hline,
          hrest]
        rfl

/-- The statement that sets the precision declares nothing, and neither do the macros. -/
theorem declaredUniforms_of_fixed :
    ∀ l ∈ precisionStatement :: isfMacros, declaredUniforms l.toList = [] := by
  decide +kernel

/-- The lines of a group of uniforms are comments and the declarations of the uniforms. -/
theorem mem_uniformLines_iff {l : String} {ss : List (UniformSlot α)}
    {current : Option UniformOrigin} (h : ∀ o : UniformOrigin, l ≠ s!"// {o.name} uniforms") :
    l ∈ uniformLines current ss ↔ ∃ s ∈ ss, l = uniformLine s := by
  induction ss generalizing current with
  | nil => simp [uniformLines]
  | cons s ss ih =>
      rw [uniformLines]
      split
      · simp [ih]
      · have hcomment := h s.origin
        simp [ih, hcomment]

section

variable {source : ShaderSource α} {uniforms : UniformSet α}

/-- Between the injected lines that are the same for many shaders stand the declarations of the
uniforms that the body does not declare. -/
theorem exists_prologue (source : ShaderSource α) (uniforms : UniformSet α) :
    ∃ before after, before ⊆ precisionStatement :: isfMacros ∧
      after ⊆ precisionStatement :: isfMacros ∧
      prologue source uniforms = before ++ uniformLines none (uniforms.slots.filter fun s =>
        !(declaredUniforms source.body.toList).contains s.name) ++ after := by
  refine ⟨_, _, ?_, ?_, rfl⟩
  · split <;> simp
  · split <;> simp

/-- The injected lines declare the uniforms that the body does not declare, in order. -/
theorem declaredIn_prologue (h : ∀ s ∈ uniforms.slots, Text.isIdentifier s.name.toList) :
    declaredIn (prologue source uniforms) =
      uniforms.names.filter fun name =>
        !(declaredUniforms source.body.toList).contains name := by
  have hfixed {lines : List String} (hlines : lines ⊆ precisionStatement :: isfMacros) :
      declaredIn lines = [] :=
    List.flatMap_eq_nil_iff.mpr fun l hl => declaredUniforms_of_fixed l (hlines hl)
  obtain ⟨before, after, hbefore, hafter, hprologue⟩ := exists_prologue source uniforms
  have hkept : ∀ s ∈ uniforms.slots.filter fun s =>
      !(declaredUniforms source.body.toList).contains s.name, Text.isIdentifier s.name.toList :=
    fun s hs => h s (List.mem_filter.mp hs).1
  have hmissing := declaredIn_uniformLines hkept none
  rw [hprologue, declaredIn_append, declaredIn_append, hfixed hbefore, hfixed hafter, hmissing,
    List.nil_append, List.append_nil, UniformSet.names, List.filter_map]
  rfl

/-- The injected line that declares a uniform is its declaration, unless the body declares it. -/
theorem mem_prologue_iff (h : ∀ s ∈ uniforms.slots, Text.isIdentifier s.name.toList)
    {s : UniformSlot α} (hs : s ∈ uniforms.slots) {l : String}
    (hl : s.name ∈ declaredUniforms l.toList) :
    l ∈ prologue source uniforms ↔
      s.name ∉ declaredUniforms source.body.toList ∧ l = uniformLine s := by
  have hfixed {lines : List String} (hlines : lines ⊆ precisionStatement :: isfMacros) :
      l ∉ lines := by
    intro hmem
    rw [declaredUniforms_of_fixed l (hlines hmem)] at hl
    cases hl
  have hcomment : ∀ o : UniformOrigin, l ≠ s!"// {o.name} uniforms" := by
    rintro o rfl
    rw [declaredUniforms_comment] at hl
    cases hl
  obtain ⟨before, after, hbefore, hafter, hprologue⟩ := exists_prologue source uniforms
  rw [hprologue, List.mem_append, List.mem_append, mem_uniformLines_iff hcomment]
  simp only [hfixed hbefore, hfixed hafter, false_or, or_false, List.mem_filter]
  constructor
  · rintro ⟨s', ⟨hs', hbody⟩, rfl⟩
    rw [declaredUniforms_uniformLine (h s' hs'), List.mem_singleton] at hl
    obtain rfl : s = s' := List.inj_on_of_nodup_map uniforms.distinct hs hs' hl
    exact ⟨by simpa using hbody, rfl⟩
  · rintro ⟨hbody, rfl⟩
    exact ⟨s, ⟨hs, by simpa using hbody⟩, rfl⟩

end

variable [Scalar α]

/-- The injected lines of the text of a source that was read. -/
theorem injected_ofSource {dialect : Dialect} {raw : String} {source : ShaderSource α}
    (hread : (ShaderSource.read dialect raw).1 = source) :
    injected (ofSource (α := α) dialect raw) =
      prologue source (UniformSet.compile source.inputs) := by
  rw [injected, (ofSource_of_read hread).2.2, injected_outputLines]

/-- The names of the uniforms of a text are pairwise different. Each name that a source offers is
among them, with the slot of the first that offers it: standard uniforms come before inputs and
inputs before audio uniforms. The injected lines declare the uniforms that the body does not
declare, in the order of the set, each on exactly one line, and nothing else. -/
theorem each_declared_once (dialect : Dialect) (raw : String) :
    let source : ShaderSource α := (ShaderSource.read dialect raw).1
    let t : Transpiled α := ofSource dialect raw
    let body := declaredUniforms source.body.toList
    t.uniforms.names.Nodup ∧
    (∀ s ∈ UniformSet.offered source.inputs, s.name ∈ t.uniforms.names) ∧
    (∀ name, t.uniforms.slot? name =
      (UniformSet.offered source.inputs).find? (·.name == name)) ∧
    (∀ s ∈ t.uniforms.slots,
      (s.name ∈ body ∧ ∀ l ∈ t.injected, s.name ∉ declaredUniforms l.toList) ∨
      (s.name ∉ body ∧
        t.injected.count s!"uniform {s.glslType.name} {s.name};" = 1 ∧
        ∀ l ∈ t.injected, s.name ∈ declaredUniforms l.toList →
          l = s!"uniform {s.glslType.name} {s.name};")) ∧
    declaredIn t.injected = t.uniforms.names.filter fun name => !body.contains name := by
  obtain ⟨source, hread⟩ : ∃ s : ShaderSource α, (ShaderSource.read dialect raw).1 = s := ⟨_, rfl⟩
  obtain ⟨-, huniforms, hlines⟩ := ofSource_of_read hread
  have hinputs := ShaderSource.isIdentifier_of_mem_inputs hread
  have hnames := UniformSet.isIdentifier_of_mem_compile hinputs
  have hinjected : injected (ofSource (α := α) dialect raw) =
      prologue source (UniformSet.compile source.inputs) := by
    rw [injected, hlines, injected_outputLines]
  have hdeclared : declaredIn (prologue source (UniformSet.compile source.inputs)) = _ :=
    declaredIn_prologue hnames
  simp only [hread, huniforms, hinjected]
  have hdistinct := (UniformSet.compile source.inputs).distinct
  refine ⟨hdistinct, fun s hs => UniformSet.mem_names_compile hs,
    UniformSet.slot?_compile source.inputs, ?_, hdeclared⟩
  intro s hs
  have hself := declaredUniforms_uniformLine (hnames s hs)
  have hline {l : String} (hl : s.name ∈ declaredUniforms l.toList) :
      l ∈ prologue source (UniformSet.compile source.inputs) ↔ _ :=
    mem_prologue_iff hnames hs hl
  by_cases hbody : s.name ∈ declaredUniforms source.body.toList
  · refine .inl ⟨hbody, ?_⟩
    intro l hl hname
    exact ((hline hname).mp hl).1 hbody
  · have hmem : uniformLine s ∈ prologue source (UniformSet.compile source.inputs) :=
      (hline (by simp [hself])).mpr ⟨hbody, rfl⟩
    refine .inr ⟨hbody, ?_, ?_⟩
    · apply count_eq_one hself hmem
      rw [hdeclared]
      exact hdistinct.filter _
    · intro l hl hname
      exact ((hline hname).mp hl).2

end Transpiled

end LiveVisuals
