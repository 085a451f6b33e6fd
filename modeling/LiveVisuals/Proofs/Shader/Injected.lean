import LiveVisuals.Proofs.Shader.Header

/-!
# Injected lines

Between the hoisted directives and the body stand lines that no source line stands for. Each
of them is one line of the text: a uniform set holds the names of standard, audio and input
uniforms only, and these are identifiers.

Main results:

- Theorem {lit}`UniformSet.isIdentifier_of_mem_compile`: uniforms are named by identifiers.
- Theorem {lit}`Transpiled.isUnbroken_of_mem_prologue`: injected lines are unbroken.
-/

namespace LiveVisuals

variable {α : Type}

namespace UniformSet

/-- Adding slots adds nothing else. -/
theorem mem_slots_addAll {u : UniformSet α} {ss : List (UniformSlot α)} {s : UniformSlot α}
    (h : s ∈ (u.addAll ss).slots) : s ∈ u.slots ∨ s ∈ ss := by
  induction ss generalizing u with
  | nil => exact .inl h
  | cons a ss ih =>
      rcases ih h with hadd | hss
      · rw [add] at hadd
        split at hadd
        · exact .inl hadd
        · rcases List.mem_append.mp hadd with hu | ha
          · exact .inl hu
          · exact .inr (by simp [List.mem_singleton.mp ha])
      · exact .inr (List.mem_cons_of_mem a hss)

/-- Standard uniforms are named by identifiers. -/
theorem isIdentifier_of_mem_standardUniforms :
    ∀ b ∈ standardUniforms, Text.isIdentifier b.name.toList := by
  decide

/-- Audio uniforms are named by identifiers. -/
theorem isIdentifier_of_mem_audioUniforms :
    ∀ a ∈ audioUniforms, Text.isIdentifier a.name.toList := by
  decide

/-- What holds of the slots that each source offers holds of all slots. -/
theorem forall_mem_compile {P : UniformSlot α → Prop} {inputs : List (InputDeclaration α)}
    (hstandard : ∀ b ∈ standardUniforms, P (builtinSlot .standard b))
    (hinput : ∀ d ∈ inputs, P (inputSlot d))
    (haudio : ∀ a ∈ audioUniforms, P (builtinSlot .audio a.toBuiltinUniform)) :
    ∀ s ∈ (compile inputs).slots, P s := by
  intro s hs
  rcases mem_slots_addAll hs with hs | hs
  · rcases mem_slots_addAll hs with hs | hs
    · rcases mem_slots_addAll hs with hempty | hs
      · cases hempty
      · obtain ⟨b, hb, rfl⟩ := List.mem_map.mp hs
        exact hstandard b hb
    · obtain ⟨d, hd, rfl⟩ := List.mem_map.mp hs
      exact hinput d hd
  · obtain ⟨a, ha, rfl⟩ := List.mem_map.mp hs
    exact haudio a ha

/-- A slot that comes of an input is that of a declared one. -/
theorem exists_input_of_mem_compile {inputs : List (InputDeclaration α)} {s : UniformSlot α}
    (hs : s ∈ (compile inputs).slots) (horigin : s.origin = .input) :
    ∃ d ∈ inputs, s = inputSlot d := by
  have hall : ∀ s ∈ (compile inputs).slots, s.origin = .input → ∃ d ∈ inputs, s = inputSlot d :=
    forall_mem_compile (fun _ _ h => by cases h) (fun d hd _ => ⟨d, hd, rfl⟩)
      (fun _ _ h => by cases h)
  exact hall s hs horigin

/-- If inputs are named by identifiers, all uniforms are. -/
theorem isIdentifier_of_mem_compile {inputs : List (InputDeclaration α)}
    (h : ∀ d ∈ inputs, Text.isIdentifier d.name.toList) :
    ∀ s ∈ (compile inputs).slots, Text.isIdentifier s.name.toList :=
  forall_mem_compile isIdentifier_of_mem_standardUniforms h isIdentifier_of_mem_audioUniforms

end UniformSet

namespace Transpiled

/-- The declaration of a uniform that is named by an identifier is unbroken. -/
theorem isUnbroken_uniformLine {s : UniformSlot α} (h : Text.isIdentifier s.name.toList) :
    Text.IsUnbroken (uniformLine s).toList := by
  have htype : Text.IsUnbroken s.glslType.name.toList := by
    cases s.glslType <;> simp [GlslType.name]
  have hname := Text.isUnbroken_of_isIdentifier h
  simp [uniformLine, ToString.toString, htype, hname]

/-- Declarations of uniforms that are named by identifiers are unbroken. -/
theorem isUnbroken_of_mem_uniformLines {ss : List (UniformSlot α)}
    (h : ∀ s ∈ ss, Text.isIdentifier s.name.toList) (current : Option UniformOrigin) :
    ∀ l ∈ uniformLines current ss, Text.IsUnbroken l.toList := by
  induction ss generalizing current with
  | nil => simp [uniformLines]
  | cons s ss ih =>
      have hcomment : Text.IsUnbroken s!"// {s.origin.name} uniforms".toList := by
        cases s.origin <;> simp [ToString.toString, UniformOrigin.name]
      have hline := isUnbroken_uniformLine (h s (by simp))
      have hrest := ih (fun s' hs' => h s' (List.mem_cons_of_mem s hs')) (some s.origin)
      intro l hl
      rw [uniformLines] at hl
      split at hl
      · rcases List.mem_cons.mp hl with rfl | hl
        · exact hline
        · exact hrest l hl
      · rcases List.mem_cons.mp hl with rfl | hl
        · exact hcomment
        · rcases List.mem_cons.mp hl with rfl | hl
          · exact hline
          · exact hrest l hl

/-- The compatibility macros are unbroken. -/
theorem isUnbroken_of_mem_isfMacros : ∀ l ∈ isfMacros, Text.IsUnbroken l.toList := by
  simp [isfMacros]

/-- Injected lines are unbroken. -/
theorem isUnbroken_of_mem_prologue {source : ShaderSource α}
    (h : ∀ d ∈ source.inputs, Text.isIdentifier d.name.toList) :
    ∀ l ∈ prologue source (UniformSet.compile source.inputs), Text.IsUnbroken l.toList := by
  intro l hl
  simp only [prologue, List.mem_append] at hl
  rcases hl with (hprecision | huniform) | hmacro
  · split at hprecision
    · cases hprecision
    · rw [List.mem_singleton.mp hprecision]
      simp [precisionStatement]
  · refine isUnbroken_of_mem_uniformLines (fun s hs => ?_) none l huniform
    exact UniformSet.isIdentifier_of_mem_compile h s (List.mem_filter.mp hs).1
  · split at hmacro
    · exact isUnbroken_of_mem_isfMacros l hmacro
    · cases hmacro

end Transpiled

end LiveVisuals
