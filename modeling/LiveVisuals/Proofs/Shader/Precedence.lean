import LiveVisuals.Proofs.Shader.Presented

/-!
# Which source drives a uniform

A name gets the value of the slot that the set has for it, and which slot that is was decided when
the shader was compiled: standard uniforms come first, then inputs, then audio uniforms. So the
engine drives the standard uniforms whatever a header declares, and it drives an audio uniform
unless the header declares an input of the same name, which is driven by its binding or its
default then.

Main results:

- Theorem {lit}`get?_resolveUniforms`: a name gets the value of its slot.
- Theorem {lit}`Transpiled.engine_drives`: what standard and audio uniforms get at a tick.
- Theorem {lit}`Transpiled.declared_input_hides_audio`: an input can hide an audio uniform.
-/

namespace LiveVisuals

variable {α : Type} [Scalar α]

/-! ## Values by name -/

/-- Of slots with different names the one of a name decides what the name gets. -/
theorem get?_filterMap_namedValue? (r : Readings α) (bound : Keyed α) {name : String}
    (hname : name ≠ Header.reservedName) {ss : List (UniformSlot α)}
    (hdistinct : (ss.map (·.name)).Nodup) :
    Keyed.get? name (ss.filterMap (namedValue? r bound)) =
      (ss.find? (·.name == name)).bind (slotValue r bound) := by
  induction ss with
  | nil => rfl
  | cons s ss ih =>
      rw [List.map_cons, List.nodup_cons] at hdistinct
      have hrest := ih hdistinct.2
      by_cases hs : s.name = name
      · -- no later slot has the name, so nothing is found there
        have hnone : ss.find? (·.name == name) = none := by
          rw [List.find?_eq_none]
          intro s' hs' heq
          have hmem : s'.name ∈ ss.map (·.name) := List.mem_map_of_mem hs'
          rw [beq_iff_eq.mp heq, ← hs] at hmem
          exact hdistinct.1 hmem
        have hentry : namedValue? r bound s = (slotValue r bound s).map fun v => (s.name, v) :=
          if_neg (hs ▸ hname)
        rw [List.find?_cons_of_pos (by simp [hs]), Option.bind_some]
        rw [hnone, Option.bind_none] at hrest
        cases hvalue : slotValue r bound s with
        | none =>
            rw [hvalue] at hentry
            rw [List.filterMap_cons_none hentry, hrest]
        | some v =>
            rw [hvalue] at hentry
            rw [List.filterMap_cons_some hentry, Keyed.get?, if_pos hs]
      · rw [List.find?_cons_of_neg (by simp [hs]), ← hrest]
        cases hentry : namedValue? r bound s with
        | none => rw [List.filterMap_cons_none hentry]
        | some entry =>
            have hne : entry.1 ≠ name := fun heq => hs ((name_of_namedValue? hentry).1 ▸ heq)
            rw [List.filterMap_cons_some hentry, Keyed.get?, if_neg hne]

/-- A name gets the value of its slot. -/
theorem get?_resolveUniforms (u : UniformSet α) (r : Readings α) (bound : Keyed α) {name : String}
    (hname : name ≠ Header.reservedName) :
    Keyed.get? name (resolveUniforms u r bound) = (u.slot? name).bind (slotValue r bound) := by
  rw [resolveUniforms_eq]
  exact get?_filterMap_namedValue? r bound hname u.distinct

namespace UniformSet

omit [Scalar α] in
/-- A standard uniform keeps its slot, whatever is declared. -/
theorem slot?_compile_standard (inputs : List (InputDeclaration α)) {b : BuiltinUniform}
    (h : b ∈ standardUniforms) :
    (compile inputs).slot? b.name = some (builtinSlot .standard b) := by
  have hfirst : standardSlots.find? (·.name == b.name) =
      some (builtinSlot (α := α) .standard b) := by
    simp only [standardUniforms] at h
    fin_cases h <;> rfl
  rw [slot?_compile, offered, List.append_assoc, List.find?_append, hfirst]
  rfl

omit [Scalar α] in
/-- An audio uniform keeps its slot unless an input of its name is declared. -/
theorem slot?_compile_audio (inputs : List (InputDeclaration α)) {a : AudioUniform}
    (h : a ∈ audioUniforms) :
    (compile inputs).slot? a.name =
      (((inputs.find? (·.name == a.name)).map inputSlot).or
        (some (builtinSlot .audio a.toBuiltinUniform))) := by
  have hstandard : standardSlots.find? (·.name == a.name) = (none : Option (UniformSlot α)) := by
    simp only [audioUniforms] at h
    fin_cases h <;> rfl
  have haudio : audioSlots.find? (·.name == a.name) =
      some (builtinSlot (α := α) .audio a.toBuiltinUniform) := by
    simp only [audioUniforms] at h
    fin_cases h <;> rfl
  rw [slot?_compile, offered, List.find?_append, List.find?_append, hstandard, haudio,
    List.find?_map]
  rfl

end UniformSet

namespace Transpiled

/-- The engine drives the standard uniforms, whatever the header declares and whatever is bound.
An audio uniform gets the reading of its feature, unless an input of its name is declared; then it
gets the output of the binding of that name, if there is one that suits the type of the input, and
the default of the input otherwise. -/
theorem engine_drives (dialect : Dialect) (raw : String) (r : Readings α) (bound : Keyed α) :
    let t : Transpiled α := ofSource dialect raw
    let values := resolveUniforms t.uniforms r bound
    Keyed.get? "time" values = some (.number r.time) ∧
    Keyed.get? "resolution" values = some (.vector [r.resolution.1, r.resolution.2]) ∧
    Keyed.get? "mouse" values = some (.vector [r.mouse.1, r.mouse.2]) ∧
    Keyed.get? "audioSpeed" values = some (.number r.frame.speed) ∧
    ∀ a ∈ audioUniforms, Keyed.get? a.name values =
      match t.inputs.find? (·.name == a.name) with
      | none => some (.number (r.frame.read a.feature))
      | some d =>
          ((Keyed.get? d.name bound).bind (coerceScalar d.type.glslType)).orElse
            fun _ => d.defaultValue := by
  intro t values
  have huniforms : t.uniforms = UniformSet.compile t.inputs := (ofSource_of_read rfl).2.1
  have hstandard {name : String} (h : name ∈ standardUniforms.map (·.name)) :
      Keyed.get? name values = engineValue name r := by
    have hname : name ≠ Header.reservedName := by
      rintro rfl
      exact absurd h (by decide)
    obtain ⟨b, hb, rfl⟩ := List.mem_map.mp h
    rw [get?_resolveUniforms _ _ _ hname, huniforms, UniformSet.slot?_compile_standard _ hb]
    rfl
  refine ⟨hstandard (by decide), hstandard (by decide), hstandard (by decide),
    hstandard (by decide), ?_⟩
  intro a ha
  have hname : a.name ≠ Header.reservedName := by
    have hall : ∀ a ∈ audioUniforms, a.name ≠ Header.reservedName := by decide
    exact hall a ha
  rw [get?_resolveUniforms _ _ _ hname, huniforms, UniformSet.slot?_compile_audio _ ha]
  cases t.inputs.find? (·.name == a.name) with
  | none => exact (engineValue_audio ha).2 r
  | some d => rfl

/-- A header with an input that has the name of an audio uniform. -/
def hidingSource : String :=
  "/*\x7b\"INPUTS\": [\x7b\"NAME\": \"audioBass\", \"TYPE\": \"float\", \"DEFAULT\": 0.5\x7d]" ++
  "\x7d*/ void main()\x7b\x7d"

/-- Readings of a tick at which the bass reads 0.25. -/
def bassReadings : Readings Float :=
  ⟨3.0, (800.0, 600.0), (400.0, 300.0), { Audio.Frame.silent with bass := 0.25 }⟩

/-- A standard uniform and an audio uniform that no input hides follow the engine, although both
are bound. -/
theorem engine_drives_of_hidingSource :
    let t : Transpiled Float := ofSource .isf hidingSource
    let values := resolveUniforms t.uniforms bassReadings [("time", 9.0), ("audioMid", 0.75)]
    (AudioUniform.of "audioMid" .mid "Smoothed mid level." ∈ audioUniforms) ∧
    Keyed.get? "time" values = some (.number 3.0) ∧
    Keyed.get? "audioMid" values = some (.number bassReadings.frame.mid) := by
  obtain ⟨htime, -, -, -, haudio⟩ :=
    engine_drives .isf hidingSource bassReadings [("time", 9.0), ("audioMid", 0.75)]
  have hmem : AudioUniform.of "audioMid" .mid "Smoothed mid level." ∈ audioUniforms := by
    simp [audioUniforms]
  have hnone : (ofSource (α := Float) .isf hidingSource).inputs.find?
      (·.name == (AudioUniform.of "audioMid" .mid "Smoothed mid level.").name) = none :=
    Option.isNone_iff_eq_none.mp (by decide +kernel)
  have hmid := haudio _ hmem
  rw [hnone] at hmid
  exact ⟨hmem, htime, hmid⟩

/-- The numbers that the shader gets for the hidden uniform. -/
def hiddenBass (bound : Keyed Float) : Option (List Float) :=
  let t : Transpiled Float := ofSource .isf hidingSource
  (Keyed.get? "audioBass" (resolveUniforms t.uniforms bassReadings bound)).map (·.numbers)

/-- Such an input keeps the engine from driving the audio uniform: while the bass reads 0.25 the
shader gets the declared default, or what is bound under that name. -/
theorem declared_input_hides_audio :
    (bassReadings.frame.read .bass == 0.25) = true ∧
      (hiddenBass [] == some [0.5]) = true ∧
      (hiddenBass [("audioBass", 0.75)] == some [0.75]) = true :=
  ⟨by decide, by decide +kernel, by decide +kernel⟩

end Transpiled

end LiveVisuals
