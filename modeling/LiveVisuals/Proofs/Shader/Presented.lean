import LiveVisuals.Proofs.Scalar.Whole
import LiveVisuals.Proofs.Shader.Declared
import LiveVisuals.Engine.Activation
import LiveVisuals.Shader.Resolve

/-!
# Presented values fit the declarations

A renderer is told the names and types of the uniforms when a shader is compiled, and gets their
values at every tick. The values come of four sources that know nothing of each other: readings,
declared defaults, neutral defaults and binding outputs. Each of them makes values of the type of
its slot, and every slot but a texture always has one.

Main definitions:

- {lit}`UniformValue.Fits`: the values that a uniform of a type takes.
- {lit}`InputDeclaration.Sound`: the default of an input fits its type; only textures have none.
- {lit}`UniformSlot.Filled`: what a slot gets at a tick, whatever is bound.
- {lit}`Readings.IsFinite`: readings whose numbers are finite.

Main results:

- Theorem {lit}`Header.sound_of_declared`: whatever a header says, its inputs are sound.
- Theorem {lit}`resolveUniforms_eq`: each slot puts its value at the end.
- Theorem {lit}`UniformSet.filled_of_mem_compile`: what the slots of a compiled set get.
- Theorem {lit}`Transpiled.presented_fit_declared`: names and values of a tick against what was
  declared.
-/

namespace LiveVisuals

/-! ## Values of a type -/

/-- The number of components of a vector type. -/
def GlslType.components? : GlslType → Option Nat
  | .vec2 => some 2
  | .vec3 => some 3
  | .vec4 => some 4
  | .float | .int | .bool | .sampler2D => none

section

variable {α : Type} [Scalar α]

/-- The numbers of a value. -/
def UniformValue.numbers : UniformValue α → List α
  | .number x => [x]
  | .flag _ => []
  | .vector xs => xs

/-- The values that a uniform of a type takes: a finite number, a whole number, a truth value, or
as many finite numbers as the vector has components. A texture takes none. -/
inductive UniformValue.Fits : GlslType → UniformValue α → Prop where
  | float {x : α} (h : Scalar.isFinite x = true) : Fits .float (.number x)
  | int {x : α} (h : Scalar.IsWhole x) : Fits .int (.number x)
  | bool (b : Bool) : Fits .bool (.flag b)
  | vector {type : GlslType} {xs : List α} (hlength : type.components? = some xs.length)
      (hfinite : ∀ x ∈ xs, Scalar.isFinite x = true) : Fits type (.vector xs)

/-- The default of an input fits its type, and only a texture has none. -/
structure InputDeclaration.Sound (d : InputDeclaration α) : Prop where
  texture : d.defaultValue = none → d.type = .texture
  fits : ∀ v, d.defaultValue = some v → v.Fits d.type.glslType

/-- Readings whose numbers are finite. -/
structure Readings.IsFinite (r : Readings α) : Prop where
  time : Scalar.isFinite r.time = true
  resolution : Scalar.isFinite r.resolution.1 = true ∧ Scalar.isFinite r.resolution.2 = true
  mouse : Scalar.isFinite r.mouse.1 = true ∧ Scalar.isFinite r.mouse.2 = true
  features : ∀ f, Scalar.isFinite (r.frame.read f) = true

/-- A texture takes no value. -/
theorem UniformValue.Fits.ne_sampler2D {type : GlslType} {v : UniformValue α} (h : v.Fits type) :
    type ≠ .sampler2D := by
  rintro rfl
  cases h with
  | vector hlength hfinite => cases hlength

/-- Two finite components. -/
theorem fits_pairValue {p : α × α} (h : Scalar.isFinite p.1 = true ∧ Scalar.isFinite p.2 = true) :
    (pairValue p).Fits .vec2 := by
  refine .vector rfl ?_
  simpa using h

end

/-! ## Defaults -/

namespace Header

variable {α : Type} [Scalar α]

/-- What is read as a finite number is one. -/
theorem isFinite_of_finiteNumber? {raw : Json α} {x : α} (h : finiteNumber? raw = some x) :
    Scalar.isFinite x = true := by
  cases raw with
  | num y => exact Scalar.isFinite_of_finite? h
  | _ => cases h

/-- What is read as numbers has the length that was asked for, and all are finite. -/
theorem finite_of_numbers? {length : Nat} {raw : Json α} {xs : List α}
    (h : numbers? length raw = some xs) :
    xs.length = length ∧ ∀ x ∈ xs, Scalar.isFinite x = true := by
  cases raw with
  | arr items =>
      simp only [numbers?] at h
      split at h
      · next hlength =>
        obtain ⟨hcount, hfinite⟩ := Scalar.isFinite_of_mapM isFinite_of_finiteNumber? h
        exact ⟨hcount.trans hlength, hfinite⟩
      · cases h
  | _ => cases h

/-- A declared default that is taken fits the type. -/
theorem fits_of_fitDefault? [Scalar.Regular α] {type : InputType} {raw : Json α}
    {v : UniformValue α} (h : fitDefault? type raw = some v) : v.Fits type.glslType := by
  cases type with
  | scalar =>
      obtain ⟨x, hx, rfl⟩ := Option.map_eq_some_iff.mp h
      exact .float (isFinite_of_finiteNumber? hx)
  | integer =>
      obtain ⟨x, hx, rfl⟩ := Option.map_eq_some_iff.mp h
      exact .int (Scalar.Regular.isWhole_round (isFinite_of_finiteNumber? hx))
  | boolean =>
      simp only [fitDefault?] at h
      split at h
      · cases h
        exact .bool _
      · obtain ⟨x, -, rfl⟩ := Option.map_eq_some_iff.mp h
        exact .bool _
  | vec2 | vec3 =>
      obtain ⟨xs, hxs, rfl⟩ := Option.map_eq_some_iff.mp h
      obtain ⟨hlength, hfinite⟩ := finite_of_numbers? hxs
      exact .vector (congrArg some hlength.symm) hfinite
  | color =>
      simp only [fitDefault?] at h
      split at h
      · next rgba hrgba =>
        obtain ⟨hlength, hfinite⟩ := finite_of_numbers? hrgba
        cases h
        exact .vector (congrArg some hlength.symm) hfinite
      · obtain ⟨rgb, hrgb, rfl⟩ := Option.map_eq_some_iff.mp h
        obtain ⟨hlength, hfinite⟩ := finite_of_numbers? hrgb
        refine .vector ?_ ?_
        · simp [hlength, InputType.glslType, GlslType.components?]
        · intro x hx
          rcases List.mem_append.mp hx with hx | hx
          · exact hfinite x hx
          · rw [List.mem_singleton.mp hx]
            exact Scalar.Regular.isFinite_one
  | texture => cases h

/-- The neutral default fits the type. -/
theorem fits_of_neutralDefault [Scalar.Regular α] {type : InputType} {v : UniformValue α}
    (h : neutralDefault type = some v) : v.Fits type.glslType := by
  cases type with
  | scalar => cases h; exact .float Scalar.Regular.isFinite_one
  | integer => cases h; exact .int Scalar.Regular.isWhole_zero
  | boolean => cases h; exact .bool false
  | vec2 => cases h; exact .vector rfl (by simp [Scalar.Regular.isWhole_zero.1])
  | vec3 => cases h; exact .vector rfl (by simp [Scalar.Regular.isWhole_zero.1])
  | color => cases h; exact .vector rfl (by simp [Scalar.Regular.isFinite_one])
  | texture => cases h

/-- Every type but a texture has a neutral default. -/
theorem isSome_neutralDefault {type : InputType} (h : type ≠ .texture) :
    (neutralDefault (α := α) type).isSome := by
  cases type with
  | texture => exact absurd rfl h
  | _ => rfl

/-- The default of an entry fits the type, and only a texture has none. -/
theorem Entry.default_sound [Scalar.Regular α] (e : Entry α) (type : InputType) :
    ((e.default type).1 = none → type = .texture) ∧
      ∀ v, (e.default type).1 = some v → v.Fits type.glslType := by
  by_cases htexture : type = .texture
  · subst htexture
    exact ⟨fun _ => rfl, fun v h => by cases h⟩
  have hneutral := isSome_neutralDefault (α := α) htexture
  have hdefault : (e.default type).1 = neutralDefault type ∨
      ∃ raw v, fitDefault? type raw = some v ∧ (e.default type).1 = some v := by
    cases hraw : e.defaultValue with
    | none => exact .inl (by cases type <;> simp_all [Entry.default])
    | some raw =>
        cases hfit : fitDefault? type raw with
        | none => exact .inl (by cases type <;> simp_all [Entry.default])
        | some v => exact .inr ⟨raw, v, hfit, by cases type <;> simp_all [Entry.default]⟩
  rcases hdefault with hdefault | ⟨raw, w, hfit, hdefault⟩
  · rw [hdefault]
    constructor
    · intro hnone
      rw [hnone] at hneutral
      cases hneutral
    · intro v hv
      exact fits_of_neutralDefault hv
  · rw [hdefault]
    constructor
    · intro hnone
      cases hnone
    · intro v hv
      cases hv
      exact fits_of_fitDefault? hfit

/-- Whatever a header says, its inputs are sound. -/
theorem sound_of_declared [Scalar.Regular α] {taken : List String} {index : Nat} {raw : Json α}
    {d : InputDeclaration α} {remark : Option String}
    (h : readEntry taken index raw = .declared d remark) : d.Sound := by
  obtain ⟨e, type, -, -, hdeclare⟩ := exists_entry_of_declared h
  cases hdeclare
  exact ⟨(e.default_sound type).1, (e.default_sound type).2⟩

end Header

/-! ## Values of a tick -/

section

variable {α : Type} [Scalar α]

/-- What a slot puts among the values of a tick. -/
def namedValue? (r : Readings α) (bound : Keyed α) (s : UniformSlot α) :
    Option (String × UniformValue α) :=
  if s.name = Header.reservedName then none
  else (slotValue r bound s).map fun v => (s.name, v)

/-- What a slot puts among the values is under its own name. -/
theorem name_of_namedValue? {r : Readings α} {bound : Keyed α} {s : UniformSlot α}
    {entry : String × UniformValue α} (h : namedValue? r bound s = some entry) :
    entry.1 = s.name ∧ slotValue r bound s = some entry.2 := by
  rw [namedValue?] at h
  split at h
  · cases h
  · obtain ⟨v, hv, rfl⟩ := Option.map_eq_some_iff.mp h
    exact ⟨rfl, hv⟩

/-- Setting the value of a slot whose name has none yet. -/
theorem applyUniform_eq {u : UniformSet α} (r : Readings α) (bound : Keyed α) {s : UniformSlot α}
    (hu : s.name ∈ u.names) {values : UniformValues α} (hnew : s.name ∉ Keyed.keys values) :
    (match slotValue r bound s with
      | some v => (applyUniform values u s.name v).1
      | none => values) = values ++ (namedValue? r bound s).toList := by
  have hhas : u.has s.name = true := List.contains_iff_mem.mpr hu
  cases hvalue : slotValue r bound s with
  | none => simp [namedValue?, hvalue]
  | some v =>
      have hput := Keyed.put_of_not_mem v hnew
      simp only [applyUniform, hhas, if_true, UniformValues.set, namedValue?, hvalue]
      split
      · simp
      · simp [hput]

/-- Setting the values of further slots puts them at the end, in order. -/
theorem foldl_applyUniform (u : UniformSet α) (r : Readings α) (bound : Keyed α)
    {ss : List (UniformSlot α)} (hu : ∀ s ∈ ss, s.name ∈ u.names)
    (hdistinct : (ss.map (·.name)).Nodup) {values : UniformValues α}
    (hnew : ∀ s ∈ ss, s.name ∉ Keyed.keys values) :
    ss.foldl
        (fun values s =>
          match slotValue r bound s with
          | some v => (applyUniform values u s.name v).1
          | none => values)
        values =
      values ++ ss.filterMap (namedValue? r bound) := by
  induction ss generalizing values with
  | nil => simp
  | cons s ss ih =>
      rw [List.map_cons, List.nodup_cons] at hdistinct
      have hlater : ∀ s' ∈ ss, s'.name ∉ Keyed.keys (values ++ (namedValue? r bound s).toList) := by
        intro s' hs' hmem
        rw [Keyed.keys, List.map_append, List.mem_append] at hmem
        rcases hmem with hmem | hmem
        · exact hnew s' (List.mem_cons_of_mem s hs') hmem
        · obtain ⟨entry, hentry, hname⟩ := List.mem_map.mp hmem
          have hself := (name_of_namedValue? (Option.mem_toList.mp hentry)).1
          exact hdistinct.1 (List.mem_map.mpr ⟨s', hs', by rw [← hname, hself]⟩)
      have hrest := ih (fun s' hs' => hu s' (List.mem_cons_of_mem s hs')) hdistinct.2 hlater
      rw [List.foldl_cons, applyUniform_eq r bound (hu s (by simp)) (hnew s (by simp)), hrest,
        List.append_assoc]
      congr 1
      cases hentry : namedValue? r bound s with
      | none => rw [List.filterMap_cons_none hentry]; rfl
      | some entry => rw [List.filterMap_cons_some hentry]; rfl

/-- Each slot puts its value at the end. -/
theorem resolveUniforms_eq (u : UniformSet α) (r : Readings α) (bound : Keyed α) :
    resolveUniforms u r bound = u.slots.filterMap (namedValue? r bound) := by
  have hnames : ∀ s ∈ u.slots, s.name ∈ u.names := fun s hs => List.mem_map_of_mem hs
  have hnew : ∀ s ∈ u.slots, s.name ∉ Keyed.keys ([] : UniformValues α) := by simp [Keyed.keys]
  have hall := foldl_applyUniform u r bound hnames u.distinct hnew
  rwa [List.nil_append] at hall

/-! ## Slots and their values -/

/-- What a slot gets at a tick, whatever is bound: a value that fits its type if the numbers are
finite, and nothing only if it is a texture. -/
structure UniformSlot.Filled (s : UniformSlot α) : Prop where
  isSome_iff : ∀ r bound, (slotValue r bound s).isSome ↔ s.glslType ≠ .sampler2D
  fits : ∀ r bound v, r.IsFinite → (∀ e ∈ bound, Scalar.isFinite e.2 = true) →
    slotValue r bound s = some v → v.Fits s.glslType

/-- A binding output as a value of a type fits it. -/
theorem fits_of_coerceScalar [Scalar.Regular α] {type : GlslType} {x : α} {v : UniformValue α}
    (hx : Scalar.isFinite x = true) (h : coerceScalar type x = some v) : v.Fits type := by
  cases type with
  | float => cases h; exact .float hx
  | int => cases h; exact .int (Scalar.Regular.isWhole_round hx)
  | bool => cases h; exact .bool _
  | _ => cases h

/-- Standard uniforms have a reading of their type. -/
theorem engineValue_standard {b : BuiltinUniform} (h : b ∈ standardUniforms) :
    b.glslType ≠ .sampler2D ∧ ∀ r : Readings α, ∃ v, engineValue b.name r = some v ∧
      (r.IsFinite → v.Fits b.glslType) := by
  simp only [standardUniforms, List.mem_cons, List.not_mem_nil, or_false] at h
  rcases h with rfl | rfl | rfl | rfl
  · exact ⟨by decide, fun r => ⟨_, rfl, fun hr => .float hr.time⟩⟩
  · exact ⟨by decide, fun r => ⟨_, rfl, fun hr => fits_pairValue hr.resolution⟩⟩
  · exact ⟨by decide, fun r => ⟨_, rfl, fun hr => fits_pairValue hr.mouse⟩⟩
  · exact ⟨by decide, fun r => ⟨_, rfl, fun hr => .float (hr.features .speed)⟩⟩

/-- Audio uniforms are numbers that follow their feature. -/
theorem engineValue_audio {a : AudioUniform} (h : a ∈ audioUniforms) :
    a.glslType = .float ∧ ∀ r : Readings α,
      engineValue a.name r = some (.number (r.frame.read a.feature)) := by
  simp only [audioUniforms] at h
  fin_cases h <;> exact ⟨rfl, fun r => rfl⟩

namespace UniformSet

/-- A slot that the engine itself fills. -/
theorem filled_builtinSlot {origin : UniformOrigin} {b : BuiltinUniform} (horigin : origin ≠ .input)
    (htype : b.glslType ≠ .sampler2D)
    (hvalue : ∀ r : Readings α, ∃ v, engineValue b.name r = some v ∧
      (r.IsFinite → v.Fits b.glslType)) : (builtinSlot (α := α) origin b).Filled := by
  have hslot (r : Readings α) (bound : Keyed α) :
      slotValue r bound (builtinSlot origin b) = engineValue b.name r := by
    cases origin with
    | input => exact absurd rfl horigin
    | standard => rfl
    | audio => rfl
  constructor
  · intro r bound
    obtain ⟨v, hv, -⟩ := hvalue r
    rw [hslot, hv]
    exact iff_of_true rfl htype
  · intro r bound v hr _ hv
    obtain ⟨w, hw, hfits⟩ := hvalue r
    rw [hslot, hw] at hv
    cases hv
    exact hfits hr

/-- The value of an input comes of its binding or is the default. -/
theorem slotValue_inputSlot {d : InputDeclaration α} {r : Readings α} {bound : Keyed α}
    {v : UniformValue α} (h : slotValue r bound (inputSlot d) = some v) :
    (∃ x, Keyed.get? d.name bound = some x ∧ coerceScalar d.type.glslType x = some v) ∨
      d.defaultValue = some v := by
  change ((Keyed.get? d.name bound).bind (coerceScalar d.type.glslType)).orElse
    (fun _ => d.defaultValue) = some v at h
  cases hbound : (Keyed.get? d.name bound).bind (coerceScalar d.type.glslType) with
  | none =>
      rw [hbound] at h
      exact .inr h
  | some w =>
      rw [hbound] at h
      cases h
      exact .inl (Option.bind_eq_some_iff.mp hbound)

/-- The slot of a sound input is filled by its binding or by its default. -/
theorem filled_inputSlot [Scalar.Regular α] {d : InputDeclaration α} (h : d.Sound) :
    (inputSlot d).Filled := by
  constructor
  · intro r bound
    change (slotValue r bound (inputSlot d)).isSome ↔ d.type.glslType ≠ .sampler2D
    constructor
    · intro hsome htexture
      obtain ⟨v, hv⟩ := Option.isSome_iff_exists.mp hsome
      rcases slotValue_inputSlot hv with ⟨x, -, hx⟩ | hdefault
      · rw [htexture] at hx
        cases hx
      · exact (h.fits v hdefault).ne_sampler2D htexture
    · intro htexture
      change (((Keyed.get? d.name bound).bind (coerceScalar d.type.glslType)).orElse
        fun _ => d.defaultValue).isSome
      cases hdefault : d.defaultValue with
      | none => exact absurd (congrArg InputType.glslType (h.texture hdefault)) htexture
      | some v => cases (Keyed.get? d.name bound).bind (coerceScalar d.type.glslType) <;> rfl
  · intro r bound v _ hfinite hv
    rcases slotValue_inputSlot hv with ⟨x, hx, hcoerce⟩ | hdefault
    · exact fits_of_coerceScalar (hfinite _ (Keyed.mem_of_get? hx)) hcoerce
    · exact h.fits v hdefault

/-- What the slots of a compiled set get. -/
theorem filled_of_mem_compile [Scalar.Regular α] {inputs : List (InputDeclaration α)}
    (h : ∀ d ∈ inputs, d.Sound) : ∀ s ∈ (compile inputs).slots, s.Filled := by
  apply forall_mem_compile
  · intro b hb
    obtain ⟨htype, hvalue⟩ := engineValue_standard (α := α) hb
    exact filled_builtinSlot (by decide) htype hvalue
  · intro d hd
    exact filled_inputSlot (h d hd)
  · intro a ha
    obtain ⟨htype, hvalue⟩ := engineValue_audio (α := α) ha
    refine filled_builtinSlot (by decide) (by simp [htype]) ?_
    intro r
    refine ⟨_, hvalue r, ?_⟩
    intro hr
    rw [htype]
    exact .float (hr.features a.feature)

omit [Scalar α] in
/-- Only an input can have the reserved name. -/
theorem ne_reservedName_of_mem_compile {inputs : List (InputDeclaration α)}
    (h : ∀ d ∈ inputs, d.name ≠ Header.reservedName) :
    ∀ s ∈ (compile inputs).slots, s.name ≠ Header.reservedName := by
  have hstandard : ∀ b ∈ standardUniforms, b.name ≠ Header.reservedName := by decide
  have haudio : ∀ a ∈ audioUniforms, a.name ≠ Header.reservedName := by decide
  exact forall_mem_compile hstandard h haudio

end UniformSet

/-- Of slots that are filled and may be held, all but textures put a value. -/
theorem keys_filterMap_namedValue? (r : Readings α) (bound : Keyed α)
    {ss : List (UniformSlot α)} (hfilled : ∀ s ∈ ss, s.Filled)
    (hname : ∀ s ∈ ss, s.name ≠ Header.reservedName) :
    Keyed.keys (ss.filterMap (namedValue? r bound)) =
      (ss.filter fun s => s.glslType ≠ .sampler2D).map (·.name) := by
  induction ss with
  | nil => rfl
  | cons s ss ih =>
      have hrest := ih (fun s' hs' => hfilled s' (List.mem_cons_of_mem s hs'))
        (fun s' hs' => hname s' (List.mem_cons_of_mem s hs'))
      have hsome := (hfilled s (by simp)).isSome_iff r bound
      have hentry : namedValue? r bound s = (slotValue r bound s).map fun v => (s.name, v) :=
        if_neg (hname s (by simp))
      by_cases htype : s.glslType = .sampler2D
      · have hnone : slotValue r bound s = none := by
          rw [← Option.not_isSome_iff_eq_none, hsome]
          exact not_not_intro htype
        rw [hnone] at hentry
        rw [List.filterMap_cons_none hentry, hrest]
        simp [htype]
      · obtain ⟨v, hv⟩ := Option.isSome_iff_exists.mp (hsome.mpr htype)
        rw [hv] at hentry
        rw [List.filterMap_cons_some hentry, Keyed.keys, List.map_cons, ← Keyed.keys, hrest]
        simp [htype]

end

namespace Transpiled

/-- The renderer of a shader is told of its uniforms when it is compiled. No tick gives a value to
any other name, whatever the readings and whatever is bound. Unless an input has the reserved
name, the names that get a value are, in order, those that were declared with a type other than a
texture. If the readings and what is bound are finite, each value fits the type that was declared
for its name. -/
theorem presented_fit_declared (dialect : Dialect) (raw : String) (d : Descriptor) :
    let t : Transpiled Float := ofSource dialect raw
    let told := (Engine.compileRequest d t).uniforms
    (∀ r bound, ∀ name ∈ Keyed.keys (resolveUniforms t.uniforms r bound),
      name ∈ told.map (·.name)) ∧
    ((∀ i ∈ t.inputs, i.name ≠ Header.reservedName) →
      ∀ r bound, Keyed.keys (resolveUniforms t.uniforms r bound) =
        (told.filter fun u => u.type ≠ .sampler2D).map (·.name)) ∧
    (∀ r bound, r.IsFinite → (∀ e ∈ bound, Scalar.isFinite e.2 = true) →
      ∀ u ∈ told, ∀ v, Keyed.get? u.name (resolveUniforms t.uniforms r bound) = some v →
        v.Fits u.type) := by
  obtain ⟨source, hread⟩ : ∃ s, (ShaderSource.read (α := Float) dialect raw).1 = s := ⟨_, rfl⟩
  obtain ⟨-, huniforms, -⟩ := ofSource_of_read hread
  have hinputs : (ofSource (α := Float) dialect raw).inputs = source.inputs :=
    congrArg ShaderSource.inputs hread
  have hsound := ShaderSource.forall_mem_inputs Header.sound_of_declared hread
  have hfilled := UniformSet.filled_of_mem_compile hsound
  have hdistinct := (UniformSet.compile source.inputs).distinct
  simp only [Engine.compileRequest, huniforms, hinputs, UniformSet.declarations,
    resolveUniforms_eq]
  refine ⟨?_, ?_, ?_⟩
  · intro r bound name hname
    obtain ⟨entry, hentry, rfl⟩ := List.mem_map.mp hname
    obtain ⟨s, hs, hself⟩ := List.mem_filterMap.mp hentry
    rw [(name_of_namedValue? hself).1, List.map_map]
    exact List.mem_map_of_mem hs
  · intro hreserved r bound
    have hnames := UniformSet.ne_reservedName_of_mem_compile hreserved
    rw [keys_filterMap_namedValue? r bound hfilled hnames, List.filter_map, List.map_map]
    rfl
  · intro r bound hr hbound u hu v hv
    obtain ⟨s, hs, rfl⟩ := List.mem_map.mp hu
    obtain ⟨s', hs', hself⟩ := List.mem_filterMap.mp (Keyed.mem_of_get? hv)
    obtain ⟨hname, hvalue⟩ := name_of_namedValue? hself
    obtain rfl : s = s' := List.inj_on_of_nodup_map hdistinct hs hs' hname
    exact (hfilled s hs).fits r bound v hr hbound hvalue

/-- A source with inputs of several types: one has the name of an audio uniform and a default that
does not fit, and one is a texture. -/
def crowdedSource : String :=
  "/*\x7b\"INPUTS\": [\x7b\"NAME\": \"steps\", \"TYPE\": \"int\", \"DEFAULT\": 2.6\x7d," ++
  "\x7b\"NAME\": \"tint\", \"TYPE\": \"color\", \"DEFAULT\": [1, 0.5, 0]\x7d," ++
  "\x7b\"NAME\": \"mask\", \"TYPE\": \"image\"\x7d," ++
  "\x7b\"NAME\": \"audioBass\", \"TYPE\": \"bool\", \"DEFAULT\": \"yes\"\x7d]\x7d*/ " ++
  "void main()\x7b\x7d"

/-- What a renderer is told of that source. -/
theorem declarations_crowdedSource :
    (ofSource (α := Float) .isf crowdedSource).uniforms.declarations =
      [⟨"time", .float⟩, ⟨"resolution", .vec2⟩, ⟨"mouse", .vec2⟩, ⟨"audioSpeed", .float⟩,
        ⟨"steps", .int⟩, ⟨"tint", .vec4⟩, ⟨"mask", .sampler2D⟩, ⟨"audioBass", .bool⟩] ++
      audioUniforms.tail.map fun a => ⟨a.name, a.glslType⟩ := by
  decide +kernel

/-- Each input has a name of the set. -/
theorem name_mem_of_mem_inputs {dialect : Dialect} {raw : String} {i : InputDeclaration Float}
    (h : i ∈ (ofSource dialect raw).inputs) :
    i.name ∈ (ofSource (α := Float) dialect raw).uniforms.declarations.map (·.name) := by
  have hoffered : UniformSet.inputSlot i ∈ UniformSet.offered (ofSource dialect raw).inputs := by
    simp only [UniformSet.offered, List.mem_append]
    exact .inl (.inr (List.mem_map_of_mem h))
  have hname := UniformSet.mem_names_compile hoffered
  rw [UniformSet.declarations, List.map_map]
  exact hname

/-- A tick of that source: the texture gets nothing, nor does a name that is bound but not
declared, and the input that hides an audio uniform gets a truth value. -/
theorem presented_fit_declared_of_crowdedSource :
    let t : Transpiled Float := ofSource .isf crowdedSource
    let r : Readings Float := ⟨0.5, (1280.0, 720.0), (640.0, 360.0), .silent⟩
    let values := resolveUniforms t.uniforms r [("steps", 3.5), ("mask", 0.25), ("other", 1.0)]
    Keyed.keys values =
      ["time", "resolution", "mouse", "audioSpeed", "steps", "tint", "audioBass"] ++
        audioUniforms.tail.map (·.name) ∧
    (∀ v, Keyed.get? "steps" values = some v → v.Fits .int) ∧
    ∀ v, Keyed.get? "audioBass" values = some v → v.Fits .bool := by
  obtain ⟨-, hnames, hfits⟩ := presented_fit_declared .isf crowdedSource
    ⟨"crowded", "/shaders/isf/crowded.fs", "isf/crowded.fs", .isf⟩
  have htold := declarations_crowdedSource
  have hreserved : ∀ i ∈ (ofSource (α := Float) .isf crowdedSource).inputs,
      i.name ≠ Header.reservedName := by
    intro i hi
    have hmem := name_mem_of_mem_inputs hi
    rw [htold] at hmem
    exact fun heq => absurd (heq ▸ hmem) (by decide)
  simp only [Engine.compileRequest, htold] at hnames hfits
  have hr : Readings.IsFinite (α := Float)
      ⟨0.5, (1280.0, 720.0), (640.0, 360.0), .silent⟩ := by
    refine ⟨by decide, ⟨by decide, by decide⟩, ⟨by decide, by decide⟩, ?_⟩
    intro f
    cases f <;> decide
  have hvalues := hfits _ [("steps", 3.5), ("mask", 0.25), ("other", 1.0)] hr (by decide)
  refine ⟨(hnames hreserved _ _).trans (by decide), ?_, ?_⟩
  · exact hvalues ⟨"steps", .int⟩ (by decide)
  · exact hvalues ⟨"audioBass", .bool⟩ (by decide)

end Transpiled

end LiveVisuals
