import LiveVisuals.Proofs.Binding.Saved
import LiveVisuals.Proofs.Scalar.Exact
import LiveVisuals.Proofs.Shader.Presented
import LiveVisuals.Service.Tool

/-!
# Bindings between finite limits

The output of a binding is kept between its limits. If these are finite, so is the output, as
long as the resting value is defined, which is where a modulation goes that leads nowhere. The
other numbers of a binding do not matter, infinite ones included. Whatever asks for a binding
brings finite limits along, except for a tool call, which leaves limits unchecked.

Main definitions:

- {lit}`BindingSpec.Limited`: a binding with finite limits.
- {lit}`BindingTable.Limited`: a table of them, with finite smoothed readings.

Main results:

- Theorem {lit}`BindingSpec.Limited.isFinite_modulate`: the output is finite, whatever is read.
- Theorems {lit}`BindingSpec.limited_of_arguments`, {lit}`BindingSpec.limited_of_body`,
  {lit}`Preset.limited_of_load`, {lit}`AutoBind.limited_of_derive` and
  {lit}`BindingSpec.limited_of_call`: what asks for a binding brings finite limits along.
- Theorem {lit}`BindingTable.Limited.outputs`: all outputs of a table are finite.
-/

namespace LiveVisuals

open Exact

variable {K : Type} [Field K] [LinearOrder K] [FloorRing K] [Base K]

/-- A finite value is defined. -/
theorem Exact.isUndefined_of_isFinite {x : Exact K} (h : Scalar.isFinite x = true) :
    Scalar.isUndefined x = false := by
  obtain ⟨a, rfl⟩ := isFinite_iff.mp h
  exact isUndefined_number a

/-! ## Limits -/

namespace BindingSpec

/-- A binding with finite limits and a defined resting value. -/
structure Limited (b : BindingSpec (Exact K)) : Prop where
  base : Scalar.isUndefined b.base = false
  min : Scalar.isFinite b.min = true
  max : Scalar.isFinite b.max = true

/-- Smoothing that has been brought into its range is finite. -/
theorem isFinite_smoothing (b : BindingSpec (Exact K)) :
    Scalar.isFinite b.normalize.smoothing = true := by
  refine isFinite_clamp ?_ rfl rfl
  split
  · next h => exact isUndefined_of_isFinite h
  · exact isUndefined_of_isFinite rfl

namespace Limited

variable {b : BindingSpec (Exact K)}

/-- Finite limits are put in order. -/
theorem normalize (h : b.Limited) : b.normalize.Limited :=
  ⟨h.base, isFinite_lesser h.min h.max, isFinite_greater h.min h.max⟩

/-- The output is finite, whatever is read. -/
theorem isFinite_modulate (h : b.Limited) (s : Exact K) :
    Scalar.isFinite (b.modulate s) = true := by
  have hkept (value : Exact K) : Scalar.isFinite
      (Scalar.clamp (if Scalar.isFinite value then value else b.base) b.min b.max) = true := by
    refine isFinite_clamp ?_ h.min h.max
    split
    · next hvalue => exact isUndefined_of_isFinite hvalue
    · exact h.base
  unfold modulate
  split
  · split
    · exact h.max
    · exact h.min
  · exact hkept _

end Limited

/-! ## Who asks for bindings -/

/-- A message brings finite limits along. -/
theorem limited_of_arguments {args : List (Json (Exact K))} {spec : BindingSpec (Exact K)}
    (h : ofArguments? args = some spec) : spec.Limited := by
  have hnumber (v : Option (Json (Exact K))) {d : Exact K} (hd : Scalar.isFinite d = true) :
      Scalar.isFinite ((argNumber? v).getD d) = true := by
    cases hv : argNumber? v with
    | none => exact hd
    | some x => exact isFinite_of_argNumber? hv
  unfold ofArguments? at h
  simp only [Option.bind_eq_bind, Option.bind_eq_some_iff, Option.some.injEq] at h
  obtain ⟨uniform, -, feature, -, rfl⟩ := h
  exact ⟨isUndefined_of_isFinite (hnumber args[5]? rfl), hnumber args[6]? rfl,
    hnumber args[7]? rfl⟩

/-- A request body brings finite limits along. -/
theorem limited_of_body {v : Option (Json (Exact K))} {spec : BindingSpec (Exact K)}
    (h : bodySchema v = .accepted spec) : spec.Limited := by
  rw [bodySchema, Schema.object_eq_accepted] at h
  obtain ⟨fs, -, h⟩ := h
  simp only [Checked.seq_eq_accepted, Checked.map_eq_accepted, Schema.field,
    Checked.under_eq_accepted] at h
  obtain ⟨-, max, ⟨-, min, ⟨-, base, ⟨-, -, ⟨-, -, ⟨-, -, ⟨-, -, ⟨-, -, rfl⟩, -, rfl⟩, -, rfl⟩,
    -, rfl⟩, -, rfl⟩, hbase, rfl⟩, hmin, rfl⟩, hmax, rfl⟩ := h
  exact ⟨isUndefined_of_isFinite (Schema.isFinite_of_withDefault rfl hbase),
    Schema.isFinite_of_withDefault rfl hmin, Schema.isFinite_of_withDefault rfl hmax⟩

/-- A saved binding has finite limits. -/
theorem limited_of_saved {v : Option (Json (Exact K))} {spec : BindingSpec (Exact K)}
    (h : savedSchema v = .accepted spec) : spec.Limited := by
  rw [savedSchema, Schema.object_eq_accepted] at h
  obtain ⟨fs, -, h⟩ := h
  simp only [Checked.seq_eq_accepted, Checked.map_eq_accepted, Schema.field,
    Checked.under_eq_accepted] at h
  obtain ⟨-, max, ⟨-, min, ⟨-, base, ⟨-, -, ⟨-, -, ⟨-, -, ⟨-, -, ⟨-, -, rfl⟩, -, rfl⟩, -, rfl⟩,
    -, rfl⟩, -, rfl⟩, hbase, rfl⟩, hmin, rfl⟩, hmax, rfl⟩ := h
  exact ⟨isUndefined_of_isFinite (Schema.isFinite_of_finiteNumber hbase),
    Schema.isFinite_of_finiteNumber hmin, Schema.isFinite_of_finiteNumber hmax⟩

/-- A tool call leaves limits unchecked; if they happen to be finite it brings such along. -/
theorem limited_of_call {v : Option (Json (Exact K))} {spec : BindingSpec (Exact K)}
    (h : Tool.schema .audioBind v = .accepted (.bind spec))
    (hmin : Scalar.isFinite spec.min = true) (hmax : Scalar.isFinite spec.max = true) :
    spec.Limited := by
  refine ⟨?_, hmin, hmax⟩
  rw [Tool.schema, Schema.object_eq_accepted] at h
  obtain ⟨fs, -, h⟩ := h
  simp only [Tool.bindingSchema, Checked.seq_eq_accepted, Checked.map_eq_accepted, Schema.field,
    Checked.under_eq_accepted] at h
  obtain ⟨_, ⟨_, max, ⟨_, min, ⟨_, base, ⟨_, smoothing, ⟨_, multiplier, ⟨_, kind, ⟨_, feature,
    ⟨uniform, -, rfl⟩, -, rfl⟩, -, rfl⟩, -, rfl⟩, -, rfl⟩, hbase, rfl⟩, -, rfl⟩, -, rfl⟩,
    hspec⟩ := h
  cases hspec
  cases hv : Keyed.get? "base" fs with
  | none =>
      rw [hv] at hbase
      cases hbase
      exact isUndefined_of_isFinite rfl
  | some w =>
      rw [hv] at hbase
      exact Schema.defined_of_number hbase

end BindingSpec

/-- Saved bindings that are loaded have finite limits. -/
theorem Preset.limited_of_load {dir : Files.Path} {shader : String} {root : Files.Node}
    {specs : List (BindingSpec (Exact K))} (h : load dir shader root = .ok (some specs)) :
    ∀ spec ∈ specs, spec.Limited := by
  obtain ⟨content, -, value, -, haccepted⟩ := accepted_of_load h
  rw [schema, Schema.object_eq_accepted] at haccepted
  obtain ⟨fs, -, hfields⟩ := haccepted
  simp only [Checked.seq_eq_accepted, Checked.map_eq_accepted, Schema.field,
    Checked.under_eq_accepted] at hfields
  obtain ⟨-, items, ⟨-, -, ⟨-, -, rfl⟩, -, rfl⟩, hspecs, rfl⟩ := hfields
  intro spec hspec
  obtain ⟨w, hw⟩ := Schema.exists_of_list hspecs spec hspec
  exact BindingSpec.limited_of_saved hw

namespace AutoBind

/-- The resting value of a derived binding is finite. -/
theorem isFinite_baseOf {d : InputDeclaration (Exact K)} (h : d.Sound) :
    Scalar.isFinite (baseOf d) = true := by
  unfold baseOf
  split
  · next x hx =>
      have hfits := h.fits _ hx
      generalize d.type.glslType = type at hfits
      cases hfits with
      | float hfinite => exact hfinite
      | int hwhole => exact hwhole.1
  · rfl

/-- A declared limit that is taken is finite. -/
theorem isFinite_of_finiteBound? {bound : Option (Bound (Exact K))} {d : Exact K}
    (hd : Scalar.isFinite d = true) : Scalar.isFinite ((finiteBound? bound).getD d) = true := by
  cases hbound : finiteBound? bound with
  | none => exact hd
  | some x =>
      unfold finiteBound? at hbound
      split at hbound
      · exact Scalar.isFinite_of_finite? hbound
      · cases hbound

/-- Derived bindings have finite limits. -/
theorem limited_of_derive {inputs : List (InputDeclaration (Exact K))}
    (h : ∀ d ∈ inputs, d.Sound) : ∀ spec ∈ derive inputs, spec.Limited := by
  intro spec hspec
  obtain ⟨d, hd, hrule⟩ := List.mem_filterMap.mp hspec
  obtain ⟨r, -, rfl⟩ := Option.map_eq_some_iff.mp hrule
  have hbase := isFinite_baseOf (h d hd)
  have hmagnitude : Scalar.isFinite (Scalar.magnitude (baseOf d)) = true := by
    unfold Scalar.magnitude
    split
    · rwa [isFinite_neg]
    · exact hbase
  refine ⟨isUndefined_of_isFinite hbase, isFinite_of_finiteBound? (isFinite_lesser rfl hbase),
    isFinite_of_finiteBound? (isFinite_greater rfl ?_)⟩
  exact (isFinite_mul _ _).trans (Bool.and_eq_true_iff.mpr ⟨hmagnitude, rfl⟩)

end AutoBind

/-! ## Tables -/

/-- A binding in force with finite limits, a smoothing within its range and a finite reading. -/
structure BindingEntry.Limited (e : BindingEntry (Exact K)) : Prop where
  limits : e.binding.toBindingSpec.Limited
  smoothing : Scalar.isFinite e.binding.smoothing = true
  smoothed : Scalar.isFinite e.smoothed = true

/-- The entry of a new binding. -/
theorem BindingEntry.limited_ofSpec {spec : BindingSpec (Exact K)} (h : spec.Limited)
    (origin : BindingOrigin) : (ofSpec spec origin).Limited :=
  ⟨h.normalize, spec.isFinite_smoothing, rfl⟩

/-- Named readings are finite. -/
theorem Audio.Frame.isFinite_readNamed (f : Audio.Frame (Exact K)) (name : String) :
    Scalar.isFinite (f.readNamed name) = true := by
  simp only [readNamed]
  split
  · next h => exact h
  · rfl

/-- An entry that advances keeps a finite reading. -/
theorem BindingEntry.Limited.advance {e : BindingEntry (Exact K)} (h : e.Limited)
    (f : Audio.Frame (Exact K)) : (e.advance f).Limited := by
  refine ⟨h.limits, h.smoothing, ?_⟩
  simp [BindingEntry.advance, h.smoothed, h.smoothing, f.isFinite_readNamed]

namespace BindingTable

/-- A table of bindings with finite limits. -/
def Limited (t : BindingTable (Exact K)) : Prop := ∀ e ∈ t.entries, e.2.Limited

theorem limited_empty : (empty : BindingTable (Exact K)).Limited := by
  simp [Limited, empty]

namespace Limited

variable {t : BindingTable (Exact K)}

theorem add (h : t.Limited) {spec : BindingSpec (Exact K)} (hspec : spec.Limited)
    (origin : BindingOrigin) : (t.add spec origin).Limited := by
  intro e he
  rcases Keyed.mem_put he with rfl | he
  · exact BindingEntry.limited_ofSpec hspec origin
  · exact h e he

theorem addAll (h : t.Limited) {specs : List (BindingSpec (Exact K))}
    (hspecs : ∀ spec ∈ specs, spec.Limited) (origin : BindingOrigin) :
    (t.addAll specs origin).Limited := by
  intro e he
  rcases mem_addAll he with he | ⟨spec, hspec, rfl⟩
  · exact h e he
  · exact BindingEntry.limited_ofSpec (hspecs spec hspec) origin

theorem remove (h : t.Limited) (uniform : String) : (t.remove uniform).Limited :=
  fun e he => h e (List.mem_filter.mp he).1

theorem advanceAll (h : t.Limited) (f : Audio.Frame (Exact K)) : (t.advanceAll f).Limited := by
  intro e he
  obtain ⟨e', he', rfl⟩ := List.mem_map.mp he
  exact (h e' he').advance f

/-- All outputs of a table are finite. -/
theorem outputs (h : t.Limited) : ∀ e ∈ t.outputs, Scalar.isFinite e.2 = true := by
  intro e he
  obtain ⟨e', he', rfl⟩ := List.mem_map.mp he
  exact (h e' he').limits.isFinite_modulate _

end Limited

end BindingTable

end LiveVisuals
