import LiveVisuals.Proofs.Audio.Range
import LiveVisuals.Proofs.Binding.Course
import LiveVisuals.Proofs.Binding.Limited
import LiveVisuals.Proofs.Scalar.Comparison

/-!
# Outputs stay between the limits

Adding a binding puts its limits in order and its smoothing between 0 and 0.99. A reading is a
number, whatever the frame holds, and smoothing goes some share of the way from where it was to the
reading. So in exact arithmetic the smoothed reading never leaves the range of zero and the
readings. The modulation that follows may lead anywhere, with limits and factors that may be
infinite; but what is not finite gives way to the resting value, and the result is kept between the
limits as long as these and the resting value are defined.

Main definitions:

- {lit}`BindingTable.least`, {lit}`BindingTable.greatest`: the range of zero and some readings.

Main results:

- Theorem {lit}`BindingSpec.modulate_mem`: the output lies between limits that are in order.
- Theorem {lit}`BindingTable.exists_smoothed`: smoothed readings stay in the range of what was read.
- Theorem {lit}`BindingTable.exists_output`: there is an output, and it lies between the limits.
- Theorem {lit}`BindingTable.outputs_stay_in_range`: what holds of every table.
-/

namespace LiveVisuals

open Exact

variable {K : Type} [Field K] [LinearOrder K] [FloorRing K] [Base K]

/-! ## One binding -/

namespace BindingSpec

variable [IsStrictOrderedRing K]

/-- Smoothing is brought between 0 and 0.99. -/
theorem smoothing_normalize_mem (b : BindingSpec (Exact K)) :
    (0.0 : Exact K) ≤ b.normalize.smoothing ∧ b.normalize.smoothing ≤ 0.99 := by
  have hends : (0.0 : Exact K) ≤ 0.99 := by
    rw [ofScientific_eq, ofScientific_eq, number_le_number]
    norm_num
  refine clamp_mem ?_ hends
  split
  · next h => exact isUndefined_eq_false_iff.mp (isUndefined_of_isFinite h)
  · simp

omit [IsStrictOrderedRing K] in
/-- The output lies between limits that are in order, and a threshold switches between them. -/
theorem modulate_mem {b : BindingSpec (Exact K)} (hbase : b.base ≠ undefined)
    (hlimits : b.min ≤ b.max) (s : Exact K) :
    b.min ≤ b.modulate s ∧ b.modulate s ≤ b.max ∧
      (b.kind = "threshold" → b.modulate s = b.min ∨ b.modulate s = b.max) := by
  have hmin : b.min ≤ b.min := Exact.le_self_iff.mpr fun h => by simp [h] at hlimits
  have hmax : b.max ≤ b.max := Exact.le_self_iff.mpr fun h => by simp [h] at hlimits
  unfold modulate
  split
  · split
    · exact ⟨hlimits, hmax, fun _ => .inr rfl⟩
    · exact ⟨hmin, hlimits, fun _ => .inl rfl⟩
  · next hkind =>
    have hkept (value : Exact K) :
        (if Scalar.isFinite value then value else b.base) ≠ undefined := by
      split
      · next h => exact isUndefined_eq_false_iff.mp (isUndefined_of_isFinite h)
      · exact hbase
    obtain ⟨hlow, hhigh⟩ := clamp_mem (hkept _) hlimits
    refine ⟨hlow, hhigh, fun hthreshold => ?_⟩
    rw [hthreshold] at hkind
    exact absurd (by decide) hkind

end BindingSpec

namespace BindingTable

/-! ## Smoothed readings -/

/-- The least of zero and some readings. -/
def least (readings : List (Exact K)) : Exact K := readings.foldl Scalar.lesser 0.0

/-- The greatest of zero and some readings. -/
def greatest (readings : List (Exact K)) : Exact K := readings.foldl Scalar.greater 0.0

/-- Smoothed readings stay in the range of zero and what was read. -/
theorem exists_smoothed [IsStrictOrderedRing K] {e : BindingEntry (Exact K)}
    (hzero : e.smoothed = 0.0)
    (hsmoothing : (0.0 : Exact K) ≤ e.binding.smoothing ∧ e.binding.smoothing ≤ 0.99)
    (fs : List (Audio.Frame (Exact K))) :
    let readings := fs.map (·.readNamed e.binding.feature)
    ∃ low high, least readings = number low ∧ greatest readings = number high ∧
      Audio.Between low high (fs.foldl .advance e).smoothed := by
  obtain ⟨factor, hfactor, hnonneg, hle⟩ := exists_number_of_mem
    (by simpa using hsmoothing.1) (by simpa using hsmoothing.2)
  induction fs using List.reverseRecOn with
  | nil => exact ⟨0, 0, zero_eq, zero_eq, by simp [Audio.Between, hzero]⟩
  | append_singleton fs f ih =>
      obtain ⟨low, high, hlow, hhigh, hs⟩ := ih
      obtain ⟨r, hr⟩ := isFinite_iff.mp (f.isFinite_readNamed e.binding.feature)
      -- the range that also contains the new reading
      refine ⟨min low r, max high r, ?_, ?_, ?_⟩
      · rw [List.map_append, least, List.foldl_append, ← least, hlow]
        simp [hr]
      · rw [List.map_append, greatest, List.foldl_append, ← greatest, hhigh]
        simp [hr]
      · obtain ⟨s, hs, hls, hsh⟩ := exists_number_of_mem hs.1 hs.2
        have hadvance : ((fs ++ [f]).foldl BindingEntry.advance e).smoothed =
            Audio.smooth (number s) (number r) (number factor) := by
          rw [List.foldl_concat, BindingEntry.advance, binding_foldl_advance, hs, hr, hfactor,
            Audio.smooth]
        have hfactor : factor ≤ 1 := hle.trans (by norm_num)
        rw [hadvance]
        refine Audio.smooth_mem ⟨?_, ?_⟩ ⟨?_, ?_⟩ ⟨hnonneg, hfactor⟩
        · exact (min_le_left low r).trans hls
        · exact hsh.trans (le_max_left high r)
        · exact min_le_right low r
        · exact le_max_right high r

/-! ## All bindings -/

/-- What is computed for an entry whose limits are in order lies between them. -/
theorem exists_output {t : BindingTable (Exact K)} {u : String} {e : BindingEntry (Exact K)}
    (he : Keyed.get? u t.entries = some e) (hbase : e.binding.base ≠ undefined)
    (hlimits : e.binding.min ≤ e.binding.max) (f : Audio.Frame (Exact K)) :
    ∃ v, (t.compute u f).2 = some v ∧ (u, v) ∈ (t.computeAll f).2 ∧ v ≠ undefined ∧
      e.binding.min ≤ v ∧ v ≤ e.binding.max ∧
      (e.binding.kind = "threshold" → v = e.binding.min ∨ v = e.binding.max) := by
  have hcompute : (t.compute u f).2 =
      some (e.binding.toBindingSpec.modulate (e.advance f).smoothed) := by
    rw [snd_compute, he]
    rfl
  have hjoint := Keyed.mem_of_get? ((get?_computeAll t u f).trans hcompute)
  obtain ⟨hlow, hhigh, hthreshold⟩ :=
    BindingSpec.modulate_mem hbase hlimits (e.advance f).smoothed
  refine ⟨_, hcompute, hjoint, ?_, hlow, hhigh, hthreshold⟩
  intro hundefined
  rw [hundefined] at hlow
  exact not_le_undefined hlow

/-- An entry has the binding that was last added, whose limits have been put in order. -/
theorem exists_boundSince {xs : List (Act (Exact K))} {u : String} {e : BindingEntry (Exact K)}
    (hxs : ∀ spec origin, .add spec origin ∈ xs →
      spec.base ≠ undefined ∧ spec.min ≠ undefined ∧ spec.max ≠ undefined)
    (he : Keyed.get? u (run xs).entries = some e) :
    ∃ spec origin zs, BoundSince u xs spec origin zs ∧
      e = (zs.filterMap (·.frame? u)).foldl .advance (.ofSpec spec origin) ∧
      e.binding = { spec.normalize with origin := origin } ∧
      e.binding.base ≠ undefined ∧ e.binding.min ≤ e.binding.max := by
  obtain ⟨spec, origin, zs, hsince, heq⟩ := get?_run_eq_some_iff.mp he
  have hbinding : e.binding = { spec.normalize with origin := origin } := by
    rw [heq, binding_foldl_advance]
    rfl
  have hadd : .add spec origin ∈ xs := by
    obtain ⟨ys, rfl, -⟩ := hsince
    simp
  obtain ⟨hbase, hmin, hmax⟩ := hxs spec origin hadd
  refine ⟨spec, origin, zs, hsince, heq, hbinding, ?_⟩
  rw [hbinding]
  exact ⟨hbase, lesser_le_greater hmin hmax⟩

variable [IsStrictOrderedRing K]

/-- In exact arithmetic, whatever happens to a table, as long as no added binding has an undefined
resting value or limit: each entry is that of the binding that was last added to its uniform, with
its limits in order, its smoothing between 0 and 0.99, and a smoothed reading that is a number
between the least and the greatest of zero and the readings it has been fed since. And each uniform
that is bound has an output, whatever the frame, the same for itself and together with the others.
It is defined and lies between the limits; that of a threshold is one of them. -/
theorem outputs_stay_in_range (xs : List (Act (Exact K)))
    (hxs : ∀ spec origin, .add spec origin ∈ xs →
      spec.base ≠ undefined ∧ spec.min ≠ undefined ∧ spec.max ≠ undefined) :
    (∀ u e, (u, e) ∈ (run xs).entries → ∃ spec origin zs, BoundSince u xs spec origin zs ∧
      let readings := (zs.filterMap (·.frame? u)).map (·.readNamed spec.feature)
      e.binding = { spec.normalize with origin := origin } ∧
      e.binding.min ≤ e.binding.max ∧
      (0.0 : Exact K) ≤ e.binding.smoothing ∧ e.binding.smoothing ≤ 0.99 ∧
      Scalar.isFinite e.smoothed = true ∧
      least readings ≤ e.smoothed ∧ e.smoothed ≤ greatest readings) ∧
    ∀ u, IsBound u xs → ∃ b, (run xs).get? u = some b ∧ ∀ f, ∃ v,
      ((run xs).compute u f).2 = some v ∧ (u, v) ∈ ((run xs).computeAll f).2 ∧
      v ≠ undefined ∧ b.min ≤ v ∧ v ≤ b.max ∧
      (b.kind = "threshold" → v = b.min ∨ v = b.max) := by
  constructor
  · intro u e he
    obtain ⟨spec, origin, zs, hsince, rfl, hbinding, -, hlimits⟩ :=
      exists_boundSince hxs (Keyed.get?_of_mem (nodup_keys_run xs) he)
    have hsmoothing := spec.smoothing_normalize_mem
    obtain ⟨low, high, hleast, hgreatest, hsmoothed⟩ :=
      exists_smoothed (e := .ofSpec spec origin) rfl hsmoothing (zs.filterMap (·.frame? u))
    obtain ⟨s, hs, -⟩ := exists_number_of_mem hsmoothed.1 hsmoothed.2
    refine ⟨spec, origin, zs, hsince, hbinding, hlimits, ?_⟩
    rw [hbinding]
    exact ⟨hsmoothing.1, hsmoothing.2, isFinite_iff.mpr ⟨s, hs⟩, hleast ▸ hsmoothed.1,
      hgreatest ▸ hsmoothed.2⟩
  · intro u hu
    obtain ⟨e, he⟩ := Keyed.mem_keys_iff.mp (mem_keys_run.mpr hu)
    obtain ⟨spec, origin, zs, -, -, -, hbase, hlimits⟩ := exists_boundSince hxs he
    exact ⟨e.binding, by rw [get?, he, Option.map_some], exists_output he hbase hlimits⟩

/-- A binding with infinite limits, the wrong way round, an infinite resting value and no defined
multiplier, which has been fed a bass that is not defined either: its output is at least 1. -/
theorem outputs_stay_in_range_of_infinities :
    let spec : BindingSpec (Exact ℚ) :=
      ⟨"glow", "bass", "wobble", undefined, infinite false, infinite true, infinite false, 1.0⟩
    let f : Audio.Frame (Exact ℚ) := { Audio.Frame.silent with bass := undefined }
    let xs : List (Act (Exact ℚ)) := [.add spec .auto, .compute "glow" f]
    (∀ spec origin, Act.add spec origin ∈ xs →
      spec.base ≠ undefined ∧ spec.min ≠ undefined ∧ spec.max ≠ undefined) ∧
    IsBound "glow" xs ∧
    ∃ b, (run xs).get? "glow" = some b ∧ b.min = 1.0 ∧ b.max = infinite false ∧
      ∃ v, ((run xs).compute "glow" f).2 = some v ∧ v ≠ undefined ∧ 1.0 ≤ v := by
  intro spec f xs
  have hdefined : ∀ spec origin, Act.add spec origin ∈ xs →
      spec.base ≠ undefined ∧ spec.min ≠ undefined ∧ spec.max ≠ undefined := by
    intro spec' origin hmem
    obtain ⟨rfl, rfl⟩ : spec' = spec ∧ origin = .auto := by simpa [xs] using hmem
    exact ⟨by decide, by decide, by decide⟩
  have hbound : IsBound "glow" xs := ⟨[], spec, .auto, [.compute "glow" f], rfl, rfl, by decide⟩
  have hlimits : (run xs).get? "glow" = some { spec.normalize with origin := .auto } := by rfl
  have hmin : spec.normalize.min = 1.0 := by decide +kernel
  obtain ⟨b, hb, houtput⟩ := (outputs_stay_in_range xs hdefined).2 "glow" hbound
  obtain ⟨v, hv, -, hdefined', hlow, -⟩ := houtput f
  rw [hlimits, Option.some.injEq] at hb
  subst hb
  exact ⟨hdefined, hbound, _, hlimits, hmin, by decide +kernel, v, hv, hdefined', hmin ▸ hlow⟩

end BindingTable

end LiveVisuals
