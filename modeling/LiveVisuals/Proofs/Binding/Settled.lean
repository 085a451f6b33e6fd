import LiveVisuals.Proofs.Binding.Edit

/-!
# Tables that are added again

A binding is brought into order when it is added, and a second time changes nothing. So every
table that edits can lead to is settled: each binding stands under its own uniform, no uniform
is bound twice, and all bindings are in order. Adding the bindings of a settled table to an
empty one gives the same bindings again, whatever origin they had before.

Main definitions:

- {lit}`BindingTable.Settled`: what holds of tables that edits lead to.

Main results:

- Theorem {lit}`BindingSpec.normalize_normalize`: bringing a binding into order twice is the same
  as once.
- Theorem {lit}`BindingTable.Settled.edit`: edits keep a table settled.
- Theorem {lit}`BindingTable.Settled.toList_addAll`: the bindings of a settled table are added
  again as they are.
-/

namespace LiveVisuals

/-! ## Order -/

namespace Scalar

variable {α : Type} [Scalar α]

/-- Two limits in order stay as they are. -/
theorem lesser_greater_of_ordered (x y : α) :
    lesser (lesser x y) (greater x y) = lesser x y ∧
      greater (lesser x y) (greater x y) = greater x y := by
  by_cases hx : isUndefined x = true
  · simp [lesser, greater, hx]
  · by_cases hy : isUndefined y = true
    · simp [lesser, greater, hx, hy]
    · by_cases hyx : y < x <;> by_cases hxy : x < y <;>
        simp [lesser, greater, hx, hy, hyx, hxy]

/-- A clamped value is the value itself or an end of the interval. -/
theorem clamp_cases (x low high : α) :
    clamp x low high = x ∨ clamp x low high = low ∨ clamp x low high = high := by
  unfold clamp lesser greater
  repeat' split
  all_goals simp

/-- Clamping twice is the same as once, between ends that are in order. -/
theorem clamp_clamp {low high : α} (hlow : isUndefined low = false)
    (hhigh : isUndefined high = false) (hll : ¬low < low) (hhl : ¬high < low) (hhh : ¬high < high)
    (x : α) : clamp (clamp x low high) low high = clamp x low high := by
  rcases clamp_cases x low high with h | h | h
  · rw [h, h]
  · rw [h]
    simp [clamp, greater, lesser, hlow, hhigh, hll, hhl]
  · rw [h]
    simp [clamp, greater, lesser, hlow, hhigh, hhl, hhh]

/-- A finite number is defined. -/
theorem isUndefined_of_isFinite {x : Float} (h : isFinite x = true) : isUndefined x = false := by
  have hself (u : Float.Model.UnpackedFloat) (hu : u.isFinite = true) : u.beq u = true := by
    cases u with
    | infinity s => cases hu
    | notANumber => cases hu
    | zero s => rfl
    | finite s m e hm =>
        have hcompare : (compare e e).then (compare m m) = .eq := by
          rw [Std.compare_self, Std.compare_self]
          rfl
        cases s with
        | positive => exact beq_iff_eq.mpr (congrArg some hcompare)
        | negative =>
            exact beq_iff_eq.mpr (congrArg (fun o : Ordering => some o.swap) hcompare)
  have hx : (x == x) = true := hself _ h
  simp [isUndefined, hx]

end Scalar

namespace BindingSpec

/-- Smoothing that has been brought into its range is finite. -/
theorem isFinite_smoothing_normalize (b : BindingSpec Float) :
    Scalar.isFinite b.normalize.smoothing = true := by
  have hzero : Scalar.isFinite (0.0 : Float) = true := by decide
  have hmost : Scalar.isFinite (mostSmoothing : Float) = true := by decide
  let wanted : Float := if Scalar.isFinite b.smoothing then b.smoothing else 0.0
  have hwanted : Scalar.isFinite wanted = true := by
    by_cases h : Scalar.isFinite b.smoothing = true
    · exact (congrArg Scalar.isFinite (if_pos h)).trans h
    · exact (congrArg Scalar.isFinite (if_neg h)).trans hzero
  have hsmoothing : b.normalize.smoothing = Scalar.clamp wanted 0.0 mostSmoothing := rfl
  rw [hsmoothing]
  rcases Scalar.clamp_cases wanted 0.0 mostSmoothing with h | h | h
  · rw [h, hwanted]
  · rw [h, hzero]
  · rw [h, hmost]

/-- Bringing a binding into order twice is the same as once. -/
theorem normalize_normalize (b : BindingSpec Float) : b.normalize.normalize = b.normalize := by
  have hsmoothing : b.normalize.normalize.smoothing = b.normalize.smoothing := by
    rw [normalize, if_pos b.isFinite_smoothing_normalize]
    exact Scalar.clamp_clamp (by decide) (by decide) (by decide) (by decide) (by decide) _
  obtain ⟨hmin, hmax⟩ := Scalar.lesser_greater_of_ordered b.min b.max
  simp only [normalize] at hsmoothing ⊢
  rw [hsmoothing, hmin, hmax]

end BindingSpec

/-! ## Settled tables -/

namespace BindingTable

/-- No uniform is bound twice, and each binding stands under its own uniform and in order. -/
structure Settled (t : BindingTable Float) : Prop where
  distinct : (Keyed.keys t.plain).Nodup
  own : ∀ e ∈ t.plain, e.2.uniform = e.1
  ordered : ∀ e ∈ t.plain, e.2.toBindingSpec.normalize = e.2.toBindingSpec

theorem settled_empty : (empty : BindingTable Float).Settled :=
  ⟨List.nodup_nil, by simp [empty, plain], by simp [empty, plain]⟩

/-- Adding keeps a table settled, whatever the origin. -/
theorem Settled.add {t : BindingTable Float} (h : t.Settled) (spec : BindingSpec Float)
    (origin : BindingOrigin) : (t.add spec origin).Settled := by
  have hplain : (t.add spec origin).plain =
      Keyed.put spec.uniform (BindingEntry.ofSpec spec origin).binding t.plain :=
    Keyed.map_put BindingEntry.binding _ _ _
  refine ⟨?_, ?_, ?_⟩
  · rw [hplain]
    exact Keyed.nodup_keys_put h.distinct _ _
  · intro e he
    rw [hplain] at he
    rcases Keyed.mem_put he with rfl | he
    · rfl
    · exact h.own e he
  · intro e he
    rw [hplain] at he
    rcases Keyed.mem_put he with rfl | he
    · exact spec.normalize_normalize
    · exact h.ordered e he

theorem Settled.addAll {t : BindingTable Float} (h : t.Settled) (specs : List (BindingSpec Float))
    (origin : BindingOrigin) : (t.addAll specs origin).Settled := by
  induction specs generalizing t with
  | nil => exact h
  | cons spec specs ih => exact ih (h.add spec origin)

/-- Removing a binding keeps a table settled. -/
theorem Settled.remove {t : BindingTable Float} (h : t.Settled) (uniform : String) :
    (t.remove uniform).Settled := by
  have hplain : (t.remove uniform).plain = Keyed.erase uniform t.plain :=
    Keyed.map_erase BindingEntry.binding _ _
  have hmem : ∀ e ∈ (t.remove uniform).plain, e ∈ t.plain := by
    intro e he
    rw [hplain] at he
    exact (List.mem_filter.mp he).1
  refine ⟨?_, fun e he => h.own e (hmem e he), fun e he => h.ordered e (hmem e he)⟩
  rw [hplain, Keyed.keys_erase]
  exact h.distinct.filter _

/-- Edits keep a table settled. -/
theorem Settled.edit {t : BindingTable Float} (h : t.Settled) (x : Edit Float) :
    (t.edit x).Settled := by
  cases x with
  | add spec => exact h.add spec .explicit
  | remove uniform => exact h.remove uniform
  | clear => exact settled_empty

/-- Smoothed readings do not matter. -/
theorem Settled.of_plain {t u : BindingTable Float} (h : t.Settled) (hplain : u.plain = t.plain) :
    u.Settled :=
  ⟨hplain ▸ h.distinct, hplain ▸ h.own, hplain ▸ h.ordered⟩

/-! ## Adding again -/

/-- Bindings of different uniforms are added one after the other. -/
theorem toList_addAll {α : Type} [Scalar α] {specs : List (BindingSpec α)}
    (hdistinct : (specs.map (·.uniform)).Nodup) (origin : BindingOrigin) :
    (empty.addAll specs origin).toList =
      specs.map fun s => { s.normalize with origin := origin } := by
  have hfrom (t : BindingTable α) (hnew : ∀ s ∈ specs, s.uniform ∉ Keyed.keys t.entries) :
      (t.addAll specs origin).entries =
        t.entries ++ specs.map fun s => (s.uniform, .ofSpec s origin) := by
    induction specs generalizing t with
    | nil => simp [addAll]
    | cons s specs ih =>
        rw [List.map_cons, List.nodup_cons] at hdistinct
        have hadd : (t.add s origin).entries = t.entries ++ [(s.uniform, .ofSpec s origin)] :=
          Keyed.put_of_not_mem _ (hnew s List.mem_cons_self)
        have hrest := ih hdistinct.2 (t.add s origin) ?_
        · rw [hadd, List.append_assoc] at hrest
          exact hrest
        · intro s' hs' hmem
          rw [hadd, Keyed.keys, List.map_append, List.mem_append] at hmem
          rcases hmem with hmem | hmem
          · exact hnew s' (List.mem_cons_of_mem s hs') hmem
          · have heq : s'.uniform = s.uniform := List.mem_singleton.mp hmem
            exact hdistinct.1 (heq ▸ List.mem_map_of_mem hs')
  have hnone : ∀ s ∈ specs, s.uniform ∉ Keyed.keys (empty : BindingTable α).entries := by
    simp [empty, Keyed.keys]
  rw [toList, Keyed.values, hfrom empty hnone]
  simp [empty, BindingEntry.ofSpec]

/-- The bindings of a settled table are added again as they are. -/
theorem Settled.toList_addAll {t : BindingTable Float} (h : t.Settled) (origin : BindingOrigin) :
    (empty.addAll (t.toList.map (·.toBindingSpec)) origin).toList =
      t.toList.map fun b => { b with origin := origin } := by
  have huniforms : (t.toList.map (·.toBindingSpec)).map (·.uniform) = Keyed.keys t.plain := by
    rw [toList_eq, Keyed.values, List.map_map, List.map_map, Keyed.keys]
    exact List.map_congr_left h.own
  rw [BindingTable.toList_addAll (huniforms ▸ h.distinct), List.map_map]
  refine List.map_congr_left fun b hb => ?_
  rw [toList_eq] at hb
  obtain ⟨e, he, rfl⟩ := List.mem_map.mp hb
  have hordered := h.ordered e he
  simp only [Function.comp_apply, hordered]

end BindingTable

end LiveVisuals
