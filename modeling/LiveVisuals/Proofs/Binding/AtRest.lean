import LiveVisuals.Proofs.Audio.Silence
import LiveVisuals.Proofs.Binding.Limited

/-!
# Derived bindings at rest

A binding that follows a feature which falls silent, and whose reading has come to zero, is at
rest: frames in which nothing is heard leave it as it is. All derived bindings start at rest, and
each puts out its resting value for as long as it stays there, provided the limits that are
declared for the input leave room for that value. Whichever limits are not declared do so.

Main definitions:

- {lit}`InputDeclaration.inRange`: the default of an input lies within its declared limits.
- {lit}`BindingEntry.AtRest`, {lit}`BindingTable.AtRest`: bindings that silence leaves alone.
- {lit}`AutoBind.Rule.Inert`: a rule whose bindings are such.

Main results:

- Theorem {lit}`BindingTable.AtRest.advanceAll_eq_self`: in silence a table at rest stays as it is.
- Theorem {lit}`BindingSpec.modulate_zero`: without a reading the output is the resting value.
- Theorem {lit}`AutoBind.atRest_derive`: derived bindings start at rest.
- Theorem {lit}`AutoBind.output_bind`: at rest a derived binding puts out the default.
-/

namespace LiveVisuals

/-! ## Declared limits -/

section

variable {α : Type} [Scalar α]

/-- Whether a number is at least a lower limit; vectors are no limits of numbers. -/
def Bound.isBelow (x : α) : Bound α → Bool
  | .number low => decide (low ≤ x)
  | .vector _ => true

/-- Whether a number is at most an upper limit; vectors are no limits of numbers. -/
def Bound.isAbove (x : α) : Bound α → Bool
  | .number high => decide (x ≤ high)
  | .vector _ => true

/-- Whether the default of an input lies within the limits that are declared for it, if the
default is a number. -/
def InputDeclaration.inRange (d : InputDeclaration α) : Bool :=
  match d.defaultValue with
  | some (.number x) => d.min.all (·.isBelow x) && d.max.all (·.isAbove x)
  | _ => true

/-- Inputs that can be bound have a number as their default. -/
theorem InputDeclaration.Sound.exists_number {d : InputDeclaration α} (h : d.Sound)
    (hbindable : AutoBind.isBindable d.type) : ∃ x, d.defaultValue = some (.number x) ∧
      (UniformValue.number x).Fits d.type.glslType := by
  cases hdefault : d.defaultValue with
  | none =>
      rw [h.texture hdefault] at hbindable
      cases hbindable
  | some v =>
      have hfits := h.fits v hdefault
      generalize htype : d.type = type at hbindable hfits
      cases type with
      | scalar =>
          cases hfits with
          | float hx => exact ⟨_, rfl, .float hx⟩
          | vector hlength => cases hlength
      | integer =>
          cases hfits with
          | int hx => exact ⟨_, rfl, .int hx⟩
          | vector hlength => cases hlength
      | _ => cases hbindable

end

open Exact

variable {K : Type} [Field K] [LinearOrder K] [FloorRing K] [Base K]

/-! ## Bindings at rest -/

/-- A binding whose reading has come to zero and goes on to be zero in silence. -/
structure BindingEntry.AtRest (e : BindingEntry (Exact K)) : Prop where
  feature : ∃ x : Audio.Feature, e.binding.feature = x.name ∧ x.fallsSilent
  smoothing : Scalar.isFinite e.binding.smoothing = true
  smoothed : e.smoothed = number 0

/-- In silence a binding at rest stays as it is. -/
theorem BindingEntry.AtRest.advance_eq_self {e : BindingEntry (Exact K)} (h : e.AtRest)
    {f : Audio.Frame (Exact K)} (hf : f.Quiet) : e.advance f = e := by
  obtain ⟨x, hname, hx⟩ := h.feature
  obtain ⟨smoothing, hsmoothing⟩ := isFinite_iff.mp h.smoothing
  have hstill : e.smoothed + (f.readNamed e.binding.feature - e.smoothed) *
      (1.0 - e.binding.smoothing) = e.smoothed := by
    rw [hname, hf.readNamed hx, h.smoothed, hsmoothing]
    simp
  rw [BindingEntry.advance, hstill]

namespace BindingTable

/-- A table of bindings at rest. -/
def AtRest (t : BindingTable (Exact K)) : Prop := ∀ e ∈ t.entries, e.2.AtRest

/-- In silence a table at rest stays as it is. -/
theorem AtRest.advanceAll_eq_self {t : BindingTable (Exact K)} (h : t.AtRest)
    {f : Audio.Frame (Exact K)} (hf : f.Quiet) : t.advanceAll f = t := by
  have hentries : t.entries.map (fun (u, e) => (u, e.advance f)) = t.entries.map id :=
    List.map_congr_left fun e he => congrArg (Prod.mk e.1) ((h e he).advance_eq_self hf)
  rw [advanceAll, hentries, List.map_id]

end BindingTable

/-! ## Outputs at rest -/

/-- Without a reading the output is the resting value, if that lies between the limits. -/
theorem BindingSpec.modulate_zero {b : BindingSpec (Exact K)} {base low high multiplier : K}
    (hkind : b.kind = Modulation.add.name ∨ b.kind = Modulation.multiply.name)
    (hmultiplier : b.multiplier = number multiplier) (hbase : b.base = number base)
    (hmin : b.min = number low) (hmax : b.max = number high) (hlow : low ≤ base)
    (hhigh : base ≤ high) : b.modulate (number 0) = number base := by
  have hclamp : Scalar.clamp (number base) (number low) (number high) = number base := by
    rw [clamp_number, max_eq_left hlow, min_eq_left hhigh]
  rcases hkind with hkind | hkind
  · have hadd : Modulation.ofName b.kind = .add := by rw [hkind]; decide
    simp [modulate, raw, hadd, hmultiplier, hbase, hmin, hmax, hclamp]
  · have hmultiply : Modulation.ofName b.kind = .multiply := by rw [hkind]; decide
    simp [modulate, raw, hmultiply, hmultiplier, hbase, hmin, hmax, hclamp]

namespace AutoBind

/-- A rule whose bindings put out their resting value when nothing is heard. -/
structure Rule.Inert (r : Rule (Exact K)) : Prop where
  feature : r.feature.fallsSilent
  kind : r.kind = .add ∨ r.kind = .multiply
  multiplier : Scalar.isFinite r.multiplier = true

/-- All rules are inert. -/
theorem inert_of_mem_rules : ∀ r ∈ (rules : List (Rule (Exact K))), r.Inert := by
  simp only [rules, List.forall_mem_cons, List.not_mem_nil, false_implies, implies_true, and_true]
  refine ⟨?_, ?_, ?_, ?_, ?_, ?_, ?_, ?_, ?_, ?_, ?_⟩ <;> exact ⟨rfl, by simp, rfl⟩

/-- A rule that an input follows is one of the rules, and the input can be bound. -/
theorem mem_rules_of_ruleFor? {d : InputDeclaration (Exact K)} {r : Rule (Exact K)}
    (h : ruleFor? d = some r) : r ∈ (rules : List (Rule (Exact K))) ∧ isBindable d.type := by
  unfold ruleFor? at h
  split at h
  · next hbindable => exact ⟨List.mem_of_find?_eq_some h, (Bool.and_eq_true_iff.mp hbindable).1⟩
  · cases h

/-- An entry of the table of derived bindings is that of an input that follows a rule. -/
theorem exists_input_of_mem {inputs : List (InputDeclaration (Exact K))}
    {e : String × BindingEntry (Exact K)}
    (h : e ∈ (BindingTable.empty.addAll (derive inputs) .auto).entries) :
    ∃ d ∈ inputs, ∃ r, ruleFor? d = some r ∧ e = (d.name, .ofSpec (r.bind d) .auto) := by
  rcases BindingTable.mem_addAll h with h | ⟨spec, hspec, rfl⟩
  · cases h
  · obtain ⟨d, hd, hrule⟩ := List.mem_filterMap.mp hspec
    obtain ⟨r, hr, rfl⟩ := Option.map_eq_some_iff.mp hrule
    exact ⟨d, hd, r, hr, rfl⟩

/-- Derived bindings start at rest. -/
theorem atRest_derive (inputs : List (InputDeclaration (Exact K))) :
    (BindingTable.empty.addAll (derive inputs) .auto).AtRest := by
  intro e he
  obtain ⟨d, -, r, hr, rfl⟩ := exists_input_of_mem he
  have hinert := inert_of_mem_rules r (mem_rules_of_ruleFor? hr).1
  exact ⟨⟨r.feature, rfl, hinert.feature⟩, (r.bind d).isFinite_smoothing, zero_eq⟩

/-- A limit is the one that is declared, if that is a finite number. -/
theorem finiteBound?_cases (bound : Option (Bound (Exact K))) :
    finiteBound? bound = none ∨
      ∃ x : K, bound = some (.number (number x)) ∧ finiteBound? bound = some (number x) := by
  unfold finiteBound?
  split
  · next y =>
    cases y with
    | number x => exact .inr ⟨x, rfl, rfl⟩
    | _ => exact .inl rfl
  · exact .inl rfl

/-- The lower limit of a derived binding leaves room for a default in range. -/
theorem exists_low {d : InputDeclaration (Exact K)} {base : K}
    (hmin : d.min.all (·.isBelow (number base))) :
    ∃ low : K, (finiteBound? d.min).getD (Scalar.lesser 0.0 (number base)) = number low ∧
      low ≤ base := by
  rcases finiteBound?_cases d.min with hnone | ⟨low, hdeclared, hsome⟩
  · exact ⟨min 0 base, by simp [hnone], min_le_right 0 base⟩
  · rw [hdeclared] at hmin
    exact ⟨low, by rw [hsome, Option.getD_some], of_decide_eq_true hmin⟩

variable [IsStrictOrderedRing K]

/-- The upper limit of a derived binding leaves room for a default in range. -/
theorem exists_high {d : InputDeclaration (Exact K)} {base : K}
    (hmax : d.max.all (·.isAbove (number base))) :
    ∃ high : K,
      (finiteBound? d.max).getD
        (Scalar.greater 1.0 (Scalar.magnitude (number base) * 4.0)) = number high ∧
      base ≤ high := by
  rcases finiteBound?_cases d.max with hnone | ⟨high, hdeclared, hsome⟩
  · refine ⟨max 1 (|base| * 4.0), by simp [hnone], ?_⟩
    calc base ≤ |base| := le_abs_self base
      _ ≤ |base| * 4.0 := le_mul_of_one_le_right (abs_nonneg base) (by norm_num)
      _ ≤ max 1 (|base| * 4.0) := le_max_right _ _
  · rw [hdeclared] at hmax
    exact ⟨high, by rw [hsome, Option.getD_some], of_decide_eq_true hmax⟩

/-- At rest a derived binding puts out the default of its input, if that is in range. -/
theorem output_bind {d : InputDeclaration (Exact K)} {r : Rule (Exact K)} (hr : ruleFor? d = some r)
    {base : K} (hdefault : d.defaultValue = some (.number (number base))) (hrange : d.inRange) :
    (BindingEntry.ofSpec (r.bind d) .auto).output = number base := by
  have hinert := inert_of_mem_rules r (mem_rules_of_ruleFor? hr).1
  obtain ⟨multiplier, hmultiplier⟩ := isFinite_iff.mp hinert.multiplier
  have hbase : baseOf d = number base := by rw [baseOf, hdefault]
  rw [InputDeclaration.inRange, hdefault, Bool.and_eq_true] at hrange
  obtain ⟨low, hmin, hlow⟩ := exists_low hrange.1
  obtain ⟨high, hmax, hhigh⟩ := exists_high hrange.2
  have hmin' : (r.bind d).min = number low := by rw [Rule.bind, hbase, hmin]
  have hmax' : (r.bind d).max = number high := by rw [Rule.bind, hbase, hmax]
  have hbetween : low ≤ high := hlow.trans hhigh
  change (r.bind d).normalize.modulate 0.0 = number base
  rw [zero_eq]
  refine BindingSpec.modulate_zero ?_ hmultiplier hbase ?_ ?_ hlow hhigh
  · exact hinert.kind.imp (congrArg Modulation.name) (congrArg Modulation.name)
  · change Scalar.lesser (r.bind d).min (r.bind d).max = _
    rw [hmin', hmax', lesser_number, min_eq_left hbetween]
  · change Scalar.greater (r.bind d).min (r.bind d).max = _
    rw [hmin', hmax', greater_number, max_eq_right hbetween]

end AutoBind

end LiveVisuals
