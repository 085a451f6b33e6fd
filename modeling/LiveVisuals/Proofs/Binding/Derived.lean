import LiveVisuals.Proofs.Binding.AtRest
import LiveVisuals.Proofs.Binding.Range
import LiveVisuals.Shader.Resolve

/-!
# Derived bindings and declared limits

A derived binding has the limits that are declared for its input. Where one is not declared it is
made up from the default, without a look at the other, and the table then puts the two in order. So
the declared limits are kept as long as no limit that is made up lies beyond a declared one; where
one does, the two change places, and a declared lower limit becomes the upper one. Integers are
rounded after they have been brought between the limits, which loses a limit that is rounded to its
outer side.

What is not defined is neither below nor above anything. This is what a binding puts out whose
resting value is not defined, so that no default has to be excluded here.

Main definitions:

- {lit}`AutoBind.lowerLimit`, {lit}`AutoBind.upperLimit`: the limits of a derived binding.
- {lit}`AutoBind.KeepsLimits`: inputs whose declared limits come into force.

Main results:

- Theorem {lit}`BindingSpec.modulate_normalize`: what is put out, for limits in order and not.
- Theorem {lit}`AutoBind.declared_limits_kept`: the value of a bound input is not outside of its
  declared limits, if these come into force.
- Theorem {lit}`AutoBind.declared_limits_lost`: two inputs whose values are outside of theirs.
-/

namespace LiveVisuals

open Exact

variable {K : Type} [Field K] [LinearOrder K] [FloorRing K] [Base K]

/-! ## Outputs -/

namespace BindingSpec

/-- What is put out is not outside of limits that are in order. -/
theorem modulate_not_outside {b : BindingSpec (Exact K)} (h : ¬b.max < b.min) (s : Exact K) :
    ¬b.modulate s < b.min ∧ ¬b.max < b.modulate s := by
  unfold modulate
  split
  · split
    · exact ⟨h, Exact.lt_irrefl b.max⟩
    · exact ⟨Exact.lt_irrefl b.min, h⟩
  · exact not_lt_clamp h

/-- Nothing is put out between limits that are not defined. -/
theorem modulate_eq_undefined {b : BindingSpec (Exact K)} (hmin : b.min = undefined)
    (hmax : b.max = undefined) (s : Exact K) : b.modulate s = undefined := by
  unfold modulate
  split
  · split <;> assumption
  · exact clamp_eq_undefined (.inr (.inl hmin))

/-- Once the limits of a binding have been put in order, what is put out is not outside of them,
in whichever order they were. -/
theorem modulate_normalize (b : BindingSpec (Exact K)) (s : Exact K) :
    (¬b.max < b.min → ¬b.normalize.modulate s < b.min ∧ ¬b.max < b.normalize.modulate s) ∧
      (b.max < b.min → ¬b.normalize.modulate s < b.max ∧ ¬b.min < b.normalize.modulate s) := by
  have hmin : b.normalize.min = Scalar.lesser b.min b.max := rfl
  have hmax : b.normalize.max = Scalar.greater b.min b.max := rfl
  constructor
  · intro h
    by_cases hundefined : b.min = undefined ∨ b.max = undefined
    · obtain ⟨hlesser, hgreater⟩ := lesser_greater_of_undefined hundefined
      rw [modulate_eq_undefined (hmin.trans hlesser) (hmax.trans hgreater)]
      exact ⟨not_undefined_lt, not_lt_undefined⟩
    · obtain ⟨hdefined, hdefined'⟩ := not_or.mp hundefined
      obtain ⟨hlesser, hgreater⟩ := lesser_greater_of_not_lt hdefined hdefined' h
      rw [hlesser] at hmin
      rw [hgreater] at hmax
      have hinside := modulate_not_outside (b := b.normalize) (by rwa [hmin, hmax]) s
      rwa [hmin, hmax] at hinside
  · intro h
    obtain ⟨hlesser, hgreater⟩ := lesser_greater_of_lt h
    rw [hlesser] at hmin
    rw [hgreater] at hmax
    have hinside := modulate_not_outside (b := b.normalize)
      (by rw [hmin, hmax]; exact Exact.lt_asymm h) s
    rwa [hmin, hmax] at hinside

end BindingSpec

/-! ## Derived bindings -/

namespace AutoBind

/-- The lower limit of a derived binding: the declared one, or one that leaves room for the
default. -/
def lowerLimit (d : InputDeclaration (Exact K)) : Exact K :=
  (finiteBound? d.min).getD (Scalar.lesser 0.0 (baseOf d))

/-- The upper limit of a derived binding: the declared one, or one that leaves room for the
default. -/
def upperLimit (d : InputDeclaration (Exact K)) : Exact K :=
  (finiteBound? d.max).getD (Scalar.greater 1.0 (Scalar.magnitude (baseOf d) * 4.0))

/-- The declared limits of an input come into force: no limit is made up beyond a declared one, and
if values are rounded, then limits are not rounded to their outer sides. -/
structure KeepsLimits (d : InputDeclaration (Exact K)) : Prop where
  order : ¬upperLimit d < lowerLimit d
  min : d.type = .integer → ∀ low, finiteBound? d.min = some low → low ≤ Scalar.round low
  max : d.type = .integer → ∀ high, finiteBound? d.max = some high → Scalar.round high ≤ high

/-- The lower limit is the declared one, if there is one. -/
theorem lowerLimit_of_declared {d : InputDeclaration (Exact K)} {low : Exact K}
    (h : finiteBound? d.min = some low) : lowerLimit d = low := by
  rw [lowerLimit, h, Option.getD_some]

/-- The upper limit is the declared one, if there is one. -/
theorem upperLimit_of_declared {d : InputDeclaration (Exact K)} {high : Exact K}
    (h : finiteBound? d.max = some high) : upperLimit d = high := by
  rw [upperLimit, h, Option.getD_some]

/-- The value of an input that can be bound: what is put out, rounded if it is an integer. -/
def valueOf (d : InputDeclaration (Exact K)) (v : Exact K) : Exact K :=
  if d.type = .integer then Scalar.round v else v

/-- The slot of an input that can be bound takes what is put out. -/
theorem coerceScalar_of_isBindable {d : InputDeclaration (Exact K)} (h : isBindable d.type)
    (v : Exact K) : coerceScalar d.type.glslType v = some (.number (valueOf d v)) := by
  unfold valueOf
  generalize d.type = type at h
  cases type with
  | scalar => rfl
  | integer => rfl
  | _ => cases h

variable [IsStrictOrderedRing K]

/-- What is put out between limits that are kept comes to a value that is not outside of them. -/
theorem KeepsLimits.not_outside {d : InputDeclaration (Exact K)} (h : KeepsLimits d)
    {v : Exact K} (hlow : ¬v < lowerLimit d) (hhigh : ¬upperLimit d < v) :
    (∀ low, finiteBound? d.min = some low → ¬valueOf d v < low) ∧
      ∀ high, finiteBound? d.max = some high → ¬high < valueOf d v := by
  constructor
  · intro low hdeclared
    rw [lowerLimit_of_declared hdeclared] at hlow
    unfold valueOf
    split
    · next hinteger =>
      have hround := h.min hinteger low hdeclared
      by_cases hvalue : Scalar.round v = undefined
      · rw [hvalue]
        exact not_undefined_lt
      · have hlimit : Scalar.round low ≠ undefined := by
          intro heq
          rw [heq] at hround
          exact not_le_undefined hround
        apply not_lt_of_le
        exact Exact.le_trans hround (le_of_not_lt hvalue hlimit (not_round_lt_round hlow))
    · exact hlow
  · intro high hdeclared
    rw [upperLimit_of_declared hdeclared] at hhigh
    unfold valueOf
    split
    · next hinteger =>
      have hround := h.max hinteger high hdeclared
      by_cases hvalue : Scalar.round v = undefined
      · rw [hvalue]
        exact not_lt_undefined
      · have hlimit : Scalar.round high ≠ undefined := by
          intro heq
          rw [heq] at hround
          exact not_undefined_le hround
        apply not_lt_of_le
        exact Exact.le_trans (le_of_not_lt hlimit hvalue (not_round_lt_round hhigh)) hround
    · exact hhigh

/-- What is computed for an input whose binding was derived. Of a list of inputs, take one that
follows a rule, and any table to which its binding has been added, and whatever other bindings and
frames have come since. The input has a value, whatever the next frame is. If the declared limits of
the input come into force, its value is not outside of them. If a limit that was made up lies beyond
the declared one, what is put out is between the two the other way round. -/
theorem declared_limits_kept {inputs : List (InputDeclaration (Exact K))}
    {d : InputDeclaration (Exact K)} (hd : d ∈ inputs) {r : Rule (Exact K)}
    (hr : ruleFor? d = some r) :
    r.bind d ∈ derive inputs ∧
      ∀ (xs zs : List (BindingTable.Act (Exact K))) (origin : BindingOrigin)
        (f : Audio.Frame (Exact K)), BindingTable.BoundSince d.name xs (r.bind d) origin zs →
      ∃ v y, ((BindingTable.run xs).compute d.name f).2 = some v ∧
        coerceScalar d.type.glslType v = some (.number y) ∧
        (KeepsLimits d →
          (∀ low, finiteBound? d.min = some low → ¬y < low) ∧
            ∀ high, finiteBound? d.max = some high → ¬high < y) ∧
        (upperLimit d < lowerLimit d → ¬v < upperLimit d ∧ ¬lowerLimit d < v) := by
  refine ⟨List.mem_filterMap.mpr ⟨d, hd, by rw [hr, Option.map_some]⟩, ?_⟩
  intro xs zs origin f hsince
  have hentry := BindingTable.get?_run_eq_some_iff.mpr ⟨r.bind d, origin, zs, hsince, rfl⟩
  generalize heq : (zs.filterMap (·.frame? d.name)).foldl BindingEntry.advance
    (.ofSpec (r.bind d) origin) = e at hentry
  have hbinding : e.binding = { (r.bind d).normalize with origin := origin } := by
    rw [← heq, BindingTable.binding_foldl_advance]
    rfl
  have hcompute : ((BindingTable.run xs).compute d.name f).2 =
      some ((r.bind d).normalize.modulate (e.advance f).smoothed) := by
    rw [BindingTable.snd_compute, hentry, Option.map_some]
    change some (e.binding.toBindingSpec.modulate _) = _
    rw [hbinding]
  obtain ⟨hordered, hswapped⟩ := (r.bind d).modulate_normalize (e.advance f).smoothed
  have hbindable := (mem_rules_of_ruleFor? hr).2
  refine ⟨_, _, hcompute, coerceScalar_of_isBindable hbindable _, ?_, hswapped⟩
  intro hkeeps
  obtain ⟨hlow, hhigh⟩ := hordered hkeeps.order
  exact hkeeps.not_outside hlow hhigh

/-- The rule for inputs that speak of kicks. -/
def pulseRule : Rule (Exact ℚ) := ⟨"pulse", ["pulse", "kick", "punch"], .kickEnv, .add, 1.0, 0.3⟩

/-- The rule for inputs that speak of speed. -/
def speedRule : Rule (Exact ℚ) :=
  ⟨"speed", ["speed", "rate", "velocity"], .energyFast, .multiply, 1.0, 0.6⟩

/-- A number of kicks from 0 to 5, with a default that is above. -/
def kickCount : InputDeclaration (Exact ℚ) :=
  ⟨"kickCount", .integer, some (.number 7.0), some (.number 0.0), some (.number 5.0), none⟩

/-- A speed of at least 5, with the default of inputs that declare none. -/
def highSpeed : InputDeclaration (Exact ℚ) :=
  ⟨"speed", .scalar, some (.number 1.0), some (.number 5.0), none, none⟩

/-- A whole rate of at least 0.3, with a default that is below. -/
def wholeRate : InputDeclaration (Exact ℚ) :=
  ⟨"rate", .integer, some (.number 0.0), some (.number 0.3), some (.number 5.0), none⟩

/-- The number of kicks stays between its limits after two frames. -/
theorem declared_limits_kept_of_kicks :
    let kick : Audio.Frame (Exact ℚ) := { Audio.Frame.silent with kickEnv := 1.0 }
    let zs : List (BindingTable.Act (Exact ℚ)) := [.computeAll kick, .compute "kickCount" .silent]
    let xs := .add (pulseRule.bind kickCount) .auto :: zs
    ruleFor? kickCount = some pulseRule ∧ KeepsLimits kickCount ∧
      BindingTable.BoundSince "kickCount" xs (pulseRule.bind kickCount) .auto zs ∧
      ∃ v y, ((BindingTable.run xs).compute "kickCount" kick).2 = some v ∧
        coerceScalar .int v = some (.number y) ∧ ¬y < 0.0 ∧ ¬5.0 < y := by
  intro kick zs xs
  have hrule : ruleFor? kickCount = some pulseRule := by cbv
  have hkeeps : KeepsLimits kickCount := by
    refine ⟨by decide +kernel, fun _ low hlow => ?_, fun _ high hhigh => ?_⟩
    · cases hlow
      decide +kernel
    · cases hhigh
      decide +kernel
  have hsince : BindingTable.BoundSince "kickCount" xs (pulseRule.bind kickCount) .auto zs :=
    ⟨[], rfl, rfl, by decide⟩
  obtain ⟨v, y, hv, hy, hinside, -⟩ :=
    (declared_limits_kept (List.mem_singleton_self kickCount) hrule).2 xs zs .auto kick hsince
  obtain ⟨hlow, hhigh⟩ := hinside hkeeps
  exact ⟨hrule, hkeeps, hsince, v, y, hv, hy, hlow _ rfl, hhigh _ rfl⟩

/-- When nothing is heard the speed is 4: its upper limit was made up as 4, and became the lower
one. And the rate, brought up to its lower limit, is then rounded to 0. -/
theorem declared_limits_lost :
    (ruleFor? highSpeed = some speedRule ∧ finiteBound? highSpeed.min = some 5.0 ∧
      ((BindingTable.run [.add (speedRule.bind highSpeed) .auto]).compute "speed" .silent).2 =
        some 4.0 ∧
      coerceScalar .float (4.0 : Exact ℚ) = some (.number 4.0) ∧ (4.0 : Exact ℚ) < 5.0) ∧
    (ruleFor? wholeRate = some speedRule ∧ finiteBound? wholeRate.min = some 0.3 ∧
      ((BindingTable.run [.add (speedRule.bind wholeRate) .auto]).compute "rate" .silent).2 =
        some 0.3 ∧
      coerceScalar .int (0.3 : Exact ℚ) = some (.number 0.0) ∧ (0.0 : Exact ℚ) < 0.3) := by
  have hround : Scalar.round (0.3 : Exact ℚ) = 0.0 := by decide +kernel
  refine ⟨⟨by cbv, rfl, by decide +kernel, rfl, by decide +kernel⟩, by cbv, rfl,
    by decide +kernel, ?_, by decide +kernel⟩
  rw [coerceScalar, hround]

end AutoBind

end LiveVisuals
