import LiveVisuals.Scalar

/-!
# Comparing floating point numbers

Floating point numbers are in order, zeros and infinities included, except for those that are not
defined. So clamping leads into an interval, and what is between two finite numbers is finite.

Main results:

- Theorem {lit}`Floating.le_of_not_lt`: defined numbers are in order.
- Theorem {lit}`Floating.clamp_mem`: what is defined is clamped into the interval.
- Theorem {lit}`Floating.isFinite_of_between`: what is between finite numbers is finite.
-/

namespace LiveVisuals.Floating

open Float.Model (UnpackedFloat)
open Scalar

/-! ## Comparison -/

/-- Compared the other way round, numbers are in the opposite order. -/
theorem compare_swap (u v : UnpackedFloat) : v.compare u = (u.compare v).map Ordering.swap := by
  cases u with
  | notANumber => cases v <;> rfl
  | infinity s =>
      cases v with
      | infinity t => cases s <;> cases t <;> rfl
      | _ => cases s <;> rfl
  | zero s =>
      cases v with
      | finite t => cases t <;> rfl
      | infinity t => cases t <;> rfl
      | _ => rfl
  | finite s m e hm =>
      cases v with
      | notANumber => cases s <;> rfl
      | infinity t => cases s <;> cases t <;> rfl
      | zero t => cases s <;> rfl
      | finite t n f hn =>
          -- Of two numbers with the same sign the exponents decide first.
          have hswap :
              ((compare e f).then (compare m n)).swap = (compare f e).then (compare n m) := by
            have hexponent : compare f e = (compare e f).swap := Std.OrientedCmp.eq_swap
            have hmantissa : compare n m = (compare m n).swap := Std.OrientedCmp.eq_swap
            rw [Ordering.swap_then, hexponent, hmantissa]
          cases s <;> cases t
          · exact congrArg some (by rw [hswap])
          · rfl
          · rfl
          · exact congrArg some (by rw [hswap])

/-- Only what is not defined cannot be compared. -/
theorem exists_compare {u v : UnpackedFloat} (hu : u ≠ .notANumber) (hv : v ≠ .notANumber) :
    ∃ o, u.compare v = some o := by
  cases u with
  | notANumber => exact absurd rfl hu
  | infinity s =>
      cases v with
      | notANumber => exact absurd rfl hv
      | _ => cases s <;> exact ⟨_, rfl⟩
  | zero s =>
      cases v with
      | notANumber => exact absurd rfl hv
      | zero t => exact ⟨_, rfl⟩
      | infinity t | finite t => cases t <;> exact ⟨_, rfl⟩
  | finite s =>
      cases v with
      | notANumber => exact absurd rfl hv
      | zero t => cases s <;> exact ⟨_, rfl⟩
      | infinity t | finite t => cases s <;> cases t <;> exact ⟨_, rfl⟩

/-- What is defined is a number. -/
theorem ne_of_defined {x : Float} (h : isUndefined x = false) :
    x.toModel.unpack ≠ .notANumber := by
  intro hx
  have hself : (x == x) = true := by simpa [isUndefined] using h
  have hmodel : x.toModel.unpack.beq x.toModel.unpack = true := hself
  rw [hx] at hmodel
  cases hmodel

theorem lt_iff {x y : Float} :
    x < y ↔ x.toModel.unpack.compare y.toModel.unpack = some .lt := by
  have hdecide : x < y ↔ x.toModel.unpack.lt y.toModel.unpack = true := decide_eq_true_iff
  rw [hdecide, UnpackedFloat.lt, beq_iff_eq]

theorem le_iff {x y : Float} : x ≤ y ↔ x.toModel.unpack.le y.toModel.unpack = true :=
  decide_eq_true_iff

/-- Of two numbers the first is below the second, or the second is at most the first. -/
theorem le_of_not_lt {x y : Float} (hx : isUndefined x = false) (hy : isUndefined y = false)
    (h : ¬x < y) : y ≤ x := by
  obtain ⟨o, ho⟩ := exists_compare (ne_of_defined hx) (ne_of_defined hy)
  rw [le_iff, UnpackedFloat.le, compare_swap, ho]
  rw [lt_iff, ho] at h
  cases o with
  | lt => exact absurd rfl h
  | eq => rfl
  | gt => rfl

theorem le_of_lt {x y : Float} (h : x < y) : x ≤ y := by
  rw [le_iff, UnpackedFloat.le, lt_iff.mp h]
  rfl

theorem le_self {x : Float} (hx : isUndefined x = false) : x ≤ x := by
  by_cases h : x < x
  · exact le_of_lt h
  · exact le_of_not_lt hx hx h

/-- What is between finite numbers is finite. -/
theorem isFinite_of_between {x low high : Float} (hlow : isFinite low = true)
    (hhigh : isFinite high = true) (hlx : low ≤ x) (hxh : x ≤ high) : isFinite x = true := by
  have hmodel (u v w : UnpackedFloat) (hu : u.isFinite = true) (hw : w.isFinite = true)
      (huv : u.le v = true) (hvw : v.le w = true) : v.isFinite = true := by
    cases v with
    | notANumber => cases w <;> cases hvw
    | zero s => rfl
    | finite s => rfl
    | infinity s =>
        cases s with
        | positive =>
            cases w with
            | infinity t => cases hw
            | _ => cases hvw
        | negative =>
            cases u with
            | infinity t => cases hu
            | notANumber => cases hu
            | zero t => cases huv
            | finite t => cases t <;> cases huv
  exact hmodel _ _ _ hlow hhigh (le_iff.mp hlx) (le_iff.mp hxh)

/-! ## The greater and the lesser -/

/-- The greater of two defined numbers is defined, and at least both. -/
theorem greater_spec {x y : Float} (hx : isUndefined x = false) (hy : isUndefined y = false) :
    isUndefined (greater x y) = false ∧ x ≤ greater x y ∧ y ≤ greater x y := by
  rw [greater, hx, hy]
  simp only [Bool.false_eq_true, if_false]
  split
  · next h => exact ⟨hy, le_of_lt h, le_self hy⟩
  · next h => exact ⟨hx, le_self hx, le_of_not_lt hx hy h⟩

/-- What is defined is clamped into the interval. -/
theorem clamp_mem {x low high : Float} (hx : isUndefined x = false)
    (hlow : isUndefined low = false) (hhigh : isUndefined high = false) (h : low ≤ high) :
    low ≤ clamp x low high ∧ clamp x low high ≤ high := by
  obtain ⟨hdefined, -, habove⟩ := greater_spec hx hlow
  rw [clamp, lesser, hdefined, hhigh]
  simp only [Bool.false_eq_true, if_false]
  split
  · exact ⟨h, le_self hhigh⟩
  · next hbelow => exact ⟨habove, le_of_not_lt hhigh hdefined hbelow⟩

end LiveVisuals.Floating
