import LiveVisuals.Proofs.Scalar.Exact

/-!
# Comparing values that may be undefined

The order of exact values, with what is not defined standing apart: it is neither below nor above
anything, and there is no lesser and no greater of it and anything else. Everything else is in
order, infinities included, so that clamping leads between limits that are in order and rounding
keeps the order.

Main results:

- Theorem {lit}`Exact.clamp_mem`: what is defined is clamped into the interval, infinite ends
  included.
- Theorem {lit}`Exact.not_lt_clamp`: whether defined or not, clamped values are not outside of
  limits that are in order.
- Theorem {lit}`Exact.roundInt_number`: half a unit up and then down to a whole number is rounding
  with halves going up.
- Theorem {lit}`Exact.not_round_lt_round`: rounding keeps the order.
-/

namespace LiveVisuals.Exact

variable {K : Type} [LinearOrder K]

/-! ## Order -/

/-- Defined values are in order. -/
theorem le_of_not_lt {x y : Exact K} (hx : x ≠ undefined) (hy : y ≠ undefined) (h : ¬x < y) :
    y ≤ x := by
  cases x with
  | number a =>
      cases y with
      | number b => exact not_lt.mp h
      | infinite n => cases n <;> simp_all
      | undefined => exact absurd rfl hy
  | infinite m =>
      cases y with
      | number b => cases m <;> simp_all
      | infinite n =>
          cases m with
          | false => exact .inr rfl
          | true =>
              cases n with
              | false => exact absurd ⟨rfl, rfl⟩ h
              | true => exact .inl rfl
      | undefined => exact absurd rfl hy
  | undefined => exact absurd rfl hx

theorem le_of_lt {x y : Exact K} (h : x < y) : x ≤ y := by
  cases x with
  | number a =>
      cases y with
      | number b => exact (number_lt_number.mp h).le
      | infinite n => exact h
      | undefined => exact h.elim
  | infinite m =>
      cases y with
      | number b => exact h
      | infinite n => exact .inl h.1
      | undefined => exact h.elim
  | undefined => exact h.elim

@[simp] theorem not_undefined_lt {x : Exact K} : ¬undefined < x := by
  cases x <;> exact id

protected theorem lt_asymm {x y : Exact K} (h : x < y) : ¬y < x := by
  cases x with
  | number a =>
      cases y with
      | number b => exact lt_asymm (number_lt_number.mp h)
      | infinite n => cases n <;> simp_all
      | undefined => exact not_undefined_lt
  | infinite m =>
      cases y with
      | number b => cases m <;> simp_all
      | infinite n => exact fun h' => Bool.noConfusion (h.2.symm.trans h'.1)
      | undefined => exact not_undefined_lt
  | undefined => exact absurd h not_undefined_lt

protected theorem lt_irrefl (x : Exact K) : ¬x < x :=
  fun h => Exact.lt_asymm h h

theorem not_lt_of_le {x y : Exact K} (h : x ≤ y) : ¬y < x := by
  cases x with
  | number a =>
      cases y with
      | number b => exact not_lt.mpr (number_le_number.mp h)
      | infinite n => cases n <;> simp_all
      | undefined => exact not_undefined_lt
  | infinite m =>
      cases y with
      | number b => cases m <;> simp_all
      | infinite n =>
          intro h'
          rcases h with hm | hn
          · exact Bool.noConfusion (hm.symm.trans h'.2)
          · exact Bool.noConfusion (hn.symm.trans h'.1)
      | undefined => exact not_undefined_lt
  | undefined => exact not_lt_undefined

/-- Defined values neither of which is below the other are the same. -/
theorem eq_of_not_lt {x y : Exact K} (hx : x ≠ undefined) (hy : y ≠ undefined) (h : ¬x < y)
    (h' : ¬y < x) : x = y := by
  cases x with
  | number a =>
      cases y with
      | number b => exact congrArg number (le_antisymm (not_lt.mp h') (not_lt.mp h))
      | infinite n => cases n <;> simp_all
      | undefined => exact absurd rfl hy
  | infinite m =>
      cases y with
      | number b => cases m <;> simp_all
      | infinite n =>
          cases m with
          | false => cases n with
            | false => rfl
            | true => exact absurd ⟨rfl, rfl⟩ h'
          | true => cases n with
            | false => exact absurd ⟨rfl, rfl⟩ h
            | true => rfl
      | undefined => exact absurd rfl hy
  | undefined => exact absurd rfl hx

variable [Field K] [FloorRing K] [Base K]

/-! ## The greater and the lesser -/

/-- All values but the undefined one are defined. -/
theorem isUndefined_eq_false_iff {x : Exact K} : Scalar.isUndefined x = false ↔ x ≠ undefined := by
  cases x <;> simp

/-- The lesser of two defined values is one of them, and at most both. -/
theorem lesser_spec {x y : Exact K} (hx : x ≠ undefined) (hy : y ≠ undefined) :
    (Scalar.lesser x y = x ∨ Scalar.lesser x y = y) ∧
      Scalar.lesser x y ≤ x ∧ Scalar.lesser x y ≤ y := by
  rw [Scalar.lesser, isUndefined_eq_false_iff.mpr hx, isUndefined_eq_false_iff.mpr hy]
  simp only [Bool.false_eq_true, if_false]
  split
  · next h => exact ⟨.inr rfl, le_of_lt h, Exact.le_self_iff.mpr hy⟩
  · next h => exact ⟨.inl rfl, Exact.le_self_iff.mpr hx, le_of_not_lt hy hx h⟩

/-- The greater of two defined values is one of them, and at least both. -/
theorem greater_spec {x y : Exact K} (hx : x ≠ undefined) (hy : y ≠ undefined) :
    (Scalar.greater x y = x ∨ Scalar.greater x y = y) ∧
      x ≤ Scalar.greater x y ∧ y ≤ Scalar.greater x y := by
  rw [Scalar.greater, isUndefined_eq_false_iff.mpr hx, isUndefined_eq_false_iff.mpr hy]
  simp only [Bool.false_eq_true, if_false]
  split
  · next h => exact ⟨.inr rfl, le_of_lt h, Exact.le_self_iff.mpr hy⟩
  · next h => exact ⟨.inl rfl, Exact.le_self_iff.mpr hx, le_of_not_lt hx hy h⟩

/-- The lesser of two defined values is at most the greater. -/
theorem lesser_le_greater {x y : Exact K} (hx : x ≠ undefined) (hy : y ≠ undefined) :
    Scalar.lesser x y ≤ Scalar.greater x y :=
  Exact.le_trans (lesser_spec hx hy).2.1 (greater_spec hx hy).2.1

/-- What is defined is clamped into the interval, infinite ends included. -/
theorem clamp_mem {x low high : Exact K} (hx : x ≠ undefined) (h : low ≤ high) :
    low ≤ Scalar.clamp x low high ∧ Scalar.clamp x low high ≤ high := by
  have hlow : low ≠ undefined := by
    rintro rfl
    exact not_undefined_le h
  have hhigh : high ≠ undefined := by
    rintro rfl
    exact not_le_undefined h
  obtain ⟨hcases, -, habove⟩ := greater_spec hx hlow
  have hdefined : Scalar.greater x low ≠ undefined := by
    rcases hcases with heq | heq <;> rw [heq] <;> assumption
  obtain ⟨hcases, -, hbelow⟩ := lesser_spec hdefined hhigh
  refine ⟨?_, hbelow⟩
  rw [Scalar.clamp]
  rcases hcases with heq | heq <;> rw [heq] <;> assumption

/-- There is no lesser and no greater of two values one of which is not defined. -/
theorem lesser_greater_of_undefined {x y : Exact K} (h : x = undefined ∨ y = undefined) :
    Scalar.lesser x y = undefined ∧ Scalar.greater x y = undefined := by
  by_cases hx : x = undefined
  · simp [Scalar.lesser, Scalar.greater, hx]
  · have hdefined := isUndefined_eq_false_iff.mpr hx
    have hy : y = undefined := h.resolve_left hx
    simp [Scalar.lesser, Scalar.greater, hdefined, hy]

/-- The lesser and the greater of two values in order. -/
theorem lesser_greater_of_not_lt {x y : Exact K} (hx : x ≠ undefined) (hy : y ≠ undefined)
    (h : ¬y < x) : Scalar.lesser x y = x ∧ Scalar.greater x y = y := by
  have hx' := isUndefined_eq_false_iff.mpr hx
  have hy' := isUndefined_eq_false_iff.mpr hy
  by_cases hlt : x < y
  · simp [Scalar.lesser, Scalar.greater, hx', hy', h, hlt]
  · obtain rfl := eq_of_not_lt hx hy hlt h
    simp [Scalar.lesser, Scalar.greater]

/-- The lesser and the greater of two values out of order. -/
theorem lesser_greater_of_lt {x y : Exact K} (h : y < x) :
    Scalar.lesser x y = y ∧ Scalar.greater x y = x := by
  have hx : x ≠ undefined := by
    rintro rfl
    exact not_lt_undefined h
  have hy : y ≠ undefined := by
    rintro rfl
    exact not_undefined_lt h
  have hx' := isUndefined_eq_false_iff.mpr hx
  have hy' := isUndefined_eq_false_iff.mpr hy
  simp [Scalar.lesser, Scalar.greater, hx', hy', h, Exact.lt_asymm h]

/-- Nothing is clamped between values one of which is not defined, and what is not defined is not
clamped either. -/
theorem clamp_eq_undefined {x low high : Exact K}
    (h : x = undefined ∨ low = undefined ∨ high = undefined) :
    Scalar.clamp x low high = undefined := by
  by_cases hhigh : high = undefined
  · exact (lesser_greater_of_undefined (.inr hhigh)).1
  · have hgreater : x = undefined ∨ low = undefined := by
      rcases h with hx | hlow | hhigh'
      · exact .inl hx
      · exact .inr hlow
      · exact absurd hhigh' hhigh
    exact (lesser_greater_of_undefined (.inl (lesser_greater_of_undefined hgreater).2)).1

/-- Clamped values are not outside of limits that are in order. -/
theorem not_lt_clamp {x low high : Exact K} (h : ¬high < low) :
    ¬Scalar.clamp x low high < low ∧ ¬high < Scalar.clamp x low high := by
  by_cases hundefined : x = undefined ∨ low = undefined ∨ high = undefined
  · rw [clamp_eq_undefined hundefined]
    exact ⟨not_undefined_lt, not_lt_undefined⟩
  · simp only [not_or] at hundefined
    obtain ⟨hx, hlow, hhigh⟩ := hundefined
    obtain ⟨habove, hbelow⟩ := clamp_mem hx (le_of_not_lt hhigh hlow h)
    exact ⟨not_lt_of_le habove, not_lt_of_le hbelow⟩

/-! ## Rounding -/

variable [IsStrictOrderedRing K]

/-- Half a unit up and then down to a whole number is rounding with halves going up. -/
theorem roundInt_number (x : K) : Scalar.roundInt (number x) = ⌊x + 1 / 2⌋ := by
  have hfloor : Scalar.floor (number x) = ⌊x⌋ := rfl
  have hlow := Int.floor_le x
  have hhigh := Int.lt_floor_add_one x
  have hhalf : (0.5 : K) = 1 / 2 := by norm_num
  simp only [Scalar.roundInt, hfloor, ofInt_eq, number_sub, ofScientific_eq, number_le_number,
    hhalf]
  symm
  split
  · next hup =>
      rw [Int.floor_eq_iff]
      push_cast
      constructor <;> linarith
  · next hdown =>
      rw [Int.floor_eq_iff]
      constructor <;> linarith

/-- A number is rounded to the whole number below it and a half. -/
theorem round_number (x : K) : Scalar.round (number x) = number (⌊x + 1 / 2⌋ : K) := by
  rw [Scalar.round, if_pos (isFinite_number x), roundInt_number, ofInt_eq]

omit [IsStrictOrderedRing K] in
@[simp] theorem round_infinite (n : Bool) : Scalar.round (infinite n : Exact K) = infinite n := rfl

omit [IsStrictOrderedRing K] in
@[simp] theorem round_undefined : Scalar.round (undefined : Exact K) = undefined := rfl

/-- Rounding keeps the order. -/
theorem not_round_lt_round {x y : Exact K} (h : ¬x < y) : ¬Scalar.round x < Scalar.round y := by
  cases x with
  | number a =>
      cases y with
      | number b =>
          have hround : ⌊b + 1 / 2⌋ ≤ ⌊a + 1 / 2⌋ := by
            apply Int.floor_le_floor
            exact add_le_add_left (not_lt.mp h) _
          rw [round_number, round_number, number_lt_number, not_lt]
          exact Int.cast_le.mpr hround
      | infinite n =>
          rw [round_number, round_infinite]
          exact h
      | undefined => exact not_lt_undefined
  | infinite m =>
      cases y with
      | number b =>
          rw [round_number, round_infinite]
          exact h
      | infinite n => exact h
      | undefined => exact not_lt_undefined
  | undefined => exact not_undefined_lt

end LiveVisuals.Exact
