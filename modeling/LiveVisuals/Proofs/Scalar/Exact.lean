import LiveVisuals.Proofs.Scalar.Whole

/-!
# Exact arithmetic

Numbers of an ordered field, computed with exactly, together with what floating point arithmetic
has beyond them: two infinities, and a value for what is not defined. Finite results are never
rounded and never overflow, and infinities go their way as they do in floating point. There is
one zero. A decimal that is too large for a floating point number is read as infinite.

Main definitions:

- {lit}`Exact`: numbers, infinities and the undefined value.
- {lit}`Exact.Base`: what a field has to offer beyond its operations and its order.
- the instance of {lit}`Scalar` for {lit}`Exact`.

Main results:

- Theorem {lit}`Exact.isFinite_iff`: the finite values are the numbers.
- Theorems {lit}`Exact.isFinite_add`, {lit}`Exact.isFinite_sub`, {lit}`Exact.isFinite_mul`: sums,
  differences and products are finite if and only if both parts are.
- Theorems {lit}`Exact.greater_number`, {lit}`Exact.lesser_number`, {lit}`Exact.clamp_number`:
  the greater, the lesser and the nearest of numbers.
- Theorem {lit}`Exact.lt_sub_of_le`: what is some way above a value is so above every lesser one.
-/

namespace LiveVisuals

/-- A number, an infinity, or what is not defined. -/
inductive Exact (K : Type) where
  | number (x : K)
  | infinite (negative : Bool)
  | undefined
deriving DecidableEq

namespace Exact

variable {K : Type}

/-- What a field has to offer beyond its operations and its order. -/
class Base (K : Type) where
  sine : K → K
  text : K → String

/-! ## Order -/

section Order

variable [LinearOrder K]

/-- The order; the undefined value is not comparable with anything. -/
protected def lt : Exact K → Exact K → Prop
  | number x, number y => x < y
  | number _, infinite n => n = false
  | infinite m, number _ => m = true
  | infinite m, infinite n => m = true ∧ n = false
  | _, _ => False

/-- The order; the undefined value is not even comparable with itself. -/
protected def le : Exact K → Exact K → Prop
  | number x, number y => x ≤ y
  | number _, infinite n => n = false
  | infinite m, number _ => m = true
  | infinite m, infinite n => m = true ∨ n = false
  | _, _ => False

/-- Equality, from which the undefined value is exempt. -/
protected def beq : Exact K → Exact K → Bool
  | number x, number y => decide (x = y)
  | infinite m, infinite n => m == n
  | _, _ => false

instance : LT (Exact K) := ⟨Exact.lt⟩

instance : LE (Exact K) := ⟨Exact.le⟩

instance : BEq (Exact K) := ⟨Exact.beq⟩

/-- Whether one value is below another. -/
protected def decideLT : (x y : Exact K) → Decidable (x < y)
  | number x, number y => inferInstanceAs (Decidable (x < y))
  | number _, infinite n => inferInstanceAs (Decidable (n = false))
  | infinite m, number _ => inferInstanceAs (Decidable (m = true))
  | infinite m, infinite n => inferInstanceAs (Decidable (m = true ∧ n = false))
  | undefined, _ | number _, undefined | infinite _, undefined => .isFalse id

/-- Whether one value is at most another. -/
protected def decideLE : (x y : Exact K) → Decidable (x ≤ y)
  | number x, number y => inferInstanceAs (Decidable (x ≤ y))
  | number _, infinite n => inferInstanceAs (Decidable (n = false))
  | infinite m, number _ => inferInstanceAs (Decidable (m = true))
  | infinite m, infinite n => inferInstanceAs (Decidable (m = true ∨ n = false))
  | undefined, _ | number _, undefined | infinite _, undefined => .isFalse id

@[simp] theorem number_lt_number {x y : K} : number x < number y ↔ x < y := Iff.rfl

@[simp] theorem number_le_number {x y : K} : number x ≤ number y ↔ x ≤ y := Iff.rfl

@[simp] theorem number_lt_infinite {x : K} {n : Bool} : number x < infinite n ↔ n = false :=
  Iff.rfl

@[simp] theorem infinite_lt_number {m : Bool} {y : K} : infinite m < number y ↔ m = true :=
  Iff.rfl

@[simp] theorem not_lt_undefined {x : Exact K} : ¬x < undefined := by
  cases x <;> exact id

@[simp] theorem number_le_infinite {x : K} {n : Bool} : number x ≤ infinite n ↔ n = false :=
  Iff.rfl

@[simp] theorem infinite_le_number {m : Bool} {y : K} : infinite m ≤ number y ↔ m = true :=
  Iff.rfl

@[simp] theorem infinite_le_infinite {m n : Bool} :
    (infinite m : Exact K) ≤ infinite n ↔ m = true ∨ n = false :=
  Iff.rfl

@[simp] theorem not_undefined_le {x : Exact K} : ¬undefined ≤ x := id

@[simp] theorem not_le_undefined {x : Exact K} : ¬x ≤ undefined := by
  cases x <;> exact id

protected theorem le_trans {x y z : Exact K} (hxy : x ≤ y) (hyz : y ≤ z) : x ≤ z := by
  cases x <;> cases y <;> cases z <;> simp_all
  · exact hxy.trans hyz
  · next m n => cases m <;> cases n <;> simp_all

/-- What is not above anything else is defined. -/
protected theorem le_self_iff {x : Exact K} : x ≤ x ↔ x ≠ undefined := by
  cases x with
  | number x => simp
  | infinite n => cases n <;> simp
  | undefined => simp

/-- What lies between two numbers is a number. -/
theorem exists_number_of_mem {x : Exact K} {low high : K} (hlow : number low ≤ x)
    (hhigh : x ≤ number high) : ∃ y, x = number y ∧ low ≤ y ∧ y ≤ high := by
  cases x with
  | number y => exact ⟨y, rfl, hlow, hhigh⟩
  | infinite n => exact absurd (hhigh.symm.trans hlow) Bool.noConfusion
  | undefined => exact hlow.elim

end Order

/-! ## Operations -/

section Operations

variable [Field K] [LinearOrder K]

/-- Whether a number is below zero. -/
def isNegative (x : K) : Bool := decide (x < 0)

/-- The sum; infinities of both signs have none. -/
protected def add : Exact K → Exact K → Exact K
  | number x, number y => number (x + y)
  | number _, infinite n => infinite n
  | infinite m, number _ => infinite m
  | infinite m, infinite n => if m = n then infinite m else undefined
  | _, _ => undefined

/-- The value of the other sign. -/
protected def neg : Exact K → Exact K
  | number x => number (-x)
  | infinite n => infinite (!n)
  | undefined => undefined

/-- The product; zero and an infinity have none. -/
protected def mul : Exact K → Exact K → Exact K
  | number x, number y => number (x * y)
  | number x, infinite n => if x = 0 then undefined else infinite (n ^^ isNegative x)
  | infinite m, number y => if y = 0 then undefined else infinite (m ^^ isNegative y)
  | infinite m, infinite n => infinite (m ^^ n)
  | _, _ => undefined

/-- The quotient. -/
protected def div : Exact K → Exact K → Exact K
  | number x, number y =>
      if y = 0 then (if x = 0 then undefined else infinite (isNegative x)) else number (x / y)
  | number _, infinite _ => number 0
  | infinite m, number y => infinite (m ^^ isNegative y)
  | _, _ => undefined

instance : Add (Exact K) := ⟨Exact.add⟩

instance : Neg (Exact K) := ⟨Exact.neg⟩

instance : Sub (Exact K) := ⟨fun x y => x + -y⟩

instance : Mul (Exact K) := ⟨Exact.mul⟩

instance : Div (Exact K) := ⟨Exact.div⟩

instance : OfScientific (Exact K) := ⟨fun m s e => number (OfScientific.ofScientific m s e)⟩

/-- The value of a decimal; one that no floating point number is near to is infinite. -/
def ofDecimal (d : Decimal) : Exact K :=
  if d.toFloat.isFinite then
    number ((if d.negative then -1 else 1) * d.digits * (10 : K) ^ d.exponent)
  else infinite d.negative

/-- The greatest whole number not above a number; none is sought for other values. -/
def floorOf [FloorRing K] : Exact K → Int
  | number x => ⌊x⌋
  | _ => 0

/-- The sine of a number; other values have none. -/
def sineOf [Base K] : Exact K → Exact K
  | number x => number (Base.sine x)
  | _ => undefined

/-- How a value is written. -/
def textOf [Base K] : Exact K → String
  | number x => Base.text x
  | infinite n => if n then "-Infinity" else "Infinity"
  | undefined => "NaN"

instance [FloorRing K] [Base K] : Scalar (Exact K) where
  decidableLT := Exact.decideLT
  decidableLE := Exact.decideLE
  isFinite
    | number _ => true
    | _ => false
  floor := floorOf
  sin := sineOf
  infinity := infinite false
  ofInt n := number (n : K)
  ofDecimal := ofDecimal
  text := textOf

end Operations

/-! ## Computing with numbers -/

section

variable [Field K]

@[simp 900] theorem ofScientific_eq (m : Nat) (s : Bool) (e : Nat) :
    (OfScientific.ofScientific m s e : Exact K) = number (OfScientific.ofScientific m s e) := rfl

@[simp] theorem zero_eq [CharZero K] : (0.0 : Exact K) = number 0 := congrArg number (by norm_num)

@[simp] theorem one_eq [CharZero K] : (1.0 : Exact K) = number 1 := congrArg number (by norm_num)

@[simp] theorem number_add (x y : K) : number x + number y = number (x + y) := rfl

@[simp] theorem infinite_add_number (m : Bool) (y : K) : infinite m + number y = infinite m := rfl

@[simp] theorem undefined_add (x : Exact K) : undefined + x = undefined := rfl

@[simp] theorem add_undefined (x : Exact K) : x + undefined = undefined := by
  cases x <;> rfl

@[simp] theorem neg_number (x : K) : -number x = number (-x) := rfl

@[simp] theorem number_sub (x y : K) : number x - number y = number (x - y) :=
  congrArg number (sub_eq_add_neg x y).symm

@[simp] theorem number_sub_infinite (x : K) (n : Bool) :
    number x - infinite n = infinite (!n) := rfl

@[simp] theorem infinite_sub_number (m : Bool) (y : K) : infinite m - number y = infinite m := rfl

@[simp] theorem infinite_sub_infinite (m n : Bool) :
    (infinite m : Exact K) - infinite n = if m = !n then infinite m else undefined := rfl

@[simp] theorem undefined_sub (x : Exact K) : undefined - x = undefined := rfl

@[simp] theorem sub_undefined (x : Exact K) : x - undefined = undefined := by
  cases x <;> rfl

@[simp] theorem number_mul [LinearOrder K] (x y : K) : number x * number y = number (x * y) := rfl

@[simp] theorem undefined_mul [LinearOrder K] (x : Exact K) : undefined * x = undefined := rfl

/-- An infinity times a positive number. -/
theorem infinite_mul_of_pos [LinearOrder K] (m : Bool) {y : K} (h : 0 < y) :
    infinite m * number y = infinite m := by
  change (if y = 0 then undefined else infinite (m ^^ decide (y < 0))) = infinite m
  simp [h.ne', not_lt.mpr h.le]

end

/-! ## Distances -/

section Distances

variable [Field K] [LinearOrder K] [IsStrictOrderedRing K]

/-- Adding what is not negative leads up, if anywhere. -/
theorem le_add_of_nonneg {x d : Exact K} (hx : x ≠ undefined)
    (hd : number 0 ≤ d) : x + d = undefined ∨ x ≤ x + d := by
  cases x with
  | number a =>
      cases d with
      | number b => exact .inr (le_add_of_nonneg_right (number_le_number.mp hd))
      | infinite n => exact .inr hd
      | undefined => exact .inl rfl
  | infinite m =>
      cases d with
      | number b => exact .inr (Exact.le_self_iff.mpr hx)
      | infinite n =>
          obtain rfl : n = false := hd
          cases m with
          | false => exact .inr (Exact.le_self_iff.mpr hx)
          | true => exact .inl rfl
      | undefined => exact .inl rfl
  | undefined => exact absurd rfl hx

/-- What is some way above a value is so above every lesser one. -/
theorem lt_sub_of_le {gap : K} {x y z : Exact K}
    (h : number gap < x - y) (hzy : z ≤ y) : number gap < x - z := by
  cases x with
  | number a =>
      cases y with
      | number b =>
          cases z with
          | number c =>
              rw [number_sub, number_lt_number] at h ⊢
              exact h.trans_le (sub_le_sub_left (number_le_number.mp hzy) a)
          | infinite n => simp_all
          | undefined => simp at hzy
      | infinite n => cases z <;> simp_all
      | undefined => simp at h
  | infinite m =>
      cases y with
      | number b => cases z <;> simp_all
      | infinite n => cases m <;> cases n <;> cases z <;> simp_all
      | undefined => simp at h
  | undefined => simp at h

end Distances

/-! ## The greater and the lesser -/

variable [Field K] [LinearOrder K] [FloorRing K] [Base K]

@[simp] theorem ofInt_eq (n : Int) : (Scalar.ofInt n : Exact K) = number (n : K) := rfl

@[simp] theorem isUndefined_number (x : K) : Scalar.isUndefined (number x) = false := by
  change (!decide (x = x)) = false
  simp

@[simp] theorem isUndefined_infinite (n : Bool) :
    Scalar.isUndefined (infinite n : Exact K) = false := by
  change (!(n == n)) = false
  simp

@[simp] theorem isUndefined_undefined : Scalar.isUndefined (undefined : Exact K) = true := rfl

/-- The greater of two numbers. -/
@[simp] theorem greater_number (x y : K) :
    Scalar.greater (number x) (number y) = number (max x y) := by
  simp only [Scalar.greater, isUndefined_number, Bool.false_eq_true, if_false, number_lt_number]
  split
  · next h => rw [max_eq_right h.le]
  · next h => rw [max_eq_left (not_lt.mp h)]

/-- The lesser of two numbers. -/
@[simp] theorem lesser_number (x y : K) :
    Scalar.lesser (number x) (number y) = number (min x y) := by
  simp only [Scalar.lesser, isUndefined_number, Bool.false_eq_true, if_false, number_lt_number]
  split
  · next h => rw [min_eq_right h.le]
  · next h => rw [min_eq_left (not_lt.mp h)]

/-- The number nearest to a number in an interval. -/
@[simp] theorem clamp_number (x low high : K) :
    Scalar.clamp (number x) (number low) (number high) = number (min (max x low) high) := by
  simp [Scalar.clamp]

/-- The distance of a number from zero. -/
@[simp] theorem magnitude_number [IsStrictOrderedRing K] (x : K) :
    Scalar.magnitude (number x) = number |x| := by
  rw [Scalar.magnitude, zero_eq]
  by_cases h : x < 0
  · rw [if_pos (number_lt_number.mpr h), neg_number, abs_of_neg h]
  · rw [if_neg (mt number_lt_number.mp h), abs_of_nonneg (not_lt.mp h)]

/-! ## Finite values -/

/-- The finite values are the numbers. -/
theorem isFinite_iff {x : Exact K} : Scalar.isFinite x = true ↔ ∃ y, x = number y := by
  cases x with
  | number x => exact ⟨fun _ => ⟨x, rfl⟩, fun _ => rfl⟩
  | infinite n => exact ⟨fun h => Bool.noConfusion h, fun ⟨_, h⟩ => by cases h⟩
  | undefined => exact ⟨fun h => Bool.noConfusion h, fun ⟨_, h⟩ => by cases h⟩

@[simp] theorem isFinite_number (x : K) : Scalar.isFinite (number x) = true := rfl

@[simp] theorem isFinite_ofBool (b : Bool) :
    Scalar.isFinite (Scalar.ofBool b : Exact K) = true := by
  cases b <;> rfl

@[simp] theorem isFinite_neg (x : Exact K) : Scalar.isFinite (-x) = Scalar.isFinite x := by
  cases x <;> rfl

/-- A sum is finite if and only if both parts are. -/
@[simp] theorem isFinite_add (x y : Exact K) :
    Scalar.isFinite (x + y) = (Scalar.isFinite x && Scalar.isFinite y) := by
  cases x <;> cases y <;> try rfl
  next m n =>
    change Scalar.isFinite (if m = n then infinite m else undefined) = false
    split <;> rfl

/-- A difference is finite if and only if both parts are. -/
@[simp] theorem isFinite_sub (x y : Exact K) :
    Scalar.isFinite (x - y) = (Scalar.isFinite x && Scalar.isFinite y) :=
  (isFinite_add x (-y)).trans (by rw [isFinite_neg])

/-- A product is finite if and only if both factors are. -/
@[simp] theorem isFinite_mul (x y : Exact K) :
    Scalar.isFinite (x * y) = (Scalar.isFinite x && Scalar.isFinite y) := by
  have hzero (z : K) (n : Bool) :
      Scalar.isFinite (if z = 0 then undefined else infinite n : Exact K) = false := by
    split <;> rfl
  cases x with
  | number x => cases y <;> first | rfl | exact hzero _ _
  | infinite m => cases y <;> first | rfl | exact hzero _ _
  | undefined => rfl

/-- A sine is finite if and only if there is a number to take it of. -/
@[simp] theorem isFinite_sin (x : Exact K) :
    Scalar.isFinite (Scalar.sin x) = Scalar.isFinite x := by
  cases x <;> rfl

/-- The greater of two finite values is finite. -/
theorem isFinite_greater {x y : Exact K} (hx : Scalar.isFinite x = true)
    (hy : Scalar.isFinite y = true) : Scalar.isFinite (Scalar.greater x y) = true := by
  obtain ⟨a, rfl⟩ := isFinite_iff.mp hx
  obtain ⟨b, rfl⟩ := isFinite_iff.mp hy
  simp

/-- The lesser of two finite values is finite. -/
theorem isFinite_lesser {x y : Exact K} (hx : Scalar.isFinite x = true)
    (hy : Scalar.isFinite y = true) : Scalar.isFinite (Scalar.lesser x y) = true := by
  obtain ⟨a, rfl⟩ := isFinite_iff.mp hx
  obtain ⟨b, rfl⟩ := isFinite_iff.mp hy
  simp

/-- Between finite ends a clamped value is finite, unless there is nothing to clamp. -/
theorem isFinite_clamp {x low high : Exact K} (hx : Scalar.isUndefined x = false)
    (hlow : Scalar.isFinite low = true) (hhigh : Scalar.isFinite high = true) :
    Scalar.isFinite (Scalar.clamp x low high) = true := by
  obtain ⟨a, rfl⟩ := isFinite_iff.mp hlow
  obtain ⟨b, rfl⟩ := isFinite_iff.mp hhigh
  cases x with
  | number x => simp
  | infinite n =>
      cases n with
      | false => simp [Scalar.clamp, Scalar.greater, Scalar.lesser]
      | true =>
          have hgreater : Scalar.greater (infinite true) (number a) = number a := by
            simp [Scalar.greater]
          rw [Scalar.clamp, hgreater]
          exact isFinite_lesser rfl rfl
  | undefined => cases hx

instance [IsStrictOrderedRing K] : Scalar.Regular (Exact K) where
  isWhole_zero := ⟨rfl, 0, by simp⟩
  isFinite_one := rfl
  isWhole_round := fun h => by
    rw [Scalar.round, if_pos h]
    exact ⟨rfl, _, rfl⟩

/-- The whole number nearest to a whole number. -/
theorem roundInt_intCast [IsStrictOrderedRing K] (n : Int) :
    Scalar.roundInt (number (n : K)) = n := by
  have hfloor : Scalar.floor (number (n : K)) = n := Int.floor_intCast n
  have hhalf : ¬(0.5 : K) ≤ 0 := by norm_num
  simp [Scalar.roundInt, hfloor, hhalf]

/-- A whole number is the nearest to itself. -/
theorem round_of_isWhole [IsStrictOrderedRing K] {x : Exact K} (h : Scalar.IsWhole x) :
    Scalar.round x = x := by
  obtain ⟨-, n, rfl⟩ := h
  rw [ofInt_eq, Scalar.round, if_pos (isFinite_number _), roundInt_intCast, ofInt_eq]

/-- Rational numbers; the sine is what the first two terms of its series come to. -/
instance : Base ℚ := ⟨fun x => x - x ^ 3 / 6, toString⟩

end Exact

end LiveVisuals
