import LiveVisuals.Decimal.Numeral

/-!
# Scalars

The numbers that flow through the program: audio readings, binding outputs, uniform values and
times. Everything that computes with them is written for any scalar type, so that one
definition runs on floating point and can be studied in exact arithmetic.

Main definitions:

- {lit}`Scalar`: arithmetic, order, the finiteness test and conversions.
- {lit}`Scalar.clamp`: the nearest value of an interval.
- {lit}`Scalar.round`: the nearest whole number, halves going up.
- the instance for {lit}`Float`.
-/

namespace LiveVisuals

/-- A type of numbers with the operations that the program uses. -/
class Scalar (α : Type) extends
    Add α, Sub α, Mul α, Div α, Neg α, OfScientific α, LT α, LE α, BEq α where
  decidableLT : DecidableLT α
  decidableLE : DecidableLE α
  /-- Neither infinite nor undefined. -/
  isFinite : α → Bool
  /-- The greatest whole number not above a finite scalar. -/
  floor : α → Int
  sin : α → α
  infinity : α
  ofInt : Int → α
  /-- The scalar nearest to a decimal. -/
  ofDecimal : Decimal → α
  /-- How a scalar is written. -/
  text : α → String

namespace Scalar

variable {α : Type} [Scalar α]

instance : DecidableLT α := Scalar.decidableLT

instance : DecidableLE α := Scalar.decidableLE

instance : Inhabited α := ⟨(0.0 : α)⟩

/-- The undefined scalar is the one that differs from itself. -/
def isUndefined (x : α) : Bool := !(x == x)

/-- The lesser of two scalars; undefined if either is. -/
def lesser (x y : α) : α :=
  if isUndefined x then x else if isUndefined y then y else if y < x then y else x

/-- The greater of two scalars; undefined if either is. -/
def greater (x y : α) : α :=
  if isUndefined x then x else if isUndefined y then y else if x < y then y else x

/-- The value of the interval nearest to {lit}`x`. If the ends are out of order the upper one
wins. -/
def clamp (x low high : α) : α := lesser (greater x low) high

/-- Distance from zero. -/
def magnitude (x : α) : α := if x < (0.0 : α) then -x else x

/-- The nearest whole number, halves going up. -/
def roundInt (x : α) : Int :=
  let below := floor x
  if (0.5 : α) ≤ x - ofInt below then below + 1 else below

/-- The nearest whole number as a scalar; what is not finite stays as it is. -/
def round (x : α) : α := if isFinite x then ofInt (roundInt x) else x

/-- Round to a number of places, halves going up; {lit}`unit` is the power of ten. -/
def roundTo (unit x : α) : α := round (x * unit) / unit

/-- A finite scalar, or nothing. -/
def finite? (x : α) : Option α := if isFinite x then some x else none

/-- What is taken for finite is so. -/
theorem isFinite_of_finite? {x y : α} (h : finite? x = some y) : isFinite y = true := by
  unfold finite? at h
  split at h
  · next hx =>
    cases h
    exact hx
  · cases h

/-- Items that are only ever read as finite scalars are read as so many of them. -/
theorem isFinite_of_mapM {β : Type} {read : β → Option α}
    (hread : ∀ {item x}, read item = some x → isFinite x = true) {items : List β} {xs : List α}
    (h : items.mapM read = some xs) :
    xs.length = items.length ∧ ∀ x ∈ xs, isFinite x = true := by
  induction items generalizing xs with
  | nil =>
      rw [List.mapM_nil] at h
      cases h
      simp
  | cons item items ih =>
      simp only [List.mapM_cons, Option.bind_eq_bind, Option.bind_eq_some_iff] at h
      obtain ⟨x, hx, rest, hrest, hxs⟩ := h
      cases hxs
      obtain ⟨hlength, hfinite⟩ := ih hrest
      exact ⟨congrArg Nat.succ hlength, List.forall_mem_cons.mpr ⟨hread hx, hfinite⟩⟩

/-- The scalar of a lenient numeral. -/
def ofNumeral : Numeral → α
  | .finite d => ofDecimal d
  | .infinite negative => if negative then -(infinity : α) else infinity

/-- One for true and zero for false. -/
def ofBool (b : Bool) : α := if b then 1.0 else 0.0

end Scalar

/-! ## Floating point -/

namespace Scalar

/-- The greatest whole number not above a finite floating point number. -/
def floorFloat (x : Float) : Int :=
  let b := Decimal.Binary.ofFloat x
  let signed : Int := if b.negative then -(b.significand : Int) else b.significand
  if 0 ≤ b.exponent then signed * Nat.pow 2 b.exponent.toNat
  else Int.fdiv signed (Nat.pow 2 (-b.exponent).toNat)

/-- How a floating point number is written: the shortest decimal that reads back. -/
def textFloat (x : Float) : String :=
  if x.isNaN then "NaN"
  else if x.isInf then (if x < 0 then "-Infinity" else "Infinity")
  else String.ofList (Decimal.shortest x).text

instance : Scalar Float where
  decidableLT := inferInstance
  decidableLE := inferInstance
  isFinite := Float.isFinite
  floor := floorFloat
  sin := Float.sin
  infinity := Decimal.Binary.nearest false (Nat.pow 2 1100) 1
  ofInt n := Decimal.Binary.nearest (decide (n < 0)) n.natAbs 1
  ofDecimal := Decimal.toFloat
  text := textFloat

end Scalar

end LiveVisuals
