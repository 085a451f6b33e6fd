import LiveVisuals.Decimal.Binary

/-!
# Shortest decimals

Among the decimals that read back as a given binary number, take one with the fewest
digits, and of those the one nearest to the number.

Main definitions:

- {lit}`Decimal`: sign, digits and power of ten.
- {lit}`Decimal.shortest`: the shortest decimal of a finite number.
- {lit}`Decimal.toFloat`: the binary number nearest to a decimal.
-/

namespace LiveVisuals

/-- The decimal {lit}`± digits * 10 ^ exponent`. -/
structure Decimal where
  negative : Bool
  digits : Nat
  exponent : Int
deriving Repr, DecidableEq

namespace Decimal

/-- Number of digits of a natural number in base ten; zero has one. -/
def digitCount (n : Nat) : Nat := (Nat.toDigits 10 n).length

/-- Drop trailing zeros; at most {lit}`fuel` of them. -/
def dropZeros : Nat → Nat → Int → Nat × Int
  | 0, digits, exponent => (digits, exponent)
  | fuel + 1, digits, exponent =>
      if digits % 10 = 0 ∧ digits ≠ 0 then dropZeros fuel (digits / 10) (exponent + 1)
      else (digits, exponent)

/-- The {lit}`k` with {lit}`10 ^ (k - 1) ≤ num / den < 10 ^ k`, for a positive quotient. -/
def magnitude (num den : Nat) : Int :=
  if den ≤ num then digitCount (num / den)
  else
    let d := digitCount (den / num)
    if den ≤ num * Nat.pow 10 (d - 1) then 2 - (d : Int) else 1 - (d : Int)

/-- Binary numbers near {lit}`value` round to it between {lit}`low` and {lit}`high`, all three
over the denominator {lit}`den`; the ends count when {lit}`closed`. -/
structure Neighbourhood where
  low : Nat
  value : Nat
  high : Nat
  den : Nat
  closed : Bool

/-- The numbers that round to {lit}`b`. -/
def Neighbourhood.ofBinary (b : Binary) : Neighbourhood :=
  let s := 4 * b.significand
  let below := if b.atPowerOfTwo then s - 1 else s - 2
  let up := Nat.pow 2 (b.exponent - 2).toNat
  { low := below * up
    value := s * up
    high := (s + 2) * up
    den := Nat.pow 2 (2 - b.exponent).toNat
    closed := b.significand % 2 == 0 }

/-- The neighbourhood in units of {lit}`10 ^ e`. -/
def Neighbourhood.inUnits (h : Neighbourhood) (e : Int) : Neighbourhood :=
  let up := Nat.pow 10 (-e).toNat
  { h with
    low := h.low * up
    value := h.value * up
    high := h.high * up
    den := h.den * Nat.pow 10 e.toNat }

/-- Whether a whole number of units lies in the neighbourhood. -/
def Neighbourhood.holds (h : Neighbourhood) (c : Nat) : Bool :=
  if h.closed then decide (h.low ≤ c * h.den) && decide (c * h.den ≤ h.high)
  else decide (h.low < c * h.den) && decide (c * h.den < h.high)

/-- The whole number of units nearest to the value among its two neighbours that lie in the
neighbourhood; on a tie the even one. -/
def Neighbourhood.candidate (h : Neighbourhood) : Option Nat :=
  let below := h.value / h.den
  let above := below + 1
  match h.holds below, h.holds above with
  | true, true =>
      let twice := 2 * (h.value % h.den)
      if twice < h.den then some below
      else if h.den < twice then some above
      else some (below + below % 2)
  | true, false => some below
  | false, true => some above
  | false, false => none

/-- Try ever finer decimal grids, with {lit}`count` digits first, at most {lit}`fuel` of them. -/
def firstHit (h : Neighbourhood) (top : Int) : Nat → Nat → Option (Nat × Int)
  | 0, _ => none
  | fuel + 1, count =>
      let e := top - count
      match (h.inUnits e).candidate with
      | some c => some (c, e)
      | none => firstHit h top fuel (count + 1)

/-- Seventeen digits always suffice to tell binary numbers apart. -/
def mostDigits : Nat := 17

/-- The shortest decimal that reads back as the finite number {lit}`x`. -/
def shortest (x : Float) : Decimal :=
  let b := Binary.ofFloat x
  if b.significand = 0 then ⟨b.negative, 0, 0⟩
  else
    let h := Neighbourhood.ofBinary b
    match firstHit h (magnitude h.value h.den) mostDigits 1 with
    | some (c, e) =>
        let (digits, exponent) := dropZeros (mostDigits + 1) c e
        ⟨b.negative, digits, exponent⟩
    | none => ⟨b.negative, h.value / h.den, 0⟩

/-- Decimals at or above ten to this power lie beyond the largest binary number, and those
below its reciprocal round to zero. -/
def extremePower : Int := 400

/-- The binary number nearest to a decimal; infinite beyond the largest one. -/
def toFloat (d : Decimal) : Float :=
  let top := d.exponent + digitCount d.digits
  if d.digits = 0 ∨ top < -extremePower then Binary.nearest d.negative 0 1
  else if extremePower < top then Binary.nearest d.negative (Nat.pow 2 1100) 1
  else
    Binary.nearest d.negative (d.digits * Nat.pow 10 d.exponent.toNat)
      (Nat.pow 10 (-d.exponent).toNat)

end Decimal

end LiveVisuals
