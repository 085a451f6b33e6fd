/-!
# Binary floating point as exact numbers

A finite 64-bit floating point number is {lit}`significand * 2 ^ exponent` with a sign.
This file takes such a number apart, and rounds an exact quotient to the nearest one.

Main definitions:

- {lit}`Binary.ofFloat`: sign, significand and exponent of a finite number.
- {lit}`Binary.nearest`: the number nearest to a quotient of naturals; of two equally near
  ones the one with an even significand; infinity beyond the largest.
-/

namespace LiveVisuals.Decimal

/-- A finite binary number {lit}`± significand * 2 ^ exponent`. -/
structure Binary where
  negative : Bool
  significand : Nat
  exponent : Int
deriving Repr, DecidableEq

namespace Binary

/-- Weight of the hidden bit of a normal significand. -/
def hiddenBit : Nat := Nat.pow 2 52

/-- Exponent of the least positive number. -/
def leastExponent : Int := -1074

/-- Parts of a number; infinities and NaN read as if their exponent were ordinary. -/
def ofFloat (x : Float) : Binary :=
  let bits := x.toBits.toNat
  let field : Nat := bits / hiddenBit % Nat.pow 2 11
  let fraction := bits % hiddenBit
  if field = 0 then ⟨decide (Nat.pow 2 63 ≤ bits), fraction, leastExponent⟩
  else ⟨decide (Nat.pow 2 63 ≤ bits), fraction + hiddenBit, (field : Int) - 1075⟩

/-- Whether a normal number of this significand has a nearer neighbour below than above. -/
def atPowerOfTwo (b : Binary) : Bool :=
  b.significand = hiddenBit && leastExponent < b.exponent

/-- {lit}`num * 2 ^ (-e) / den` as a quotient of naturals. -/
def scaled (num den : Nat) (e : Int) : Nat × Nat :=
  (num * Nat.pow 2 (-e).toNat, den * Nat.pow 2 e.toNat)

/-- Round a quotient to the nearest natural number, a tie to the even one. -/
def roundHalfEven (num den : Nat) : Nat :=
  let q := num / den
  let twice := 2 * (num % den)
  if twice < den then q
  else if den < twice then q + 1
  else q + q % 2

/-- Exponent of the last place of the number nearest to {lit}`num / den`. -/
def lastPlace (num den : Nat) : Int :=
  let guess : Int := (num.log2 : Int) - (den.log2 : Int) - 52
  let (n, d) := scaled num den guess
  let exact := if n < hiddenBit * d then guess - 1 else guess
  max exact leastExponent

/-- Bit pattern of the non-negative number nearest to {lit}`num / den`.

A significand that rounds up to the next power of two carries into the exponent field by
plain addition. -/
def nearestBits (num den : Nat) : Nat :=
  if num = 0 then 0
  else
    let e := lastPlace num den
    let (n, d) := scaled num den e
    min ((e - leastExponent).toNat * hiddenBit + roundHalfEven n d) (2047 * hiddenBit)

/-- The number nearest to {lit}`± num / den`. -/
def nearest (negative : Bool) (num den : Nat) : Float :=
  let x := Float.ofBits (nearestBits num den).toUInt64
  if negative then -x else x

end Binary

end LiveVisuals.Decimal
