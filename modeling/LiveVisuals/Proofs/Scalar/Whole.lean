import LiveVisuals.Scalar
import Mathlib

/-!
# Rounding to whole numbers stays finite

Rounding a finite floating point number goes through an exact integer and back. The integer is
at most one above the largest finite number, and what is written for it is the nearest number,
which is finite up to half of the last place beyond the largest one.

Main definitions:

- {lit}`Scalar.IsWhole`: a finite scalar that stands for an integer.
- {lit}`Scalar.Regular`: scalars that round to whole ones.
- {lit}`Decimal.Binary.largest`: the largest finite number, as a natural.

Main results:

- Theorem {lit}`Decimal.Binary.isFinite_nearest`: naturals up to one above the largest number
  have a finite number nearest to them.
- Theorem {lit}`Scalar.isWhole_round`: rounding a finite number gives a whole number.
-/

namespace LiveVisuals

namespace Decimal.Binary

open Float.Model Float.Model.UnpackedFloat

/-! ## Bit patterns -/

/-- The exponent field of a number is not the one of infinities. -/
theorem isFinite_unpack_iff (b : BitVec Format.binary64.numBits) :
    (UnpackedFloat.unpack Format.binary64 b).isFinite = true ↔ unpackExponent b ≠ -1#11 := by
  rw [UnpackedFloat.unpack]
  constructor
  · intro h hinfinite
    simp only [hinfinite, if_true] at h
    split at h <;> cases h
  · intro h
    simp only [h, if_false]
    split
    · split <;> rfl
    · rfl

/-- The exponent field of a bit pattern, as a number. -/
theorem toNat_unpackExponent (b : BitVec Format.binary64.numBits) :
    (unpackExponent b).toNat = b.toNat / hiddenBit % Nat.pow 2 11 := by
  rw [unpackExponent_def, BitVec.extractLsb'_toNat, Nat.shiftRight_eq_div_pow]
  rfl

/-- A number is finite if its exponent field is not the greatest. -/
theorem isFinite_iff (x : Float) :
    x.isFinite = true ↔ x.toBits.toNat / hiddenBit % Nat.pow 2 11 ≠ 2047 := by
  have hfield := toNat_unpackExponent x.toBits.toBitVec
  change (UnpackedFloat.unpack Format.binary64 x.toBits.toBitVec).isFinite = true ↔ _
  rw [isFinite_unpack_iff, Ne, ← BitVec.toNat_inj, hfield]
  rfl

/-- A number that is finite before it is packed is so afterwards. -/
theorem isFinite_pack_unpack {b : BitVec Format.binary64.numBits}
    (h : unpackExponent b ≠ -1#11) :
    (UnpackedFloat.unpack Format.binary64
      (UnpackedFloat.pack Format.binary64 (UnpackedFloat.unpack Format.binary64 b))).isFinite =
        true := by
  rw [pack_unpack]
  simp only [isNaNBits, h, false_and, decide_false, Bool.false_eq_true, if_false]
  exact (isFinite_unpack_iff b).mpr h

/-- A bit pattern below that of infinity is a finite number. -/
theorem isFinite_ofBits {n : Nat} (h : n < 2047 * hiddenBit) :
    (Float.ofBits n.toUInt64).isFinite = true := by
  have hsize : 2047 * hiddenBit ≤ 2 ^ 63 := by decide
  have hbits : n.toUInt64.toBitVec.toNat = n := by
    change n.toUInt64.toNat = n
    rw [Nat.toUInt64_eq, UInt64.toNat_ofNat']
    exact Nat.mod_eq_of_lt (by omega)
  have hfield : n / hiddenBit < 2047 := Nat.div_lt_of_lt_mul (by rwa [Nat.mul_comm])
  refine isFinite_pack_unpack ?_
  rw [Ne, ← BitVec.toNat_inj, toNat_unpackExponent, hbits]
  intro hmax
  have hmod : n / hiddenBit % Nat.pow 2 11 = n / hiddenBit :=
    Nat.mod_eq_of_lt (hfield.trans (by decide))
  rw [hmod] at hmax
  exact absurd hmax hfield.ne

/-- Turning the sign of a bit pattern. -/
theorem neg_unpack (b : BitVec Format.binary64.numBits) :
    (UnpackedFloat.unpack Format.binary64 b).neg =
      UnpackedFloat.unpack Format.binary64
        (packComponents Format.binary64 (-Sign.ofBitVec (unpackSign b)) (unpackExponent b)
          (unpackMantissa b)) := by
  simp only [UnpackedFloat.unpack, unpackExponent_packComponents, unpackMantissa_packComponents,
    unpackSign_packComponents, Sign.ofBitVec_toBitVec]
  split
  · split <;> rfl
  · split
    · split <;> rfl
    · rfl

/-- The sign does not matter to finiteness. -/
theorem isFinite_neg {x : Float} (h : x.isFinite = true) : (-x).isFinite = true := by
  have hexponent : @unpackExponent Format.binary64 x.toBits.toBitVec ≠ -1#11 :=
    (isFinite_unpack_iff _).mp h
  change (UnpackedFloat.unpack Format.binary64 (UnpackedFloat.pack Format.binary64
    (UnpackedFloat.unpack Format.binary64 x.toBits.toBitVec).neg)).isFinite = true
  rw [neg_unpack]
  refine isFinite_pack_unpack ?_
  rwa [unpackExponent_packComponents]

/-! ## The nearest number -/

/-- The exponent of the greatest finite numbers. -/
def topPlace : Nat := 971

/-- The largest finite number, as a natural. -/
def largest : Nat := (2 * hiddenBit - 1) * 2 ^ topPlace

/-- Rounding to the nearest natural adds at most one to the quotient. -/
theorem roundHalfEven_le (num den : Nat) : roundHalfEven num den ≤ num / den + 1 := by
  simp only [roundHalfEven]
  split
  · omega
  · split <;> omega

/-- A quotient that is hardly above a natural is not rounded up. -/
theorem roundHalfEven_le_of_le {num den q : Nat} (hden : 2 < den) (h : num ≤ q * den + 1) :
    roundHalfEven num den ≤ q := by
  have hdiv : num / den < q + 1 := by
    rw [Nat.div_lt_iff_lt_mul (by omega), Nat.succ_mul]
    omega
  by_cases hq : num / den = q
  · have hrest : den * (num / den) + num % den = num := Nat.div_add_mod num den
    rw [hq, Nat.mul_comm] at hrest
    have hsmall : 2 * (num % den) < den := by omega
    simp only [roundHalfEven, hsmall, if_true]
    exact hq.le
  · have hround := roundHalfEven_le num den
    omega

/-- The last place of a natural follows from its length. -/
theorem lastPlace_one {n : Nat} (hn : n ≠ 0) : lastPlace n 1 = (n.log2 : Int) - 52 := by
  have hlength : 2 ^ n.log2 ≤ n := Nat.log2_self_le hn
  have hscaled : ¬ (scaled n 1 ((n.log2 : Int) - 52)).1 <
      hiddenBit * (scaled n 1 ((n.log2 : Int) - 52)).2 := by
    simp only [scaled, hiddenBit, Nat.pow_eq, one_mul, not_lt]
    by_cases hlong : 52 ≤ n.log2
    · have hup : ((n.log2 : Int) - 52).toNat = n.log2 - 52 := by omega
      have hdown : (-((n.log2 : Int) - 52)).toNat = 0 := by omega
      rw [hup, hdown, pow_zero, mul_one, ← pow_add, Nat.add_sub_cancel' hlong]
      exact hlength
    · have hup : ((n.log2 : Int) - 52).toNat = 0 := by omega
      have hdown : (-((n.log2 : Int) - 52)).toNat = 52 - n.log2 := by omega
      rw [hup, hdown, pow_zero, mul_one]
      calc 2 ^ 52 = 2 ^ n.log2 * 2 ^ (52 - n.log2) := by rw [← pow_add]; congr 1; omega
        _ ≤ n * 2 ^ (52 - n.log2) := Nat.mul_le_mul_right _ hlength
  have hone : Nat.log2 1 = 0 := by decide
  simp only [lastPlace, hone, Nat.cast_zero, sub_zero, hscaled, if_false, leastExponent]
  omega

/-- In units of its last place a natural has at most 53 binary digits. -/
theorem scaled_div_lt (n : Nat) :
    (scaled n 1 ((n.log2 : Int) - 52)).1 / (scaled n 1 ((n.log2 : Int) - 52)).2 <
      2 * hiddenBit := by
  have hlength : n < 2 ^ (n.log2 + 1) := Nat.lt_log2_self
  simp only [scaled, hiddenBit, Nat.pow_eq, one_mul]
  rw [Nat.div_lt_iff_lt_mul (by positivity)]
  by_cases hlong : 52 ≤ n.log2
  · have hup : ((n.log2 : Int) - 52).toNat = n.log2 - 52 := by omega
    have hdown : (-((n.log2 : Int) - 52)).toNat = 0 := by omega
    rw [hup, hdown, pow_zero, mul_one]
    calc n < 2 ^ (n.log2 + 1) := hlength
      _ = 2 ^ (53 + (n.log2 - 52)) := by congr 1; omega
      _ = 2 * 2 ^ 52 * 2 ^ (n.log2 - 52) := by rw [pow_add]; rfl
  · have hup : ((n.log2 : Int) - 52).toNat = 0 := by omega
    have hdown : (-((n.log2 : Int) - 52)).toNat = 52 - n.log2 := by omega
    rw [hup, hdown, pow_zero, mul_one]
    calc n * 2 ^ (52 - n.log2) < 2 ^ (n.log2 + 1) * 2 ^ (52 - n.log2) :=
          Nat.mul_lt_mul_of_pos_right hlength (by positivity)
      _ = 2 ^ (n.log2 + 1 + (52 - n.log2)) := (pow_add _ _ _).symm
      _ = 2 ^ 53 := by congr 1; omega

/-- The last place of the greatest numbers is large. -/
theorem two_lt_pow_topPlace : 2 < 2 ^ topPlace :=
  calc 2 = 2 ^ 1 := rfl
    _ < 2 ^ topPlace := Nat.pow_lt_pow_right Nat.one_lt_two (by decide)

/-- One above the largest number is still below the power of two that is too large. -/
theorem succ_largest_lt : largest + 1 < 2 ^ (53 + topPlace) := by
  have htwo := two_lt_pow_topPlace
  rw [largest, pow_add]
  generalize 2 ^ topPlace = unit at htwo ⊢
  have hsignificand : 2 * hiddenBit - 1 = 9007199254740991 := rfl
  rw [hsignificand]
  omega

/-- Naturals up to one above the largest number stay below the bit pattern of infinity. -/
theorem nearestBits_lt {n : Nat} (h : n ≤ largest + 1) : nearestBits n 1 < 2047 * hiddenBit := by
  by_cases hn : n = 0
  · rw [hn]
    decide
  have htop : topPlace = 971 := rfl
  have hlog : n.log2 < 53 + topPlace := (Nat.log2_lt hn).mpr (h.trans_lt succ_largest_lt)
  have hquotient := scaled_div_lt n
  simp only [nearestBits, hn, if_false, lastPlace_one hn]
  refine lt_of_le_of_lt (Nat.min_le_left _ _) ?_
  by_cases hgreat : n.log2 = 52 + topPlace
  · -- The greatest significand cannot be rounded up, so nothing carries into the exponent.
    have hround : roundHalfEven n (2 ^ topPlace) ≤ 2 * hiddenBit - 1 :=
      roundHalfEven_le_of_le two_lt_pow_topPlace h
    have hexponent : (n.log2 : Int) - 52 = topPlace := by omega
    have hscaled : scaled n 1 topPlace = (n, 2 ^ topPlace) := by
      simp [scaled]
    have hplace : ((topPlace : Int) - leastExponent).toNat = 2045 := rfl
    rw [hexponent, hscaled, hplace]
    calc _ ≤ 2045 * hiddenBit + (2 * hiddenBit - 1) := Nat.add_le_add_left hround _
      _ < 2047 * hiddenBit := by decide
  · have hround := roundHalfEven_le (scaled n 1 ((n.log2 : Int) - 52)).1
      (scaled n 1 ((n.log2 : Int) - 52)).2
    have hplace : ((n.log2 : Int) - 52 - leastExponent).toNat ≤ 2044 := by
      simp only [leastExponent]
      omega
    calc _ ≤ 2044 * hiddenBit + 2 * hiddenBit :=
          Nat.add_le_add (Nat.mul_le_mul_right _ hplace) (hround.trans hquotient)
      _ < 2047 * hiddenBit := by decide

/-- Naturals up to one above the largest number have a finite number nearest to them. -/
theorem isFinite_nearest {n : Nat} (negative : Bool) (h : n ≤ largest + 1) :
    (nearest negative n 1).isFinite = true := by
  have hfinite := isFinite_ofBits (nearestBits_lt h)
  rw [nearest]
  cases negative with
  | false => exact hfinite
  | true => exact isFinite_neg hfinite

/-- The parts of a finite number are at most those of the largest one. -/
theorem ofFloat_le {x : Float} (h : x.isFinite = true) :
    (ofFloat x).significand ≤ 2 * hiddenBit - 1 ∧ (ofFloat x).exponent ≤ topPlace := by
  have hfield := (isFinite_iff x).mp h
  have hfraction : x.toBits.toNat % hiddenBit < hiddenBit := Nat.mod_lt _ (by decide)
  have hrange : x.toBits.toNat / hiddenBit % Nat.pow 2 11 < 2048 := Nat.mod_lt _ (by decide)
  have htop : topPlace = 971 := rfl
  simp only [ofFloat]
  split
  · constructor
    · change x.toBits.toNat % hiddenBit ≤ _
      omega
    · change leastExponent ≤ _
      simp only [leastExponent]
      omega
  · constructor
    · change x.toBits.toNat % hiddenBit + hiddenBit ≤ _
      omega
    · change ((x.toBits.toNat / hiddenBit % Nat.pow 2 11 : Nat) : Int) - 1075 ≤ _
      omega

end Decimal.Binary

namespace Scalar

open Decimal

/-- A finite scalar that stands for an integer. -/
def IsWhole {α : Type} [Scalar α] (x : α) : Prop :=
  isFinite x = true ∧ ∃ n : Int, x = ofInt n

/-- Scalars that round to whole ones, with zero and one among the finite ones. -/
class Regular (α : Type) [Scalar α] : Prop where
  isWhole_zero : IsWhole (0.0 : α)
  isFinite_one : isFinite (1.0 : α) = true
  isWhole_round : ∀ {x : α}, isFinite x = true → IsWhole (round x)

/-- The floor of a finite number is at most the largest number in size. -/
theorem natAbs_floorFloat_le {x : Float} (h : x.isFinite = true) :
    (floorFloat x).natAbs ≤ Binary.largest := by
  obtain ⟨hsignificand, hexponent⟩ := Binary.ofFloat_le h
  rw [floorFloat]
  generalize Binary.ofFloat x = b at hsignificand hexponent ⊢
  have hsigned : (if b.negative then -(b.significand : Int) else b.significand).natAbs =
      b.significand := by
    split
    · rw [Int.natAbs_neg, Int.natAbs_natCast]
    · exact Int.natAbs_natCast _
  split
  · have hplace : b.exponent.toNat ≤ Binary.topPlace := by omega
    rw [Int.natAbs_mul, hsigned, Int.natAbs_natCast]
    exact Nat.mul_le_mul hsignificand (Nat.pow_le_pow_right Nat.two_pos hplace)
  · rw [Int.fdiv_eq_ediv_of_nonneg _ (Int.natCast_nonneg _)]
    calc _ ≤ b.significand := (Int.natAbs_ediv_le_natAbs _ _).trans hsigned.le
      _ ≤ Binary.largest :=
        hsignificand.trans (Nat.le_mul_of_pos_right _ (Nat.two_pow_pos _))

/-- Rounding a finite number gives a whole number. -/
theorem isWhole_round {x : Float} (h : isFinite x = true) : IsWhole (round x) := by
  have hround : round x = ofInt (roundInt x) := if_pos h
  rw [hround]
  refine ⟨?_, roundInt x, rfl⟩
  refine Binary.isFinite_nearest _ ?_
  have hfloor : (floor x).natAbs ≤ Binary.largest := natAbs_floorFloat_le h
  rw [roundInt]
  split <;> omega

instance : Regular Float := ⟨⟨by decide, 0, by decide⟩, by decide, isWhole_round⟩

end Scalar

end LiveVisuals
