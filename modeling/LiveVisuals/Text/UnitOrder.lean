/-!
# Order by 16-bit units

Plain lists of names are sorted by the 16-bit units in which texts are stored elsewhere.
Characters beyond the basic plane take two units there, which are smaller than the units of the
last characters of that plane; in all else the order is that of code points.

Main definitions:

- {lit}`Text.unitRank`: where a character stands in that order.
- {lit}`Text.unitLe`: whether a text may stand before another.

Main statements:

- {lit}`Text.unitRank_lt_of_lt`: the order of code points holds below the surrogates.
-/

namespace LiveVisuals.Text

/-- Where the characters begin that come behind those beyond the basic plane. -/
def firstLateUnit : Nat := 0xE000

/-- Where a character stands in the order by 16-bit units. -/
def unitRank (c : Char) : Nat :=
  if firstLateUnit ≤ c.toNat ∧ c.toNat < 0x10000 then c.toNat + 0x110000 else c.toNat

/-- Whether a text may stand before another in the order by 16-bit units. -/
def unitLe (s t : String) : Bool :=
  !(t.toList.map unitRank).lex (s.toList.map unitRank) (· < ·)

/-- The order of code points holds below the surrogates. -/
theorem unitRank_lt_of_lt {c d : Char} (h : c.toNat < d.toNat) (hd : d.toNat < firstLateUnit) :
    unitRank c < unitRank d := by
  unfold unitRank firstLateUnit at *
  split <;> split <;> omega

end LiveVisuals.Text
