import LiveVisuals.Decimal.Shortest
import LiveVisuals.Text.Word

/-!
# Numerals

How numbers are written and read. A decimal is written positionally while its point stays
within 21 digits on the left and 6 zeros on the right, and with a power of ten beyond that.

Two forms are read. The strict form is that of data files: no leading zeros, digits on both
sides of a point. The lenient form is that of settings and messages: blanks around, a sign, a
point at either end, an infinite value by its name, and whole numbers in base 2, 8 or 16.

Main definitions:

- {lit}`Decimal.text`: how a decimal is written.
- {lit}`Decimal.readStrict`: the strict numeral at the start of a text.
- {lit}`Numeral.read`: the value of a whole text in the lenient form.
-/

namespace LiveVisuals

namespace Decimal

/-! ## Writing -/

/-- Point positions up to this one are written without a power of ten. -/
def lastPositional : Int := 21

/-- Point positions above this one are written without a power of ten. -/
def firstScientific : Int := -6

/-- Digits of a natural number in base ten. -/
def digitChars (n : Nat) : List Char := Nat.toDigits 10 n

/-- A power of ten with its sign. -/
def exponentChars (e : Int) : List Char :=
  if e < 0 then 'e' :: '-' :: digitChars (-e).toNat else 'e' :: '+' :: digitChars e.toNat

/-- Digits with the point after the first {lit}`point` of them. -/
def layout (ds : List Char) (point : Int) : List Char :=
  let count : Int := ds.length
  if count ≤ point ∧ point ≤ lastPositional then ds ++ List.replicate (point - count).toNat '0'
  else if 0 < point ∧ point ≤ lastPositional then
    ds.take point.toNat ++ '.' :: ds.drop point.toNat
  else if firstScientific < point ∧ point ≤ 0 then
    '0' :: '.' :: (List.replicate (-point).toNat '0' ++ ds)
  else
    match ds with
    | d :: e :: rest => d :: '.' :: e :: rest ++ exponentChars (point - 1)
    | ds => ds ++ exponentChars (point - 1)

/-- How a decimal is written; zero has no sign. -/
def text (d : Decimal) : List Char :=
  if d.digits = 0 then ['0']
  else
    let ds := digitChars d.digits
    let body := layout ds (d.exponent + ds.length)
    if d.negative then '-' :: body else body

/-! ## Reading -/

/-- Value of a run of digits in base ten. -/
def natOfDigits (ds : List Char) : Nat :=
  ds.foldl (fun n c => n * 10 + (c.toNat - '0'.toNat)) 0

/-- The run of digits at the start of a text, with what follows it. -/
def digitRun (cs : List Char) : List Char × List Char :=
  (cs.takeWhile Char.isDigit, cs.dropWhile Char.isDigit)

/-- An optional power of ten; a mark without digits is left unread. -/
def readExponent (cs : List Char) : Int × List Char :=
  match cs with
  | [] => (0, cs)
  | mark :: rest =>
      if mark = 'e' ∨ mark = 'E' then
        let (sign, tail) : Int × List Char :=
          match rest with
          | '-' :: tail => (-1, tail)
          | '+' :: tail => (1, tail)
          | tail => (1, tail)
        match digitRun tail with
        | ([], _) => (0, cs)
        | (ds, after) => (sign * natOfDigits ds, after)
      else (0, cs)

/-- An optional fraction of at least one digit. -/
def readFraction (cs : List Char) : List Char × List Char :=
  match cs with
  | '.' :: rest =>
      match digitRun rest with
      | ([], _) => ([], cs)
      | (ds, after) => (ds, after)
  | cs => ([], cs)

/-- The decimal of whole digits, fraction digits and a power of ten. -/
def ofParts (negative : Bool) (whole fraction : List Char) (e : Int) : Decimal :=
  ⟨negative, natOfDigits (whole ++ fraction), e - fraction.length⟩

/-- Whether whole digits have no needless leading zero. -/
def isWhole : List Char → Bool
  | [] => false
  | [_] => true
  | d :: _ => d != '0'

/-- The strict numeral at the start of a text, with what follows it. -/
def readStrict (cs : List Char) : Option (Decimal × List Char) :=
  let (negative, unsigned) :=
    match cs with
    | '-' :: rest => (true, rest)
    | rest => (false, rest)
  let (whole, afterWhole) := digitRun unsigned
  if isWhole whole then
    let (fraction, afterFraction) := readFraction afterWhole
    let (e, rest) := readExponent afterFraction
    some (ofParts negative whole fraction e, rest)
  else none

end Decimal

/-- What a lenient numeral stands for. -/
inductive Numeral where
  | finite (d : Decimal)
  | infinite (negative : Bool)
deriving Repr

namespace Numeral

open Decimal

/-- Value of a letter or digit in bases up to 16. -/
def digitValue? (base : Nat) (c : Char) : Option Nat :=
  let v :=
    if c.isDigit then some (c.toNat - '0'.toNat)
    else if 'a' ≤ c ∧ c ≤ 'f' then some (c.toNat - 'a'.toNat + 10)
    else if 'A' ≤ c ∧ c ≤ 'F' then some (c.toNat - 'A'.toNat + 10)
    else none
  v.filter (· < base)

/-- A whole number in another base, with at least one digit and nothing else. -/
def readInBase (base : Nat) (cs : List Char) : Option Nat :=
  if cs.isEmpty then none
  else
    cs.foldl
      (fun acc c => acc.bind fun n => (digitValue? base c).map fun d => n * base + d)
      (some 0)

/-- An unsigned decimal: digits, a point at any place, a power of ten; nothing else. -/
def readUnsigned (negative : Bool) (cs : List Char) : Option Decimal :=
  let (whole, afterWhole) := digitRun cs
  let (fraction, afterFraction) :=
    match afterWhole with
    | '.' :: rest => digitRun rest
    | rest => ([], rest)
  if whole.isEmpty && fraction.isEmpty then none
  else
    match readExponent afterFraction with
    | (e, []) => some (ofParts negative whole fraction e)
    | _ => none

/-- A decimal or infinite value after its sign. -/
def readMagnitude (negative : Bool) (cs : List Char) : Option Numeral :=
  if cs = "Infinity".toList then some (.infinite negative)
  else (readUnsigned negative cs).map .finite

/-- The value of a whole text in the lenient form. A blank text is zero. -/
def read (cs : List Char) : Option Numeral :=
  let whole (n : Nat) : Numeral := .finite ⟨false, n, 0⟩
  match Text.trim cs with
  | [] => some (whole 0)
  | '0' :: 'x' :: ds => (readInBase 16 ds).map whole
  | '0' :: 'X' :: ds => (readInBase 16 ds).map whole
  | '0' :: 'o' :: ds => (readInBase 8 ds).map whole
  | '0' :: 'O' :: ds => (readInBase 8 ds).map whole
  | '0' :: 'b' :: ds => (readInBase 2 ds).map whole
  | '0' :: 'B' :: ds => (readInBase 2 ds).map whole
  | '-' :: rest => readMagnitude true rest
  | '+' :: rest => readMagnitude false rest
  | rest => readMagnitude false rest

end Numeral

end LiveVisuals
