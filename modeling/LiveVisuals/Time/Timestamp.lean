import LiveVisuals.Decimal.Numeral

/-!
# Timestamps

Points in time to the millisecond, written as a date and a time of day in UTC.

Main definitions:

- {lit}`Timestamp`: milliseconds since the start of 1970.
- {lit}`Timestamp.text`: the written form.
- {lit}`Timestamp.ofParts?`: the point in time of a date and a time of day.

Main statements:

- {lit}`Timestamp.abs_ofParts?_le`: no timestamp lies further from 1970 than the limit.
-/

namespace LiveVisuals

/-- Milliseconds since the start of 1970 in UTC. -/
structure Timestamp where
  ms : Int
deriving DecidableEq, Repr

namespace Timestamp

/-- Milliseconds in a day. -/
def dayMs : Int := 86400000

/-- The day number of a date of the Gregorian calendar; the first day of 1970 has number zero.

Years are counted from March, so that leap days come last. -/
def dayNumber (year month day : Int) : Int :=
  let y := if month ≤ 2 then year - 1 else year
  let shifted := (month + 9).emod 12
  let dayOfYear := (153 * shifted + 2).ediv 5 + day - 1
  365 * y + y.ediv 4 - y.ediv 100 + y.ediv 400 + dayOfYear - 719468

/-- Year, month and day of a day number. -/
def civil (dayNumber : Int) : Int × Int × Int :=
  let z := dayNumber + 719468
  let era := z.ediv 146097
  let dayOfEra := z.emod 146097
  let yearOfEra :=
    (dayOfEra - dayOfEra / 1460 + dayOfEra / 36524 - dayOfEra / 146096) / 365
  let dayOfYear := dayOfEra - (365 * yearOfEra + yearOfEra / 4 - yearOfEra / 100)
  let shifted := (5 * dayOfYear + 2) / 153
  let day := dayOfYear - (153 * shifted + 2) / 5 + 1
  let month := if shifted < 10 then shifted + 3 else shifted - 9
  let year := yearOfEra + era * 400 + (if month ≤ 2 then 1 else 0)
  (year, month, day)

/-- Digits of a number, filled up with zeros. -/
def padded (width : Nat) (n : Int) : String :=
  let ds := Decimal.digitChars n.toNat
  String.ofList (List.replicate (width - ds.length) '0' ++ ds)

/-- A year as it is written: four digits, or a sign and six outside of that. -/
def yearText (year : Int) : String :=
  if 0 ≤ year ∧ year ≤ 9999 then padded 4 year
  else if year < 0 then "-" ++ padded 6 (-year)
  else "+" ++ padded 6 year

/-- Date and time of day in UTC. -/
def text (t : Timestamp) : String :=
  let (year, month, day) := civil (t.ms.ediv dayMs)
  let rest := t.ms.emod dayMs
  let date := s!"{yearText year}-{padded 2 month}-{padded 2 day}"
  let hours := padded 2 (rest / 3600000)
  let minutes := padded 2 (rest / 60000 % 60)
  let seconds := padded 2 (rest / 1000 % 60)
  s!"{date}T{hours}:{minutes}:{seconds}.{padded 3 (rest % 1000)}Z"

/-! ## From parts -/

/-- The furthest point in time from the start of 1970: a hundred million days. -/
def limitMs : Int := 100000000 * dayMs

/-- The point in time of a date, so many milliseconds of a day and so many milliseconds that
the place is ahead of UTC. Days past the end of a month run on into the next. -/
def ofParts? (year month day timeOfDay ahead : Int) : Option Timestamp :=
  let ms := dayNumber year month day * dayMs + timeOfDay - ahead
  if -limitMs ≤ ms ∧ ms ≤ limitMs then some ⟨ms⟩ else none

/-- No timestamp lies further from 1970 than the limit. -/
theorem abs_ofParts?_le {year month day timeOfDay ahead : Int} {t : Timestamp}
    (h : ofParts? year month day timeOfDay ahead = some t) :
    -limitMs ≤ t.ms ∧ t.ms ≤ limitMs := by
  simp only [ofParts?] at h
  split at h
  · next hms =>
    cases h
    exact hms
  · simp at h

end Timestamp

end LiveVisuals
