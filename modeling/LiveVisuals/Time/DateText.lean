import LiveVisuals.Time.DateToken
import LiveVisuals.Time.Timestamp

/-!
# Reading dates

A written date has one of two forms. The strict form is a year, month and day with dashes
between them, then perhaps the letter T, a time of day and a zone; month and day may be left
out. What does not begin like the strict form, or leaves it within the date, is read in the
loose form: numbers, names of months and zones, times of day and zone offsets in any order
that makes sense. Once the T has been read, nothing but the strict form is a date.

Where no zone is given, the time is that of UTC.

Main definitions:

- {lit}`DateParts`: what has been read of a date.
- {lit}`DateParts.strict`: read the strict form.
- {lit}`DateParts.loose?`: read the loose form.
- {lit}`Timestamp.read?`: the point in time of a text.

Main statements:

- {lit}`Timestamp.abs_read?_le`: no text tells of a point in time beyond the limit.
-/

namespace LiveVisuals

/-- An offset from UTC; a part that was not read is missing. -/
structure ZoneParts where
  /-- One for places ahead of UTC, minus one for places behind. -/
  sign : Option Int
  hours : Option Nat
  minutes : Option Nat
deriving DecidableEq, Repr

namespace ZoneParts

/-- Nothing read. -/
def unread : ZoneParts := ⟨none, none, none⟩

/-- The zone that is so many hours ahead of UTC. -/
def ofHours (h : Int) : ZoneParts := ⟨some (if h < 0 then -1 else 1), some h.natAbs, some 0⟩

/-- Whether the zone is UTC itself. -/
def isUtc (z : ZoneParts) : Bool := z.hours == some 0 && z.minutes == some 0

/-- Whether a number can be the minutes that are still missing. -/
def expects (z : ZoneParts) (n : Nat) : Bool := z.hours.isSome && z.minutes.isNone && n < 60

/-- The most seconds that an offset can have. -/
def secondsLimit : Nat := Nat.pow 2 31 - 1

/-- Milliseconds that the zone is ahead of UTC; seconds are reckoned in words of 32 bits. -/
def aheadMs? (z : ZoneParts) : Option Int :=
  match z.sign with
  | none => some 0
  | some sign =>
      let seconds := (z.hours.getD 0 * 3600 + z.minutes.getD 0 * 60) % Nat.pow 2 32
      if seconds ≤ secondsLimit then some (sign * seconds * 1000) else none

end ZoneParts

/-- What has been read of a date. -/
structure DateParts where
  /-- Numbers of the date in the order in which they came, at most three. -/
  numbers : List Int
  /-- The month that a name gave. -/
  month : Option Nat
  /-- Hours, minutes, seconds and milliseconds, as far as they came. -/
  clock : List Nat
  /-- Hours that a name of a half of the day adds. -/
  half : Option Nat
  zone : ZoneParts
  /-- Whether numbers have begun. -/
  begun : Bool
deriving DecidableEq, Repr

namespace DateParts

/-- Nothing read. -/
def unread : DateParts := ⟨[], none, [], none, .unread, false⟩

/-! ## What the parts say -/

/-- Whether a number is that of a month. -/
def isMonth (n : Int) : Bool := 1 ≤ n && n ≤ 12

/-- Whether a number is that of a day. -/
def isDay (n : Int) : Bool := 1 ≤ n && n ≤ 31

/-- A year of which only the last two digits were written lies between 1950 and 2049. -/
def wholeYear (y : Int) : Int :=
  if 0 ≤ y ∧ y ≤ 49 then y + 2000 else if 50 ≤ y ∧ y ≤ 99 then y + 1900 else y

/-- Year, month and day in the strict form. Numbers that are missing are one. -/
def strictDate? (p : DateParts) : Option (Int × Int × Int) :=
  match p.numbers with
  | [] => none
  | y :: rest => some (y, rest.getD 0 1, rest.getD 1 1)

/-- Year, month and day in the loose form: a first number that is no day is the year,
otherwise the order is month, day, year, or day and year beside a name of a month. -/
def looseDate? (p : DateParts) : Option (Int × Int × Int) :=
  match p.numbers with
  | [] => none
  | a :: rest =>
      let b := rest.getD 0 1
      let c := rest.getD 1 1
      let (year, month, day) : Int × Int × Int :=
        match p.month with
        | some m => if isDay a then (b, m, a) else (a, m, b)
        | none => if isDay a then (c, a, b) else (a, b, c)
      if isMonth month && isDay day then some (wholeYear year, month, day) else none

/-- Milliseconds since the day began. The day may end with its twenty-fourth hour. -/
def timeOfDay? (p : DateParts) : Option Int :=
  let hour := p.clock.getD 0 0
  let minute := p.clock.getD 1 0
  let second := p.clock.getD 2 0
  let ms := p.clock.getD 3 0
  let hour? : Option Nat :=
    match p.half with
    | none => some hour
    | some added => if hour ≤ 12 then some (hour % 12 + added) else none
  hour?.bind fun hour =>
    if (hour < 24 ∧ minute < 60 ∧ second < 60 ∧ ms < 1000) ∨
        (hour = 24 ∧ minute = 0 ∧ second = 0 ∧ ms = 0) then
      some (((hour * 60 + minute) * 60 + second) * 1000 + ms : Nat)
    else none

/-- The point in time of the parts, their date being given. -/
def at? (p : DateParts) (date : Option (Int × Int × Int)) : Option Timestamp := do
  let (year, month, day) ← date
  let time ← p.timeOfDay?
  let ahead ← p.zone.aheadMs?
  Timestamp.ofParts? year month day time ahead

/-! ## Steps of reading -/

/-- Milliseconds of a fraction of a second: its first three digits. -/
def thousandths (value digits : Nat) : Nat :=
  match digits with
  | 0 => 0
  | 1 => value * 100
  | 2 => value * 10
  | digits => value / Nat.pow 10 (min digits DateToken.keptDigits - 3)

/-- Whether a number can go on with a time of day that has begun. -/
def expectsTime (p : DateParts) (n : Nat) : Bool :=
  match p.clock.length with
  | 1 => n < 60
  | 2 => n < 60
  | 3 => n < 1000
  | _ => false

/-- Add a number to the time of day. -/
def addTime? (p : DateParts) (n : Nat) : Option DateParts :=
  if p.clock.length < 4 then some { p with clock := p.clock ++ [n] } else none

/-- End the time of day with some numbers; what is missing after them is zero. -/
def endTime (p : DateParts) (ns : List Nat) : DateParts :=
  { p with clock := (p.clock ++ ns ++ [0, 0, 0, 0]).take 4 }

/-- Add a number to the date. -/
def addNumber? (p : DateParts) (n : Int) : Option DateParts :=
  if p.numbers.length < 3 then some { p with numbers := p.numbers ++ [n] } else none

/-! ## The strict form -/

/-- How the attempt at the strict form ends. -/
inductive Strict where
  /-- All was read. -/
  | whole (p : DateParts)
  /-- No date in either form. -/
  | refused
  /-- Not the strict form; what is left goes on in the loose form. -/
  | left (p : DateParts) (rest : List DateToken)

/-- A zone in the strict form, with nothing after it. -/
def strictZone? : List DateToken → Option ZoneParts
  | [] => some .unread
  | [.word (.zone h) 1] => some (.ofHours h)
  | sign :: rest =>
      let zone (hours minutes : Nat) : Option ZoneParts :=
        let sign? : Option Int :=
          match sign with
          | .plus => some 1
          | .dash => some (-1)
          | _ => none
        if hours < 24 && minutes < 60 then
          sign?.map fun s => ⟨some s, some hours, some minutes⟩
        else none
      match rest with
      | [.number hm 4] => zone (hm / 100) (hm % 100)
      | [.number h 2, .colon, .number m 2] => zone h m
      | _ => none

/-- A fraction of a second and a zone in the strict form. -/
def strictFraction? (p : DateParts) : List DateToken → Option DateParts
  | .dot :: .number f digits :: rest =>
      if p.clock.head? = some 24 ∧ 0 < f then none
      else
        (strictZone? rest).map fun z =>
          { p with clock := p.clock ++ [thousandths f digits], zone := z }
  | .dot :: _ => none
  | rest => (strictZone? rest).map fun z => { p with zone := z }

/-- A time of day and a zone in the strict form. -/
def strictTime? (p : DateParts) : List DateToken → Option DateParts
  | .number h 2 :: .colon :: .number m 2 :: rest =>
      let last : Nat := if h = 24 then 0 else 59
      if 24 < h ∨ last < m then none
      else
        match rest with
        | .colon :: .number s 2 :: rest =>
            if last < s then none else strictFraction? { p with clock := [h, m, s] } rest
        | .colon :: _ => none
        | rest => (strictZone? rest).map fun z => { p with clock := [h, m], zone := z }
  | _ => none

/-- What may come after the date in the strict form. -/
def strictRest (p : DateParts) : List DateToken → Strict
  | [] => .whole p
  | .word .timeMark _ :: rest => ((strictTime? p rest).map Strict.whole).getD .refused
  | rest => .left p rest

/-- The day in the strict form. -/
def strictDay (p : DateParts) : List DateToken → Strict
  | .dash :: .number d 2 :: rest =>
      if isDay d then strictRest { p with numbers := p.numbers ++ [(d : Int)] } rest
      else .left p (.number d 2 :: rest)
  | .dash :: rest => .left p rest
  | rest => strictRest p rest

/-- The month in the strict form. -/
def strictMonth (p : DateParts) : List DateToken → Strict
  | .dash :: .number m 2 :: rest =>
      if isMonth m then strictDay { p with numbers := p.numbers ++ [(m : Int)] } rest
      else .left p (.number m 2 :: rest)
  | .dash :: rest => .left p rest
  | rest => strictRest p rest

/-- Read the strict form. A year has four digits, or six after a sign; there is no year zero
with a minus sign. -/
def strict : List DateToken → Strict
  | .number y 4 :: rest => strictMonth { unread with numbers := [(y : Int)], begun := true } rest
  | .plus :: .number y 6 :: rest =>
      strictMonth { unread with numbers := [(y : Int)], begun := true } rest
  | .dash :: .number y 6 :: rest =>
      if y = 0 then .left unread (.dash :: rest)
      else strictMonth { unread with numbers := [-(y : Int)], begun := true } rest
  | rest => .left unread rest

/-! ## The loose form -/

/-- Whether a dash comes next. -/
def dashes (rest : List DateToken) : Nat := if rest.head? = some .dash then 1 else 0

/-- Whether a time of day may end before what comes next. -/
def endsTime (rest : List DateToken) : Bool :=
  match rest.head? with
  | none => true
  | some .blank => true
  | some .plus => true
  | some .dash => true
  | some (.word (.zone _) 1) => true
  | _ => false

/-- Take a number that no colon follows; {lit}`rest` comes after {lit}`used` further parts. -/
def takeBare? (p : DateParts) (n used : Nat) (rest : List DateToken) :
    Option (DateParts × Nat) :=
  if p.zone.expects n then some ({ p with zone := { p.zone with minutes := some n } }, used)
  else if p.expectsTime n then if endsTime rest then some (p.endTime [n], used) else none
  else (p.addNumber? n).map fun p => (p, used + dashes rest)

/-- Take a number. A colon after it makes it part of a time of day, two colons leave out the
minutes, and a point brings a fraction of the second. -/
def takeNumber? (p : DateParts) (n : Nat) (rest : List DateToken) : Option (DateParts × Nat) :=
  let p := { p with begun := true }
  match rest with
  | .colon :: .colon :: _ =>
      if p.clock.isEmpty then some ({ p with clock := [n, 0] }, 2) else none
  | .colon :: .dot :: _ => (p.addTime? n).map fun p => (p, 2)
  | .colon :: _ => (p.addTime? n).map fun p => (p, 1)
  | .dot :: rest =>
      if p.expectsTime n then
        match rest with
        | .number f digits :: _ => some (p.endTime [n, thousandths f digits], 2)
        | _ => none
      else p.takeBare? n 1 rest
  | rest => p.takeBare? n 0 rest

/-- Take a word. Words without meaning may stand before the first number, but not right
before it. -/
def takeWord? (p : DateParts) (w : DateWord) (rest : List DateToken) :
    Option (DateParts × Nat) :=
  let ignored : Option (DateParts × Nat) :=
    match rest with
    | .number .. :: _ => none
    | _ => if p.begun then none else some (p, 0)
  match w with
  | .half added => if p.clock.isEmpty then ignored else some ({ p with half := some added }, 0)
  | .month m => some ({ p with month := some m }, dashes rest)
  | .zone h => if p.begun then some ({ p with zone := .ofHours h }, 0) else ignored
  | _ => ignored

/-- Take a sign. After a time of day or UTC it begins an offset, elsewhere it may only stand
before the first number. -/
def takeSign? (p : DateParts) (sign : Int) (rest : List DateToken) : Option (DateParts × Nat) :=
  if p.zone.isUtc || !p.clock.isEmpty then
    let (n, digits, used) : Nat × Nat × Nat :=
      match rest with
      | .number n digits :: _ => (n, digits, 1)
      | _ => (0, 0, 0)
    let offset (hours : Nat) (minutes : Option Nat) : Option (DateParts × Nat) :=
      some ({ p with begun := true, zone := ⟨some sign, some hours, minutes⟩ }, used)
    if (rest.drop used).head? = some .colon then offset n none
    else if digits = 1 ∨ digits = 2 then offset n (some 0)
    else if digits = 3 ∨ digits = 4 then offset (n / 100) (some (n % 100))
    else none
  else if p.begun then none
  else some (p, 0)

/-- Take one part; the number says how many of the parts after it were used with it. -/
def take? (p : DateParts) (t : DateToken) (rest : List DateToken) : Option (DateParts × Nat) :=
  match t with
  | .number n _ => p.takeNumber? n rest
  | .word w _ => p.takeWord? w rest
  | .plus => p.takeSign? 1 rest
  | .dash => p.takeSign? (-1) rest
  | .closing => if p.begun then none else some (p, 0)
  | _ => some (p, 0)

/-- Read the loose form to its end. -/
def loose? (p : DateParts) : List DateToken → Option DateParts
  | [] => some p
  | t :: rest =>
      match p.take? t rest with
      | none => none
      | some (p, used) => loose? p (rest.drop used)
termination_by ts => ts.length
decreasing_by
  simp only [List.length_drop, List.length_cons]
  omega

end DateParts

/-- The point in time of a text; a null character ends it. -/
def Timestamp.read? (s : String) : Option Timestamp :=
  match DateParts.strict (DateToken.scan (s.toList.takeWhile (·.toNat != 0))) with
  | .whole p => p.at? p.strictDate?
  | .refused => none
  | .left p rest => (p.loose? rest).bind fun p => p.at? p.looseDate?

/-- Parts never tell of a point in time beyond the limit. -/
theorem DateParts.abs_at?_le {p : DateParts} {date : Option (Int × Int × Int)} {t : Timestamp}
    (h : p.at? date = some t) : -Timestamp.limitMs ≤ t.ms ∧ t.ms ≤ Timestamp.limitMs := by
  simp only [at?, Option.bind_eq_bind, Option.bind_eq_some_iff] at h
  obtain ⟨_, _, _, _, _, _, h⟩ := h
  exact Timestamp.abs_ofParts?_le h

/-- No text tells of a point in time beyond the limit. -/
theorem Timestamp.abs_read?_le {s : String} {t : Timestamp} (h : Timestamp.read? s = some t) :
    -Timestamp.limitMs ≤ t.ms ∧ t.ms ≤ Timestamp.limitMs := by
  unfold Timestamp.read? at h
  split at h
  · exact DateParts.abs_at?_le h
  · simp at h
  · obtain ⟨_, _, h⟩ := Option.bind_eq_some_iff.1 h
    exact DateParts.abs_at?_le h

end LiveVisuals
