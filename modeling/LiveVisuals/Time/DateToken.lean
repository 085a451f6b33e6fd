import LiveVisuals.Decimal.Numeral
import LiveVisuals.Text.Blank

/-!
# Parts of a written date

A date that somebody wrote is taken apart into numbers, words, punctuation marks and blanks
before its form is looked at. Words are known by their first three letters, whatever their
case. Text in parentheses is a remark and counts as one unknown mark.

Main definitions:

- {lit}`DateWord`: the words that a date can hold.
- {lit}`DateToken`: a part of a written date.
- {lit}`DateToken.scan`: the parts of a text.
-/

namespace LiveVisuals

/-- Words that a date can hold. -/
inductive DateWord where
  /-- A month by its number. -/
  | month (number : Nat)
  /-- Half a day by the hours that it adds. -/
  | half (hours : Nat)
  /-- A time zone by the hours that it is ahead of UTC. -/
  | zone (hours : Int)
  /-- The letter between a date and a time of day. -/
  | timeMark
  | unknown
deriving DecidableEq, Repr

/-- A part of a written date. -/
inductive DateToken where
  /-- A number with the count of its digits; of a long one only the first nine digits that
  count are kept. -/
  | number (value digits : Nat)
  | word (meaning : DateWord) (length : Nat)
  | colon
  | dash
  | plus
  | dot
  | closing
  | blank
  | other
deriving DecidableEq, Repr

namespace DateWord

/-- Months by the letters that they begin with. -/
def months : List String :=
  ["jan", "feb", "mar", "apr", "may", "jun", "jul", "aug", "sep", "oct", "nov", "dec"]

/-- Other words of dates. -/
def shortWords : List (String × DateWord) :=
  [ ("am", half 0), ("pm", half 12), ("ut", zone 0), ("utc", zone 0), ("z", zone 0)
  , ("gmt", zone 0), ("cdt", zone (-5)), ("cst", zone (-6)), ("edt", zone (-4))
  , ("est", zone (-5)), ("mdt", zone (-6)), ("mst", zone (-7)), ("pdt", zone (-7))
  , ("pst", zone (-8)), ("t", timeMark) ]

/-- What a word means. Only months may go on after their first three letters. -/
def ofChars (cs : List Char) : DateWord :=
  let small := String.ofList (cs.map Char.toLower)
  match months.findIdx? fun m => (String.ofList ((cs.take 3).map Char.toLower)) == m with
  | some i => month (i + 1)
  | none => ((shortWords.find? (·.1 == small)).map (·.2)).getD unknown

end DateWord

namespace DateToken

/-- How many digits of a number are kept. -/
def keptDigits : Nat := 9

/-- The number that a row of digits writes. -/
def ofDigits (ds : List Char) : DateToken :=
  number (Decimal.natOfDigits ((ds.dropWhile (· == '0')).take keptDigits)) ds.length

/-- Whether a character belongs to a word. -/
def isWordChar (c : Char) : Bool := 'A' ≤ c && !Text.isBlank c

/-- What follows parentheses of which so many are open. -/
def afterParentheses : (depth : Nat) → List Char → List Char
  | 0, cs => cs
  | _, [] => []
  | n + 1, c :: cs =>
      if c = '(' then afterParentheses (n + 2) cs
      else if c = ')' then afterParentheses n cs
      else afterParentheses (n + 1) cs

/-- What follows parentheses is no longer than what they stand in. -/
theorem length_afterParentheses_le (depth : Nat) (cs : List Char) :
    (afterParentheses depth cs).length ≤ cs.length := by
  induction cs generalizing depth with
  | nil => cases depth <;> exact Nat.le_refl _
  | cons c cs ih =>
      cases depth with
      | zero => exact Nat.le_refl _
      | succ n =>
          simp only [afterParentheses]
          split
          · exact Nat.le_succ_of_le (ih _)
          · split
            · exact Nat.le_succ_of_le (ih _)
            · exact Nat.le_succ_of_le (ih _)

/-- The mark that a character is by itself. -/
def ofMark (c : Char) : DateToken :=
  if c = ':' then colon
  else if c = '-' then dash
  else if c = '+' then plus
  else if c = '.' then dot
  else if c = ')' then closing
  else if Text.isBlank c then blank
  else other

/-- The part that a text starts with, given its first character, and what follows. -/
def first (c : Char) (cs : List Char) : DateToken × List Char :=
  if c.isDigit then
    (ofDigits (c :: cs.takeWhile Char.isDigit), cs.dropWhile Char.isDigit)
  else if isWordChar c then
    let w := c :: cs.takeWhile isWordChar
    (word (.ofChars w) w.length, cs.dropWhile isWordChar)
  else if c = '(' then (other, afterParentheses 1 cs)
  else (ofMark c, cs)

/-- A part takes at least one character. -/
theorem length_first_le (c : Char) (cs : List Char) : (first c cs).2.length ≤ cs.length := by
  unfold first
  split
  · exact (List.dropWhile_sublist _).length_le
  · split
    · exact (List.dropWhile_sublist _).length_le
    · split
      · exact length_afterParentheses_le 1 cs
      · exact Nat.le_refl _

/-- The parts of a text. -/
def scan : List Char → List DateToken
  | [] => []
  | c :: cs => (first c cs).1 :: scan (first c cs).2
termination_by cs => cs.length
decreasing_by
  have := length_first_le c cs
  simp only [List.length_cons]
  omega

end DateToken

end LiveVisuals
