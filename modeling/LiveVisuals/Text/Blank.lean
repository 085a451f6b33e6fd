/-!
# Blanks and line ends

Blank characters separate words in shader sources, compiler logs and names typed by users.
They are tab, line feed, vertical tab, form feed, carriage return, the Unicode space
separators, the line and paragraph separators and the byte order mark.

Main definitions:

- {lit}`Text.isBlank`, {lit}`Text.isLineEnd`: the two character classes.
- {lit}`Text.trim`: a text without the blanks at its ends.
- {lit}`Text.lines`: the lines of a text; CRLF, CR and LF each end one.

Main statements:

- {lit}`Text.isBlank_of_isLineEnd`: every line end is blank.
- {lit}`Text.lines_ne_nil`: a text has at least one line.
-/

namespace LiveVisuals.Text

/-- Blank characters. -/
def isBlank (c : Char) : Bool :=
  let n := c.toNat
  (9 ≤ n && n ≤ 13) || n == 0x20 || n == 0xA0 || n == 0x1680 || (0x2000 ≤ n && n ≤ 0x200A) ||
    n == 0x2028 || n == 0x2029 || n == 0x202F || n == 0x205F || n == 0x3000 || n == 0xFEFF

/-- Characters that end a line for patterns anchored at line ends. -/
def isLineEnd (c : Char) : Bool :=
  c == '\n' || c == '\r' || c.toNat == 0x2028 || c.toNat == 0x2029

/-- Every line end is blank. -/
theorem isBlank_of_isLineEnd {c : Char} (h : isLineEnd c = true) : isBlank c = true := by
  simp only [isLineEnd, Bool.or_eq_true, beq_iff_eq] at h
  rcases h with ((rfl | rfl) | h) | h
  · decide
  · decide
  · simp [isBlank, h]
  · simp [isBlank, h]

/-- Drop the blanks a text starts with. -/
def skipBlanks (cs : List Char) : List Char := cs.dropWhile isBlank

@[simp] theorem skipBlanks_nil : skipBlanks [] = [] := rfl

/-- Skipping blanks never makes a text longer. -/
theorem length_skipBlanks_le (cs : List Char) : (skipBlanks cs).length ≤ cs.length := by
  induction cs with
  | nil => simp
  | cons c cs ih =>
      simp only [skipBlanks, List.dropWhile_cons] at ih ⊢
      split
      · exact Nat.le_succ_of_le ih
      · exact Nat.le_refl _

/-- Skip at least one blank. -/
def skipSomeBlanks : List Char → Option (List Char)
  | c :: cs => if isBlank c then some (skipBlanks cs) else none
  | [] => none

/-- A text without the blanks at its ends. -/
def trim (cs : List Char) : List Char :=
  (skipBlanks (skipBlanks cs).reverse).reverse

/-- A string without the blanks at its ends. -/
def trimmed (s : String) : String := String.ofList (trim s.toList)

/-! ## Lines -/

/-- The lines of a text. There is one more than there are line breaks. -/
def lines : List Char → List (List Char)
  | [] => [[]]
  | '\r' :: '\n' :: cs => [] :: lines cs
  | '\r' :: cs => [] :: lines cs
  | '\n' :: cs => [] :: lines cs
  | c :: cs =>
      match lines cs with
      | [] => [[c]]
      | l :: ls => (c :: l) :: ls

/-- A text has at least one line. -/
theorem lines_ne_nil (cs : List Char) : lines cs ≠ [] := by
  fun_induction lines cs <;> simp

/-- Number of line breaks, CRLF counting once. -/
def lineBreaks (cs : List Char) : Nat := (lines cs).length - 1

/-- Lines joined by line feeds. -/
def joinLines (ls : List String) : String := String.intercalate "\n" ls

end LiveVisuals.Text
