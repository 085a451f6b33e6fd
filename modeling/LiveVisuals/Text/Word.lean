import LiveVisuals.Text.Blank

/-!
# Words and fixed spellings

Word characters are ASCII letters, digits and the underscore. A word boundary lies between a
word character and anything else, the ends of a text included.

Main definitions:

- {lit}`Text.strip?`: what follows a fixed spelling at the start of a text.
- {lit}`Text.takeIdentifier`: the longest identifier at the start of a text.
- {lit}`Text.contains`, {lit}`Text.replaceWord`: finding and replacing spellings.

Main statements:

- {lit}`Text.strip?_eq_some_iff`: a stripped spelling and the rest make up the text.
-/

namespace LiveVisuals.Text

/-- ASCII letters. -/
def isLetter (c : Char) : Bool :=
  ('a' ≤ c && c ≤ 'z') || ('A' ≤ c && c ≤ 'Z')

/-- ASCII letters, digits and the underscore. -/
def isWordChar (c : Char) : Bool := isLetter c || c.isDigit || c == '_'

/-- Characters an identifier may start with. -/
def startsIdentifier (c : Char) : Bool := isLetter c || c == '_'

/-- An identifier is a word that does not start with a digit. -/
def isIdentifier : List Char → Bool
  | [] => false
  | c :: cs => startsIdentifier c && cs.all isWordChar

/-- Whether no word continues at the start of this text. -/
def endsWord : List Char → Bool
  | [] => true
  | c :: _ => !isWordChar c

/-- What follows {lit}`word` at the start of a text. -/
def strip? : (word : List Char) → List Char → Option (List Char)
  | [], cs => some cs
  | _ :: _, [] => none
  | w :: ws, c :: cs => if w = c then strip? ws cs else none

/-- A stripped spelling and the rest make up the text. -/
theorem strip?_eq_some_iff {word cs rest : List Char} :
    strip? word cs = some rest ↔ cs = word ++ rest := by
  induction word generalizing cs with
  | nil => simp [strip?]
  | cons w ws ih =>
      cases cs with
      | nil => simp [strip?]
      | cons c cs =>
          by_cases h : w = c
          · subst h
            simp [strip?, ih]
          · simp [strip?, h, Ne.symm h]

/-- The longest identifier at the start of a text, with what follows it. -/
def takeIdentifier (cs : List Char) : Option (List Char × List Char) :=
  match cs with
  | [] => none
  | c :: rest =>
      if startsIdentifier c then
        some (c :: rest.takeWhile isWordChar, rest.dropWhile isWordChar)
      else none

/-- Whether {lit}`word` occurs in a text. -/
def contains (word : List Char) : List Char → Bool
  | [] => word.isEmpty
  | c :: cs => (strip? word (c :: cs)).isSome || contains word cs

/-- Whether {lit}`word` occurs in a string. -/
def includes (s word : String) : Bool := contains word.toList s.toList

/-- Whether the word {lit}`word` stands at the start of a text after the character
{lit}`before`. -/
def wordAt? (word : List Char) (before : Option Char) (cs : List Char) :
    Option (List Char) :=
  if before.any isWordChar then none
  else
    match strip? word cs with
    | some rest => if endsWord rest then some rest else none
    | none => none

/-- Replace a word wherever it stands on its own. The first argument is the character before
the text; {lit}`skip` characters still belong to the last occurrence. -/
def replaceWordFrom (word new : List Char) :
    (before : Option Char) → (skip : Nat) → List Char → List Char
  | _, _, [] => []
  | _, skip + 1, c :: cs => replaceWordFrom word new (some c) skip cs
  | before, 0, c :: cs =>
      match wordAt? word before (c :: cs) with
      | some _ => new ++ replaceWordFrom word new (some c) (word.length - 1) cs
      | none => c :: replaceWordFrom word new (some c) 0 cs

/-- Replace a word wherever it stands on its own. -/
def replaceWord (word new : List Char) (cs : List Char) : List Char :=
  replaceWordFrom word new none 0 cs

end LiveVisuals.Text
