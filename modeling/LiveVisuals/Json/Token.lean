import LiveVisuals.Json.Basic

/-!
# JSON tokens

A JSON text is first cut into tokens: punctuation, strings and atoms, an atom being a run of
characters that is a number or one of three words. Blanks outside strings only separate
tokens, so texts that differ in such blanks have the same tokens.

Main definitions:

- {lit}`Json.Token`: a token.
- {lit}`Json.tokens?`: the tokens of a text, if it has only tokens and blanks.
-/

namespace LiveVisuals.Json

variable {α : Type}

/-- A token of a JSON text. -/
inductive Token (α : Type) where
  | openObject
  | closeObject
  | openArray
  | closeArray
  | colon
  | comma
  | null
  | bool (b : Bool)
  | num (x : α)
  | str (s : String)

/-- Blanks between tokens. -/
def isSpace (c : Char) : Bool := c == ' ' || c == '\t' || c == '\n' || c == '\r'

/-- The quotation mark. -/
def quote : Char := Char.ofNat 0x22

/-- The backslash. -/
def backslash : Char := Char.ofNat 0x5C

/-- The token of a punctuation character. -/
def punctuation? (c : Char) : Option (Token α) :=
  match c.toNat with
  | 0x7B => some .openObject
  | 0x7D => some .closeObject
  | 0x5B => some .openArray
  | 0x5D => some .closeArray
  | 0x3A => some .colon
  | 0x2C => some .comma
  | _ => none

/-- The token of an atom. -/
def atom? [Scalar α] (cs : List Char) : Option (Token α) :=
  if cs = "null".toList then some .null
  else if cs = "true".toList then some (.bool true)
  else if cs = "false".toList then some (.bool false)
  else
    match Decimal.readStrict cs with
    | some (d, []) => some (.num (Scalar.ofDecimal d))
    | _ => none

/-- Value of a hexadecimal digit. -/
def hexDigit? (c : Char) : Option Nat := Numeral.digitValue? 16 c

/-- The character a one-letter escape stands for. -/
def escape? (c : Char) : Option Nat :=
  match c with
  | 'b' => some 8
  | 't' => some 9
  | 'n' => some 10
  | 'f' => some 12
  | 'r' => some 13
  | '/' => some 0x2F
  | c => if c = quote ∨ c = backslash then some c.toNat else none

/-- Character codes with each surrogate pair joined; a half without its partner becomes the
replacement character. -/
def joinSurrogates : List Nat → List Char
  | [] => []
  | [n] => [if 0xD800 ≤ n ∧ n < 0xE000 then Char.ofNat 0xFFFD else Char.ofNat n]
  | h :: l :: rest =>
      if 0xD800 ≤ h ∧ h < 0xDC00 ∧ 0xDC00 ≤ l ∧ l < 0xE000 then
        Char.ofNat (0x10000 + (h - 0xD800) * 0x400 + (l - 0xDC00)) :: joinSurrogates rest
      else if 0xD800 ≤ h ∧ h < 0xE000 then Char.ofNat 0xFFFD :: joinSurrogates (l :: rest)
      else Char.ofNat h :: joinSurrogates (l :: rest)

/-- Where the reader of tokens stands. Codes and characters read so far are kept last first. -/
inductive Position where
  /-- Between tokens. -/
  | between
  /-- In an atom. -/
  | atom (seen : List Char)
  /-- In a string. -/
  | text (codes : List Nat)
  /-- After the backslash of an escape. -/
  | escape (codes : List Nat)
  /-- In a four-digit escape with {lit}`left` digits to come. -/
  | hex (codes : List Nat) (value left : Nat)

/-- What a character between tokens is by itself, and where it leads. -/
def enter (c : Char) : List (Token α) × Position :=
  if isSpace c then ([], .between)
  else if c = quote then ([], .text [])
  else
    match punctuation? c with
    | some t => ([t], .between)
    | none => ([], .atom [c])

/-- Whether a character ends an atom. -/
def endsAtom (c : Char) : Bool :=
  isSpace c || c == quote || (punctuation? (α := Unit) c).isSome

/-- Read the tokens of a text from a position in it. -/
def tokensFrom? [Scalar α] : Position → List Char → Option (List (Token α))
  | .between, [] => some []
  | .atom seen, [] => (atom? seen.reverse).map ([·])
  | .text _, [] => none
  | .escape _, [] => none
  | .hex .., [] => none
  | .between, c :: cs =>
      let (ts, p) := enter c
      (tokensFrom? p cs).map (ts ++ ·)
  | .atom seen, c :: cs =>
      if endsAtom c then
        match atom? seen.reverse with
        | some t =>
            let (ts, p) := enter c
            (tokensFrom? p cs).map (t :: ts ++ ·)
        | none => none
      else tokensFrom? (.atom (c :: seen)) cs
  | .text codes, c :: cs =>
      if c = quote then
        (tokensFrom? .between cs).map
          (Token.str (String.ofList (joinSurrogates codes.reverse)) :: ·)
      else if c = backslash then tokensFrom? (.escape codes) cs
      else if c.toNat < 0x20 then none
      else tokensFrom? (.text (c.toNat :: codes)) cs
  | .escape codes, c :: cs =>
      if c = 'u' then tokensFrom? (.hex codes 0 4) cs
      else
        match escape? c with
        | some n => tokensFrom? (.text (n :: codes)) cs
        | none => none
  | .hex codes value left, c :: cs =>
      match hexDigit? c with
      | some d =>
          if left ≤ 1 then tokensFrom? (.text ((value * 16 + d) :: codes)) cs
          else tokensFrom? (.hex codes (value * 16 + d) (left - 1)) cs
      | none => none

/-- The tokens of a JSON text. -/
def tokens? [Scalar α] (cs : List Char) : Option (List (Token α)) := tokensFrom? .between cs

end LiveVisuals.Json
