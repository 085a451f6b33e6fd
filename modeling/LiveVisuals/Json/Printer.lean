import LiveVisuals.Json.Basic

/-!
# Writing JSON

JSON texts on one line or indented. Strings escape the quotation mark, the backslash and
control characters; numbers that are not finite are written as null.

Main definitions:

- {lit}`Json.quoted`: a string in quotation marks.
- {lit}`Json.compact`, {lit}`Json.indented`: the two layouts.
- {lit}`Json.transmitted`: a value as its text is read back.
- {lit}`Json.plain?`: a value as it stands in a report.
-/

namespace LiveVisuals.Json

variable {α : Type}

/-- A hexadecimal digit. -/
def hexChar (n : Nat) : Char :=
  if n < 10 then Char.ofNat (0x30 + n) else Char.ofNat (0x61 + n - 10)

/-- A character inside quotation marks. -/
def quotedChar (c : Char) : String :=
  match c.toNat with
  | 0x22 => "\\\""
  | 0x5C => "\\\\"
  | 8 => "\\b"
  | 9 => "\\t"
  | 10 => "\\n"
  | 12 => "\\f"
  | 13 => "\\r"
  | n =>
      if n < 0x20 then "\\u00" ++ String.ofList [hexChar (n / 16), hexChar (n % 16)]
      else c.toString

/-- A string in quotation marks. -/
def quoted (s : String) : String :=
  "\"" ++ s.toList.foldl (fun acc c => acc ++ quotedChar c) "" ++ "\""

/-- How line breaks and indentation are laid out: nothing, or so many spaces a level. -/
structure Layout where
  width : Option Nat

/-- The break before an item at some depth. -/
def Layout.lineBreak (l : Layout) (depth : Nat) : String :=
  match l.width with
  | none => ""
  | some w => "\n" ++ String.ofList (List.replicate (w * depth) ' ')

/-- What stands between a key and its value. -/
def Layout.colon (l : Layout) : String := if l.width.isSome then ": " else ":"

/-- Opening brace. -/
def openBrace : String := (Char.ofNat 0x7B).toString

/-- Closing brace. -/
def closeBrace : String := (Char.ofNat 0x7D).toString

/-- Bracketed items, each on its line. -/
def Layout.bracket (l : Layout) (depth : Nat) (opening closing : String)
    (items : List String) : String :=
  if items.isEmpty then opening ++ closing
  else
    let brk := l.lineBreak (depth + 1)
    opening ++ brk ++ String.intercalate ("," ++ brk) items ++ l.lineBreak depth ++ closing

mutual

/-- A value at some depth. -/
def write [Scalar α] (l : Layout) (depth : Nat) : Json α → String
  | null => "null"
  | bool b => if b then "true" else "false"
  | num x => if Scalar.isFinite x then Scalar.text x else "null"
  | str s => quoted s
  | arr items => l.bracket depth "[" "]" (writeItems l (depth + 1) items)
  | obj fields => l.bracket depth openBrace closeBrace (writeFields l (depth + 1) fields)

/-- The items of an array. -/
def writeItems [Scalar α] (l : Layout) (depth : Nat) : List (Json α) → List String
  | [] => []
  | v :: vs => write l depth v :: writeItems l depth vs

/-- The members of an object. -/
def writeFields [Scalar α] (l : Layout) (depth : Nat) :
    List (String × Json α) → List String
  | [] => []
  | (k, v) :: rest => (quoted k ++ l.colon ++ write l depth v) :: writeFields l depth rest

end

/-- A value on one line. -/
def compact [Scalar α] (v : Json α) : String := write ⟨none⟩ 0 v

/-- A value with two spaces of indentation a level. -/
def indented [Scalar α] (v : Json α) : String := write ⟨some 2⟩ 0 v

mutual

/-- A value as its text is read back: numbers that are not finite have become null. -/
def transmitted [Scalar α] : Json α → Json α
  | num x => if Scalar.isFinite x then num x else null
  | arr items => arr (transmittedItems items)
  | obj fields => obj (transmittedFields fields)
  | v => v

/-- The items of an array as read back. -/
def transmittedItems [Scalar α] : List (Json α) → List (Json α)
  | [] => []
  | v :: vs => transmitted v :: transmittedItems vs

/-- The members of an object as read back. -/
def transmittedFields [Scalar α] : List (String × Json α) → List (String × Json α)
  | [] => []
  | (k, v) :: rest => (k, transmitted v) :: transmittedFields rest

end

/-- The member that stands for an object's own way to be written. -/
def writerKey : String := "toString"

mutual

/-- A value as it stands in a report: strings as they are, the items of arrays with commas
between, and nothing of an object's members. An object with a member in the place of its own
way to be written cannot stand in a report. -/
def plain? [Scalar α] : Json α → Option String
  | null => some "null"
  | bool b => some (if b then "true" else "false")
  | num x => some (Scalar.text x)
  | str s => some s
  | arr items => (plainItems? items).map (",".intercalate ·)
  | obj fields => if Keyed.has writerKey fields then none else some "[object Object]"

/-- The items of an array in a report; nulls are left blank. -/
def plainItems? [Scalar α] : List (Json α) → Option (List String)
  | [] => some []
  | null :: vs => (plainItems? vs).map ("" :: ·)
  | v :: vs => do
      let text ← plain? v
      let texts ← plainItems? vs
      some (text :: texts)

end

end LiveVisuals.Json
