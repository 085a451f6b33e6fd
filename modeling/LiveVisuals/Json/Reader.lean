import LiveVisuals.Json.Token

/-!
# Reading JSON

The value of a token sequence. The reader keeps the open arrays and objects as a stack of
frames and looks at each token once.

Main definitions:

- {lit}`Json.ofTokens?`: the value that a token sequence spells.
- {lit}`Json.read?`: the value of a text, if it is JSON.
-/

namespace LiveVisuals.Json

variable {α : Type}

/-- An open array or object: what it holds so far, and the key that a value is due for. -/
inductive Frame (α : Type) where
  /-- Items are kept last first. -/
  | array (items : List (Json α))
  | object (fields : List (String × Json α)) (key : String)

/-- What may come next. -/
inductive Awaiting (α : Type) where
  | value
  /-- An array was opened. -/
  | firstItem
  /-- An object was opened. -/
  | firstKey
  | key (fields : List (String × Json α))
  | colon (fields : List (String × Json α)) (key : String)
  /-- A value is complete. -/
  | separator (v : Json α)

/-- Take a token where a value may start. -/
def startValue (stack : List (Frame α)) : Token α → Option (List (Frame α) × Awaiting α)
  | .null => some (stack, .separator .null)
  | .bool b => some (stack, .separator (.bool b))
  | .num x => some (stack, .separator (.num x))
  | .str s => some (stack, .separator (.str s))
  | .openArray => some (stack, .firstItem)
  | .openObject => some (stack, .firstKey)
  | _ => none

/-- Take a token after a complete value. -/
def afterValue (v : Json α) : List (Frame α) → Token α → Option (List (Frame α) × Awaiting α)
  | .array items :: stack, .comma => some (.array (v :: items) :: stack, .value)
  | .array items :: stack, .closeArray => some (stack, .separator (.arr (v :: items).reverse))
  | .object fields key :: stack, .comma => some (stack, .key (Keyed.put key v fields))
  | .object fields key :: stack, .closeObject =>
      some (stack, .separator (.obj (Keyed.put key v fields)))
  | _, _ => none

/-- Take one token. -/
def takeToken (stack : List (Frame α)) (t : Token α) :
    Awaiting α → Option (List (Frame α) × Awaiting α)
  | .value => startValue stack t
  | .firstItem =>
      match t with
      | .closeArray => some (stack, .separator (.arr []))
      | t => startValue (.array [] :: stack) t
  | .firstKey =>
      match t with
      | .closeObject => some (stack, .separator (.obj []))
      | .str key => some (stack, .colon [] key)
      | _ => none
  | .key fields =>
      match t with
      | .str key => some (stack, .colon fields key)
      | _ => none
  | .colon fields key =>
      match t with
      | .colon => some (.object fields key :: stack, .value)
      | _ => none
  | .separator v => afterValue v stack t

/-- The value that remaining tokens complete. -/
def ofTokensFrom? (stack : List (Frame α)) :
    Awaiting α → List (Token α) → Option (Json α)
  | .separator v, [] => if stack.isEmpty then some v else none
  | _, [] => none
  | awaiting, t :: ts =>
      match takeToken stack t awaiting with
      | some (stack, awaiting) => ofTokensFrom? stack awaiting ts
      | none => none
termination_by structural _ ts => ts

/-- The value that a token sequence spells. -/
def ofTokens? (ts : List (Token α)) : Option (Json α) := ofTokensFrom? [] .value ts

/-- The value of a text, if it is JSON. -/
def read? [Scalar α] (cs : List Char) : Option (Json α) := (tokens? cs).bind ofTokens?

/-- The value of a string, if it is JSON. -/
def readString? [Scalar α] (s : String) : Option (Json α) := read? s.toList

end LiveVisuals.Json
