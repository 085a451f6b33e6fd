import LiveVisuals.Keyed
import LiveVisuals.Scalar

/-!
# JSON values

The data that reaches the program from outside: shader headers, saved bindings, request
bodies, messages of clients and tool arguments. Numbers are scalars of any kind.

Main definitions:

- {lit}`Json`: null, truth values, numbers, strings, arrays and objects.
- {lit}`Json.field?`: the member of an object.
-/

namespace LiveVisuals

/-- A JSON value. The members of an object keep the order in which keys first came. -/
inductive Json (α : Type) where
  | null
  | bool (b : Bool)
  | num (x : α)
  | str (s : String)
  | arr (items : List (Json α))
  | obj (fields : List (String × Json α))
deriving Inhabited

namespace Json

variable {α : Type}

/-- The member of an object; other values have none. -/
def field? (key : String) : Json α → Option (Json α)
  | obj fields => Keyed.get? key fields
  | _ => none

/-- A string's text. -/
def asString? : Json α → Option String
  | str s => some s
  | _ => none

/-- A number's scalar. -/
def asNumber? : Json α → Option α
  | num x => some x
  | _ => none

/-- A truth value. -/
def asBool? : Json α → Option Bool
  | bool b => some b
  | _ => none

/-- An array's items. -/
def asArray? : Json α → Option (List (Json α))
  | arr items => some items
  | _ => none

/-- An object of the fields that are present. -/
def ofPresent (fields : List (String × Option (Json α))) : Json α :=
  obj (fields.filterMap fun (k, v) => v.map fun value => (k, value))

/-- An array of strings. -/
def strings (ss : List String) : Json α := arr (ss.map str)

/-- A natural number. -/
def nat [Scalar α] (n : Nat) : Json α := num (Scalar.ofInt n)

/-- A value or null. -/
def orNull {β : Type} (encode : β → Json α) : Option β → Json α
  | some b => encode b
  | none => null

end Json

end LiveVisuals
