import LiveVisuals.Json.Basic

/-!
# Checking data from outside

A schema reads a JSON value into a typed one or says what is wrong with it. All issues of a
value are reported, in the order in which the schema lists its parts.

Main definitions:

- {lit}`Issue`: where and what.
- {lit}`Checked`: an accepted value or the issues; its applicative structure collects issues.
- {lit}`Condition`: a condition with what to report when it fails.
- {lit}`Schema`: a reader of a value that may be missing, with the primitive ones.
-/

namespace LiveVisuals

/-- Something wrong with a value: the keys that lead to it, and a description. -/
structure Issue where
  path : List String
  message : String
deriving Repr, DecidableEq

/-- Path and description on one line. -/
def Issue.line (i : Issue) : String := ".".intercalate i.path ++ ": " ++ i.message

/-- The outcome of a check. -/
inductive Checked (β : Type) where
  | accepted (b : β)
  | refused (issues : List Issue)

namespace Checked

variable {β γ : Type}

/-- Change an accepted value. -/
def map (f : β → γ) : Checked β → Checked γ
  | accepted b => accepted (f b)
  | refused is => refused is

/-- Combine two checks; the issues of both are kept. -/
def combine (f : Checked (β → γ)) (b : Checked β) : Checked γ :=
  match f, b with
  | accepted f, accepted b => accepted (f b)
  | accepted _, refused is => refused is
  | refused is, accepted _ => refused is
  | refused is, refused js => refused (is ++ js)

instance : Applicative Checked where
  pure := accepted
  seq f b := combine f (b ())

/-- Report one issue at the value itself. -/
def fail (message : String) : Checked β := refused [⟨[], message⟩]

/-- Put the issues under a key. -/
def under (key : String) : Checked β → Checked β
  | accepted b => accepted b
  | refused is => refused (is.map fun i => { i with path := key :: i.path })

/-- The value, if it was accepted. -/
def value? : Checked β → Option β
  | accepted b => some b
  | refused _ => none

/-- The issues; none for an accepted value. -/
def issues : Checked β → List Issue
  | accepted _ => []
  | refused is => is

/-- The first description, for reports that give only one. -/
def firstMessage (c : Checked β) (otherwise : String) : String :=
  match c.issues with
  | i :: _ => i.message
  | [] => otherwise

/-- Check all values of a list, each under its index. -/
def all (check : γ → Checked β) : (start : Nat) → List γ → Checked (List β)
  | _, [] => accepted []
  | n, c :: cs => combine ((under (toString n) (check c)).map List.cons) (all check (n + 1) cs)

end Checked

/-- A condition on a value, with what to report when it fails. -/
structure Condition (β : Type) where
  holds : β → Bool
  message : String

namespace Condition

variable {α : Type} [Scalar α]

/-- A string that is not empty. -/
def nonempty : Condition String :=
  ⟨fun s => !s.isEmpty, "String must contain at least 1 character(s)"⟩

/-- A number that is finite. -/
def finite : Condition α := ⟨Scalar.isFinite, "Number must be finite"⟩

/-- A whole number. -/
def whole : Condition α :=
  ⟨fun x => Scalar.isFinite x && x == Scalar.ofInt (Scalar.floor x),
    "Expected integer, received float"⟩

/-- A number not below {lit}`low`. -/
def atLeast (low : α) : Condition α :=
  ⟨fun x => !decide (x < low),
    s!"Number must be greater than or equal to {Scalar.text low}"⟩

/-- A number not above {lit}`high`. -/
def atMost (high : α) : Condition α :=
  ⟨fun x => !decide (high < x),
    s!"Number must be less than or equal to {Scalar.text high}"⟩

/-- A number above {lit}`low`. -/
def above (low : α) : Condition α :=
  ⟨fun x => decide (low < x), s!"Number must be greater than {Scalar.text low}"⟩

end Condition

/-- A reader of a value that may be missing. -/
abbrev Schema (α β : Type) := Option (Json α) → Checked β

namespace Schema

variable {α β γ : Type} [Scalar α]

/-- Name of the kind of a value. -/
def kindName : Json α → String
  | .null => "null"
  | .bool _ => "boolean"
  | .num x => if Scalar.isUndefined x then "nan" else "number"
  | .str _ => "string"
  | .arr _ => "array"
  | .obj _ => "object"

/-- A value of another kind than expected, or none at all. -/
def unexpected (expected : String) : Option (Json α) → Checked β
  | none => .fail "Required"
  | some v => .fail s!"Expected {expected}, received {kindName v}"

/-- Any string. -/
def string : Schema α String
  | some (.str s) => .accepted s
  | v => unexpected "string" v

/-- Any number but the undefined one. -/
def number : Schema α α
  | some (.num x) =>
      if Scalar.isUndefined x then unexpected "number" (some (.num x)) else .accepted x
  | v => unexpected "number" v

/-- A truth value. -/
def boolean : Schema α Bool
  | some (.bool b) => .accepted b
  | v => unexpected "boolean" v

/-- Any value; missing stays missing. -/
def anything : Schema α (Option (Json α)) := .accepted

/-- A list whose items fit {lit}`item`. -/
def list (item : Schema α β) : Schema α (List β)
  | some (.arr vs) => Checked.all (fun v => item (some v)) 0 vs
  | v => unexpected "array" v

/-- One of some words. -/
def oneOf (words : List String) : Schema α String
  | some (.str s) =>
      if words.contains s then .accepted s
      else .fail s!"Invalid enum value. Expected {quotedWords}, received '{s}'"
  | v => unexpected quotedWords v
where
  /-- The words in quotation marks, with bars between. -/
  quotedWords : String := " | ".intercalate (words.map fun w => s!"'{w}'")

/-- A value that may be missing. -/
def optional (s : Schema α β) : Schema α (Option β)
  | none => .accepted none
  | v => (s v).map some

/-- A value with a default when missing. -/
def withDefault (d : β) (s : Schema α β) : Schema α β
  | none => .accepted d
  | v => s v

/-- Further conditions on an accepted value; every one that fails is reported. -/
def satisfying (s : Schema α β) (conditions : List (Condition β)) : Schema α β :=
  fun v =>
    match s v with
    | .accepted b =>
        match conditions.filter fun c => !c.holds b with
        | [] => .accepted b
        | failed => .refused (failed.map fun c => ⟨[], c.message⟩)
    | .refused is => .refused is

/-- An object, read field by field. -/
def object (fields : List (String × Json α) → Checked β) : Schema α β
  | some (.obj fs) => fields fs
  | v => unexpected "object" v

/-- A field of an object. -/
def field (fs : List (String × Json α)) (key : String) (s : Schema α β) : Checked β :=
  (s (Keyed.get? key fs)).under key

/-- A non-empty string. -/
def text : Schema α String := satisfying string [.nonempty]

/-- A finite number. -/
def finiteNumber : Schema α α := satisfying number [.finite]

end Schema

end LiveVisuals
