import LiveVisuals.Json.Reader
import LiveVisuals.Schema.Checked
import LiveVisuals.Shader.Comment
import LiveVisuals.Shader.Uniform

/-!
# Declarative shader headers

An ISF shader may start with a block comment that holds a JSON object. Its INPUTS become
uniforms. Authors write this JSON with two liberties, trailing commas and lines that hold only
a comment, so a header that is not JSON is read once more without them.

Entries are taken one by one: an entry that does not fit is left out with a warning and
disturbs no other.

Main definitions:

- {lit}`Header`: inputs, body, warnings and descriptive fields of a source.
- {lit}`Header.read`: the header of a source, or why it cannot be read.
- {lit}`Header.defaults`: the declared defaults by name.
-/

namespace LiveVisuals

/-- Descriptive fields of a header. -/
structure HeaderMeta where
  description : Option String
  credit : Option String
  categories : List String

/-- A source taken apart into header and body. -/
structure Header (α : Type) where
  /-- Whether there is a header at all. -/
  found : Bool
  inputs : List (InputDeclaration α)
  /-- The source without the header. -/
  body : String
  /-- Line breaks ahead of the body. -/
  bodyLineOffset : Nat
  warnings : List String
  about : HeaderMeta

/-- Why a header cannot be read. -/
inductive HeaderError where
  | notJson
  | shape (message : String)
deriving DecidableEq, Repr

/-- Stands in reports for a JSON reader's own description of a syntax error. -/
def Json.syntaxDetail : String := "<detail>"

/-- Description of a header error. -/
def HeaderError.message : HeaderError → String
  | .notJson => s!"Header is not valid JSON: {Json.syntaxDetail}"
  | .shape m => s!"Header has an unexpected shape: {m}"

namespace Header

variable {α : Type} [Scalar α]

/-! ## Defaults and limits -/

/-- The default of an input that declares none; a scalar of 1 keeps products unchanged. -/
def neutralDefault : InputType → Option (UniformValue α)
  | .scalar => some (.number 1.0)
  | .integer => some (.number 0.0)
  | .boolean => some (.flag false)
  | .vec2 => some (.vector [0.0, 0.0])
  | .vec3 => some (.vector [0.0, 0.0, 0.0])
  | .color => some (.vector [1.0, 1.0, 1.0, 1.0])
  | .texture => none

/-- A finite number. -/
def finiteNumber? : Json α → Option α
  | .num x => Scalar.finite? x
  | _ => none

/-- An array of exactly {lit}`length` finite numbers. -/
def numbers? (length : Nat) : Json α → Option (List α)
  | .arr items => if items.length = length then items.mapM finiteNumber? else none
  | _ => none

/-- Components of an input of a vector type. -/
def vectorLength : InputType → Nat
  | .vec2 => 2
  | .vec3 => 3
  | _ => 4

/-- A declared default, if it fits the type. A colour may leave out its opacity. -/
def fitDefault? (type : InputType) (raw : Json α) : Option (UniformValue α) :=
  match type with
  | .scalar => (finiteNumber? raw).map .number
  | .integer => (finiteNumber? raw).map fun x => .number (Scalar.round x)
  | .boolean =>
      match raw with
      | .bool b => some (.flag b)
      | raw => (finiteNumber? raw).map fun x => .flag (x != 0.0)
  | .vec2 | .vec3 => (numbers? (vectorLength type) raw).map .vector
  | .color =>
      match numbers? 4 raw with
      | some rgba => some (.vector rgba)
      | none => (numbers? 3 raw).map fun rgb => .vector (rgb ++ [1.0])
  | .texture => none

/-- A declared limit, if it fits the type. -/
def fitBound? (type : InputType) (raw : Json α) : Option (Bound α) :=
  match type with
  | .scalar | .integer => (finiteNumber? raw).map .number
  | .vec2 | .vec3 | .color => (numbers? (vectorLength type) raw).map .vector
  | .boolean | .texture => none

/-! ## Entries -/

/-- An entry of INPUTS with the types of its fields checked. -/
structure Entry (α : Type) where
  name : String
  type : String
  defaultValue : Option (Json α)
  min : Option (Json α)
  max : Option (Json α)
  label : Option String

/-- The condition on names. -/
def identifier : Condition String :=
  ⟨fun s => Text.isIdentifier s.toList, "NAME must be a GLSL identifier"⟩

/-- The shape of an entry. -/
def Entry.schema : Schema α (Entry α) :=
  Schema.object fun fs =>
    Entry.mk <$> Schema.field fs "NAME" (.satisfying .string [identifier])
      <*> Schema.field fs "TYPE" .string
      <*> Schema.field fs "DEFAULT" .anything
      <*> Schema.field fs "MIN" .anything
      <*> Schema.field fs "MAX" .anything
      <*> Schema.field fs "LABEL" (.optional .string)

/-- What becomes of an entry: a declaration, perhaps with a remark, or a reason to skip it. -/
inductive Outcome (α : Type) where
  | declared (input : InputDeclaration α) (remark : Option String)
  | skipped (reason : String)

/-- The default of an entry, and whether a declared one was passed over. -/
def Entry.default (e : Entry α) (type : InputType) : Option (UniformValue α) × Bool :=
  match type, e.defaultValue with
  | .texture, _ => (none, false)
  | type, none => (neutralDefault type, false)
  | type, some raw =>
      match fitDefault? type raw with
      | some v => (some v, false)
      | none => (neutralDefault type, true)

/-- The declaration of an entry of a supported type. -/
def Entry.declare (index : Nat) (e : Entry α) (type : InputType) : Outcome α :=
  let (value, passedOver) := e.default type
  let remark :=
    s!"INPUTS[{index}] \"{e.name}\": DEFAULT does not fit {e.type}, using neutral value"
  .declared
    { name := e.name
      type := type
      defaultValue := value
      min := e.min.bind (fitBound? type)
      max := e.max.bind (fitBound? type)
      label := e.label }
    (if passedOver then some remark else none)

/-- Read one entry; {lit}`taken` holds the names declared before it. -/
def readEntry (taken : List String) (index : Nat) (raw : Json α) : Outcome α :=
  let checked := Entry.schema (some raw)
  match checked with
  | .refused _ =>
      let problem := checked.firstMessage "invalid entry"
      .skipped s!"INPUTS[{index}] skipped: {problem}"
  | .accepted e =>
      match InputType.ofIsf? e.type with
      | none =>
          .skipped s!"INPUTS[{index}] \"{e.name}\" skipped: unsupported TYPE \"{e.type}\""
      | some type =>
          if taken.contains e.name then
            .skipped s!"INPUTS[{index}] \"{e.name}\" skipped: duplicate NAME"
          else e.declare index type

/-- Inputs and warnings gathered so far. -/
structure Gathered (α : Type) where
  inputs : List (InputDeclaration α)
  warnings : List String

/-- Add what became of an entry. -/
def Gathered.add (g : Gathered α) : Outcome α → Gathered α
  | .declared input remark =>
      { inputs := g.inputs ++ [input], warnings := g.warnings ++ remark.toList }
  | .skipped reason => { g with warnings := g.warnings ++ [reason] }

/-- Read entries in order, from an index on. -/
def readEntries (g : Gathered α) : (index : Nat) → List (Json α) → Gathered α
  | _, [] => g
  | index, raw :: rest =>
      readEntries (g.add (readEntry (g.inputs.map (·.name)) index raw)) (index + 1) rest

/-! ## Header text -/

/-- Whether the rest of a line is a comment, blanks before it allowed. -/
def isCommentLine (cs : List Char) : Bool :=
  (Text.strip? ['/', '/'] (Text.skipBlanks cs)).isSome

/-- Remove lines that hold only a comment, together with blank lines before them. The line
ends stay. The flag says whether the text starts a line; {lit}`skip` blanks and the comment
after them are being removed while it is positive or the second flag is set. -/
def dropCommentLinesFrom :
    (lineStart : Bool) → (skip : Nat) → (inside : Bool) → List Char → List Char
  | _, _, _, [] => []
  | _, skip + 1, inside, _ :: cs => dropCommentLinesFrom false skip inside cs
  | lineStart, 0, inside, c :: cs =>
      if inside then
        if Text.isLineEnd c then c :: dropCommentLinesFrom true 0 false cs
        else dropCommentLinesFrom false 0 true cs
      else if lineStart && isCommentLine (c :: cs) then
        let blanks := (c :: cs).length - (Text.skipBlanks (c :: cs)).length
        dropCommentLinesFrom false (blanks - 1) true cs
      else c :: dropCommentLinesFrom (Text.isLineEnd c) 0 false cs

/-- Remove lines that hold only a comment. -/
def dropCommentLines (cs : List Char) : List Char := dropCommentLinesFrom true 0 false cs

/-- Whether a closing bracket comes next, blanks before it allowed. -/
def closesNext (cs : List Char) : Bool :=
  match Text.skipBlanks cs with
  | c :: _ => c.toNat == 0x7D || c.toNat == 0x5D
  | [] => false

/-- Remove commas that stand before a closing bracket. -/
def dropTrailingCommas : List Char → List Char
  | [] => []
  | c :: cs =>
      if c = ',' ∧ closesNext cs then dropTrailingCommas cs else c :: dropTrailingCommas cs

/-- The text without the liberties that authors take. -/
def tidy (cs : List Char) : List Char := dropTrailingCommas (dropCommentLines cs)

/-- Read JSON strictly, and failing that without the liberties. -/
def readTolerant? (cs : List Char) : Option (Json α) :=
  (Json.read? cs).orElse fun _ => Json.read? (tidy cs)

/-- The header comment of a source: what it holds, and the body after it. -/
def locate? (source : List Char) : Option (List Char × List Char) := do
  let inside ← Text.strip? ['/', '*'] (Text.skipBlanks source)
  let (inner, body) ← Shader.untilClose? inside
  let json := Text.trim inner
  if json.head?.any (·.toNat == 0x7B) then some (json, body) else none

/-- The typed fields of a header object. -/
structure Fields (α : Type) where
  inputs : Option (List (Option (Json α)))
  description : Option String
  credit : Option String
  categories : Option (List String)

/-- The shape of a header object. -/
def Fields.schema : Schema α (Fields α) :=
  Schema.object fun fs =>
    Fields.mk <$> Schema.field fs "INPUTS" (.optional (.list .anything))
      <*> Schema.field fs "DESCRIPTION" (.optional .string)
      <*> Schema.field fs "CREDIT" (.optional .string)
      <*> Schema.field fs "CATEGORIES" (.optional (.list .string))

/-- A source without a header is all body. -/
def absent (source : String) : Header α where
  found := false
  inputs := []
  body := source
  bodyLineOffset := 0
  warnings := []
  about := ⟨none, none, []⟩

/-- The header of checked fields. -/
def ofFields (source body : List Char) (f : Fields α) : Header α :=
  let entries := (f.inputs.getD []).map fun e => e.getD .null
  let gathered := readEntries ⟨[], []⟩ 0 entries
  { found := true
    inputs := gathered.inputs
    body := String.ofList body
    bodyLineOffset := Text.lineBreaks (source.take (source.length - body.length))
    warnings := gathered.warnings
    about := ⟨f.description, f.credit, f.categories.getD []⟩ }

/-- Take a source apart. -/
def read (source : String) : Except HeaderError (Header α) :=
  let cs := source.toList
  match locate? cs with
  | none => .ok (absent source)
  | some (json, body) =>
      match readTolerant? (α := α) json with
      | none => .error .notJson
      | some value =>
          match Fields.schema (some value) with
          | .accepted fields => .ok (ofFields cs body fields)
          | refused => .error (.shape (refused.firstMessage "invalid"))

/-! ## Records of values -/

/-- The one name that a record of values cannot hold. -/
def reservedName : String := "__proto__"

/-- Defaults of inputs by name. -/
def defaultsOf (inputs : List (InputDeclaration α)) : List (String × UniformValue α) :=
  inputs.filterMap fun i =>
    if i.name = reservedName then none else i.defaultValue.map fun v => (i.name, v)

/-- Declared defaults by name. -/
def defaults (h : Header α) : List (String × UniformValue α) := defaultsOf h.inputs

/-- Values by name as JSON. -/
def valuesJson (vs : List (String × UniformValue α)) : Json α :=
  .obj (vs.map fun (name, v) => (name, v.toJson))

/-- A header as JSON. -/
def toJson (h : Header α) : Json α :=
  .obj
    [ ("found", .bool h.found)
    , ("inputs", .arr (h.inputs.map (·.toJson)))
    , ("defaults", valuesJson h.defaults)
    , ("body", .str h.body)
    , ("bodyLineOffset", .nat h.bodyLineOffset)
    , ("warnings", .strings h.warnings)
    , ("meta", .ofPresent
        [ ("description", h.about.description.map .str)
        , ("credit", h.about.credit.map .str)
        , ("categories", some (.strings h.about.categories)) ]) ]

/-- Declared defaults of a source; none if its header cannot be read. -/
def defaultsIn (source : String) : List (String × UniformValue α) :=
  match read source with
  | .ok h => h.defaults
  | .error _ => []

end Header

end LiveVisuals
