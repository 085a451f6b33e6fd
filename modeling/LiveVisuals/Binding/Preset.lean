import LiveVisuals.Binding.Request
import LiveVisuals.Files.Tree
import LiveVisuals.Json.Printer
import LiveVisuals.Json.Reader
import LiveVisuals.Time.Timestamp

/-!
# Saved bindings

The bindings of a shader can be saved, one file per shader, and come back when the shader is
loaded again. A file that is there but cannot be read as saved bindings is an error.

Main definitions:

- {lit}`FileName.safe`: a file name for any name.
- {lit}`Preset.text`: the content of a file.
- {lit}`Preset.parse`: the bindings of a content, or what is wrong with it.
- {lit}`Preset.load`: the same with a file that may be missing.
-/

namespace LiveVisuals

namespace FileName

/-- Characters that file names keep. -/
def isSafe (c : Char) : Bool :=
  Text.isLetter c || c.isDigit || c == '_' || c == '-' || c == '.' || c == ' '

/-- What a character becomes in a file name: others than the safe ones become underscores, two
of them beyond the basic plane. -/
def safeChar (c : Char) : List Char :=
  if isSafe c then [c] else if c.toNat < 0x10000 then ['_'] else ['_', '_']

/-- A name without characters that mean something in a path, and without blanks at its ends. -/
def safe (name : String) : String :=
  String.ofList (Text.trim (name.toList.flatMap safeChar))

end FileName

/-- Why saved bindings cannot be loaded. -/
inductive PresetError where
  | file (e : Files.Error)
  | notJson
  | malformed (shader problem : String)
deriving DecidableEq, Repr

/-- Stands in reports for a JSON reader's own words where they are the whole report. -/
def Json.syntaxError : String := "<json error>"

/-- What is reported about a preset that cannot be loaded. -/
def PresetError.message : PresetError → String
  | file e => e.code
  | notJson => Json.syntaxError
  | malformed shader problem => s!"Binding preset for \"{shader}\" is malformed: {problem}"

namespace Preset

variable {α : Type} [Scalar α]

/-- The file of a shader. -/
def fileFor (dir : Files.Path) (shader : String) : Files.Path :=
  dir.join (FileName.safe shader ++ ".json")

/-- Saved bindings as JSON. -/
def toJson (shader : String) (savedAt : Timestamp) (specs : List (BindingSpec α)) : Json α :=
  .obj
    [ ("shader", .str shader)
    , ("savedAt", .str savedAt.text)
    , ("bindings", .arr (specs.map (·.toJson))) ]

/-- The content of a file. -/
def text (shader : String) (savedAt : Timestamp) (specs : List (BindingSpec α)) : String :=
  (toJson shader savedAt specs).indented

/-- The shape of saved bindings. -/
def schema : Schema α (List (BindingSpec α)) :=
  Schema.object fun fs =>
    (fun _ _ specs => specs) <$> Schema.field fs "shader" (.string (α := α))
      <*> Schema.field fs "savedAt" (.optional .string)
      <*> Schema.field fs "bindings" (.list BindingSpec.savedSchema)

/-- The bindings of a content. -/
def parse (shader content : String) : Except PresetError (List (BindingSpec α)) :=
  match Json.readString? content with
  | none => .error .notJson
  | some value =>
      let checked := schema (α := α) (some value)
      match checked with
      | .accepted specs => .ok specs
      | .refused _ => .error (.malformed shader (checked.firstMessage "unknown"))

/-- Load the bindings of a shader; none were saved if there is no file. -/
def load (dir : Files.Path) (shader : String) (root : Files.Node) :
    Except PresetError (Option (List (BindingSpec α))) :=
  match root.read (fileFor dir shader) with
  | .ok content => (parse shader content).map some
  | .error .notFound => .ok none
  | .error e => .error (.file e)

end Preset

end LiveVisuals
