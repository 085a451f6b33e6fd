import LiveVisuals.Schema.Checked
import LiveVisuals.Shader.Resolve

/-!
# Messages of the render channel

A browser compiles and draws. It is sent programs, uniform values and requests, and reports
what it did.

Main definitions:

- {lit}`CompileRequest`: a program to compile.
- {lit}`HostMessage`: what is sent to browsers.
- {lit}`ClientMessage`: what browsers send, with {lit}`ClientMessage.schema` its shape.
-/

namespace LiveVisuals

/-- A program to compile. -/
structure CompileRequest where
  name : String
  dialect : Dialect
  code : String
  uniforms : List UniformSet.Declaration
deriving DecidableEq, Repr

/-- A request as JSON members. -/
def CompileRequest.fields {α : Type} (r : CompileRequest) : List (String × Json α) :=
  [ ("name", .str r.name)
  , ("dialect", .str r.dialect.name)
  , ("code", .str r.code)
  , ("uniforms", .arr (r.uniforms.map (·.toJson))) ]

/-- What is sent to browsers. -/
inductive HostMessage (α : Type) where
  | compile (id : String) (r : CompileRequest)
  | push (id : String) (r : CompileRequest)
  | uniforms (values : UniformValues α)
  | capture (name : String)
  | toggle (name : String) (enabled : Bool)
  | getState

/-- A message to browsers as JSON. -/
def HostMessage.toJson {α : Type} : HostMessage α → Json α
  | compile id r => .obj ([("type", .str "shader_compile"), ("id", .str id)] ++ r.fields)
  | push id r =>
      .obj
        [ ("type", .str "shader_push")
        , ("id", .str id)
        , ("name", .str r.name)
        , ("code", .str r.code)
        , ("uniforms", .arr (r.uniforms.map (·.toJson))) ]
  | uniforms values => .obj [("type", .str "uniforms"), ("values", values.toJson)]
  | capture name => .obj [("type", .str "capture_screenshot"), ("name", .str name)]
  | toggle name enabled =>
      .obj [("type", .str "display_toggle"), ("name", .str name), ("enabled", .bool enabled)]
  | getState => .obj [("type", .str "get_state")]

/-- What browsers send. -/
inductive ClientMessage (α : Type) where
  | compiled (id : String) (success : Bool) (error : Option String)
  | resize (width height : α)
  | captureComplete (name filename : String) (size : α)
  | state (fps : α)
  | ready

namespace ClientMessage

variable {α : Type} [Scalar α]

/-- Names of the kinds of message. -/
def kinds : List String := ["shader_compiled", "resize", "capture_complete", "state", "ready"]

/-- What is wrong with a message of no known kind. -/
def unknownKind : Checked (ClientMessage α) :=
  let expected := " | ".intercalate (kinds.map fun k => s!"'{k}'")
  (Checked.fail s!"Invalid discriminator value. Expected {expected}").under "type"

/-- The shape of a message of a kind. -/
def schemaOf (fs : List (String × Json α)) : String → Checked (ClientMessage α)
  | "shader_compiled" =>
      compiled <$> Schema.field fs "id" (.string (α := α))
        <*> Schema.field fs "success" (.boolean (α := α))
        <*> Schema.field fs "error" (.optional .string)
  | "resize" =>
      resize <$> Schema.field fs "width" .number <*> Schema.field fs "height" .number
  | "capture_complete" =>
      captureComplete <$> Schema.field fs "name" (.string (α := α))
        <*> Schema.field fs "filename" (.string (α := α))
        <*> Schema.field fs "size" .number
  | "state" => state <$> Schema.field fs "fps" .number
  | "ready" => .accepted ready
  | _ => unknownKind

/-- The shape of a message. -/
def schema : Schema α (ClientMessage α) :=
  Schema.object fun fs =>
    match Keyed.get? "type" fs with
    | some (.str kind) => schemaOf fs kind
    | _ => unknownKind

end ClientMessage

end LiveVisuals
