import LiveVisuals.Audio.Pointer
import LiveVisuals.Binding.Auto
import LiveVisuals.Binding.Table
import LiveVisuals.Engine.Controls
import LiveVisuals.Shader.Registry
import LiveVisuals.Shader.Transpile
import LiveVisuals.Shader.Resolve

/-!
# The session

The state of a show: the active shader, what the music does, the bindings in force, the
controls, and time, which runs faster the stronger the music drives it.

Main definitions:

- {lit}`Session`: the state of a show.
- {lit}`Session.frameTick`: hear the music for a tick.
- {lit}`Session.resolve`: the uniform values of a tick.
- {lit}`Session.pass`: let a tick pass.
- {lit}`Session.snapshot`: the state as it is shown outside.
-/

namespace LiveVisuals

variable {α : Type}

/-- The shader that draws. -/
structure ActiveShader (α : Type) where
  descriptor : Descriptor
  transpiled : Transpiled α
  /-- Number of the request that brought it. -/
  generation : Nat

/-- The state of a show. -/
structure Session (α : Type) where
  active : Option (ActiveShader α)
  extractor : Audio.Extractor α
  bindings : BindingTable α
  controls : ControlState α
  /-- Target size in pixels. -/
  resolution : α × α
  /-- Seconds, weighted by the audio-reactive speed. -/
  time : α
  frameCount : Nat
  /-- Whether the shader directory is to be read again. -/
  reloadPending : Bool
  /-- What was presented at the last tick. -/
  lastValues : UniformValues α

namespace Session

variable [Scalar α]

/-- A show that has not begun. -/
def initial : Session α where
  active := none
  extractor := .initial
  bindings := .empty
  controls := .initial
  resolution := (1280.0, 720.0)
  time := 0.0
  frameCount := 0
  reloadPending := false
  lastValues := []

/-- The audio frame of the last tick. -/
def frame (s : Session α) : Audio.Frame α := s.extractor.frame

/-- Name of the active shader. -/
def activeName? (s : Session α) : Option String := s.active.map (·.descriptor.name)

/-- Hear the music for a tick. -/
def frameTick (s : Session α) (dt : α) : Session α :=
  { s with extractor := s.extractor.tick dt s.controls.toControls }

/-- What the engine knows at a tick; the pointer moves by itself. -/
def readings (s : Session α) : Readings α where
  time := s.time
  resolution := s.resolution
  mouse :=
    let (x, y) := Audio.syntheticPointer s.time s.frame
    (x * s.resolution.1, y * s.resolution.2)
  frame := s.frame

/-- The uniform values of a tick; without an active shader there are none. All bindings
advance. -/
def resolve (s : Session α) : Session α × Option (UniformValues α) :=
  match s.active with
  | none => (s, none)
  | some active =>
      let (bindings, outputs) := s.bindings.computeAll s.frame
      ( { s with bindings := bindings }
      , some (resolveUniforms active.transpiled.uniforms s.readings outputs) )

/-- Let a tick pass, after its values have been presented. -/
def pass (s : Session α) (dt : α) (values : Option (UniformValues α)) : Session α :=
  { s with
    lastValues := values.getD s.lastValues
    frameCount := s.frameCount + 1
    time := s.time + Scalar.greater dt 0.0 * s.frame.speed }

/-- Set the target size; sizes that are not positive are ignored. -/
def resize (s : Session α) (width height : α) : Session α :=
  if (0.0 : α) < width ∧ (0.0 : α) < height then { s with resolution := (width, height) }
  else s

/-- The bindings of a freshly installed shader: saved ones if there are any, and derived ones
otherwise. -/
def freshBindings (t : Transpiled α) (saved : Option (List (BindingSpec α))) : BindingTable α :=
  match saved with
  | some (spec :: specs) => BindingTable.empty.addAll (spec :: specs) .explicit
  | _ => BindingTable.empty.addAll (AutoBind.derive t.inputs) .auto

/-- Install a shader. -/
def install (s : Session α) (active : ActiveShader α) (saved : Option (List (BindingSpec α))) :
    Session α :=
  { s with active := some active, bindings := freshBindings active.transpiled saved }

/-! ## What is shown outside -/

/-- The active shader as JSON. -/
def shaderJson (a : ActiveShader α) : Json α :=
  .obj
    [ ("name", .str a.descriptor.name)
    , ("dialect", .str a.transpiled.dialect.name)
    , ("path", .str a.descriptor.relativePath)
    , ("warnings", .strings a.transpiled.warnings) ]

/-- All bindings as JSON. -/
def bindingsJson (s : Session α) : Json α := .arr (s.bindings.toList.map (·.toJson))

/-- The state as JSON members. -/
def snapshot (s : Session α) : List (String × Json α) :=
  [ ("shader", Json.orNull shaderJson s.active)
  , ("time", .num s.time)
  , ("frameCount", .nat s.frameCount)
  , ("resolution", .arr [.num s.resolution.1, .num s.resolution.2])
  , ("audio", s.frame.toJson)
  , ("controls", s.controls.toJson)
  , ("bindings", s.bindingsJson)
  , ("values", s.lastValues.toJson) ]

end Session

end LiveVisuals
