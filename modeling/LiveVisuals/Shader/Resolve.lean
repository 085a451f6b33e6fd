import LiveVisuals.Shader.UniformSet
import LiveVisuals.Shader.Header

/-!
# Uniform values of a tick

Each tick every uniform of the active shader gets a value: standard and audio uniforms from
the engine's readings, inputs from their binding if there is one that suits them, and from
their default otherwise.

Main definitions:

- {lit}`Readings`: time, target size, pointer and audio frame.
- {lit}`engineValue`: what the engine itself puts into a uniform.
- {lit}`coerceScalar`: a binding output as a value of a uniform's type.
- {lit}`resolveUniforms`: all values of a tick.
-/

namespace LiveVisuals

variable {α : Type}

/-- What the engine knows at a tick. -/
structure Readings (α : Type) where
  time : α
  /-- Target size in pixels. -/
  resolution : α × α
  /-- Pointer in pixels. -/
  mouse : α × α
  frame : Audio.Frame α

/-- Uniform values by name. One reserved name cannot be held. -/
abbrev UniformValues (α : Type) := Keyed (UniformValue α)

namespace UniformValues

/-- Set a value; the reserved name is passed over. -/
def set (values : UniformValues α) (name : String) (v : UniformValue α) : UniformValues α :=
  if name = Header.reservedName then values else Keyed.put name v values

/-- Values as JSON. -/
def toJson (values : UniformValues α) : Json α :=
  .obj (values.map fun (name, v) => (name, v.toJson))

end UniformValues

/-- Two components as a value. -/
def pairValue (p : α × α) : UniformValue α := .vector [p.1, p.2]

variable [Scalar α]

/-- Value of a standard or audio uniform; other names have none. -/
def engineValue (name : String) (r : Readings α) : Option (UniformValue α) :=
  match name with
  | "time" => some (.number r.time)
  | "resolution" => some (pairValue r.resolution)
  | "mouse" => some (pairValue r.mouse)
  | "audioSpeed" => some (.number r.frame.speed)
  | name =>
      (audioUniforms.find? (·.name == name)).map fun u => .number (r.frame.read u.feature)

/-- A binding output as a value of the slot's type; vectors and textures take none. -/
def coerceScalar (type : GlslType) (x : α) : Option (UniformValue α) :=
  match type with
  | .float => some (.number x)
  | .int => some (.number (Scalar.round x))
  | .bool => some (.flag (decide ((0.5 : α) ≤ x)))
  | _ => none

/-- Set a value if the set declares the name; says whether it does. -/
def applyUniform (values : UniformValues α) (u : UniformSet α) (name : String)
    (v : UniformValue α) : UniformValues α × Bool :=
  if u.has name then (values.set name v, true) else (values, false)

/-- The value of a slot. -/
def slotValue (r : Readings α) (bound : Keyed α) (s : UniformSlot α) :
    Option (UniformValue α) :=
  match s.origin with
  | .input =>
      ((Keyed.get? s.name bound).bind (coerceScalar s.glslType)).orElse fun _ => s.defaultValue
  | .standard | .audio => engineValue s.name r

/-- All values of a tick. -/
def resolveUniforms (u : UniformSet α) (r : Readings α) (bound : Keyed α) : UniformValues α :=
  u.slots.foldl
    (fun values s =>
      match slotValue r bound s with
      | some v => (applyUniform values u s.name v).1
      | none => values)
    []

end LiveVisuals
