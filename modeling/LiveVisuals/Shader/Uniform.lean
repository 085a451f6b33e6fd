import LiveVisuals.Audio.FeatureName

/-!
# Shaders and their uniforms

A shader is written in one of two dialects. Whatever the dialect, it gets the same standard
uniforms and the same audio uniforms, and an ISF shader also gets one per declared input.

Main definitions:

- {lit}`Dialect`, {lit}`InputType`, {lit}`GlslType`, {lit}`UniformOrigin`: the vocabulary.
- {lit}`UniformValue`, {lit}`InputDeclaration`, {lit}`UniformSlot`: what is declared.
- {lit}`standardUniforms`, {lit}`audioUniforms`: the uniforms the program itself drives.
-/

namespace LiveVisuals

/-- How a shader is written: with a declarative header, or as a plain fragment body. -/
inductive Dialect where
  | isf
  | glsl
deriving DecidableEq, Repr

/-- Name of a dialect. -/
def Dialect.name : Dialect → String
  | .isf => "isf"
  | .glsl => "glsl"

/-- The dialect of a name. -/
def Dialect.ofName? : String → Option Dialect
  | "isf" => some .isf
  | "glsl" => some .glsl
  | _ => none

/-- Types of declared inputs. -/
inductive InputType where
  | scalar
  | boolean
  | integer
  | vec2
  | vec3
  | color
  | texture
deriving DecidableEq, Repr

namespace InputType

/-- All input types. -/
def all : List InputType := [.scalar, .boolean, .integer, .vec2, .vec3, .color, .texture]

/-- Name of an input type. -/
def name : InputType → String
  | .scalar => "scalar"
  | .boolean => "boolean"
  | .integer => "integer"
  | .vec2 => "vec2"
  | .vec3 => "vec3"
  | .color => "color"
  | .texture => "texture"

/-- The input type of a name. -/
def ofName? (s : String) : Option InputType := all.find? (·.name == s)

/-- The input type of an ISF type word. -/
def ofIsf? : String → Option InputType
  | "float" => some .scalar
  | "long" => some .scalar
  | "bool" => some .boolean
  | "event" => some .boolean
  | "int" => some .integer
  | "point2D" => some .vec2
  | "point3D" => some .vec3
  | "color" => some .color
  | "image" => some .texture
  | _ => none

end InputType

/-- Types of uniforms in shader text. -/
inductive GlslType where
  | float
  | int
  | bool
  | vec2
  | vec3
  | vec4
  | sampler2D
deriving DecidableEq, Repr

/-- Spelling of a type in shader text. -/
def GlslType.name : GlslType → String
  | .float => "float"
  | .int => "int"
  | .bool => "bool"
  | .vec2 => "vec2"
  | .vec3 => "vec3"
  | .vec4 => "vec4"
  | .sampler2D => "sampler2D"

/-- The type of a spelling. -/
def GlslType.ofName? (s : String) : Option GlslType :=
  [float, int, bool, vec2, vec3, vec4, sampler2D].find? (·.name == s)

/-- The uniform type that carries an input. -/
def InputType.glslType : InputType → GlslType
  | .scalar => .float
  | .boolean => .bool
  | .integer => .int
  | .vec2 => .vec2
  | .vec3 => .vec3
  | .color => .vec4
  | .texture => .sampler2D

/-- Where a uniform comes from. -/
inductive UniformOrigin where
  | standard
  | input
  | audio
deriving DecidableEq, Repr

/-- Name of an origin. -/
def UniformOrigin.name : UniformOrigin → String
  | .standard => "standard"
  | .input => "input"
  | .audio => "audio"

/-- The origin of a name. -/
def UniformOrigin.ofName? : String → Option UniformOrigin
  | "standard" => some .standard
  | "input" => some .input
  | "audio" => some .audio
  | _ => none

/-- A value of a uniform. -/
inductive UniformValue (α : Type) where
  | number (x : α)
  | flag (b : Bool)
  | vector (xs : List α)

/-- A uniform value as JSON. -/
def UniformValue.toJson {α : Type} : UniformValue α → Json α
  | .number x => .num x
  | .flag b => .bool b
  | .vector xs => .arr (xs.map .num)

/-- A limit of an input: a number for scalars and integers, a vector for the rest. -/
inductive Bound (α : Type) where
  | number (x : α)
  | vector (xs : List α)

/-- A limit as JSON. -/
def Bound.toJson {α : Type} : Bound α → Json α
  | .number x => .num x
  | .vector xs => .arr (xs.map .num)

/-- A declared input of a shader; only textures have no default. -/
structure InputDeclaration (α : Type) where
  name : String
  type : InputType
  defaultValue : Option (UniformValue α)
  min : Option (Bound α)
  max : Option (Bound α)
  label : Option String

/-- A declared input as JSON. -/
def InputDeclaration.toJson {α : Type} (d : InputDeclaration α) : Json α :=
  .ofPresent
    [ ("name", some (.str d.name))
    , ("type", some (.str d.type.name))
    , ("defaultValue", some (Json.orNull UniformValue.toJson d.defaultValue))
    , ("min", d.min.map Bound.toJson)
    , ("max", d.max.map Bound.toJson)
    , ("label", d.label.map .str) ]

/-- A uniform of a compiled shader. -/
structure UniformSlot (α : Type) where
  name : String
  glslType : GlslType
  origin : UniformOrigin
  defaultValue : Option (UniformValue α)

/-- A uniform slot as JSON. -/
def UniformSlot.toJson {α : Type} (s : UniformSlot α) : Json α :=
  .ofPresent
    [ ("name", some (.str s.name))
    , ("glslType", some (.str s.glslType.name))
    , ("origin", some (.str s.origin.name))
    , ("defaultValue", s.defaultValue.map UniformValue.toJson) ]

/-! ## Uniforms of every shader -/

/-- A uniform that every shader gets. -/
structure BuiltinUniform where
  name : String
  glslType : GlslType
  description : String

/-- A uniform of every shader as JSON members. -/
def BuiltinUniform.fields {α : Type} (b : BuiltinUniform) : List (String × Json α) :=
  [ ("name", .str b.name)
  , ("glslType", .str b.glslType.name)
  , ("description", .str b.description) ]

/-- Uniforms about time, target and pointer, declared unless the body declares them. -/
def standardUniforms : List BuiltinUniform :=
  [ ⟨"time", .float, "Audio time in seconds: accumulates dt * audioSpeed."⟩
  , ⟨"resolution", .vec2, "Render target size in pixels."⟩
  , ⟨"mouse", .vec2,
      "Pointer position in pixels, driven by a synthetic audio-modulated figure-eight."⟩
  , ⟨"audioSpeed", .float, "Audio-reactive time scale, 0.02 (silence) to 1.2."⟩ ]

/-- A uniform that follows an audio feature. -/
structure AudioUniform extends BuiltinUniform where
  feature : Audio.Feature

/-- An audio uniform as JSON members. -/
def AudioUniform.fields {α : Type} (a : AudioUniform) : List (String × Json α) :=
  a.toBuiltinUniform.fields ++ [("feature", .str a.feature.fieldName)]

/-- An audio uniform of a name. -/
def AudioUniform.of (name : String) (feature : Audio.Feature) (description : String) :
    AudioUniform :=
  ⟨⟨name, .float, description⟩, feature⟩

/-- Uniforms that follow the music, in every shader whether it reads them or not. -/
def audioUniforms : List AudioUniform :=
  [ .of "audioBass" .bass "Smoothed bass level."
  , .of "audioLowMid" .lowMid "Smoothed low-mid level."
  , .of "audioMid" .mid "Smoothed mid level."
  , .of "audioHighs" .highs "Smoothed high level."
  , .of "audioLevel" .level "Smoothed overall level."
  , .of "energyFast" .energyFast "Fast energy envelope."
  , .of "energySlow" .energySlow "Slow energy envelope."
  , .of "kickEnv" .kickEnv "Kick envelope."
  , .of "kickPulse" .kickPulse "1.0 on the tick a kick fires, else 0.0."
  , .of "beatPhase" .beatPhase "1.0 on the beat, decays toward 0."
  , .of "beat4" .beat4 "Beat counter 0-3."
  , .of "presenceBass" .presenceBass "Bass presence."
  , .of "presenceLowMid" .presenceLowMid "Low-mid presence."
  , .of "presenceMid" .presenceMid "Mid presence."
  , .of "presenceHighs" .presenceHighs "High presence."
  , .of "bpmTwitcher" .bpmTwitcher "Tempo-synced sawtooth."
  , .of "bpmSin4" .bpmSin4 "Four-beat sine oscillator."
  , .of "bpmConfidence" .bpmConfidence "Tempo detection confidence." ]

end LiveVisuals
