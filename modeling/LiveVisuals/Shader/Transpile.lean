import LiveVisuals.Shader.Declaration
import LiveVisuals.Shader.Header
import LiveVisuals.Shader.UniformSet

/-!
# From source to compilable text

A source of either dialect becomes a fragment shader that declares every uniform of its set.
The text is written line by line, and each line remembers the source line it came from, so
that compiler messages can be traced back.

The order is: version and extension directives of the body, a default precision unless the
body sets one, the uniforms that the body does not declare itself, for ISF the compatibility
macros, and then the body with the hoisted lines left empty.

Main definitions:

- {lit}`ShaderSource.read`: header and body of a source; an unreadable header is no header.
- {lit}`OutputLine`: a line of the text with its origin.
- {lit}`Transpiled.ofSource`: the whole result.
-/

namespace LiveVisuals

/-- A source after its header was read. -/
inductive ShaderSource (α : Type) where
  | isf (header : Header α)
  | glsl (body : String)

namespace ShaderSource

variable {α : Type}

/-- The dialect that a source is treated as. -/
def dialect : ShaderSource α → Dialect
  | isf _ => .isf
  | glsl _ => .glsl

/-- The part of a source that is shader text. -/
def body : ShaderSource α → String
  | isf h => h.body
  | glsl b => b

/-- Line breaks ahead of the body. -/
def bodyLineOffset : ShaderSource α → Nat
  | isf h => h.bodyLineOffset
  | glsl _ => 0

/-- Declared inputs. -/
def inputs : ShaderSource α → List (InputDeclaration α)
  | isf h => h.inputs
  | glsl _ => []

/-- Read a source. An ISF source with an unreadable header is taken as plain text. -/
def read [Scalar α] (dialect : Dialect) (raw : String) : ShaderSource α × List String :=
  match dialect with
  | .glsl => (glsl raw, [])
  | .isf =>
      match Header.read raw with
      | .ok h => (isf h, h.warnings)
      | .error e => (glsl raw, [e.message ++ "; compiling as raw GLSL"])

end ShaderSource

/-- A line of output text; an injected line has no source line. Lines count from one. -/
structure OutputLine where
  text : String
  source : Option Nat
deriving DecidableEq, Repr

/-- A line that no source line stands for. -/
def OutputLine.injected (text : String) : OutputLine := ⟨text, none⟩

/-- A body line, its directive already hoisted or not. -/
structure BodyLine where
  text : List Char
  number : Nat
  hoisted : Bool
deriving DecidableEq, Repr

namespace BodyLine

/-- The lines of a body whose first line has number {lit}`first`. -/
def ofBody (first : Nat) (body : List Char) : List BodyLine :=
  (Text.lines body).mapIdx fun i text => ⟨text, first + i, false⟩

/-- Whether the line is still in place and is the directive {lit}`word`. -/
def is (word : String) (l : BodyLine) : Bool := !l.hoisted && Shader.isDirective word l.text

/-- The line at its new place. -/
def moved (l : BodyLine) : OutputLine := ⟨String.ofList (Text.trim l.text), some l.number⟩

/-- Mark the first line with a property as hoisted. -/
def hoistFirst (p : BodyLine → Bool) : List BodyLine → List BodyLine
  | [] => []
  | l :: ls => if p l then { l with hoisted := true } :: ls else l :: hoistFirst p ls

/-- Mark all lines with a property as hoisted. -/
def hoistAll (p : BodyLine → Bool) (ls : List BodyLine) : List BodyLine :=
  ls.map fun l => if p l then { l with hoisted := true } else l

/-- What is left of a line at its old place. -/
def left (l : BodyLine) : List Char := if l.hoisted then [] else l.text

end BodyLine

/-- A shader ready for a compiler. -/
structure Transpiled (α : Type) where
  /-- The dialect actually used. -/
  dialect : Dialect
  lines : List OutputLine
  uniforms : UniformSet α
  inputs : List (InputDeclaration α)
  warnings : List String

namespace Transpiled

variable {α : Type}

/-- The compilable text. -/
def text (t : Transpiled α) : String := Text.joinLines (t.lines.map (·.text))

/-- The source line of each line of the text. -/
def lineMap (t : Transpiled α) : List (Option Nat) := t.lines.map (·.source)

/-- Declared defaults by name. -/
def defaults (t : Transpiled α) : List (String × UniformValue α) := Header.defaultsOf t.inputs

/-- A transpiled shader as JSON. -/
def toJson [Scalar α] (t : Transpiled α) : Json α :=
  .obj
    [ ("dialect", .str t.dialect.name)
    , ("text", .str t.text)
    , ("uniforms", .arr (t.uniforms.slots.map (·.toJson)))
    , ("inputs", .arr (t.inputs.map (·.toJson)))
    , ("defaults", Header.valuesJson t.defaults)
    , ("lineMap", .arr (t.lineMap.map (Json.orNull Json.nat)))
    , ("warnings", .strings t.warnings) ]

/-! ## Injected lines -/

/-- The statement that sets the default precision. -/
def precisionStatement : String := "precision highp float;"

/-- The declaration of a uniform. -/
def uniformLine (s : UniformSlot α) : String := s!"uniform {s.glslType.name} {s.name};"

/-- Declarations of slots, each group of one origin under a comment. {lit}`current` is the
origin of the group before. -/
def uniformLines (current : Option UniformOrigin) : List (UniformSlot α) → List String
  | [] => []
  | s :: ss =>
      let rest := uniformLine s :: uniformLines (some s.origin) ss
      if current = some s.origin then rest else s!"// {s.origin.name} uniforms" :: rest

/-- Macros that carry the bottom-left conventions of ISF to a top-left render target. -/
def isfMacros : List String :=
  [ "#define vj_FragCoord vec4(gl_FragCoord.x, resolution.y - gl_FragCoord.y, gl_FragCoord.zw)"
  , "#define isf_FragNormCoord (vj_FragCoord.xy / resolution)"
  , "#ifndef RENDERSIZE"
  , "#define RENDERSIZE resolution"
  , "#endif"
  , "#ifndef TIME"
  , "#define TIME time"
  , "#endif"
  , "#ifndef TIMEDELTA"
  , "#define TIMEDELTA (1.0 / 60.0)"
  , "#endif"
  , "#ifndef FRAMEINDEX"
  , "#define FRAMEINDEX int(floor(time * 60.0))"
  , "#endif"
  , "#define IMG_SIZE(img) resolution"
  , "#define IMG_NORM_PIXEL(img, coord) texture2D(img, coord)"
  , "#define IMG_PIXEL(img, coord) texture2D(img, (coord) / resolution)"
  , "#define IMG_THIS_NORM_PIXEL(img) texture2D(img, isf_FragNormCoord)"
  , "#define IMG_THIS_PIXEL(img) texture2D(img, isf_FragNormCoord)" ]

/-- Everything injected between the hoisted directives and the body. -/
def prologue (source : ShaderSource α) (uniforms : UniformSet α) : List String :=
  let body := source.body.toList
  let declared := Shader.declaredUniforms body
  let missing := uniforms.slots.filter fun s => !declared.contains s.name
  let precision := if Shader.setsPrecision body then [] else [precisionStatement]
  let macros :=
    match source.dialect with
    | .isf => isfMacros
    | .glsl => []
  precision ++ uniformLines none missing ++ macros

/-! ## The whole text -/

/-- A body line as it is written: ISF text reads the flipped fragment coordinate. -/
def bodyText (dialect : Dialect) (line : List Char) : String :=
  match dialect with
  | .glsl => String.ofList line
  | .isf =>
      String.ofList
        (Text.replaceWord "gl_FragCoord".toList "vj_FragCoord".toList line)

/-- The output lines of a source. -/
def outputLines (source : ShaderSource α) (uniforms : UniformSet α) : List OutputLine :=
  let ls := BodyLine.ofBody (source.bodyLineOffset + 1) source.body.toList
  let versions := (ls.find? (·.is "version")).toList
  let ls := BodyLine.hoistFirst (·.is "version") ls
  let extensions := ls.filter (·.is "extension")
  let ls := BodyLine.hoistAll (·.is "extension") ls
  (versions ++ extensions).map (·.moved) ++
    (prologue source uniforms).map .injected ++
    ls.map fun l => ⟨bodyText source.dialect l.left, some l.number⟩

variable [Scalar α]

/-- Transpile a source. -/
def ofSource (dialect : Dialect) (raw : String) : Transpiled α :=
  let (source, warnings) := ShaderSource.read dialect raw
  let uniforms := UniformSet.compile source.inputs
  { dialect := source.dialect
    lines := outputLines source uniforms
    uniforms := uniforms
    inputs := source.inputs
    warnings := warnings }

end Transpiled

/-- The compilable text of a source. -/
def compileText (dialect : Dialect) (raw : String) : String :=
  (Transpiled.ofSource (α := Float) dialect raw).text

end LiveVisuals
