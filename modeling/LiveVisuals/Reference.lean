import LiveVisuals.Binding.Auto
import LiveVisuals.Json.Printer

/-!
# Uniform reference

The text that tells shader authors what they get: standard and audio uniforms, input types and
the rules of automatic bindings, all from the tables that the program itself uses.
-/

namespace LiveVisuals.Reference

/-- A table row. -/
def row (cells : List String) : String := "| " ++ " | ".intercalate cells ++ " |"

/-- A table of a head, the rule under it and rows. -/
def table (head rule : String) (rows : List (List String)) : String :=
  Text.joinLines (head :: rule :: rows.map row)

/-- A word set as code. -/
def code (word : String) : String := "`" ++ word ++ "`"

/-- The table of a list of uniforms. -/
def uniformTable (us : List BuiltinUniform) : String :=
  table "| Uniform | Type | Description |" "|---------|------|-------------|"
    (us.map fun u => [code u.name, u.glslType.name, u.description])

/-- The table of input types. -/
def inputTypeTable : String :=
  table "| Input type | GLSL |" "|------------|------|"
    (InputType.all.map fun t => [t.name, t.glslType.name])

/-- The table of automatic bindings. -/
def autoBindTable : String :=
  table "| Rule | Feature | Kind | Multiplier |" "|------|---------|------|------------|"
    ((AutoBind.rules (α := Float)).map fun r =>
      [r.label, r.feature.name, r.kind.name, Scalar.text r.multiplier])

/-- An example of a header, as it is quoted in the text. -/
def headerExample : String :=
  code ("/*" ++ Json.openBrace ++ " \"INPUTS\": [...] " ++ Json.closeBrace ++ "*/")

/-- The whole text. -/
def text : String :=
  "# vj-reactor Uniform Reference\n\n" ++
  "Every shader, ISF (.fs) or raw GLSL (.txt, .glsl, .frag), gets the uniforms\n" ++
  "below declared for it unless its body already declares them. Write the body\n" ++
  "only; redeclaring a standard uniform yourself is allowed.\n\n---\n\n## Standard\n\n" ++
  uniformTable standardUniforms ++
  "\n\n---\n\n## Audio features\n\n" ++
  "All audio uniforms are floats, smoothed, 0.0 in silence. After 1.5 s without\n" ++
  "analyser messages they decay toward 0.0 and " ++ code "audioSpeed" ++
  " drops to 0.02.\n\n" ++
  uniformTable (audioUniforms.map (·.toBuiltinUniform)) ++
  "\n\n---\n\n## ISF inputs\n\n" ++
  "Entries in the " ++ headerExample ++ " header become uniforms:\n\n" ++
  inputTypeTable ++
  "\n\n" ++ code "gl_FragCoord" ++ " is flipped to a bottom-left origin in ISF shaders; " ++
  code "RENDERSIZE" ++ ",\n" ++ code "TIME" ++ ", " ++ code "isf_FragNormCoord" ++
  " and the " ++ code "IMG_*" ++ " helpers are defined.\n\n---\n\n" ++
  "## Automatic bindings\n\n" ++
  "Scalar and integer inputs with no saved preset are bound by name, first match\n" ++
  "wins. Names containing " ++ ", ".intercalate AutoBind.structuralWords ++
  " are never bound.\n\n" ++
  autoBindTable ++
  "\n\nBinding features: " ++ ", ".intercalate Audio.Feature.names ++ ".\n"

end LiveVisuals.Reference
