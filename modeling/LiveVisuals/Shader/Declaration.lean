import LiveVisuals.Shader.Comment

/-!
# Declarations in a shader body

Which uniforms a body declares itself, whether it sets a float precision, and which of its
lines are directives that must come before everything else.

Main definitions:

- {lit}`Shader.declaredUniforms`: names of uniforms declared outside comments, each once.
- {lit}`Shader.setsPrecision`: whether a default precision for floats is set.
- {lit}`Shader.isDirective`: whether a line is a given directive.
-/

namespace LiveVisuals.Shader

open Text

/-- The precision qualifiers. -/
def precisionWords : List (List Char) :=
  ["lowp".toList, "mediump".toList, "highp".toList]

/-- What follows a precision qualifier at the start of a text. -/
def stripPrecision? (cs : List Char) : Option (List Char) :=
  precisionWords.findSome? fun w => strip? w cs

/-- A type and a name, with what follows: the name and the rest. -/
def typedName? (cs : List Char) : Option (List Char × List Char) := do
  let (_, afterType) ← takeIdentifier cs
  let nameStart ← skipSomeBlanks afterType
  takeIdentifier nameStart

/-- A uniform declaration up to its first name: the name and the rest. The precision
qualifier is optional; a text that does not go on after one may still have it as its type. -/
def uniformDeclaration? (cs : List Char) : Option (List Char × List Char) := do
  let afterWord ← strip? "uniform".toList cs
  let typeStart ← skipSomeBlanks afterWord
  let qualified := do
    let afterPrecision ← stripPrecision? typeStart
    let typeStart ← skipSomeBlanks afterPrecision
    typedName? typeStart
  qualified <|> typedName? typeStart

/-- Names declared by uniform declarations, in order. {lit}`before` is the character before
the text, and {lit}`skip` characters still belong to the last declaration. -/
def uniformNamesFrom : (before : Option Char) → (skip : Nat) → List Char → List (List Char)
  | _, _, [] => []
  | _, skip + 1, c :: cs => uniformNamesFrom (some c) skip cs
  | before, 0, c :: cs =>
      let found := if before.any isWordChar then none else uniformDeclaration? (c :: cs)
      match found with
      | some (name, rest) =>
          name :: uniformNamesFrom (some c) (cs.length - rest.length) cs
      | none => uniformNamesFrom (some c) 0 cs

/-- Keep the first of equal items. -/
def firstOfEach {β : Type} [BEq β] (items : List β) : List β :=
  items.foldl (fun seen i => if seen.contains i then seen else seen ++ [i]) []

/-- Uniforms that a body declares outside comments, in the order of first declaration. -/
def declaredUniforms (body : List Char) : List String :=
  firstOfEach ((uniformNamesFrom none 0 (stripComments body)).map String.ofList)

/-- Whether the statement that sets the float precision stands at the start of a text. -/
def precisionStatementAt (cs : List Char) : Bool :=
  let rest := do
    let afterWord ← strip? "precision".toList cs
    let qualifier ← skipSomeBlanks afterWord
    let afterQualifier ← stripPrecision? qualifier
    let type ← skipSomeBlanks afterQualifier
    let afterType ← strip? "float".toList type
    strip? [';'] (skipBlanks afterType)
  rest.isSome

/-- Whether a text after the character {lit}`before` sets the float precision. -/
def setsPrecisionFrom : (before : Option Char) → List Char → Bool
  | _, [] => false
  | before, c :: cs =>
      (!before.any isWordChar && precisionStatementAt (c :: cs)) ||
        setsPrecisionFrom (some c) cs

/-- Whether a body sets the float precision outside comments. -/
def setsPrecision (body : List Char) : Bool := setsPrecisionFrom none (stripComments body)

/-- Whether a line is the directive {lit}`word`, blanks before it allowed. -/
def isDirective (word : String) (line : List Char) : Bool :=
  match strip? ('#' :: word.toList) (skipBlanks line) with
  | some rest => endsWord rest
  | none => false

end LiveVisuals.Shader
