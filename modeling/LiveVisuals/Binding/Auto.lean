import LiveVisuals.Binding.Spec
import LiveVisuals.Shader.Uniform

/-!
# Automatic bindings

Scalar and integer inputs of a shader without saved bindings are bound by their names: a name
that contains a word of a rule follows the rule's feature. Names that speak of layout are left
alone.

Main definitions:

- {lit}`AutoBind.rules`: the rules, tried in order.
- {lit}`AutoBind.ruleFor?`: the rule of an input.
- {lit}`AutoBind.derive`: the bindings of a list of inputs.
-/

namespace LiveVisuals.AutoBind

/-- Words that name what a rule covers, and the binding it makes. -/
structure Rule (α : Type) where
  label : String
  words : List String
  feature : Audio.Feature
  kind : Modulation
  multiplier : α
  smoothing : α

/-- Words in names of inputs that drive layout. -/
def structuralWords : List String := ["time", "resolution", "size", "color", "position"]

/-- The rules; the first that matches counts. -/
def rules {α : Type} [Scalar α] : List (Rule α) :=
  [ ⟨"speed", ["speed", "rate", "velocity"], .energyFast, .multiply, 1.0, 0.6⟩
  , ⟨"scale", ["scale", "zoom"], .bass, .add, 0.3, 0.7⟩
  , ⟨"glow", ["glow", "bloom", "bright"], .level, .multiply, 0.8, 0.6⟩
  , ⟨"intensity", ["intensity", "amount", "strength"], .energySlow, .multiply, 0.6, 0.8⟩
  , ⟨"pulse", ["pulse", "kick", "punch"], .kickEnv, .add, 1.0, 0.3⟩
  , ⟨"beat", ["beat", "flash"], .beatPhase, .add, 1.0, 0.2⟩
  , ⟨"bass", ["bass", "low"], .bass, .add, 1.0, 0.5⟩
  , ⟨"mid", ["mid"], .mid, .add, 1.0, 0.5⟩
  , ⟨"high", ["high", "treble"], .highs, .add, 1.0, 0.4⟩
  , ⟨"warp", ["warp", "distort", "twist"], .energySlow, .add, 0.5, 0.8⟩
  , ⟨"rotation", ["rot", "spin", "angle"], .bpmSin4, .add, 0.25, 0.85⟩ ]

/-- Whether a name speaks of layout. -/
def isStructural (name : String) : Bool :=
  structuralWords.any (Text.includes (Text.lowered name))

variable {α : Type}

/-- Whether a rule covers a lower-case name. -/
def Rule.covers (r : Rule α) (name : String) : Bool := r.words.any (Text.includes name)

/-- Whether inputs of a type can be bound at all. -/
def isBindable : InputType → Bool
  | .scalar | .integer => true
  | _ => false

variable [Scalar α]

/-- The rule of an input. -/
def ruleFor? (input : InputDeclaration α) : Option (Rule α) :=
  if isBindable input.type && !isStructural input.name then
    rules.find? (·.covers (Text.lowered input.name))
  else none

/-- A declared limit that is a finite number. -/
def finiteBound? : Option (Bound α) → Option α
  | some (.number x) => Scalar.finite? x
  | _ => none

/-- The resting value of an input: its default if that is a number. -/
def baseOf (input : InputDeclaration α) : α :=
  match input.defaultValue with
  | some (.number x) => x
  | _ => 0.0

/-- The binding that a rule makes for an input. Limits that are not declared are wide enough
for the default. -/
def Rule.bind (r : Rule α) (input : InputDeclaration α) : BindingSpec α :=
  let base := baseOf input
  { uniform := input.name
    feature := r.feature.name
    kind := r.kind.name
    multiplier := r.multiplier
    smoothing := r.smoothing
    base := base
    min := (finiteBound? input.min).getD (Scalar.lesser 0.0 base)
    max := (finiteBound? input.max).getD (Scalar.greater 1.0 (Scalar.magnitude base * 4.0)) }

/-- One binding for each input that a rule covers. -/
def derive (inputs : List (InputDeclaration α)) : List (BindingSpec α) :=
  inputs.filterMap fun i => (ruleFor? i).map (·.bind i)

end LiveVisuals.AutoBind
