import LiveVisuals.Binding.Spec
import LiveVisuals.Schema.Checked

/-!
# Asking for bindings

Bindings are asked for in three ways: by a message with positional arguments, by a request
body and by a saved file. Each has its own idea of what may be left out.

Main definitions:

- {lit}`BindingSpec.ofArguments?`: a spec of positional arguments.
- {lit}`BindingSpec.bodySchema`: the shape of a request body.
- {lit}`BindingSpec.savedSchema`: the shape of a spec in a saved file.
-/

namespace LiveVisuals

/-- A message argument as text: a string that is not empty. -/
def argText? {α : Type} : Option (Json α) → Option String
  | some (.str s) => if s.isEmpty then none else some s
  | _ => none

/-- A message argument as a finite number; numbers may be written out. -/
def argNumber? {α : Type} [Scalar α] : Option (Json α) → Option α
  | some (.num x) => Scalar.finite? x
  | some (.str s) =>
      if (Text.trim s.toList).isEmpty then none
      else (Numeral.read s.toList).bind fun n => Scalar.finite? (Scalar.ofNumeral n)
  | _ => none

namespace BindingSpec

variable {α : Type} [Scalar α]

/-- A spec of uniform and feature, and then if given kind, multiplier, smoothing, resting
value and limits. An argument that cannot be used counts as left out. -/
def ofArguments? (args : List (Json α)) : Option (BindingSpec α) := do
  let uniform ← argText? args[0]?
  let feature ← argText? args[1]?
  some
    { uniform := uniform
      feature := feature
      kind := (argText? args[2]?).getD Modulation.add.name
      multiplier := (argNumber? args[3]?).getD 1.0
      smoothing := (argNumber? args[4]?).getD 0.5
      base := (argNumber? args[5]?).getD 0.0
      min := (argNumber? args[6]?).getD 0.0
      max := (argNumber? args[7]?).getD 1.0 }

/-- A share between 0 and 1. -/
def share : Schema α α := .satisfying .number [.atLeast 0.0, .atMost 1.0]

/-- The shape of a request body. -/
def bodySchema : Schema α (BindingSpec α) :=
  Schema.object fun fs =>
    BindingSpec.mk <$> Schema.field fs "uniform" .text
      <*> Schema.field fs "feature" .text
      <*> Schema.field fs "kind" (.withDefault Modulation.add.name (.oneOf Modulation.names))
      <*> Schema.field fs "multiplier" (.withDefault 1.0 .finiteNumber)
      <*> Schema.field fs "smoothing" (.withDefault 0.5 share)
      <*> Schema.field fs "base" (.withDefault 0.0 .finiteNumber)
      <*> Schema.field fs "min" (.withDefault 0.0 .finiteNumber)
      <*> Schema.field fs "max" (.withDefault 1.0 .finiteNumber)

/-- The shape of a spec in a saved file. -/
def savedSchema : Schema α (BindingSpec α) :=
  Schema.object fun fs =>
    BindingSpec.mk <$> Schema.field fs "uniform" .text
      <*> Schema.field fs "feature" .text
      <*> Schema.field fs "kind" .text
      <*> Schema.field fs "multiplier" .finiteNumber
      <*> Schema.field fs "smoothing" .finiteNumber
      <*> Schema.field fs "base" .finiteNumber
      <*> Schema.field fs "min" .finiteNumber
      <*> Schema.field fs "max" .finiteNumber

end BindingSpec

end LiveVisuals
