import LiveVisuals.Audio.FeatureName

/-!
# Bindings

A binding drives a uniform by an audio feature: the smoothed reading modulates a resting value
and the result is kept within limits.

Main definitions:

- {lit}`BindingSpec`, {lit}`Binding`: what drives what, and whether a person asked for it.
- {lit}`Modulation`: the kinds of modulation.
- {lit}`BindingSpec.modulate`: the output for a smoothed reading.
- {lit}`BindingSpec.normalize`: limits in order, smoothing within its range.
-/

namespace LiveVisuals

/-- What drives a uniform, and how. -/
structure BindingSpec (α : Type) where
  uniform : String
  feature : String
  /-- Name of the kind of modulation; unknown kinds add. -/
  kind : String
  multiplier : α
  smoothing : α
  base : α
  min : α
  max : α
deriving DecidableEq

/-- Whether a person asked for a binding or it was derived from an input's name. -/
inductive BindingOrigin where
  | explicit
  | auto
deriving DecidableEq, Repr

/-- Name of an origin. -/
def BindingOrigin.name : BindingOrigin → String
  | .explicit => "explicit"
  | .auto => "auto"

/-- A binding with its origin. -/
structure Binding (α : Type) extends BindingSpec α where
  origin : BindingOrigin
deriving DecidableEq

/-- How a reading changes the resting value. -/
inductive Modulation where
  | add
  | multiply
  | replace
  | threshold
deriving DecidableEq, Repr

namespace Modulation

/-- All kinds. -/
def all : List Modulation := [add, multiply, replace, threshold]

/-- Name of a kind. -/
def name : Modulation → String
  | add => "add"
  | multiply => "multiply"
  | replace => "replace"
  | threshold => "threshold"

/-- Names of all kinds. -/
def names : List String := all.map name

/-- The kind of a name; any unknown name adds. -/
def ofName (s : String) : Modulation := (all.find? (·.name == s)).getD .add

end Modulation

namespace BindingSpec

variable {α : Type} [Scalar α]

/-- The resting value changed by a reading, before limits. -/
def raw (b : BindingSpec α) (s : α) : Modulation → α
  | .multiply => b.base * (1.0 + s * b.multiplier)
  | .replace => s * b.multiplier
  | .add | .threshold => b.base + s * b.multiplier

/-- The output for a smoothed reading. A threshold switches between the limits; any other
kind is kept between them, and what is not finite falls back to the resting value. -/
def modulate (b : BindingSpec α) (s : α) : α :=
  match Modulation.ofName b.kind with
  | .threshold => if b.multiplier < s then b.max else b.min
  | kind =>
      let value := b.raw s kind
      Scalar.clamp (if Scalar.isFinite value then value else b.base) b.min b.max

/-- The most a binding may be smoothed. -/
def mostSmoothing : α := 0.99

/-- A spec with its limits in order and its smoothing from 0 to 0.99. -/
def normalize (b : BindingSpec α) : BindingSpec α :=
  { b with
    smoothing :=
      Scalar.clamp (if Scalar.isFinite b.smoothing then b.smoothing else 0.0) 0.0 mostSmoothing
    min := Scalar.lesser b.min b.max
    max := Scalar.greater b.min b.max }

/-- The fields of a spec as JSON members. -/
def fields (b : BindingSpec α) : List (String × Json α) :=
  [ ("uniform", .str b.uniform)
  , ("feature", .str b.feature)
  , ("kind", .str b.kind)
  , ("multiplier", .num b.multiplier)
  , ("smoothing", .num b.smoothing)
  , ("base", .num b.base)
  , ("min", .num b.min)
  , ("max", .num b.max) ]

/-- A spec as JSON. -/
def toJson (b : BindingSpec α) : Json α := .obj b.fields

end BindingSpec

/-- A binding as JSON. -/
def Binding.toJson {α : Type} [Scalar α] (b : Binding α) : Json α :=
  .obj (b.fields ++ [("origin", .str b.origin.name)])

end LiveVisuals
