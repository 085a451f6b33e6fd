import LiveVisuals.Audio.Extractor
import LiveVisuals.Shader.Header

/-!
# Engine controls

What a performer adjusts while the show runs: the knobs of the feature extraction, and named
toggles that are handed on to the renderer.

Main definitions:

- {lit}`ControlState`: knobs and toggles.
- {lit}`ControlUpdate`: new positions of some knobs.
- {lit}`ControlState.update`, {lit}`ControlState.toggle`: adjust them.
-/

namespace LiveVisuals

variable {α : Type}

/-- Knobs and toggles. -/
structure ControlState (α : Type) extends Audio.Controls α where
  toggles : Keyed Bool

/-- New positions of some knobs. -/
structure ControlUpdate (α : Type) where
  styleBias : Option α
  kickThreshold : Option α
  beatBoostGain : Option α

/-- No new positions. -/
def ControlUpdate.none : ControlUpdate α := ⟨.none, .none, .none⟩

namespace ControlState

/-- Note a toggle; the reserved name is passed over. -/
def toggle (c : ControlState α) (name : String) (enabled : Bool) : ControlState α :=
  if name = Header.reservedName then c
  else { c with toggles := Keyed.put name enabled c.toggles }

variable [Scalar α]

/-- Controls that nobody has touched. -/
def initial : ControlState α := { Audio.Controls.default with toggles := [] }

/-- Turn knobs: the style bias stays from -1 to 1 and the boost gain is not negative. -/
def update (c : ControlState α) (u : ControlUpdate α) : ControlState α :=
  { c with
    styleBias := (u.styleBias.map fun x => Scalar.clamp x (-1.0) 1.0).getD c.styleBias
    kickThreshold := u.kickThreshold.getD c.kickThreshold
    beatBoostGain := (u.beatBoostGain.map fun x => Scalar.greater x 0.0).getD c.beatBoostGain }

/-- Controls as JSON. -/
def toJson (c : ControlState α) : Json α :=
  .obj (c.fields ++
    [("toggles", .obj (c.toggles.map fun (name, enabled) => (name, .bool enabled)))])

end ControlState

end LiveVisuals
