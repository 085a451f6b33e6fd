import LiveVisuals.Engine.Activation

/-!
# Commands

Messages that are no audio values steer the show: bindings, controls, toggles, and the shader
to load. A message that cannot be understood changes nothing.

Main definitions:

- {lit}`Command`: what a message can ask for.
- {lit}`Command.ofMessage?`: what a message asks for.
- {lit}`Engine.handle`: carry it out.
-/

namespace LiveVisuals

variable {α : Type}

/-- What a message can ask for. -/
inductive Command (α : Type) where
  | resetAudio
  | addBinding (spec : BindingSpec α)
  /-- A binding without uniform or feature. -/
  | incompleteBinding
  | removeBinding (uniform : String)
  | clearBindings
  | setControls (u : ControlUpdate α)
  /-- Load a shader; the hints say how energetic and cheerful the music is. -/
  | loadShader (name : String) (energy valence : Option α)
  | setToggle (name : String) (enabled : Bool)

namespace Command

variable [Scalar α]

/-- What addresses of toggles start with; the name follows. -/
def toggleRoot : String := "/control/toggle/"

/-- The toggle that an address names. -/
def toggleName? (address : String) : Option String :=
  match Text.strip? toggleRoot.toList address.toList with
  | some [] | none => none
  | some name => some (String.ofList name)

/-- A binding to add. -/
def ofBinding (args : List (Json α)) : Command α :=
  match BindingSpec.ofArguments? args with
  | some spec => addBinding spec
  | none => incompleteBinding

/-- A toggle to set; without a usable number it is switched on. -/
def ofToggle (name : String) (args : List (Json α)) : Command α :=
  setToggle name (!((argNumber? args[0]?).getD 1.0 == (0.0 : α)))

/-- What a message asks for, if it can be understood. -/
def ofMessage? (m : Osc.Message α) : Option (Command α) :=
  let knob (f : α → ControlUpdate α) : Option (Command α) :=
    (argNumber? m.args[0]?).map fun x => setControls (f x)
  match m.address with
  | "/audio/reset" => some resetAudio
  | "/binding/add" => some (ofBinding m.args)
  | "/binding/remove" => (argText? m.args[0]?).map removeBinding
  | "/binding/clear" => some clearBindings
  | "/control/style_bias" => knob fun x => { ControlUpdate.none with styleBias := some x }
  | "/control/kick_threshold" =>
      knob fun x => { ControlUpdate.none with kickThreshold := some x }
  | "/control/beat_boost" => knob fun x => { ControlUpdate.none with beatBoostGain := some x }
  | "/shader/load" =>
      (argText? m.args[0]?).map fun name =>
        loadShader name (argNumber? m.args[1]?) (argNumber? m.args[2]?)
  | address => (toggleName? address).map fun name => ofToggle name m.args

/-- A hint as it is written. -/
def hintText (hint : Option α) : String := (hint.map Scalar.text).getD "-"

/-- What is reported about the hints of a request; nothing if there are none. -/
def hintNotices (name : String) (energy valence : Option α) : List Notice :=
  if energy.isSome ∨ valence.isSome then
    [.info s!"[osc] /shader/load {name} hints energy={hintText energy} valence={hintText valence}"]
  else []

end Command

namespace Engine

variable [Scalar α]

/-- Carry out a command; says whether there was anything to do. -/
def obey (e : Engine α) : Command α → Engine α × Bool
  | .resetAudio =>
      let e := e.mapSession fun s => { s with extractor := s.extractor.reset }
      (e.note (.info "[osc] audio reset"), true)
  | .addBinding spec => (e.addBinding spec, true)
  | .incompleteBinding =>
      (e.note (.warning "[osc] /binding/add needs at least a uniform and a feature"), false)
  | .removeBinding uniform => e.removeBinding uniform
  | .clearBindings => (e.clearBindings, true)
  | .setControls u => (e.setControls u, true)
  | .loadShader name energy valence =>
      ((e.noteAll (Command.hintNotices name energy valence)).activate .background name, true)
  | .setToggle name enabled => (e.setToggle name enabled, true)

/-- Carry out what a message asks for. A message that cannot be understood changes nothing. -/
def handle (e : Engine α) (m : Osc.Message α) : Engine α × Bool :=
  match Command.ofMessage? m with
  | some c => e.obey c
  | none => (e, false)

end Engine

end LiveVisuals
