import Mathlib.Data.List.Induction
import LiveVisuals.Engine.Tick

/-!
# Runs of an engine

An engine is driven by events: somebody asks for something, a tick is due, or something has
come that an activation waited for. Events come in any order, and what comes for one activation
can come between any two events of another, so that a list of events is an interleaving of
everything that goes on. After each event the effects are taken out of the engine; a
performance keeps them all.

Main definitions:

- {lit}`Engine.Arrival`, {lit}`Engine.Event`: what can happen.
- {lit}`Engine.step`: the engine after an event.
- {lit}`Performance`: an engine at work, with everything that it has asked for so far.
- {lit}`Performance.run`: a performance after a list of events.

Main results:

- Theorem {lit}`Performance.run_concat`: a run is the run of all but the last event, and then
  that event.
- Theorem {lit}`Performance.outbox_run`: between events no effect waits.
-/

namespace LiveVisuals

variable {α : Type}

namespace Engine

/-- What an activation waits for, once it has come. -/
inductive Arrival (α : Type) where
  /-- The turn of an activation that has found no shader. -/
  | turn
  | source (content : Except Files.Error String)
  /-- The compile has ended, at some time. -/
  | program (now : Timestamp) (outcome : Except String Unit)
  | record (written : Except Files.Error Unit)
  | preset (saved : Except PresetError (Option (List (BindingSpec α))))

/-- What can happen to an engine. -/
inductive Event (α : Type) where
  | activate (purpose : Purpose) (name : String)
  /-- Something has come for an activation. -/
  | arrive (t : Ticket) (a : Arrival α)
  | tick (dt : α)
  /-- A tick that breaks off when its values are presented. -/
  | brokenTick (dt : α)
  /-- A message joins those that wait for the next tick. -/
  | receive (m : Osc.Message α)
  /-- A message is carried out at once. -/
  | control (m : Osc.Message α)
  | addBinding (spec : BindingSpec α)
  | removeBinding (uniform : String)
  | clearBindings
  | setControls (u : ControlUpdate α)
  | setToggle (name : String) (enabled : Bool)
  | setResolution (width height : α)
  | markReload
  /-- The shader directory is compared with the last scan. -/
  | poll (s : Scan)
  /-- The shader directory is scanned on request. -/
  | rescan (s : Scan)
  /-- The scan of a reload has ended. -/
  | scanned (s : Except Files.Error Scan)

variable [Scalar α]

/-- Something has come for an activation. -/
def arrive (e : Engine α) (t : Ticket) : Arrival α → Engine α
  | .turn => e.resumed t
  | .source content => e.sourceRead t content
  | .program now outcome => e.compiled now t outcome
  | .record written => e.recorded t written
  | .preset saved => e.presetLoaded t saved

/-- The engine after an event. -/
def step (e : Engine α) : Event α → Engine α
  | .activate purpose name => e.activate purpose name
  | .arrive t a => e.arrive t a
  | .tick dt => (e.tick dt).1
  | .brokenTick dt => (e.prepare dt).1
  | .receive m => e.receive m
  | .control m => (e.handle m).1
  | .addBinding spec => e.addBinding spec
  | .removeBinding uniform => (e.removeBinding uniform).1
  | .clearBindings => e.clearBindings
  | .setControls u => e.setControls u
  | .setToggle name enabled => e.setToggle name enabled
  | .setResolution width height => e.setResolution width height
  | .markReload => e.markReload
  | .poll s => (e.poll s).1
  | .rescan s => e.takeScan s
  | .scanned s => e.scanned s

end Engine

/-! ## Performances -/

/-- An engine at work, with everything that it has asked for so far, in order. -/
structure Performance (α : Type) where
  engine : Engine α
  asked : List (Effect α)

namespace Performance

variable [Scalar α]

/-- A performance that has not begun. -/
def start (shaderRoot : String) : Performance α := ⟨.new shaderRoot, []⟩

/-- A performance after an event, the effects of which have been taken out of the engine. -/
def step (p : Performance α) (x : Engine.Event α) : Performance α :=
  ⟨(p.engine.step x).dispatched, p.asked ++ (p.engine.step x).outbox⟩

/-- A performance from its start, after some events. -/
def run (shaderRoot : String) (xs : List (Engine.Event α)) : Performance α :=
  xs.foldl step (start shaderRoot)

/-- A run ends with its last event. -/
@[simp] theorem run_concat (shaderRoot : String) (xs : List (Engine.Event α))
    (x : Engine.Event α) :
    run shaderRoot (xs ++ [x]) = (run shaderRoot xs).step x := by
  simp [run]

/-- Between events no effect waits. -/
@[simp] theorem outbox_run (shaderRoot : String) (xs : List (Engine.Event α)) :
    (run shaderRoot xs).engine.outbox = [] := by
  induction xs using List.reverseRecOn with
  | nil => rfl
  | append_singleton xs x _ =>
      rw [run_concat]
      rfl

/-- What has been asked for is never taken back. -/
theorem asked_prefix_run (shaderRoot : String) (xs ys : List (Engine.Event α)) :
    (run shaderRoot xs).asked <+: (run shaderRoot (xs ++ ys)).asked := by
  induction ys using List.reverseRecOn with
  | nil => simp
  | append_singleton ys y ih =>
      rw [← List.append_assoc, run_concat]
      exact ih.trans (List.prefix_append _ _)

end Performance

end LiveVisuals
