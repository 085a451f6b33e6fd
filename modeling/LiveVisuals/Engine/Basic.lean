import LiveVisuals.Binding.Preset
import LiveVisuals.Console
import LiveVisuals.Engine.Session
import LiveVisuals.Osc.Inbox
import LiveVisuals.Render.Message
import LiveVisuals.Shader.ErrorLog

/-!
# The engine

The engine owns the session. Shaders are activated by way of files, a compiler and saved
bindings, all of which take their time, so several activations can be on their way at once;
each is at some stage and waits for one thing. The engine asks its surroundings for things by
effects and is told what came of them.

Main definitions:

- {lit}`Activation`: an activation on its way, with its {lit}`Stage`.
- {lit}`Effect`: what the engine asks its surroundings to do.
- {lit}`Engine`: session, registry, inbox, recent failures and activations on their way.
-/

namespace LiveVisuals

/-- Identifies an activation. -/
abbrev Ticket := Nat

/-- On whose behalf a shader is activated. -/
inductive Purpose where
  /-- The caller deals with failures. -/
  | activation
  /-- Failures are reported, and the caller gets a result. -/
  | request
  /-- Like a request, but nobody waits. -/
  | background
  /-- The shader directory has changed. -/
  | reload
deriving DecidableEq, Repr

/-- What an activation that has found its shader carries along. -/
structure Quest where
  /-- Activations are numbered as they find their shader. -/
  generation : Nat
  descriptor : Descriptor
deriving DecidableEq, Repr

/-- What an activation waits for. -/
inductive Stage (α : Type) where
  /-- There is no shader of that name; this is about to be reported. -/
  | lost
  | reading (q : Quest)
  | compiling (q : Quest) (t : Transpiled α)
  /-- The compile has failed; the failure is being written to the log. -/
  | recording (q : Quest) (f : CompileFailure)
  /-- The compile has succeeded; saved bindings are being loaded. -/
  | restoring (q : Quest) (t : Transpiled α)

/-- An activation on its way. -/
structure Activation (α : Type) where
  ticket : Ticket
  /-- The name asked for. -/
  requested : String
  purpose : Purpose
  stage : Stage α

/-- How an activation ends. -/
inductive Outcome (α : Type) where
  | installed (active : ActiveShader α)
  /-- A newer activation has found its shader. -/
  | superseded
  | notFound
  | unreadable (e : Files.Error)
  | uncompilable (f : CompileFailure)

/-- An activation that has ended, with the bindings in force at that moment. -/
structure Finish (α : Type) where
  ticket : Ticket
  requested : String
  outcome : Outcome α
  bindings : List (Binding α)

/-- What the engine asks its surroundings to do. -/
inductive Effect (α : Type) where
  | notice (n : Notice)
  /-- Come back to an activation soon. -/
  | resume (t : Ticket)
  | readSource (t : Ticket) (path : String)
  | compile (t : Ticket) (r : CompileRequest)
  | record (t : Ticket) (r : ErrorRecord)
  | loadPreset (t : Ticket) (shader : String)
  /-- Scan the shader directory for a reload. -/
  | scan
  | present (values : UniformValues α)
  | toggle (name : String) (enabled : Bool)
  | scheduleCapture (shader : String)
  | finished (f : Finish α)

/-- The engine. -/
structure Engine (α : Type) where
  session : Session α
  registry : Registry
  inbox : Osc.Inbox α
  errors : ErrorLog
  /-- Number of activations that have found their shader. -/
  generation : Nat
  /-- Number of activations so far. -/
  issued : Nat
  activations : List (Activation α)
  /-- Effects not yet carried out, in order. -/
  outbox : List (Effect α)

namespace Engine

variable {α : Type} [Scalar α]

/-- An engine for a shader directory. -/
def new (shaderRoot : String) : Engine α where
  session := .initial
  registry := .new shaderRoot
  inbox := .empty
  errors := .empty
  generation := 0
  issued := 0
  activations := []
  outbox := []

/-- Ask for an effect. -/
def emit (e : Engine α) (x : Effect α) : Engine α := { e with outbox := e.outbox ++ [x] }

/-- Put a notice on the console. -/
def note (e : Engine α) (n : Notice) : Engine α := e.emit (.notice n)

/-- Put notices on the console. -/
def noteAll (e : Engine α) (ns : List Notice) : Engine α := ns.foldl note e

/-- The effects that were asked for are being carried out. -/
def dispatched (e : Engine α) : Engine α := { e with outbox := [] }

/-- Change the session. -/
def mapSession (e : Engine α) (f : Session α → Session α) : Engine α :=
  { e with session := f e.session }

/-! ## Bindings, controls and the rest of the session -/

/-- Bind a uniform on request. -/
def addBinding (e : Engine α) (spec : BindingSpec α) : Engine α :=
  e.mapSession fun s => { s with bindings := s.bindings.add spec .explicit }

/-- Remove the binding of a uniform; says whether there was one. -/
def removeBinding (e : Engine α) (uniform : String) : Engine α × Bool :=
  ( e.mapSession fun s => { s with bindings := s.bindings.remove uniform }
  , e.session.bindings.has uniform )

/-- Remove all bindings. -/
def clearBindings (e : Engine α) : Engine α :=
  e.mapSession fun s => { s with bindings := .empty }

/-- Turn knobs. -/
def setControls (e : Engine α) (u : ControlUpdate α) : Engine α :=
  e.mapSession fun s => { s with controls := s.controls.update u }

/-- Set a toggle and hand it on to the renderer. -/
def setToggle (e : Engine α) (name : String) (enabled : Bool) : Engine α :=
  (e.mapSession fun s => { s with controls := s.controls.toggle name enabled }).emit
    (.toggle name enabled)

/-- Set the target size. -/
def setResolution (e : Engine α) (width height : α) : Engine α :=
  e.mapSession fun s => s.resize width height

/-- Have the shader directory read again at the next tick. -/
def markReload (e : Engine α) : Engine α :=
  e.mapSession fun s => { s with reloadPending := true }

/-- Compare a scan of the shader directory with the last one that was taken over; a difference
brings about a reload. -/
def poll (e : Engine α) (s : Scan) : Engine α × Bool :=
  let changed := e.registry.changed s
  (if changed then e.markReload else e, changed)

/-- Why bindings cannot be saved. -/
inductive SaveError where
  | noActiveShader
  | noStore
  | file (e : Files.Error)
deriving DecidableEq, Repr

/-- What is reported about bindings that cannot be saved. -/
def SaveError.message : SaveError → String
  | noActiveShader => "No active shader"
  | noStore => "Binding presets are not configured"
  | file e => e.code

/-- The shader for which bindings would be saved, and what would be saved. -/
def toSave? (e : Engine α) : Option (String × List (BindingSpec α)) :=
  e.session.activeName?.map fun name =>
    (name, e.session.bindings.toList.map (·.toBindingSpec))

end Engine

end LiveVisuals
