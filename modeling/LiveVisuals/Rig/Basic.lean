import LiveVisuals.Engine.Capture
import LiveVisuals.Engine.Tick
import LiveVisuals.Osc.Listener
import LiveVisuals.Render.Host
import LiveVisuals.Rig.Disk
import LiveVisuals.Time.Agenda

/-!
# Rigs

A rig is a running installation: an engine with everything around it, that is a disk, timers,
a renderer, a message listener, and browsers that are connected. What the engine asks for is
work that the rig does in due course.

Main definitions:

- {lit}`Setup`: what a rig consists of.
- {lit}`Work`, {lit}`Alarm`: what is to be done as soon as possible, and at a time.
- {lit}`Sighting`: what is seen of a rig from outside.
- {lit}`Rig`: a running installation.
-/

namespace LiveVisuals

/-- What draws. -/
inductive Renderer where
  /-- A test bench: it compiles at once, and shows what it is asked to do. -/
  | bench
  /-- A render host with a number of browsers that only receive. -/
  | channel
  /-- A render host whose browsers are those that have connected. -/
  | browsers
deriving DecidableEq, Repr

/-- What a rig consists of. -/
structure Setup (α : Type) where
  renderer : Renderer
  /-- Shaders that the test bench cannot compile, with what its compiler says. -/
  failures : Keyed String
  /-- The shader of which no picture can be asked for, and why. -/
  captureRefusal : Option (String × String)
  shaderDir : Files.Path
  /-- Where bindings are saved, if they are. -/
  presetDir : Option Files.Path
  /-- Where pictures are kept, if any are asked for. -/
  captureDir : Option Files.Path
  errorLog : Files.Path
  /-- How long a shader waits for its first capture, in milliseconds. -/
  captureDelay : α
  /-- How long a browser may take to compile, in milliseconds. -/
  compileLimit : α
  /-- How often the shader directory is looked at, in milliseconds. -/
  pollInterval : α
  /-- Ports that somebody else uses. -/
  busyPorts : List Nat
  /-- When the rig is started. -/
  start : Timestamp

/-- Who asked for a compile. -/
inductive CompileCaller where
  | activation (t : Ticket)
  | outside (number : Nat)
deriving DecidableEq, Repr

/-- Who has asked for a look at the shader directory. -/
inductive LookCaller where
  | timer
  | outside
deriving DecidableEq, Repr

/-- What is to be done as soon as possible. -/
inductive Work where
  | resume (t : Ticket)
  | settle (t : Ticket) (outcome : CompileOutcome)
  | readSource (t : Ticket) (path : String)
  | record (t : Ticket) (r : ErrorRecord)
  | loadPreset (t : Ticket) (shader : String)
  | scan
  | look (caller : LookCaller)
  | checkCapture (shader : String)

/-- What is to be done at a time. -/
inductive Alarm where
  | compileLimit (id : String)
  | capture
  | frame (loop : Nat)
  | poll
deriving DecidableEq, Repr

/-- What is seen of a rig from outside. -/
inductive Sighting (α : Type) where
  | compile (r : CompileRequest)
  /-- Uniform values were presented; their number is seen. -/
  | present (count : Nat)
  | capture (shader : String)
  | toggle (name : String) (enabled : Bool)
  | send (m : HostMessage α)
  /-- A compile asked for from outside has ended. -/
  | settled (number : Nat) (outcome : CompileOutcome)
  | received (client : String) (message : Json α)
  | closed (client : String) (code : Nat) (reason : String)

/-- A loop that ticks at a fixed rate. Its clock is that of the rig, or is set by hand. -/
structure RenderLoop (α : Type) where
  rate : α
  timed : Bool
  last : α

/-- Servers and browsers. -/
structure Net (α : Type) where
  /-- Browsers that are connected, in order. -/
  clients : List String
  fps : Option α
  /-- Ports where requests are answered. -/
  webPorts : List Nat
  /-- Ports where browsers connect. -/
  socketPorts : List Nat
  /-- The servers that a stop is about. -/
  lastWeb : Option Nat
  lastSocket : Option Nat

/-- A running installation. -/
structure Rig (α : Type) where
  setup : Setup α
  engine : Engine α
  disk : Disk
  agenda : Agenda α Alarm
  host : Host
  /-- Number of browsers that only receive. -/
  receivers : Nat
  compiles : Keyed CompileCaller
  capture : CaptureScheduler
  listener : Osc.Listener
  loops : List (RenderLoop α)
  /-- The clock of loops that is set by hand. -/
  handClock : α
  /-- Why the test bench refuses to present anything, if it does. -/
  presentRefusal : Option String
  net : Net α
  /-- Whether a look at the shader directory is under way. -/
  looking : Bool
  /-- What has come of the looks that were asked for from outside, in order. -/
  looked : List (Except Files.Error Bool)
  /-- Work that is done at once, work on single files, and work on the shader directory. -/
  atOnce : List Work
  onFiles : List Work
  onTrees : List Work
  finished : List (Finish α)
  /-- What was seen, latest first. -/
  seen : List (Sighting α)
  /-- What is on the console, latest first. -/
  console : List Notice

namespace Rig

variable {α : Type} [Scalar α]

/-- A rig that has just been set up. -/
def new (setup : Setup α) (disk : Disk) (receivers : Nat) : Rig α where
  setup := setup
  engine := .new (disk.pathText setup.shaderDir)
  disk := disk
  agenda := .empty
  host := .initial
  receivers := receivers
  compiles := []
  capture := .idle
  listener := .idle
  loops := []
  handClock := 0.0
  presentRefusal := none
  net := ⟨[], none, [], [], none, none⟩
  looking := false
  looked := []
  atOnce := []
  onFiles := []
  onTrees := []
  finished := []
  seen := []
  console := []

/-- The present time. -/
def now (r : Rig α) : Timestamp := ⟨r.setup.start.ms + Scalar.floor r.agenda.now⟩

/-- Something is seen from outside. -/
def see (r : Rig α) (s : Sighting α) : Rig α := { r with seen := s :: r.seen }

/-- Put a notice on the console. -/
def say (r : Rig α) (n : Notice) : Rig α := { r with console := n :: r.console }

/-- Put notices on the console. -/
def sayAll (r : Rig α) (ns : List Notice) : Rig α := ns.foldl say r

/-- Let work wait where it belongs. -/
def queue (r : Rig α) (w : Work) : Rig α :=
  match w with
  | .resume _ | .settle .. => { r with atOnce := r.atOnce ++ [w] }
  | .readSource .. | .record .. | .checkCapture _ => { r with onFiles := r.onFiles ++ [w] }
  | .loadPreset .. =>
      if r.setup.presetDir.isSome then { r with onFiles := r.onFiles ++ [w] }
      else { r with atOnce := r.atOnce ++ [w] }
  | .scan | .look _ => { r with onTrees := r.onTrees ++ [w] }

/-- The console lines and sightings so far, in order; they are not shown again. -/
def collect (r : Rig α) : Rig α × List Notice × List (Sighting α) :=
  ({ r with console := [], seen := [] }, r.console.reverse, r.seen.reverse)

/-- The end of an activation. -/
def finish? (r : Rig α) (t : Ticket) : Option (Finish α) :=
  r.finished.find? (·.ticket == t)

end Rig

end LiveVisuals
