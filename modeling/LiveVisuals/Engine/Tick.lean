import LiveVisuals.Engine.Command

/-!
# Ticks

One frame of the show: messages are applied, commands first, the music is heard, a pending
reload begins, and the active shader gets its uniform values.

Main definitions:

- {lit}`Engine.receive`: a message arrives.
- {lit}`Engine.drain`: apply the messages that wait.
- {lit}`Engine.prepare`: everything of a tick up to the values.
- {lit}`Engine.tick`: a whole tick.
-/

namespace LiveVisuals.Engine

variable {α : Type} [Scalar α]

/-- A message arrives and waits. -/
def receive (e : Engine α) (m : Osc.Message α) : Engine α :=
  { e with inbox := e.inbox.push m }

/-- Hear an audio value. -/
def hear (e : Engine α) (m : Osc.Message α) : Engine α :=
  e.mapSession fun s => { s with extractor := s.extractor.ingest m.address m.args }

/-- Apply the messages that wait: commands in order, then audio values. -/
def drain (e : Engine α) : Engine α :=
  let d := e.inbox.drain
  let e := { e with inbox := .empty }
  d.audio.foldl hear (d.commands.foldl (fun e m => (e.handle m).1) e)

/-- Begin a reload if one is pending. -/
def beginReload (e : Engine α) : Engine α :=
  if e.session.reloadPending then
    (e.mapSession fun s => { s with reloadPending := false }).emit .scan
  else e

/-- Everything of a tick up to the values of the active shader. -/
def prepare (e : Engine α) (dt : α) : Engine α × Option (UniformValues α) :=
  let e := (e.drain.mapSession fun s => s.frameTick dt).beginReload
  let (s, values) := e.session.resolve
  ({ e with session := s }, values)

/-- Present values and let the tick pass. -/
def conclude (e : Engine α) (dt : α) (values : Option (UniformValues α)) : Engine α :=
  let e :=
    match values with
    | some vs => e.emit (.present vs)
    | none => e
  e.mapSession fun s => s.pass dt values

/-- A whole tick, with the values that were presented. -/
def tick (e : Engine α) (dt : α) : Engine α × Option (UniformValues α) :=
  let (e, values) := e.prepare dt
  (e.conclude dt values, values)

/-! ## The render loop -/

/-- The longest time that one tick stands for, in seconds. -/
def longestTick : α := 0.25

/-- The time that a tick stands for, between two readings of a clock in milliseconds. -/
def tickTime (last now : α) : α := Scalar.lesser ((now - last) / 1000.0) longestTick

end LiveVisuals.Engine
