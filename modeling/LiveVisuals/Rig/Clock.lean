import LiveVisuals.Rig.Work

/-!
# The clock of a rig

Ticks come from render loops, from time to time the shader directory is looked at, and a few
things happen after a delay. Time passes only when it is let pass, and everything that an
alarm brings about is done before the next one goes off.

Main definitions:

- {lit}`Rig.tick`: one tick of the engine.
- {lit}`Rig.startLoop`, {lit}`Rig.stepLoop`, {lit}`Rig.stopLoop`: render loops.
- {lit}`Rig.startPolling`, {lit}`Rig.stopPolling`: look at the shader directory from time to time.
- {lit}`Rig.advance`: let time pass.
-/

namespace LiveVisuals.Rig

variable {α : Type} [Scalar α]

/-! ## Ticks -/

/-- One tick of the engine. If the renderer refuses to present the values, the tick breaks off
there. -/
def tick (r : Rig α) (dt : α) : Rig α × Except String (Option (UniformValues α)) :=
  let (e, values) := r.engine.prepare dt
  match values, r.presentRefusal with
  | some _, some problem => (r.act fun _ => e, .error problem)
  | _, _ => (r.act fun _ => e.conclude dt values, .ok values)

/-- A number of ticks, up to the first that breaks off. -/
def ticks (r : Rig α) (dt : α) : Nat → Rig α × Except String (Option (UniformValues α))
  | 0 => (r, .ok none)
  | 1 => r.tick dt
  | n + 1 =>
      match r.tick dt with
      | (r, .ok _) => ticks r dt n
      | (r, .error problem) => (r, .error problem)

/-! ## Render loops -/

/-- Add a loop. -/
def addLoop (r : Rig α) (rate : α) (timed : Bool) : Rig α :=
  { r with loops := r.loops ++ [⟨rate, timed, 0.0⟩] }

/-- What the clock of a loop shows. -/
def loopClock (r : Rig α) (l : RenderLoop α) : α := if l.timed then r.agenda.now else r.handClock

/-- Start a loop that does not run yet. -/
def startLoop (r : Rig α) (i : Nat) : Rig α :=
  match r.loops[i]? with
  | none => r
  | some l =>
      if r.agenda.has (· == .frame i) then r
      else
        { r with
          loops := r.loops.set i { l with last := r.loopClock l }
          agenda := r.agenda.every (1000.0 / l.rate) (.frame i) }.say
            (.info s!"[engine] render loop at {Scalar.text l.rate} Hz")

/-- Stop a loop. -/
def stopLoop (r : Rig α) (i : Nat) : Rig α :=
  { r with agenda := r.agenda.cancel (· == .frame i) }

/-- One step of a loop: a tick for the time since the last one. A tick that breaks off is
reported. -/
def stepLoop (r : Rig α) (i : Nat) : Rig α :=
  match r.loops[i]? with
  | none => r
  | some l =>
      let now := r.loopClock l
      let r := { r with loops := r.loops.set i { l with last := now } }
      match r.tick (Engine.tickTime l.last now) with
      | (r, .ok _) => r
      | (r, .error problem) => r.say (.failure s!"[engine] tick failed: {problem}")

/-! ## Looking at the shader directory -/

/-- Look at the shader directory from time to time. -/
def startPolling (r : Rig α) : Rig α :=
  if r.agenda.has (· == .poll) then r
  else { r with agenda := r.agenda.every r.setup.pollInterval .poll }

/-- Do not look at the shader directory any more. -/
def stopPolling (r : Rig α) : Rig α := { r with agenda := r.agenda.cancel (· == .poll) }

/-! ## Alarms -/

/-- How long a compile may take, as it is written. -/
def compileLimitText (r : Rig α) : String := Scalar.text r.setup.compileLimit

/-- An alarm goes off. -/
def ring (r : Rig α) : Alarm → Rig α
  | .compileLimit id => r.actHost (r.host.expire id r.compileLimitText)
  | .capture =>
      let (capture, shader) := r.capture.expire
      let r := { r with capture := capture }
      match shader with
      | some shader => r.queue (.checkCapture shader)
      | none => r
  | .frame i => r.stepLoop i
  | .poll => (r.look .timer).1

/-- How often a timer goes off in some time, at most. -/
def ringsWithin (ms : α) (t : Timer α Alarm) : Nat :=
  match t.period with
  | none => 1
  | some p =>
      let times := ms / p
      if Scalar.isFinite times then (Scalar.floor times).toNat + 1 else 1

/-- The most alarms that can go off in some time: each alarm and each message that waits brings
about at most two that go off once. -/
def alarmBound (r : Rig α) (ms : α) : Nat :=
  3 * ((r.agenda.timers.map (ringsWithin ms)).foldl Nat.add 0 + r.engine.inbox.size)

/-- Let alarms go off up to a time, at most so many. -/
def ringUntil (limit : α) : (most : Nat) → Rig α → Rig α
  | 0, r => r
  | most + 1, r =>
      match r.agenda.fire? limit with
      | some (alarm, agenda) => ringUntil limit most ({ r with agenda := agenda }.ring alarm).settle
      | none => r

/-- Let time pass, in milliseconds. -/
def advance (r : Rig α) (ms : α) : Rig α :=
  let limit := r.agenda.now + ms
  let r := ringUntil limit (r.alarmBound ms) r
  { r with agenda := r.agenda.reach limit }

end LiveVisuals.Rig
