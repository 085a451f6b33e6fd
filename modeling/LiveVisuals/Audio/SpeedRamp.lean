import LiveVisuals.Audio.Frame

/-!
# Audio-reactive speed

Visuals run faster the stronger the music drives them: a slow build-up while it does, a quicker
settling when it stops, and a short boost on kicks and beats on top.

Main definitions:

- {lit}`Audio.SpeedRamp`: the state between ticks.
- {lit}`Audio.SpeedRamp.update`: a tick of a live feed.
- {lit}`Audio.SpeedRamp.idle`: a tick of a stale feed.
-/

namespace LiveVisuals.Audio

variable {α : Type} [Scalar α]

/-- Speed without boost, and the boost. -/
structure SpeedRamp (α : Type) where
  ramped : α
  boost : α

/-- What the ramp listens to. -/
structure Drive (α : Type) where
  energyFast : α
  presenceBass : α
  kickEnv : α
  beatPhase : α

/-- The drive of a frame. -/
def Frame.drive (f : Frame α) : Drive α := ⟨f.energyFast, f.presenceBass, f.kickEnv, f.beatPhase⟩

namespace SpeedRamp

/-- Share of the way up per tick. -/
def rampUp : α := 0.008

/-- Share of the way down per tick. -/
def rampDown : α := 0.025

/-- Share of the drive taken from bass presence, without style bias. -/
def presenceWeight : α := 0.35

/-- How far style bias moves that share. -/
def biasSpan : α := 0.15

/-- Boost of a full kick or beat. -/
def boostAmount : α := 0.15

/-- Share of the boost that survives a tick. -/
def boostDecay : α := 0.92

/-- The ramp at rest. -/
def rest : SpeedRamp α := ⟨speedFloor, 0.0⟩

/-- Share of bass presence under a style bias. -/
def weight (styleBias : α) : α :=
  Scalar.clamp (presenceWeight + styleBias * biasSpan) 0.0 1.0

/-- How strongly the music drives, from 0 to 1. -/
def drivePower (styleBias : α) (d : Drive α) : α :=
  let w := weight styleBias
  Scalar.clamp (d.energyFast * (1.0 - w) + d.presenceBass * w) 0.0 1.0

/-- The speed that the ramp moves toward. -/
def target (styleBias : α) (d : Drive α) : α :=
  speedFloor + drivePower styleBias d * (speedCeiling - speedFloor)

/-- Move toward a speed. -/
def approach (goal ramped : α) : α :=
  let rate := if ramped < goal then rampUp else rampDown
  ramped + (goal - ramped) * rate

/-- The boost that kicks and beats of this tick call for. -/
def trigger (boostGain : α) (d : Drive α) : α :=
  Scalar.greater d.kickEnv d.beatPhase * boostAmount * Scalar.greater boostGain 0.0

/-- The speed of a state. -/
def speed (r : SpeedRamp α) : α := Scalar.clamp (r.ramped + r.boost) speedFloor speedCeiling

/-- A tick of a live feed; the speed is that of the new state. -/
def update (r : SpeedRamp α) (d : Drive α) (styleBias boostGain : α) : SpeedRamp α where
  ramped := approach (target styleBias d) r.ramped
  boost := Scalar.greater (r.boost * boostDecay) (trigger boostGain d)

/-- A tick of a stale feed: the state settles, and the speed is the floor. -/
def idle (r : SpeedRamp α) : SpeedRamp α where
  ramped := r.ramped + (speedFloor - r.ramped) * rampDown
  boost := r.boost * boostDecay

end SpeedRamp

end LiveVisuals.Audio
