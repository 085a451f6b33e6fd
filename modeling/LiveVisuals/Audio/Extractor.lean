import LiveVisuals.Audio.Address
import LiveVisuals.Audio.SpeedRamp

/-!
# Feature extraction

Raw values arrive at any time; once per tick they are smoothed into a frame. A feed that sends
nothing for a while is stale: its features fade until it is heard again.

Main definitions:

- {lit}`Audio.Extractor`: latest raw values, clock and the frame of the last tick.
- {lit}`Audio.Extractor.ingest`: record a message, if it carries something usable.
- {lit}`Audio.Extractor.tick`: advance the clock and compute the next frame.
- {lit}`Audio.Extractor.reset`: back to silence.
-/

namespace LiveVisuals.Audio

variable {α : Type} [Scalar α]

/-- Knobs of the extraction. -/
structure Controls (α : Type) where
  /-- From -1, ambient, to 1, driving. -/
  styleBias : α
  /-- The raw hit that a kick pulse needs to exceed. -/
  kickThreshold : α
  /-- Gain on the speed boost of kicks and beats. -/
  beatBoostGain : α

/-- Knobs as JSON members. -/
def Controls.fields (c : Controls α) : List (String × Json α) :=
  [ ("styleBias", .num c.styleBias)
  , ("kickThreshold", .num c.kickThreshold)
  , ("beatBoostGain", .num c.beatBoostGain) ]

namespace Tuning

def bandSmoothing : α := 0.8
def energyFastSmoothing : α := 0.6
def energySlowSmoothing : α := 0.92
def presenceSmoothing : α := 0.92
def kickEnvSmoothing : α := 0.55
def bpmSmoothing : α := 0.85

def kickPulseThreshold : α := 0.65

/-- Least time between two kick pulses, in milliseconds. -/
def kickCooldownMs : α := 140.0

def beatOnThreshold : α := 0.75
def beatPhaseDecay : α := 0.87

/-- Silence of the feed that makes it stale, in milliseconds. -/
def staleTimeoutMs : α := 1500.0

/-- Share of a feature that survives a stale tick. -/
def staleDecay : α := 0.9

end Tuning

open Tuning

/-- Controls that nobody has touched. -/
def Controls.default : Controls α := ⟨0.0, kickPulseThreshold, 1.0⟩

/-- One-pole low-pass filter; {lit}`factor` is the share of the old value that survives. -/
def smooth (current target factor : α) : α := current + (target - current) * (1.0 - factor)

/-- Beat of the bar, 0 to 3, at a running beat time. -/
def beatCounter (beatTime : α) : α :=
  if Scalar.isFinite beatTime then Scalar.ofInt ((Scalar.roundInt beatTime).emod 4) else 0.0

/-- The number a message argument stands for: a finite number, or a truth value. -/
def usable? : Json α → Option α
  | .num x => Scalar.finite? x
  | .bool b => some (Scalar.ofBool b)
  | _ => none

/-- The state of feature extraction. -/
structure Extractor (α : Type) where
  frame : Frame α
  raw : Keyed α
  ramp : SpeedRamp α
  clockMs : α
  /-- When something usable was last heard; nothing since the start or the last reset. -/
  lastMessageAt : Option α
  /-- When the cooldown of kick pulses last began. -/
  lastKickAt : α
  previousOnBeat : α

namespace Extractor

/-- An extractor that has heard nothing. -/
def initial : Extractor α where
  frame := .silent
  raw := []
  ramp := .rest
  clockMs := 0.0
  lastMessageAt := none
  lastKickAt := 0.0
  previousOnBeat := 0.0

/-- Back to silence; the clock runs on, and the cooldown begins anew. -/
def reset (e : Extractor α) : Extractor α :=
  { (initial : Extractor α) with clockMs := e.clockMs, lastKickAt := e.clockMs }

/-- Latest raw value of an address, zero if there is none. -/
def rawValue (e : Extractor α) (address : String) : α :=
  (Keyed.get? address e.raw).getD 0.0

/-- Record a raw value. -/
def put (e : Extractor α) (address : String) (x : α) : Extractor α :=
  { e with raw := Keyed.put address x e.raw }

/-- Note that something usable was heard. -/
def heard (e : Extractor α) : Extractor α := { e with lastMessageAt := some e.clockMs }

/-- Record eight levels or more; all of them have to be usable. -/
def ingestLevels (e : Extractor α) (args : List (Json α)) : Option (Extractor α) := do
  match ← args.mapM usable? with
  | subBass :: bass :: lowMid :: mid :: highMid :: presence :: air :: loudness :: _ =>
      some <| heard <|
        ((((e.put Address.bass (Scalar.greater subBass bass)).put Address.lowMid lowMid).put
          Address.mid mid).put Address.highs
            (Scalar.greater (Scalar.greater highMid presence) air)).put Address.level loudness
  | _ => none

/-- Record a message; nothing if it is no audio message or carries nothing usable. -/
def ingest? (e : Extractor α) (address : String) (args : List (Json α)) :
    Option (Extractor α) :=
  if !isAudioAddress address then none
  else if address = Address.reset then some e.reset
  else if address = Address.levels then e.ingestLevels args
  else (args.head?.bind usable?).map fun x => (e.put address x).heard

/-- Record a message if it can be used. -/
def ingest (e : Extractor α) (address : String) (args : List (Json α)) : Extractor α :=
  (e.ingest? address args).getD e

/-- Whether the feed has been silent for too long. A clock that shows nothing defined does not
tell. -/
def isStale (e : Extractor α) : Bool :=
  match e.lastMessageAt with
  | none => !Scalar.isUndefined e.clockMs
  | some t => decide (staleTimeoutMs < e.clockMs - t)

/-- A frame whose features have faded by one stale tick. -/
def fade (f : Frame α) : Frame α :=
  { f with
    bass := f.bass * staleDecay
    lowMid := f.lowMid * staleDecay
    mid := f.mid * staleDecay
    highs := f.highs * staleDecay
    level := f.level * staleDecay
    energyFast := f.energyFast * staleDecay
    energySlow := f.energySlow * staleDecay
    kickEnv := f.kickEnv * staleDecay
    kickPulse := false
    beatPhase := f.beatPhase * staleDecay
    presenceBass := f.presenceBass * staleDecay
    presenceLowMid := f.presenceLowMid * staleDecay
    presenceMid := f.presenceMid * staleDecay
    presenceHighs := f.presenceHighs * staleDecay
    bpmTwitcher := f.bpmTwitcher * staleDecay
    bpmSin4 := f.bpmSin4 * staleDecay
    bpmConfidence := f.bpmConfidence * staleDecay
    stale := true }

/-- A tick of a stale feed, the clock already advanced. -/
def tickStale (e : Extractor α) : Extractor α :=
  { e with
    frame :=
      { fade e.frame with
        beat4 := beatCounter (e.rawValue Address.beatTime)
        speed := speedFloor }
    ramp := e.ramp.idle }

/-- Whether this tick is a kick. -/
def kicks (e : Extractor α) (controls : Controls α) : Bool :=
  decide (controls.kickThreshold < e.rawValue Address.hitsBass) &&
    decide (kickCooldownMs < e.clockMs - e.lastKickAt)

/-- Whether the beat signal has just come on. -/
def beatRises (e : Extractor α) : Bool :=
  decide (beatOnThreshold ≤ e.rawValue Address.onBeat) &&
    decide (e.previousOnBeat < beatOnThreshold)

/-- The energy that the feed reports; feeds without one report their level. -/
def intensity (e : Extractor α) : α :=
  (Keyed.get? Address.intensity e.raw).getD (e.rawValue Address.level)

/-- The smoothed features of a live tick; the speed is still that of the last tick. -/
def liveFrame (e : Extractor α) (controls : Controls α) : Frame α :=
  let f := e.frame
  let band (old : α) (address : String) := smooth old (e.rawValue address) bandSmoothing
  let presence (old : α) (address : String) := smooth old (e.rawValue address) presenceSmoothing
  let tempo (old : α) (address : String) := smooth old (e.rawValue address) bpmSmoothing
  let energyFast := smooth f.energyFast e.intensity energyFastSmoothing
  { bass := band f.bass Address.bass
    lowMid := band f.lowMid Address.lowMid
    mid := band f.mid Address.mid
    highs := band f.highs Address.highs
    level := band f.level Address.level
    energyFast := energyFast
    energySlow := smooth f.energySlow energyFast energySlowSmoothing
    kickEnv := smooth f.kickEnv (e.rawValue Address.hitsBass) kickEnvSmoothing
    kickPulse := e.kicks controls
    beatPhase := if e.beatRises then 1.0 else f.beatPhase * beatPhaseDecay
    beat4 := beatCounter (e.rawValue Address.beatTime)
    presenceBass := presence f.presenceBass Address.presenceBass
    presenceLowMid := presence f.presenceLowMid Address.presenceLowMid
    presenceMid := presence f.presenceMid Address.presenceMid
    presenceHighs := presence f.presenceHighs Address.presenceHighs
    bpmTwitcher := tempo f.bpmTwitcher Address.bpmTwitcher
    bpmSin4 := tempo f.bpmSin4 Address.bpmSin4
    bpmConfidence := tempo f.bpmConfidence Address.bpmConfidence
    speed := f.speed
    stale := false }

/-- A tick of a live feed, the clock already advanced. -/
def tickLive (e : Extractor α) (controls : Controls α) : Extractor α :=
  let frame := e.liveFrame controls
  let ramp := e.ramp.update frame.drive controls.styleBias controls.beatBoostGain
  { e with
    frame := { frame with speed := ramp.speed }
    ramp := ramp
    lastKickAt := if frame.kickPulse then e.clockMs else e.lastKickAt
    previousOnBeat := e.rawValue Address.onBeat }

/-- Let time pass, in seconds; it never runs backward. -/
def advance (e : Extractor α) (dt : α) : Extractor α :=
  { e with clockMs := e.clockMs + Scalar.greater dt 0.0 * 1000.0 }

/-- Advance the clock and compute the next frame. -/
def tick (e : Extractor α) (dt : α) (controls : Controls α) : Extractor α :=
  let e := e.advance dt
  if e.isStale then e.tickStale else e.tickLive controls

end Extractor

end LiveVisuals.Audio
