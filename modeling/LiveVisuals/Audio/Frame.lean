import LiveVisuals.Json.Basic

/-!
# Audio feature frames

What the program knows about the music at one tick: band levels, energy envelopes, beats,
presences and tempo oscillators, and the speed at which visuals run.

Main definitions:

- {lit}`Audio.Frame`: the features of a tick.
- {lit}`Audio.Frame.silent`: the frame of silence.
- {lit}`Audio.Feature`: the features that can drive something, with their readings.
-/

namespace LiveVisuals.Audio

/-- The features of one tick. Levels, energies and presences run from 0 to 1. -/
structure Frame (α : Type) where
  bass : α
  lowMid : α
  mid : α
  highs : α
  level : α
  energyFast : α
  energySlow : α
  kickEnv : α
  kickPulse : Bool
  beatPhase : α
  beat4 : α
  presenceBass : α
  presenceLowMid : α
  presenceMid : α
  presenceHighs : α
  bpmTwitcher : α
  bpmSin4 : α
  bpmConfidence : α
  /-- How fast audio time runs. -/
  speed : α
  /-- Whether the feed has fallen silent for too long. -/
  stale : Bool

variable {α : Type} [Scalar α]

/-- Speed of audio time in silence, the least there is. -/
def speedFloor : α := 0.02

/-- Speed of audio time at full drive, the greatest there is. -/
def speedCeiling : α := 1.2

/-- The frame of silence. -/
def Frame.silent : Frame α where
  bass := 0.0
  lowMid := 0.0
  mid := 0.0
  highs := 0.0
  level := 0.0
  energyFast := 0.0
  energySlow := 0.0
  kickEnv := 0.0
  kickPulse := false
  beatPhase := 0.0
  beat4 := 0.0
  presenceBass := 0.0
  presenceLowMid := 0.0
  presenceMid := 0.0
  presenceHighs := 0.0
  bpmTwitcher := 0.0
  bpmSin4 := 0.0
  bpmConfidence := 0.0
  speed := speedFloor
  stale := true

/-- A feature that a uniform or a binding can follow. -/
inductive Feature where
  | bass
  | lowMid
  | mid
  | highs
  | level
  | energyFast
  | energySlow
  | kickEnv
  | kickPulse
  | beatPhase
  | beat4
  | presenceBass
  | presenceLowMid
  | presenceMid
  | presenceHighs
  | bpmTwitcher
  | bpmSin4
  | bpmConfidence
  | speed
deriving DecidableEq, Repr

/-- The reading of a feature; a kick pulse reads 1. -/
def Frame.read (f : Frame α) : Feature → α
  | .bass => f.bass
  | .lowMid => f.lowMid
  | .mid => f.mid
  | .highs => f.highs
  | .level => f.level
  | .energyFast => f.energyFast
  | .energySlow => f.energySlow
  | .kickEnv => f.kickEnv
  | .kickPulse => Scalar.ofBool f.kickPulse
  | .beatPhase => f.beatPhase
  | .beat4 => f.beat4
  | .presenceBass => f.presenceBass
  | .presenceLowMid => f.presenceLowMid
  | .presenceMid => f.presenceMid
  | .presenceHighs => f.presenceHighs
  | .bpmTwitcher => f.bpmTwitcher
  | .bpmSin4 => f.bpmSin4
  | .bpmConfidence => f.bpmConfidence
  | .speed => f.speed

/-- The fields of a frame by name, numbers given by {lit}`number`. -/
def Frame.fields (f : Frame α) (number : α → Json α) : List (String × Json α) :=
  [ ("bass", number f.bass)
  , ("lowMid", number f.lowMid)
  , ("mid", number f.mid)
  , ("highs", number f.highs)
  , ("level", number f.level)
  , ("energyFast", number f.energyFast)
  , ("energySlow", number f.energySlow)
  , ("kickEnv", number f.kickEnv)
  , ("kickPulse", .bool f.kickPulse)
  , ("beatPhase", number f.beatPhase)
  , ("beat4", number f.beat4)
  , ("presenceBass", number f.presenceBass)
  , ("presenceLowMid", number f.presenceLowMid)
  , ("presenceMid", number f.presenceMid)
  , ("presenceHighs", number f.presenceHighs)
  , ("bpmTwitcher", number f.bpmTwitcher)
  , ("bpmSin4", number f.bpmSin4)
  , ("bpmConfidence", number f.bpmConfidence)
  , ("speed", number f.speed)
  , ("stale", .bool f.stale) ]

/-- A frame as JSON. -/
def Frame.toJson (f : Frame α) : Json α := .obj (f.fields .num)

end LiveVisuals.Audio
