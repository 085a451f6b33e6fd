import LiveVisuals.Audio.Frame
import LiveVisuals.Text.Casing
import LiveVisuals.Text.Word

/-!
# Feature names

Bindings name features in words, and several spellings name the same one: words may be parted
by capitals, hyphens, blanks or underscores. An unknown name reads the overall level.

Main definitions:

- {lit}`Audio.Feature.name`: the name of a feature.
- {lit}`Audio.normalizeName`: the common spelling of a name.
- {lit}`Audio.Frame.readNamed`: the reading of a named feature, always finite.
-/

namespace LiveVisuals.Audio

namespace Feature

/-- All features, in the order in which they are listed to users. -/
def all : List Feature :=
  [ .bass, .lowMid, .mid, .highs, .level, .energyFast, .energySlow, .kickEnv, .kickPulse
  , .beatPhase, .beat4, .presenceBass, .presenceLowMid, .presenceMid, .presenceHighs
  , .bpmTwitcher, .bpmSin4, .bpmConfidence, .speed ]

/-- The name of a feature in bindings. -/
def name : Feature → String
  | .bass => "bass"
  | .lowMid => "low_mid"
  | .mid => "mid"
  | .highs => "highs"
  | .level => "level"
  | .energyFast => "energy_fast"
  | .energySlow => "energy_slow"
  | .kickEnv => "kick_env"
  | .kickPulse => "kick_pulse"
  | .beatPhase => "beat_phase"
  | .beat4 => "beat4"
  | .presenceBass => "presence_bass"
  | .presenceLowMid => "presence_low_mid"
  | .presenceMid => "presence_mid"
  | .presenceHighs => "presence_highs"
  | .bpmTwitcher => "bpm_twitcher"
  | .bpmSin4 => "bpm_sin4"
  | .bpmConfidence => "bpm_confidence"
  | .speed => "speed"

/-- The name of a feature as a field of a frame. -/
def fieldName : Feature → String
  | .bass => "bass"
  | .lowMid => "lowMid"
  | .mid => "mid"
  | .highs => "highs"
  | .level => "level"
  | .energyFast => "energyFast"
  | .energySlow => "energySlow"
  | .kickEnv => "kickEnv"
  | .kickPulse => "kickPulse"
  | .beatPhase => "beatPhase"
  | .beat4 => "beat4"
  | .presenceBass => "presenceBass"
  | .presenceLowMid => "presenceLowMid"
  | .presenceMid => "presenceMid"
  | .presenceHighs => "presenceHighs"
  | .bpmTwitcher => "bpmTwitcher"
  | .bpmSin4 => "bpmSin4"
  | .bpmConfidence => "bpmConfidence"
  | .speed => "speed"

/-- Names of all features. -/
def names : List String := all.map name

end Feature

/-- Part words where a capital follows a small letter. -/
def splitCapitals : List Char → List Char
  | [] => []
  | a :: cs =>
      match cs with
      | [] => [a]
      | b :: _ =>
          if 'a' ≤ a ∧ a ≤ 'z' ∧ 'A' ≤ b ∧ b ≤ 'Z' then a :: '_' :: splitCapitals cs
          else a :: splitCapitals cs

/-- Whether a character parts words. -/
def partsWords (c : Char) : Bool := Text.isBlank c || c == '-'

/-- Replace each run of blanks and hyphens by an underscore; the flag says whether the text
starts inside such a run. -/
def joinWordsFrom : (inside : Bool) → List Char → List Char
  | _, [] => []
  | inside, c :: cs =>
      if partsWords c then
        if inside then joinWordsFrom true cs else '_' :: joinWordsFrom true cs
      else c :: joinWordsFrom false cs

/-- The common spelling of a feature name. -/
def normalizeName (name : String) : String :=
  String.ofList (Text.lower (joinWordsFrom false (splitCapitals (Text.trim name.toList))))

/-- The feature of a name in any spelling. -/
def Feature.ofName? (name : String) : Option Feature :=
  Feature.all.find? (·.name == normalizeName name)

/-- Whether a name names a feature. -/
def isKnownFeature (name : String) : Bool := (Feature.ofName? name).isSome

variable {α : Type} [Scalar α]

/-- The reading of a named feature: unknown names read the level, and what is not finite
reads zero. -/
def Frame.readNamed (f : Frame α) (name : String) : α :=
  let x := f.read ((Feature.ofName? name).getD .level)
  if Scalar.isFinite x then x else 0.0

end LiveVisuals.Audio
