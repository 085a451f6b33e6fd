/-!
# Audio addresses

Messages about the music arrive under addresses of one namespace. All but the reset carry
values of which only the latest counts.

Main definitions:

- {lit}`Audio.Address`: the addresses that mean something.
- {lit}`Audio.isValueAddress`: whether a message carries a value.

Main statements:

- {lit}`Audio.isValueAddress_reset`: a reset carries no value.
-/

namespace LiveVisuals.Audio

/-- What every audio address starts with. -/
def addressRoot : String := "/audio/"

namespace Address

def bass : String := "/audio/level/bass"
def lowMid : String := "/audio/level/lowmid"
def mid : String := "/audio/level/mid"
def highs : String := "/audio/level/highs"
def level : String := "/audio/level/all"

def presenceBass : String := "/audio/presence/bass"
def presenceLowMid : String := "/audio/presence/lowmid"
def presenceMid : String := "/audio/presence/mid"
def presenceHighs : String := "/audio/presence/highs"

def hitsBass : String := "/audio/hits/bass"
def onBeat : String := "/audio/beat/onbeat"
def beatTime : String := "/audio/beat/beattime"
def intensity : String := "/audio/energy/intensity"

def bpmTwitcher : String := "/audio/bpm/bpmtwitcher"
def bpmSin4 : String := "/audio/bpm/bpmsin4"
def bpmConfidence : String := "/audio/bpm/bpmconfidence"

/-- Eight levels at once: sub-bass, bass, low mid, mid, high mid, presence, air, loudness. -/
def levels : String := "/audio/levels"

/-- Forget everything heard so far. -/
def reset : String := "/audio/reset"

end Address

/-- Whether an address lies in the audio namespace. -/
def isAudioAddress (address : String) : Bool := addressRoot.toList.isPrefixOf address.toList

/-- Whether a message to this address carries a value. -/
def isValueAddress (address : String) : Bool :=
  isAudioAddress address && address != Address.reset

/-- A reset carries no value. -/
@[simp] theorem isValueAddress_reset : isValueAddress Address.reset = false := by
  simp [isValueAddress]

end LiveVisuals.Audio
