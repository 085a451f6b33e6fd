import LiveVisuals.Audio.Address
import LiveVisuals.Json.Basic

/-!
# The message inbox

Messages arrive at any time and are applied at the next tick. Of the audio values only the
latest per address is kept; commands keep their order. A reset discards the values that
arrived before it, so that commands can be applied first and the values that came after a
reset survive it.

Main definitions:

- {lit}`Osc.Message`: an address with arguments.
- {lit}`Osc.Inbox`: the messages that wait.
- {lit}`Osc.Inbox.push`, {lit}`Osc.Inbox.drain`: a message arrives; all are taken out.

Main statements:

- {lit}`Osc.Inbox.size_eq`: the size counts what a drain takes out.
- {lit}`Osc.Inbox.commands_push_of_command`, {lit}`Osc.Inbox.commands_push_of_audio`: commands
  queue up in order, and audio values leave them alone.
-/

namespace LiveVisuals.Osc

variable {α : Type}

/-- A message: an address and its arguments. -/
structure Message (α : Type) where
  address : String
  args : List (Json α)

/-- A message as JSON. -/
def Message.toJson (m : Message α) : Json α :=
  .obj [("address", .str m.address), ("args", .arr m.args)]

/-- The messages that wait: audio values in the order of their latest arrival, and commands in
order. -/
structure Inbox (α : Type) where
  audio : Keyed (Message α)
  commands : List (Message α)

/-- Everything that waited. -/
structure Drained (α : Type) where
  audio : List (Message α)
  commands : List (Message α)

namespace Inbox

/-- No messages. -/
def empty : Inbox α := ⟨[], []⟩

/-- An audio value arrives and takes the place of the one before it. -/
def pushAudio (i : Inbox α) (m : Message α) : Inbox α :=
  { i with audio := Keyed.erase m.address i.audio ++ [(m.address, m)] }

/-- A command arrives; a reset discards the audio values that wait. -/
def pushCommand (i : Inbox α) (m : Message α) : Inbox α where
  audio := if m.address = Audio.Address.reset then [] else i.audio
  commands := i.commands ++ [m]

/-- A message arrives. -/
def push (i : Inbox α) (m : Message α) : Inbox α :=
  if Audio.isValueAddress m.address then i.pushAudio m else i.pushCommand m

/-- What is taken out; the empty inbox is left. -/
def drain (i : Inbox α) : Drained α := ⟨Keyed.values i.audio, i.commands⟩

/-- Number of messages that wait. -/
def size (i : Inbox α) : Nat := i.audio.length + i.commands.length

@[simp] theorem size_empty : (empty : Inbox α).size = 0 := rfl

/-- The size counts exactly what a drain takes out. -/
theorem size_eq (i : Inbox α) :
    i.size = i.drain.audio.length + i.drain.commands.length := by
  simp [size, drain, Keyed.values]

/-- A command joins the end of the commands. -/
theorem commands_push_of_command (i : Inbox α) (m : Message α)
    (h : Audio.isValueAddress m.address = false) :
    (i.push m).commands = i.commands ++ [m] := by
  simp [push, h, pushCommand]

/-- An audio value leaves the commands alone. -/
theorem commands_push_of_audio (i : Inbox α) (m : Message α)
    (h : Audio.isValueAddress m.address = true) :
    (i.push m).commands = i.commands := by
  simp [push, h, pushAudio]

end Inbox

end LiveVisuals.Osc
