import Mathlib.Data.List.Induction
import LiveVisuals.Osc.Inbox

/-!
# What an inbox keeps

Messages are pushed and from time to time everything is drained, in any order. Commands come out
as they went in. Of the audio values an inbox holds the latest of each address, as far as they
came since the last drain and since the last reset.

Main definitions:

- {lit}`Osc.Inbox.Use`: a message is pushed, or everything is drained.
- {lit}`Osc.Inbox.Record`: an inbox in use, with what was taken out of it.
- {lit}`Osc.Inbox.current`: the audio values since the last drain and the last reset.
- {lit}`Osc.Inbox.latest`: of some messages, the last to each address.

Main results:

- Theorem {lit}`Osc.Inbox.latest_concat`: a message makes an earlier one to its address forgotten.
- Theorem {lit}`Osc.Inbox.audio_record`: the audio values that an inbox holds.
- Theorem {lit}`Osc.Inbox.commands_record`: no command is lost, repeated or moved.
- Theorem {lit}`Osc.Inbox.keeps_what_counts`: both, and the size.
-/

namespace LiveVisuals.Osc.Inbox

variable {α : Type}

/-- What is done with an inbox. -/
inductive Use (α : Type) where
  | push (m : Message α)
  | drain

/-- An inbox in use, with what each drain took out of it. -/
structure Record (α : Type) where
  inbox : Inbox α
  taken : List (Drained α)

namespace Record

/-- An empty inbox, of which nothing was taken. -/
def start : Record α := ⟨.empty, []⟩

/-- A use of the inbox; a drain leaves the empty one. -/
def step (r : Record α) : Use α → Record α
  | .push m => { r with inbox := r.inbox.push m }
  | .drain => ⟨.empty, r.taken ++ [r.inbox.drain]⟩

/-- All commands, those that were taken out first. -/
def commands (r : Record α) : List (Message α) :=
  r.taken.flatMap (·.commands) ++ r.inbox.commands

end Record

/-- The record of some uses. -/
def record (xs : List (Use α)) : Record α := xs.foldl Record.step .start

theorem record_concat (xs : List (Use α)) (x : Use α) :
    record (xs ++ [x]) = (record xs).step x := by
  simp [record]

/-! ## What counts -/

/-- The message that is pushed. -/
def Use.message? : Use α → Option (Message α)
  | .push m => some m
  | .drain => none

/-- The messages pushed, in order. -/
def pushed (xs : List (Use α)) : List (Message α) := xs.filterMap Use.message?

/-- Whether earlier audio values stop counting: everything is drained, or a reset comes. -/
def Use.endsEarlier : Use α → Bool
  | .push m => m.address == Audio.Address.reset
  | .drain => true

/-- The uses since the last drain and the last reset. -/
def recent (xs : List (Use α)) : List (Use α) :=
  (xs.reverse.takeWhile fun x => !x.endsEarlier).reverse

/-- The audio values pushed since the last drain and the last reset. -/
def current (xs : List (Use α)) : List (Message α) :=
  (pushed (recent xs)).filter fun m => Audio.isValueAddress m.address

/-- Of some messages, those after which none came to the same address, in order. -/
def latest : List (Message α) → List (Message α)
  | [] => []
  | m :: ms => if m.address ∈ ms.map (·.address) then latest ms else m :: latest ms

theorem recent_concat (xs : List (Use α)) (x : Use α) :
    recent (xs ++ [x]) = if x.endsEarlier then [] else recent xs ++ [x] := by
  rw [recent, List.reverse_append, List.reverse_singleton, List.singleton_append,
    List.takeWhile_cons]
  cases x.endsEarlier with
  | true => rfl
  | false => simp [recent]

/-- Nothing counts any more after a drain or a reset. -/
theorem current_of_endsEarlier (xs : List (Use α)) {x : Use α} (hx : x.endsEarlier) :
    current (xs ++ [x]) = [] := by
  rw [current, recent_concat, if_pos hx]
  rfl

/-- Any other message counts if it is an audio value. -/
theorem current_push (xs : List (Use α)) {m : Message α} (hm : m.address ≠ Audio.Address.reset) :
    current (xs ++ [.push m]) =
      current xs ++ if Audio.isValueAddress m.address then [m] else [] := by
  have hx : ¬(Use.push m).endsEarlier = true := by simpa [Use.endsEarlier] using hm
  rw [current, recent_concat, if_neg hx, pushed, List.filterMap_append, List.filter_append]
  cases hvalue : Audio.isValueAddress m.address <;>
    simp [current, pushed, Use.message?, hvalue]

/-- A message makes an earlier one to its address forgotten, and is the last one then. -/
theorem latest_concat (ms : List (Message α)) (m : Message α) :
    latest (ms ++ [m]) = (latest ms).filter (fun n => n.address ≠ m.address) ++ [m] := by
  induction ms with
  | nil => simp [latest]
  | cons n ms ih =>
      by_cases hn : n.address = m.address
      · have hlater : n.address ∈ (ms ++ [m]).map (·.address) := by simp [hn]
        rw [List.cons_append, latest, if_pos hlater, ih, latest]
        split
        · rfl
        · simp [hn]
      · have hlater : n.address ∈ (ms ++ [m]).map (·.address) ↔ n.address ∈ ms.map (·.address) := by
          simp [hn]
        simp only [List.cons_append, latest, hlater]
        split
        · exact ih
        · simp [ih, hn]

/-- The latest value to an address moves to the end. -/
example : (latest [(⟨"/audio/a", []⟩ : Message Nat), ⟨"/audio/b", []⟩, ⟨"/audio/a", []⟩]).map
    (·.address) = ["/audio/b", "/audio/a"] := by decide

/-! ## What is held -/

/-- An inbox holds the audio values that count, the latest of each address, under their
addresses. -/
theorem audio_record (xs : List (Use α)) :
    (record xs).inbox.audio = (latest (current xs)).map fun m => (m.address, m) := by
  induction xs using List.reverseRecOn with
  | nil => rfl
  | append_singleton xs x ih =>
      rw [record_concat]
      cases x with
      | drain => rw [current_of_endsEarlier xs rfl]; rfl
      | push m =>
          show ((record xs).inbox.push m).audio = _
          by_cases hreset : m.address = Audio.Address.reset
          · have hends : (Use.push m).endsEarlier := by simp [Use.endsEarlier, hreset]
            rw [current_of_endsEarlier xs hends]
            simp [push, pushCommand, hreset, latest]
          · rw [current_push xs hreset]
            by_cases hvalue : Audio.isValueAddress m.address
            · rw [if_pos hvalue, latest_concat]
              simp [push, hvalue, pushAudio, ih, Keyed.erase, List.filter_map, Function.comp_def]
            · simp [push, hvalue, pushCommand, hreset, ih]

/-- The commands taken out so far and then those that wait are the messages pushed that carry no
audio value. -/
theorem commands_record (xs : List (Use α)) :
    (record xs).commands = (pushed xs).filter fun m => !Audio.isValueAddress m.address := by
  induction xs using List.reverseRecOn with
  | nil => rfl
  | append_singleton xs x ih =>
      rw [record_concat, pushed, List.filterMap_append, List.filter_append, ← pushed, ← ih]
      cases x with
      | drain => simp [Record.step, Record.commands, drain, empty, Use.message?]
      | push m =>
          cases hm : Audio.isValueAddress m.address with
          | true =>
              simp [Record.step, Record.commands, commands_push_of_audio _ m hm, Use.message?, hm]
          | false =>
              simp [Record.step, Record.commands, commands_push_of_command _ m hm, Use.message?, hm]

/-- However messages are pushed and drained: the commands of all drains and then those that wait
are the messages pushed that carry no audio value, in order; the audio values held are the latest
of each address since the last drain and the last reset, in the order of their arrival; and the
size counts both. -/
theorem keeps_what_counts (xs : List (Use α)) :
    (record xs).taken.flatMap (·.commands) ++ (record xs).inbox.drain.commands =
        (pushed xs).filter (fun m => !Audio.isValueAddress m.address) ∧
      (record xs).inbox.drain.audio = latest (current xs) ∧
      (record xs).inbox.size =
        (record xs).inbox.drain.audio.length + (record xs).inbox.drain.commands.length := by
  refine ⟨commands_record xs, ?_, size_eq _⟩
  simp [drain, audio_record, Keyed.values, Function.comp_def]

end LiveVisuals.Osc.Inbox
