import LiveVisuals.Proofs.Audio.Cooldown

/-!
# A reset is a fresh start

An extractor looks at its clock only to see how much time has passed since a message was heard or
a cooldown began. So one whose times are all later by the same amount gives the same answers, and
stays later by that amount, whatever happens to it. A reset leaves the clock as it is and puts
everything else back, the beginning of the cooldown to the time that the clock shows: what comes
out is an extractor at its start, later by that time.

Main definitions:

- {lit}`Audio.Extractor.later`: an extractor all of whose times are later.
- {lit}`Audio.Extractor.Sight`, {lit}`Audio.Extractor.replies`: what is seen of an extractor, and
  what it replies to acts.

Main results:

- Theorem {lit}`Audio.Extractor.act_later`: an act does the same to an extractor that is later.
- Theorem {lit}`Audio.Extractor.replies_later`: so it replies the same.
- Theorem {lit}`Audio.Extractor.fresh_after_reset`: an extractor that was reset replies as one at
  its start does.
-/

namespace LiveVisuals

namespace Exact

variable {K : Type} [Field K]

/-- Time passes alike from a later beginning. -/
theorem add_right_comm_number (x d : Exact K) (c : K) :
    x + number c + d = x + d + number c := by
  cases x with
  | number a =>
      cases d with
      | number b => exact congrArg number (add_right_comm a c b)
      | infinite n => rfl
      | undefined => rfl
  | infinite m =>
      cases d with
      | number b => rfl
      | infinite n =>
          change (if m = n then infinite m else undefined) =
            (if m = n then infinite m else undefined) + number c
          split <;> rfl
      | undefined => rfl
  | undefined => rfl

/-- The time between two moments stays the same if both are later. -/
theorem add_sub_add_number (x y : Exact K) (c : K) :
    x + number c - (y + number c) = x - y := by
  cases x with
  | number a =>
      cases y with
      | number b => simp
      | infinite n => rfl
      | undefined => rfl
  | infinite m => cases y <;> rfl
  | undefined => rfl

/-- A later moment is defined if and only if the earlier one is. -/
theorem isUndefined_add_number [LinearOrder K] [FloorRing K] [Base K] (x : Exact K) (c : K) :
    Scalar.isUndefined (x + number c) = Scalar.isUndefined x := by
  cases x <;> simp

end Exact

namespace Audio.Extractor

variable {α : Type}

/-! ## What is seen -/

/-- What is seen of an extractor: its frame, whether its feed is stale, and its raw values. -/
structure Sight (α : Type) where
  frame : Frame α
  stale : Bool
  rawValue : String → α

/-- A reply to an act: whether a message was recorded, and what is seen afterwards. -/
structure Reply (α : Type) where
  recorded : Option Bool
  sight : Sight α

section

variable [Scalar α]

/-- What is seen of an extractor. -/
def sight (e : Extractor α) : Sight α := ⟨e.frame, e.isStale, e.rawValue⟩

/-- Whether a message is recorded; other acts do not tell. -/
def records? (e : Extractor α) : Act α → Option Bool
  | .ingest address args => some (e.ingest? address args).isSome
  | .tick .. | .reset => none

/-- The replies to some acts in order. -/
def replies (e : Extractor α) : List (Act α) → List (Reply α)
  | [] => []
  | x :: xs => ⟨e.records? x, (e.act x).sight⟩ :: replies (e.act x) xs

/-- An extractor all of whose times are later by some milliseconds. -/
def later (ms : α) (e : Extractor α) : Extractor α :=
  { e with
    clockMs := e.clockMs + ms
    lastMessageAt := e.lastMessageAt.map (· + ms)
    lastKickAt := e.lastKickAt + ms }

/-! ## What does not look at the clock -/

@[simp] theorem rawValue_later (ms : α) (e : Extractor α) :
    (e.later ms).rawValue = e.rawValue := rfl

@[simp] theorem intensity_later (ms : α) (e : Extractor α) :
    (e.later ms).intensity = e.intensity := rfl

@[simp] theorem beatRises_later (ms : α) (e : Extractor α) :
    (e.later ms).beatRises = e.beatRises := rfl

theorem tickStale_later (ms : α) (e : Extractor α) :
    (e.later ms).tickStale = e.tickStale.later ms := rfl

/-- Whether a message is recorded does not depend on who hears it. -/
theorem isSome_ingest?_eq (e e' : Extractor α) (address : String) (args : List (Json α)) :
    (e.ingest? address args).isSome = (e'.ingest? address args).isSome := by
  by_cases hvalue : isValueAddress address
  · rw [isSome_ingest? e args hvalue, isSome_ingest? e' args hvalue]
  · rcases ingest?_of_not_value hvalue args with rfl | hnone
    · rfl
    · rw [hnone, hnone]

/-- Whether a message is recorded does not depend on who hears it. -/
theorem records?_eq (e e' : Extractor α) (x : Act α) : e.records? x = e'.records? x := by
  cases x with
  | ingest address args => exact congrArg some (isSome_ingest?_eq e e' address args)
  | _ => rfl

end

/-! ## What looks at the clock -/

section

open Exact

variable {K : Type} [Field K] [LinearOrder K] [FloorRing K] [Base K]

theorem isStale_later (c : K) (e : Extractor (Exact K)) :
    (e.later (number c)).isStale = e.isStale := by
  simp only [isStale, later]
  cases e.lastMessageAt with
  | none => simp only [Option.map_none, isUndefined_add_number]
  | some heardAt => simp only [Option.map_some, add_sub_add_number]

theorem kicks_later (c : K) (e : Extractor (Exact K)) (controls : Controls (Exact K)) :
    (e.later (number c)).kicks controls = e.kicks controls := by
  have hsince : (e.later (number c)).clockMs - (e.later (number c)).lastKickAt =
      e.clockMs - e.lastKickAt := add_sub_add_number _ _ c
  simp only [kicks, rawValue_later, hsince]
  rfl

theorem liveFrame_later (c : K) (e : Extractor (Exact K)) (controls : Controls (Exact K)) :
    (e.later (number c)).liveFrame controls = e.liveFrame controls := by
  simp only [liveFrame, kicks_later, beatRises_later, intensity_later, rawValue_later]
  rfl

theorem tickLive_later (c : K) (e : Extractor (Exact K)) (controls : Controls (Exact K)) :
    (e.later (number c)).tickLive controls = (e.tickLive controls).later (number c) := by
  have hlast (pulse : Bool) :
      (if pulse then (e.later (number c)).clockMs else (e.later (number c)).lastKickAt) =
        (if pulse then e.clockMs else e.lastKickAt) + number c := by
    cases pulse <;> rfl
  simp only [tickLive, liveFrame_later, hlast]
  rfl

theorem advance_later (c : K) (e : Extractor (Exact K)) (dt : Exact K) :
    (e.later (number c)).advance dt = (e.advance dt).later (number c) := by
  simp only [advance, later, add_right_comm_number]

/-- A tick does the same to an extractor that is later. -/
theorem tick_later (c : K) (e : Extractor (Exact K)) (dt : Exact K)
    (controls : Controls (Exact K)) :
    (e.later (number c)).tick dt controls = (e.tick dt controls).later (number c) := by
  simp only [tick, advance_later, isStale_later]
  split
  · exact tickStale_later (number c) (e.advance dt)
  · exact tickLive_later c (e.advance dt) controls

/-- An extractor that is reset is one at its start, later by what its clock shows. -/
theorem reset_eq_later {e : Extractor (Exact K)} {c : K} (h : e.clockMs = number c) :
    e.reset = initial.later (number c) := by
  have hstart : (0.0 : Exact K) + number c = number c := by simp
  simp only [reset, later, initial, h, hstart]
  rfl

/-- A reset does the same to an extractor that is later. -/
theorem reset_later (c : K) (e : Extractor (Exact K)) :
    (e.later (number c)).reset = e.reset.later (number c) := rfl

/-- A message does the same to an extractor that is later. -/
theorem ingest_later (c : K) (e : Extractor (Exact K)) (address : String)
    (args : List (Json (Exact K))) :
    (e.later (number c)).ingest address args = (e.ingest address args).later (number c) := by
  by_cases hvalue : isValueAddress address
  · rw [ingest, ingest, ingest?_eq _ args hvalue, ingest?_eq _ args hvalue]
    cases writes? address args with
    | none => rfl
    | some ws => rfl
  · rcases ingest?_of_not_value hvalue args with rfl | hnone
    · exact reset_later c e
    · rw [ingest, ingest, hnone, hnone]
      rfl

/-- An act does the same to an extractor that is later. -/
theorem act_later (c : K) (e : Extractor (Exact K)) (x : Act (Exact K)) :
    (e.later (number c)).act x = (e.act x).later (number c) := by
  cases x with
  | ingest address args => exact ingest_later c e address args
  | tick dt controls => exact tick_later c e dt controls
  | reset => exact reset_later c e

theorem sight_later (c : K) (e : Extractor (Exact K)) :
    (e.later (number c)).sight = e.sight := by
  simp only [sight, isStale_later, rawValue_later]
  rfl

/-- An extractor that is later replies the same, whatever happens to it. -/
theorem replies_later (c : K) (e : Extractor (Exact K)) (xs : List (Act (Exact K))) :
    (e.later (number c)).replies xs = e.replies xs := by
  induction xs generalizing e with
  | nil => rfl
  | cons x xs ih =>
      rw [replies, replies, act_later, sight_later, ih, records?_eq (e.later (number c)) e]

/-- A reset is a fresh start. Whatever has happened to an extractor, if its clock shows a number,
then after a reset it looks like one at its start, and it replies to whatever happens next as that
one does: it records the same messages, and after each act it has the same frame, is stale or not
like it, and has the same raw values. -/
theorem fresh_after_reset (xs : List (Act (Exact K)))
    (hclock : Scalar.isFinite (run xs).clockMs = true) :
    (run xs).reset.sight = (initial : Extractor (Exact K)).sight ∧
      ∀ ys : List (Act (Exact K)),
        (run xs).reset.replies ys = (initial : Extractor (Exact K)).replies ys := by
  obtain ⟨c, hc⟩ := isFinite_iff.mp hclock
  rw [reset_eq_later hc]
  exact ⟨sight_later c initial, replies_later c initial⟩

end

/-- The hits of {lit}`beats` once more, a quarter of a second after the start: again the first tick
has the only pulse, and every message is recorded. -/
theorem fresh_after_reset_of_beats :
    (run beats).clockMs = .number 250 ∧
      (run beats).reset.sight = (initial : Extractor (Exact ℚ)).sight ∧
      (run beats).reset.replies beats = (initial : Extractor (Exact ℚ)).replies beats ∧
      ((run beats).reset.replies beats).map (·.sight.frame.kickPulse) =
        [false, true, false, false, false] ∧
      ((run beats).reset.replies beats).map (·.recorded) =
        [some true, none, none, some true, some true] := by
  have hclock : (run beats).clockMs = .number 250 := by decide +kernel
  have hfinite : Scalar.isFinite (run beats).clockMs = true := by rw [hclock]; rfl
  obtain ⟨hsight, hreplies⟩ := fresh_after_reset beats hfinite
  refine ⟨hclock, hsight, hreplies beats, ?_, ?_⟩
  · rw [hreplies]
    decide +kernel
  · rw [hreplies]
    decide +kernel

end Audio.Extractor

end LiveVisuals
