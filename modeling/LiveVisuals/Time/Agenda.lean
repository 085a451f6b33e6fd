import LiveVisuals.Scalar

/-!
# Timers

What is to happen at later times. Timers that are due fire one by one: the earliest first, and
of timers due at the same time the one that was set first.

Main definitions:

- {lit}`Agenda`: the timers set, with a clock in milliseconds.
- {lit}`Agenda.after`, {lit}`Agenda.every`: set a timer for once or at a period.
- {lit}`Agenda.cancel`: remove timers.
- {lit}`Agenda.fire?`: the next timer due by a time.
-/

namespace LiveVisuals

/-- A timer: when it is due, its period if it repeats, and what it is for. -/
structure Timer (α act : Type) where
  due : α
  period : Option α
  act : act

/-- A clock and the timers set, in the order in which they were set. -/
structure Agenda (α act : Type) where
  now : α
  timers : List (Timer α act)

namespace Agenda

variable {α act : Type} [Scalar α]

/-- No timers at time zero. -/
def empty : Agenda α act := ⟨0.0, []⟩

/-- A delay that is not positive is none. -/
def delay (ms : α) : α := if (0.0 : α) < ms then ms else 0.0

/-- Set a timer for once. -/
def after (a : Agenda α act) (ms : α) (x : act) : Agenda α act :=
  { a with timers := a.timers ++ [⟨a.now + delay ms, none, x⟩] }

/-- Set a timer that repeats. -/
def every (a : Agenda α act) (ms : α) (x : act) : Agenda α act :=
  { a with timers := a.timers ++ [⟨a.now + delay ms, some (delay ms), x⟩] }

/-- Remove the timers for something. -/
def cancel (a : Agenda α act) (p : act → Bool) : Agenda α act :=
  { a with timers := a.timers.filter fun t => !p t.act }

/-- Whether there is a timer for something. -/
def has (a : Agenda α act) (p : act → Bool) : Bool := a.timers.any fun t => p t.act

/-- Index of the earliest timer, the first of equals. -/
def earliest? (ts : List (Timer α act)) : Option Nat :=
  let best := ts.zipIdx.foldl
    (fun (best : Option (α × Nat)) (t, i) =>
      match best with
      | some (due, _) => if t.due < due then some (t.due, i) else best
      | none => some (t.due, i))
    none
  best.map (·.2)

/-- The next timer due by a time: what it is for, and the agenda after it has fired. A
repeating timer stays where it is, due one period later. -/
def fire? (a : Agenda α act) (limit : α) : Option (act × Agenda α act) :=
  match earliest? a.timers with
  | none => none
  | some i =>
      match a.timers[i]? with
      | none => none
      | some t =>
          if limit < t.due then none
          else
            let now := if a.now < t.due then t.due else a.now
            let timers :=
              match t.period with
              | some p => a.timers.set i { t with due := t.due + p }
              | none => a.timers.eraseIdx i
            some (t.act, ⟨now, timers⟩)

/-- Let the clock reach a time. -/
def reach (a : Agenda α act) (time : α) : Agenda α act := { a with now := time }

end Agenda

end LiveVisuals
