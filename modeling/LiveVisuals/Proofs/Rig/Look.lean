import LiveVisuals.Proofs.Rig.Conduct

/-!
# One look at a time

The shader directory is looked at from time to time, and when somebody outside asks for it. A look
takes a while. Who asks for another one meanwhile is told at once that there is no change, and
nothing is done. A flag says whether a look is under way; it goes down however the look ends, so a
look that fails does not keep others from being made.

Main definitions:

- {lit}`Rig.looks`: who has asked for the looks that are under way.
- {lit}`Rig.LooksOnce`: as many looks are under way as the flag says.

Main results:

- Theorem {lit}`Rig.look_look`: of two callers at once only the first is let look.
- Theorem {lit}`Rig.reloadPending_poll`: when a look brings about a reload.
- Theorem {lit}`Rig.LooksOnce.look_of_idle`: when no work waits, whoever asks is let look.
- Theorems {lit}`Rig.LooksOnce.kept` and {lit}`Rig.LooksOnce.advance`: whatever a rig does of its
  own accord keeps the invariant.
- Theorem {lit}`Rig.LooksOnce.work_look`: when a look ends, who has asked for it is told, and no
  other is under way.
-/

namespace LiveVisuals

variable {α : Type}

/-- Who has asked for a look. -/
def Work.looker? : Work → Option LookCaller
  | .look caller => some caller
  | _ => none

namespace Rig

/-! ## Asking -/

/-- During a look, whoever asks for another is told that there is no change. -/
@[simp] theorem look_of_looking {r : Rig α} (h : r.looking = true) (caller : LookCaller) :
    r.look caller = (r, false) := by
  simp [look, h]

@[simp] theorem look_of_not_looking {r : Rig α} (h : r.looking = false) (caller : LookCaller) :
    r.look caller = (queue { r with looking := true } (.look caller), true) := by
  simp [look, h]

/-- Of two callers at once only the first is let look. -/
theorem look_look {r : Rig α} (h : r.looking = false) (first second : LookCaller) :
    (r.look first).2 = true ∧ (r.look first).1.look second = ((r.look first).1, false) := by
  rw [look_of_not_looking h]
  exact ⟨rfl, look_of_looking rfl second⟩

/-! ## Looking -/

/-- After a look a reload is due if it was before, or if there is a change. -/
theorem reloadPending_poll (r : Rig α) :
    r.poll.1.engine.session.reloadPending =
      (r.engine.session.reloadPending || r.poll.2.toOption.getD false) := by
  unfold poll
  split
  · simp [Except.toOption]
  · next s _ =>
    unfold Engine.poll
    cases hchanged : r.engine.registry.changed s <;>
      simp [Except.toOption, Engine.markReload, Engine.mapSession]

/-! ## The flag -/

/-- Who has asked for the looks that are under way. -/
def looks (r : Rig α) : List LookCaller := r.allWork.filterMap Work.looker?

/-- As many looks are under way as the flag says. -/
def LooksOnce (r : Rig α) : Prop := r.looks.length = r.looking.toNat

namespace LooksOnce

variable {r r' : Rig α}

/-- Work that the engine asks for does not matter. -/
theorem adds (h : r.LooksOnce) (ha : r.Adds r') : r'.LooksOnce := by
  have hlooks : r'.looks.Perm r.looks := by
    refine ha.filterMap fun w hw => ?_
    cases w with
    | look caller => cases hw
    | _ => rfl
  unfold LooksOnce
  rw [hlooks.length_eq, ha.looking]
  exact h

/-- Work that is no look is taken out of what waits. -/
theorem take (h : r.LooksOnce) {w : Work} (htakes : r.Takes w r') (hw : w.looker? = none) :
    r'.LooksOnce := by
  have hlooks := (htakes.filterMap Work.looker?).length_eq
  rw [hw] at hlooks
  obtain ⟨-, atOnce, onFiles, onTrees, rfl⟩ := htakes
  exact hlooks.symm.trans h

/-- Work that is no look is queued. -/
theorem queue (h : r.LooksOnce) {w : Work} (hw : w.looker? = none) : (r.queue w).LooksOnce := by
  have hlooks := (filterMap_allWork_queue r w Work.looker?).length_eq
  rw [hw, Option.toList_none, List.append_nil] at hlooks
  obtain ⟨atOnce, onFiles, onTrees, hqueue⟩ := queue_eq r w
  have hlooking : (r.queue w).looking = r.looking := by rw [hqueue]
  exact hlooks.trans (hlooking ▸ h)

/-- A look that begins raises the flag, and no other begins while it is up. -/
theorem look (h : r.LooksOnce) (caller : LookCaller) : (r.look caller).1.LooksOnce := by
  cases hlooking : r.looking with
  | true => rwa [look_of_looking hlooking]
  | false =>
      have hnone : r.looks.length = 0 := by
        rw [h, hlooking]
        rfl
      have hlooks := (filterMap_allWork_queue { r with looking := true } (.look caller)
        Work.looker?).length_eq
      rw [look_of_not_looking hlooking]
      calc (Rig.queue { r with looking := true } (.look caller)).looks.length
          = (r.looks ++ [caller]).length := hlooks
        _ = 1 := by rw [List.length_append, hnone, List.length_singleton]

/-- The look that is about to end is the only one. -/
theorem looks_of_takes (h : r.LooksOnce) {caller : LookCaller}
    (htakes : r.Takes (.look caller) r') : r'.looks = [] := by
  have hlooks : r.looks.length = 1 + r'.looks.length :=
    (htakes.filterMap Work.looker?).length_eq.trans (List.length_append ..)
  have hflag : r.looks.length ≤ 1 := Nat.le_trans (Nat.le_of_eq h) (Bool.toNat_le _)
  exact List.eq_nil_of_length_eq_zero (by omega)

/-- When no work waits no look is under way, so whoever asks is let look. -/
theorem look_of_idle (h : r.LooksOnce) (hidle : r.allWork = []) (caller : LookCaller) :
    (r.look caller).2 = true := by
  have hlooks : r.looks = [] := by rw [looks, hidle, List.filterMap_nil]
  have hlooking : r.looking = false := by
    rw [LooksOnce, hlooks] at h
    exact Bool.toNat_eq_zero.mp h.symm
  rw [look_of_not_looking hlooking]

variable [Scalar α]

/-! ## Whatever a rig does -/

theorem new (setup : Setup α) (disk : Disk) (receivers : Nat) :
    (Rig.new setup disk receivers).LooksOnce :=
  rfl

/-- Whatever a rig does of its own accord, as many looks are under way as the flag says. -/
theorem kept : Kept (LooksOnce (α := α)) where
  beside _ _ _ _ _ _ h := h
  perform x h := h.adds (adds_perform _ x)
  take := by
    intro r r' w hnext hw h
    refine h.take (takes_of_next? hnext) ?_
    cases w with
    | look caller => cases hw
    | _ => rfl
  look caller h := h.look caller
  lookEnd := by
    intro r r' caller hnext h
    exact congrArg List.length (h.looks_of_takes (takes_of_next? hnext))
  check := by
    intro r r' shader hnext h
    have htaken : r'.LooksOnce := h.take (takes_of_next? hnext) rfl
    obtain ⟨seen, console, heq⟩ := work_checkCapture_eq r' shader
    rw [heq]
    exact htaken
  timeout := by
    intro r limit id agenda _ h
    have hagenda : LooksOnce { r with agenda := agenda } := h
    exact hagenda.adds (adds_actHost _ _)
  expire := by
    intro r limit agenda _ h
    have hidle : LooksOnce { r with agenda := agenda, capture := r.capture.expire.1 } := h
    simp only [Rig.ring]
    split
    · exact hidle.queue rfl
    · exact hidle
  fire _ _ _ h := h

/-- As time passes there is never more than one look under way. -/
theorem advance (h : r.LooksOnce) (ms : α) : (r.advance ms).LooksOnce := kept.advance h ms

/-! ## Ends of looks -/

/-- However a look ends, none is under way then and the flag is down. Who has asked from outside is
told what has come of it. -/
theorem work_look (h : r.LooksOnce) {caller : LookCaller}
    (hnext : r.next? = some (.look caller, r')) :
    (r'.work (.look caller)).looks = [] ∧ (r'.work (.look caller)).looking = false ∧
      (r'.work (.look caller)).looked =
        r.looked ++ (if caller = .outside then [r'.poll.2] else []) ∧
      (r'.work (.look caller)).engine = r'.poll.1.engine := by
  have htakes := takes_of_next? hnext
  have hlooks := h.looks_of_takes htakes
  obtain ⟨console, hwork⟩ := work_look_eq r' caller
  have hlooked : r'.looked = r.looked := by
    obtain ⟨-, atOnce, onFiles, onTrees, rfl⟩ := htakes
    rfl
  rw [hwork, ← hlooked]
  exact ⟨hlooks, rfl, rfl, rfl⟩

end LooksOnce

end Rig

end LiveVisuals
