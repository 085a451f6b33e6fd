import Mathlib.Data.List.Induction
import Mathlib.Data.List.Perm.Subperm
import LiveVisuals.Proofs.Rig.Conduct
import LiveVisuals.Proofs.Rig.Sidecar

/-!
# First captures

A shader is scheduled for its first capture, waits until its time comes, and then it is checked
whether there is a picture of it. Another shader can be scheduled meanwhile, and waiting can be
given up. All of this happens in any order, and several checks can be under way at a time, which
end in any order.

What is asked for was scheduled, and then waited until its time came without being replaced or
given up, and each time a shader is scheduled it is asked for once at most. But once its time has
come there is no way back: what is scheduled or given up between that moment and the end of the
check does not matter to it.

Main definitions:

- {lit}`Rig.CaptureEvent`: what happens around first captures.
- {lit}`Rig.Captures`: a rig at which such events have happened, in any order.
- {lit}`Rig.CameDue`: a shader was scheduled and waited until its time came.

Main results:

- Theorem {lit}`Rig.Captures.follows`: what waits, and what is being checked, follows from the
  events.
- Theorem {lit}`Rig.Captures.came_due`: only what came due is checked, once for each schedule.
- Theorem {lit}`Rig.Captures.overtaken`: a shader that is replaced too late is asked for.
- Theorem {lit}`Rig.Captures.advance`: what a rig does as time passes is made of such events.
-/

namespace LiveVisuals

variable {α : Type}

/-- When the only timer for something fires, none is left, unless it repeats. -/
theorem Agenda.filter_of_fire? {act : Type} [Scalar α] {a a' : Agenda α act} {limit : α} {x : act}
    (p : act → Bool) (h : a.fire? limit = some (x, a')) (hx : p x = true) {t : Timer α act}
    (hone : a.timers.filter (fun u => p u.act) = [t]) (ht : t.period = none) :
    a'.timers.filter (fun u => p u.act) = [] := by
  obtain ⟨ts, u, us, htimers, rfl, -, hafter⟩ := fire?_cases h
  rw [htimers, List.filter_append, List.filter_cons, if_pos hx,
    List.append_eq_singleton_iff] at hone
  rcases hone with ⟨hts, hus⟩ | ⟨-, hus⟩
  · obtain ⟨rfl, hrest⟩ := List.cons.inj hus
    rcases hafter with ⟨-, hgone⟩ | ⟨due, hperiod, -⟩
    · rw [hgone, List.filter_append, hts, hrest]
      rfl
    · exact absurd ht hperiod
  · cases hus

/-- The shader that a piece of work looks for a picture of. -/
def Work.sought? : Work → Option String
  | .checkCapture shader => some shader
  | _ => none

namespace Rig

/-! ## Events -/

/-- What happens around first captures. -/
inductive CaptureEvent (α : Type) where
  | schedule (shader : String) (now : α)
  | cancel
  /-- While time passes up to a limit, the time of the shader that waits comes. -/
  | expire (limit : α)
  /-- It turns out whether there is a picture. -/
  | check (shader : String) (found : Bool)

namespace CaptureEvent

/-- The shader that waits after an event, and since when. -/
def refill (slot : Option (String × α)) : CaptureEvent α → Option (String × α)
  | schedule shader now => some (shader, now)
  | cancel | expire _ => none
  | check .. => slot

/-- Whether an event leaves the shader that waits alone. -/
def isCheck : CaptureEvent α → Bool
  | check .. => true
  | _ => false

def scheduled? : CaptureEvent α → Option String
  | schedule shader _ => some shader
  | _ => none

def checked? : CaptureEvent α → Option String
  | check shader _ => some shader
  | _ => none

/-- The shader whose time comes. -/
def due? (slot : Option (String × α)) : CaptureEvent α → Option String
  | expire _ => slot.map (·.1)
  | _ => none

end CaptureEvent

open CaptureEvent

/-- The shader that waits, and since when, and the shaders whose times have come, in order. -/
structure Waiting (α : Type) where
  slot : Option (String × α)
  due : List String

/-- What waits after an event. -/
def Waiting.step (w : Waiting α) (x : CaptureEvent α) : Waiting α :=
  ⟨x.refill w.slot, w.due ++ (x.due? w.slot).toList⟩

/-- What waits after some events. -/
def waiting (xs : List (CaptureEvent α)) : Waiting α := xs.foldl Waiting.step ⟨none, []⟩

theorem waiting_concat (xs : List (CaptureEvent α)) (x : CaptureEvent α) :
    waiting (xs ++ [x]) = (waiting xs).step x := by
  simp [waiting]

/-- The shaders scheduled, in order. -/
def scheduled (xs : List (CaptureEvent α)) : List String := xs.filterMap scheduled?

/-- The shaders checked, in order. -/
def checked (xs : List (CaptureEvent α)) : List String := xs.filterMap checked?

theorem scheduled_concat (xs : List (CaptureEvent α)) (x : CaptureEvent α) :
    scheduled (xs ++ [x]) = scheduled xs ++ x.scheduled?.toList := by
  cases hx : x.scheduled? <;> simp [scheduled, hx]

theorem checked_concat (xs : List (CaptureEvent α)) (x : CaptureEvent α) :
    checked (xs ++ [x]) = checked xs ++ x.checked?.toList := by
  cases hx : x.checked? <;> simp [checked, hx]

/-- Each time a shader is scheduled its time comes once at most, and then it does not wait. -/
theorem sublist_scheduled (xs : List (CaptureEvent α)) :
    ((waiting xs).due ++ ((waiting xs).slot.map (·.1)).toList).Sublist (scheduled xs) := by
  induction xs using List.reverseRecOn with
  | nil => exact List.nil_sublist _
  | append_singleton xs x ih =>
      rw [waiting_concat, scheduled_concat]
      cases x with
      | schedule shader now =>
          have hdue := (List.sublist_append_left _ _).trans ih
          simpa [Waiting.step, due?, refill, scheduled?] using hdue
      | cancel =>
          have hdue := (List.sublist_append_left _ _).trans ih
          simpa [Waiting.step, due?, refill, scheduled?] using hdue
      | expire limit => simpa [Waiting.step, due?, refill, scheduled?] using ih
      | check shader found => simpa [Waiting.step, due?, refill, scheduled?] using ih

/-- A shader that waits was scheduled, and has been left alone since then. -/
theorem exists_of_slot {xs : List (CaptureEvent α)} {shader : String} {now : α}
    (h : (waiting xs).slot = some (shader, now)) :
    ∃ us ts, xs = us ++ .schedule shader now :: ts ∧ ∀ x ∈ ts, x.isCheck = true := by
  induction xs using List.reverseRecOn with
  | nil => cases h
  | append_singleton xs x ih =>
      rw [waiting_concat] at h
      cases x with
      | schedule shader' now' =>
          cases h
          exact ⟨xs, [], rfl, by simp⟩
      | cancel => cases h
      | expire limit => cases h
      | check shader' found =>
          obtain ⟨us, ts, rfl, hts⟩ := ih h
          refine ⟨us, ts ++ [.check shader' found], by simp, ?_⟩
          rw [List.forall_mem_append]
          exact ⟨hts, by simp [isCheck]⟩

/-! ## Rigs -/

/-- The shaders of which pictures are being looked for. -/
def sought (r : Rig α) : List String := r.allWork.filterMap Work.sought?

/-- A rig gets to another without anything that matters for first captures. -/
structure Aside (r r' : Rig α) : Prop where
  setup : r'.setup = r.setup
  pendingCapture : r'.pendingCapture = r.pendingCapture
  sought : r'.sought.Perm r.sought

theorem sought_queue (r : Rig α) (w : Work) :
    (r.queue w).sought.Perm (r.sought ++ w.sought?.toList) :=
  filterMap_allWork_queue r w Work.sought?

/-- What leaves most of a rig alone and adds such work only as the engine asks for does not matter
for first captures. -/
theorem Aside.of_adds {r r' : Rig α} (hframe : r.Frame r') (hadds : r.Adds r') : r.Aside r' := by
  refine ⟨hframe.setup, hframe.pendingCapture, hadds.filterMap fun w hw => ?_⟩
  cases w with
  | checkCapture shader => cases hw
  | _ => rfl

theorem Takes.hasPicture {r r' : Rig α} {w : Work} (h : r.Takes w r') (shader : String) :
    r'.hasPicture shader = r.hasPicture shader := by
  obtain ⟨-, atOnce, onFiles, onTrees, rfl⟩ := h
  rfl

variable [Scalar α]

/-- A rig at which events have happened around first captures, in any order, and between them
anything else. Checks that are under way end in any order, too. -/
inductive Captures : List (CaptureEvent α) → Rig α → Prop where
  | start (setup : Setup α) (disk : Disk) (receivers : Nat) :
      Captures [] (.new setup disk receivers)
  | aside {xs : List (CaptureEvent α)} {r r' : Rig α} :
      Captures xs r → r.Aside r' → Captures xs r'
  | schedule {xs : List (CaptureEvent α)} {r : Rig α} (shader : String) :
      Captures xs r → r.setup.captureDir.isSome →
        Captures (xs ++ [.schedule shader r.agenda.now]) (r.scheduleCapture shader)
  | cancel {xs : List (CaptureEvent α)} {r : Rig α} :
      Captures xs r → Captures (xs ++ [.cancel]) r.cancelCapture
  | expire {xs : List (CaptureEvent α)} {r : Rig α} {limit : α} {agenda : Agenda α Alarm} :
      Captures xs r → r.agenda.fire? limit = some (.capture, agenda) →
        Captures (xs ++ [.expire limit]) (ring { r with agenda := agenda } .capture)
  | check {xs : List (CaptureEvent α)} {r r' : Rig α} {shader : String} :
      Captures xs r → r.Takes (.checkCapture shader) r' →
        Captures (xs ++ [.check shader (r.hasPicture shader)]) (r'.work (.checkCapture shader))

/-- A shader was scheduled, and waited without being replaced or given up until its time came,
after the delay. -/
def CameDue (delay : α) (shader : String) (xs : List (CaptureEvent α)) : Prop :=
  ∃ us now ts limit vs, xs = us ++ .schedule shader now :: (ts ++ .expire limit :: vs) ∧
    (∀ x ∈ ts, x.isCheck = true) ∧ ¬limit < now + Agenda.delay delay

theorem CameDue.concat {delay : α} {shader : String} {xs : List (CaptureEvent α)}
    (h : CameDue delay shader xs) (x : CaptureEvent α) : CameDue delay shader (xs ++ [x]) := by
  obtain ⟨us, now, ts, limit, vs, rfl, hts, hdue⟩ := h
  exact ⟨us, now, ts, limit, vs ++ [x], by simp, hts, hdue⟩

/-- The capture that waits in a rig, and its timer. -/
def held (delay : α) : Option (String × α) → CaptureScheduler × List (Timer α Alarm)
  | none => (.idle, [])
  | some (shader, now) => (.schedule shader, [⟨now + Agenda.delay delay, none, .capture⟩])

/-- What waits in a rig, and what is being checked, is what the events say. -/
structure Follows (r : Rig α) (xs : List (CaptureEvent α)) : Prop where
  pendingCapture : r.pendingCapture = held r.setup.captureDelay (waiting xs).slot
  sought : (r.sought ++ checked xs).Perm (waiting xs).due
  came_due : ∀ shader ∈ (waiting xs).due, CameDue r.setup.captureDelay shader xs
  came_due_checked : ∀ us shader found vs, xs = us ++ .check shader found :: vs →
    CameDue r.setup.captureDelay shader us

/-- The test bench sees what it is asked for. -/
theorem seen_requestCapture {r : Rig α} {shader : String} (hbench : r.setup.renderer = .bench)
    (hrefusal : r.setup.captureRefusal = none) :
    (r.requestCapture shader).seen = .capture shader :: r.seen := by
  have hsent : r.requestCapture shader =
      requestCapture.sent shader (r.say (CaptureScheduler.requestNotice shader)) := by
    simp [requestCapture, say, hrefusal]
  have hsetup : (r.say (CaptureScheduler.requestNotice shader)).setup.renderer = .bench := hbench
  rw [hsent, requestCapture.sent, hsetup]
  rfl

namespace Follows

variable {r r' : Rig α} {xs : List (CaptureEvent α)}

theorem aside (h : r.Follows xs) (ha : r.Aside r') : r'.Follows xs where
  pendingCapture := by rw [ha.pendingCapture, ha.setup, h.pendingCapture]
  sought := (ha.sought.append_right _).trans h.sought
  came_due := by rw [ha.setup]; exact h.came_due
  came_due_checked := by rw [ha.setup]; exact h.came_due_checked

/-- After an event the rest follows from what the event does to the shader that waits, and to those
that are being checked. -/
theorem concat (h : r.Follows xs) {x : CaptureEvent α} (hsetup : r'.setup = r.setup)
    (hpending : r'.pendingCapture = held r.setup.captureDelay (x.refill (waiting xs).slot))
    (hsought : (r'.sought ++ x.checked?.toList).Perm
      (r.sought ++ (x.due? (waiting xs).slot).toList))
    (hdue : ∀ shader ∈ x.due? (waiting xs).slot,
      CameDue r.setup.captureDelay shader (xs ++ [x]))
    (hchecked : ∀ shader ∈ x.checked?, CameDue r.setup.captureDelay shader xs) :
    r'.Follows (xs ++ [x]) := by
  refine ⟨?_, ?_, ?_, ?_⟩
  · rw [hsetup, waiting_concat]
    exact hpending
  · rw [checked_concat, waiting_concat]
    let news := x.checked?.toList
    let dues := (x.due? (waiting xs).slot).toList
    calc (r'.sought ++ (checked xs ++ news)).Perm (r'.sought ++ (news ++ checked xs)) :=
          List.perm_append_comm.append_left _
      _ = r'.sought ++ news ++ checked xs := (List.append_assoc ..).symm
      List.Perm _ (r.sought ++ dues ++ checked xs) := hsought.append_right _
      _ = r.sought ++ (dues ++ checked xs) := List.append_assoc ..
      List.Perm _ (r.sought ++ (checked xs ++ dues)) := List.perm_append_comm.append_left _
      _ = r.sought ++ checked xs ++ dues := (List.append_assoc ..).symm
      List.Perm _ ((waiting xs).due ++ dues) := h.sought.append_right _
  · rw [hsetup, waiting_concat]
    intro shader hshader
    rcases List.mem_append.mp hshader with hold | hnew
    · exact (h.came_due shader hold).concat x
    · exact hdue shader (Option.mem_toList.mp hnew)
  · rw [hsetup]
    intro us shader found vs heq
    cases vs using List.reverseRecOn with
    | nil =>
        obtain ⟨rfl, hx⟩ := List.append_inj' heq rfl
        cases hx
        exact hchecked shader rfl
    | append_singleton vs y _ =>
        rw [← List.cons_append, ← List.append_assoc] at heq
        exact h.came_due_checked us shader found vs (List.append_inj' heq rfl).1

theorem schedule (h : r.Follows xs) (hdir : r.setup.captureDir.isSome) (shader : String) :
    (r.scheduleCapture shader).Follows (xs ++ [.schedule shader r.agenda.now]) := by
  have heq : r.scheduleCapture shader = { r with
      capture := .schedule shader
      agenda := (r.agenda.cancel (· == .capture)).after r.setup.captureDelay .capture } :=
    if_pos hdir
  rw [heq]
  refine h.concat rfl ?_ (.refl _) (by simp [due?]) (by simp [checked?])
  simp [Rig.pendingCapture, Agenda.after, Agenda.cancel, refill, held]

theorem cancel (h : r.Follows xs) : r.cancelCapture.Follows (xs ++ [.cancel]) := by
  refine h.concat rfl ?_ (.refl _) (by simp [due?]) (by simp [checked?])
  simp [cancelCapture, Rig.pendingCapture, Agenda.cancel, refill, held]

/-- The shader that waits is the one whose time comes, and then it is checked. -/
theorem expire (h : r.Follows xs) {limit : α} {agenda : Agenda α Alarm}
    (hfire : r.agenda.fire? limit = some (.capture, agenda)) :
    (ring { r with agenda := agenda } .capture).Follows (xs ++ [.expire limit]) := by
  obtain ⟨hcapture, htimers⟩ := Prod.ext_iff.mp h.pendingCapture
  change r.capture = _ at hcapture
  change r.agenda.timers.filter (fun t => t.act == .capture) = _ at htimers
  obtain ⟨ts, t, us, hset, hact, hdue, -⟩ := Agenda.fire?_cases hfire
  have hmem : t ∈ r.agenda.timers.filter (fun t => t.act == .capture) :=
    List.mem_filter.mpr ⟨hset ▸ by simp, by simp [hact]⟩
  cases hslot : (waiting xs).slot with
  | none =>
      rw [htimers, hslot] at hmem
      cases hmem
  | some w =>
      obtain ⟨shader, now⟩ := w
      rw [hslot] at hcapture htimers
      rw [htimers] at hmem
      obtain rfl := List.mem_singleton.mp hmem
      have hgone := Agenda.filter_of_fire? (fun x : Alarm => x == .capture) hfire rfl htimers rfl
      have hring : ring { r with agenda := agenda } .capture =
          queue { r with agenda := agenda, capture := .idle } (.checkCapture shader) := by
        simp only [ring, hcapture]
        rfl
      rw [hring]
      refine h.concat rfl ?_ ?_ ?_ (by simp [checked?])
      · change (CaptureScheduler.idle, agenda.timers.filter (fun t => t.act == .capture)) = _
        rw [hgone]
        rfl
      · rw [hslot]
        exact (List.append_nil _).symm ▸
          sought_queue { r with agenda := agenda, capture := .idle } (.checkCapture shader)
      · intro shader' hshader'
        obtain rfl : shader = shader' := by simpa [due?, hslot] using hshader'
        obtain ⟨us, ts, rfl, hts⟩ := exists_of_slot hslot
        exact ⟨us, now, ts, limit, [], by simp, hts, hdue⟩

/-- A check that ends is no longer under way. -/
theorem check (h : r.Follows xs) {shader : String} (htakes : r.Takes (.checkCapture shader) r') :
    (r'.work (.checkCapture shader)).Follows
      (xs ++ [.check shader (r.hasPicture shader)]) := by
  have hsought : r.sought.Perm ([shader] ++ r'.sought) := htakes.filterMap Work.sought?
  obtain ⟨-, atOnce, onFiles, onTrees, rfl⟩ := htakes
  obtain ⟨seen, console, heq⟩ := work_checkCapture_eq
    { r with atOnce := atOnce, onFiles := onFiles, onTrees := onTrees } shader
  rw [heq]
  refine h.concat rfl h.pendingCapture ?_ (by simp [due?]) ?_
  · show ((onFiles ++ onTrees ++ atOnce).filterMap Work.sought? ++ [shader]).Perm (r.sought ++ [])
    rw [List.append_nil]
    exact List.perm_append_comm.trans hsought.symm
  · intro shader' hshader'
    obtain rfl : shader = shader' := by simpa [checked?] using hshader'
    apply h.came_due
    apply h.sought.subset
    exact List.mem_append_left _ (hsought.symm.subset List.mem_cons_self)

end Follows

/-! ## Whatever happens -/

/-- What waits, and what is being checked, follows from the events. -/
theorem Captures.follows {xs : List (CaptureEvent α)} {r : Rig α} (h : Captures xs r) :
    r.Follows xs := by
  induction h with
  | start setup disk receivers =>
      exact ⟨rfl, .refl _, by simp [waiting], by simp⟩
  | aside _ ha ih => exact ih.aside ha
  | schedule shader _ hdir ih => exact ih.schedule hdir shader
  | cancel _ ih => exact ih.cancel
  | expire _ hfire ih => exact ih.expire hfire
  | check _ htakes ih => exact ih.check htakes

/-- Whatever happens in whatever order: a shader is checked, and asked for if there is no picture of
it, only after it was scheduled and waited until its time came, without being replaced or given up;
and once at most each time it is scheduled. -/
theorem Captures.came_due {xs : List (CaptureEvent α)} {r : Rig α} (h : Captures xs r) :
    (∀ us shader found vs, xs = us ++ .check shader found :: vs →
        CameDue r.setup.captureDelay shader us) ∧
      (checked xs).Subperm (scheduled xs) := by
  refine ⟨h.follows.came_due_checked, ?_⟩
  have hchecked : (checked xs).Subperm (waiting xs).due :=
    (List.sublist_append_right _ _).subperm.trans h.follows.sought.subperm
  have hdue : ((waiting xs).due).Sublist (scheduled xs) :=
    (List.sublist_append_left _ _).trans (sublist_scheduled xs)
  exact hchecked.trans hdue.subperm

/-- There is no way back while a shader is being checked: another one is scheduled, and still the
check ends with asking for the first if there is no picture of it. -/
theorem Captures.overtaken {xs : List (CaptureEvent α)} {r r' : Rig α} (h : Captures xs r)
    {shader : String} (hdir : r.setup.captureDir.isSome) (hpicture : r.hasPicture shader = false)
    (other : String) (htakes : (r.scheduleCapture other).Takes (.checkCapture shader) r') :
    Captures (xs ++ [.schedule other r.agenda.now, .check shader false])
      (r'.requestCapture shader) := by
  have hchecked := (h.schedule other hdir).check htakes
  have hmissing : (r.scheduleCapture other).hasPicture shader = false := by
    obtain ⟨capture, agenda, heq⟩ := scheduleCapture_eq r other
    rw [heq]
    exact hpicture
  rw [hmissing, List.append_assoc] at hchecked
  have hmissing' : r'.hasPicture shader = false := (htakes.hasPicture shader).trans hmissing
  rwa [work, if_neg (Bool.eq_false_iff.mp hmissing')] at hchecked

/-- A rig with an empty disk, on which a shader waits for its first capture. -/
def awaitingCapture : Rig Float :=
  scheduleCapture
    (.new
      { renderer := .bench, failures := [], captureRefusal := none, shaderDir := ["shaders"],
        presetDir := none, captureDir := some ["captures"], errorLog := ["errors.jsonl"],
        captureDelay := 3000.0, compileLimit := 5000.0, pollInterval := 5000.0, busyPorts := [],
        start := ⟨0⟩ }
      (.empty "") 0)
    "a"

/-- The rig once the time of the shader has come. -/
def dueCapture : Rig Float := ring { awaitingCapture with agenda := ⟨3000.0, []⟩ } .capture

/-- A shader whose time has come is asked for, though another one is scheduled before it turns out
that there is no picture of it. -/
theorem captures_dueCapture :
    ∃ r : Rig Float, .capture "a" ∈ r.seen ∧ Captures
      [.schedule "a" 0.0, .expire 3000.0, .schedule "b" 3000.0, .check "a" false] r := by
  have hfirst : Captures [.schedule "a" 0.0] awaitingCapture := (Captures.start ..).schedule "a" rfl
  have hfire : awaitingCapture.agenda.fire? 3000.0 = some (.capture, ⟨3000.0, []⟩) := by rfl
  have hdue : Captures [.schedule "a" 0.0, .expire 3000.0] dueCapture := hfirst.expire hfire
  have hpicture : dueCapture.hasPicture "a" = false := by
    have hdir : dueCapture.setup.captureDir = some ["captures"] := rfl
    rw [hasPicture, hdir, Option.any_some, CaptureScheduler.file_eq]
    rfl
  have htakes : (dueCapture.scheduleCapture "b").Takes (.checkCapture "a")
      { dueCapture.scheduleCapture "b" with onFiles := [] } := ⟨.refl _, _, _, _, rfl⟩
  refine ⟨_, ?_, hdue.overtaken rfl hpicture "b" htakes⟩
  rw [seen_requestCapture rfl rfl]
  exact List.mem_cons_self

/-! ## Whatever a rig does -/

/-- A rig at which more events have happened than those given. -/
def CapturesAfter (xs : List (CaptureEvent α)) (r : Rig α) : Prop := ∃ ys, Captures (xs ++ ys) r

namespace CapturesAfter

variable {xs : List (CaptureEvent α)} {r r' : Rig α}

theorem aside (h : CapturesAfter xs r) (ha : r.Aside r') : CapturesAfter xs r' := by
  obtain ⟨ys, h⟩ := h
  exact ⟨ys, h.aside ha⟩

/-- Carrying out an effect of the engine schedules a capture at most. -/
theorem perform (h : CapturesAfter xs r) (x : Effect α) : CapturesAfter xs (r.perform x) := by
  cases x with
  | scheduleCapture shader =>
      obtain ⟨ys, h⟩ := h
      change CapturesAfter xs (r.scheduleCapture shader)
      by_cases hdir : r.setup.captureDir.isSome
      · exact ⟨ys ++ [.schedule shader r.agenda.now], by
          simpa using h.schedule shader hdir⟩
      · exact ⟨ys, by rwa [scheduleCapture, if_neg hdir]⟩
  | finished f => exact h.aside ⟨rfl, rfl, .refl _⟩
  | _ => exact h.aside (.of_adds (frame_perform r (by simp) rfl) (adds_perform r _))

/-- A piece of work other than a check is taken out of what waits. -/
theorem take (h : CapturesAfter xs r) {w : Work} (htakes : r.Takes w r')
    (hw : w.sought? = none) : CapturesAfter xs r' := by
  have hsought := htakes.filterMap Work.sought?
  rw [hw] at hsought
  obtain ⟨-, atOnce, onFiles, onTrees, rfl⟩ := htakes
  exact h.aside ⟨rfl, rfl, hsought.symm⟩

/-- What a rig does of its own accord is made of events around first captures. -/
theorem kept (xs : List (CaptureEvent α)) : Kept (CapturesAfter xs) where
  beside _ _ _ _ _ _ h := h.aside ⟨rfl, rfl, .refl _⟩
  perform x h := h.perform x
  take := by
    intro r r' w hnext hw h
    refine h.take (takes_of_next? hnext) ?_
    cases w with
    | checkCapture shader => cases hw
    | _ => rfl
  look := by
    intro r caller h
    unfold look
    split
    · exact h
    · have hsought := sought_queue { r with looking := true } (.look caller)
      have hnone : (Work.look caller).sought?.toList = [] := rfl
      rw [hnone, List.append_nil] at hsought
      exact h.aside ⟨rfl, rfl, hsought⟩
  lookEnd hnext h := (h.take (takes_of_next? hnext) rfl).aside ⟨rfl, rfl, .refl _⟩
  check := by
    rintro r r' shader hnext ⟨ys, h⟩
    exact ⟨_, by simpa using h.check (takes_of_next? hnext)⟩
  timeout := by
    intro r limit id agenda hfire h
    have htimers := Agenda.filter_of_fire?_ne (fun x : Alarm => x == .capture) hfire rfl
    have hagenda : CapturesAfter xs { r with agenda := agenda } :=
      h.aside ⟨rfl, Prod.ext rfl htimers, .refl _⟩
    exact hagenda.aside (.of_adds (frame_actHost _ _) (adds_actHost _ _))
  expire := by
    rintro r limit agenda hfire ⟨ys, h⟩
    exact ⟨_, by simpa using h.expire hfire⟩
  fire := by
    intro r limit alarm agenda hfire _ hcapture h
    have htimers := Agenda.filter_of_fire?_ne (fun x : Alarm => x == .capture) hfire (by simpa)
    exact h.aside ⟨rfl, Prod.ext rfl htimers, .refl _⟩

end CapturesAfter

/-- Whatever a rig does as time passes is made of such events: what waits is scheduled by the
engine, comes due and is checked. -/
theorem Captures.advance {xs : List (CaptureEvent α)} {r : Rig α} (h : Captures xs r) (ms : α) :
    ∃ ys, Captures (xs ++ ys) (r.advance ms) :=
  (CapturesAfter.kept xs).advance ⟨[], by simpa using h⟩ ms

end Rig

end LiveVisuals
