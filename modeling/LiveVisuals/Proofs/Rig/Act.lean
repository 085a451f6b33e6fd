import LiveVisuals.Proofs.Engine.Account
import LiveVisuals.Rig.Net

/-!
# What carrying out effects changes

An effect of the engine changes little of a rig. The renderer and the console are told things,
which leaves everything else as it is; work is queued; a compile goes to the render host. The
engine itself is never changed by what it has asked for, the first capture that waits is changed
by one kind of effect only, and none looks at the shader directory or for a picture.

Main definitions:

- {lit}`Rig.allWork`: the work that waits.
- {lit}`Rig.pendingCapture`: the first capture that waits, with its timers.
- {lit}`Rig.Frame`: most of a rig has been left alone.
- {lit}`Rig.Adds`: work has been added, all of it such as the engine asks for.

Main results:

- Theorem {lit}`Rig.frame_actHost`: what the render host does leaves most of a rig alone.
- Theorem {lit}`Rig.adds_perform`: an effect adds such work only.
- Theorem {lit}`Rig.engine_act`: the engine after it has acted.
- Theorem {lit}`Rig.pendingCapture_act`: acting leaves the capture that waits alone unless
  another is scheduled.
-/

namespace LiveVisuals

/-- Whether work comes of what the engine asks for, rather than of a timer or a caller. -/
def Work.isEngineWork : Work → Bool
  | .look _ | .checkCapture _ => false
  | _ => true

namespace Rig

variable {α : Type}

/-! ## The work that waits -/

/-- All work that waits. -/
def allWork (r : Rig α) : List Work := r.onFiles ++ r.onTrees ++ r.atOnce

/-- The next piece of work is taken out of what waits. -/
theorem next?_eq {r r' : Rig α} {w : Work} (h : r.next? = some (w, r')) :
    ∃ ys zs, r.allWork = ys ++ w :: zs ∧ r'.allWork = ys ++ zs ∧
      ∃ atOnce onFiles onTrees,
        r' = { r with atOnce := atOnce, onFiles := onFiles, onTrees := onTrees } := by
  unfold next? at h
  split at h
  · next ws hatOnce =>
      cases h
      exact ⟨r.onFiles ++ r.onTrees, ws, by simp [allWork, hatOnce], by simp [allWork],
        _, _, _, rfl⟩
  · next ws hatOnce honFiles =>
      cases h
      exact ⟨[], ws ++ r.onTrees, by simp [allWork, hatOnce, honFiles], by simp [allWork, hatOnce],
        _, _, _, rfl⟩
  · next ws hatOnce honFiles honTrees =>
      cases h
      exact ⟨[], ws, by simp [allWork, hatOnce, honFiles, honTrees],
        by simp [allWork, hatOnce, honFiles], _, _, _, rfl⟩
  · cases h

/-- Work waits in one of three queues. -/
theorem queue_eq (r : Rig α) (w : Work) :
    ∃ atOnce onFiles onTrees, r.queue w =
      { r with atOnce := atOnce, onFiles := onFiles, onTrees := onTrees } := by
  cases w with
  | loadPreset t shader =>
      unfold queue
      simp only
      split <;> exact ⟨_, _, _, rfl⟩
  | _ => exact ⟨_, _, _, rfl⟩

/-- Work that is queued waits with the rest. -/
theorem allWork_queue (r : Rig α) (w : Work) : (r.queue w).allWork.Perm (r.allWork ++ [w]) := by
  have hfile : (r.onFiles ++ ([w] ++ (r.onTrees ++ r.atOnce))).Perm
      (r.onFiles ++ (r.onTrees ++ r.atOnce ++ [w])) := List.perm_append_comm.append_left _
  have htree : (r.onFiles ++ (r.onTrees ++ ([w] ++ r.atOnce))).Perm
      (r.onFiles ++ (r.onTrees ++ (r.atOnce ++ [w]))) :=
    (List.perm_append_comm.append_left _).append_left _
  cases w with
  | resume | settle => simp [queue, allWork]
  | readSource | record | checkCapture => simpa [queue, allWork] using hfile
  | scan | look => simpa [queue, allWork] using htree
  | loadPreset =>
      unfold queue
      simp only
      split
      · simpa [allWork] using hfile
      · simp [allWork]

/-- Work of some kind that is queued waits with the rest of its kind. -/
theorem filterMap_allWork_queue {β : Type} (r : Rig α) (w : Work) (f : Work → Option β) :
    ((r.queue w).allWork.filterMap f).Perm (r.allWork.filterMap f ++ (f w).toList) := by
  have hwork := (r.allWork_queue w).filterMap f
  cases hw : f w <;> simpa [hw] using hwork

/-- A rig gets to another in which more work waits, all of it such as the engine asks for. No look
at the shader directory has begun or ended. -/
structure Adds (r r' : Rig α) : Prop where
  looking : r'.looking = r.looking
  allWork : ∃ ws, r'.allWork.Perm (r.allWork ++ ws) ∧ ∀ w ∈ ws, w.isEngineWork = true

/-- A rig gets to another in which the same work waits. -/
theorem Adds.of_eq {r r' : Rig α} (hlooking : r'.looking = r.looking)
    (hwork : r'.allWork = r.allWork) : r.Adds r' :=
  ⟨hlooking, [], by simp [hwork], by simp⟩

theorem Adds.trans {r r' r'' : Rig α} (h : r.Adds r') (h' : r'.Adds r'') : r.Adds r'' := by
  obtain ⟨ws, hws, hall⟩ := h.allWork
  obtain ⟨ws', hws', hall'⟩ := h'.allWork
  refine ⟨h'.looking.trans h.looking, ws ++ ws', ?_, List.forall_mem_append.mpr ⟨hall, hall'⟩⟩
  rw [← List.append_assoc]
  exact hws'.trans (hws.append_right ws')

/-- Other work is the same as before. -/
theorem Adds.filterMap {β : Type} {r r' : Rig α} (h : r.Adds r') {f : Work → Option β}
    (hf : ∀ w, w.isEngineWork = true → f w = none) :
    (r'.allWork.filterMap f).Perm (r.allWork.filterMap f) := by
  obtain ⟨ws, hwork, hall⟩ := h.allWork
  have hnone : ws.filterMap f = [] :=
    List.filterMap_eq_nil_iff.mpr fun w hw => hf w (hall w hw)
  simpa [hnone] using hwork.filterMap f

theorem adds_queue (r : Rig α) {w : Work} (hw : w.isEngineWork = true) : r.Adds (r.queue w) := by
  refine ⟨?_, [w], allWork_queue r w, by simpa using hw⟩
  obtain ⟨atOnce, onFiles, onTrees, h⟩ := queue_eq r w
  rw [h]

/-! ## First captures -/

/-- The shader that waits for its first capture, and the timers that it waits for. -/
def pendingCapture (r : Rig α) : CaptureScheduler × List (Timer α Alarm) :=
  (r.capture, r.agenda.timers.filter (·.act == .capture))

variable [Scalar α]

/-! ## Equations -/

/-- What is broadcast is only seen. -/
theorem broadcast_eq (r : Rig α) (m : HostMessage α) :
    ∃ seen, r.broadcast m = { r with seen := seen } := by
  unfold broadcast
  split
  · exact ⟨_, rfl⟩
  · exact ⟨_, rfl⟩
  · induction r.net.clients using List.reverseRecOn with
    | nil => exact ⟨_, rfl⟩
    | append_singleton clients client ih =>
        obtain ⟨seen, hseen⟩ := ih
        exact ⟨_, by rw [List.foldl_append, hseen]; rfl⟩

/-- What is presented is only seen. -/
theorem present_eq (r : Rig α) (values : UniformValues α) :
    ∃ seen, r.present values = { r with seen := seen } := by
  unfold present
  split
  · exact ⟨_, rfl⟩
  · exact broadcast_eq r _
  · exact broadcast_eq r _

/-- Asking for a picture is only seen, and put on the console. -/
theorem requestCapture_eq (r : Rig α) (shader : String) :
    ∃ seen console, r.requestCapture shader = { r with seen := seen, console := console } := by
  have hsent (g : Rig α) : ∃ seen, requestCapture.sent shader g = { g with seen := seen } := by
    unfold requestCapture.sent
    split
    · exact ⟨_, rfl⟩
    · exact broadcast_eq g _
    · exact broadcast_eq g _
  obtain ⟨seen, hseen⟩ := hsent (r.say (CaptureScheduler.requestNotice shader))
  unfold requestCapture
  simp only [hseen]
  split
  · split
    · exact ⟨_, _, rfl⟩
    · exact ⟨_, _, rfl⟩
  · exact ⟨_, _, rfl⟩

/-- A toggle is seen, and the render host may note it. -/
theorem toggle_eq (r : Rig α) (name : String) (enabled : Bool) :
    ∃ toggles seen, r.toggle name enabled =
      { r with host := { r.host with toggles := toggles }, seen := seen } := by
  unfold toggle
  split
  · exact ⟨_, _, rfl⟩
  all_goals
    obtain ⟨seen, hseen⟩ := broadcast_eq
      { r with host := { r.host with toggles := Keyed.put name enabled r.host.toggles } }
      (.toggle name enabled)
    exact ⟨_, seen, hseen⟩

omit [Scalar α] in
/-- The end of a compile is queued or seen. -/
theorem settleCompile_eq (r : Rig α) (id : String) (outcome : CompileOutcome) :
    ∃ ws seen, r.settleCompile id outcome =
      { r with atOnce := r.atOnce ++ ws, seen := seen } := by
  unfold settleCompile
  split
  · exact ⟨_, r.seen, rfl⟩
  · next number _ => exact ⟨[], .settled number outcome :: r.seen, by simp [see]⟩
  · exact ⟨[], r.seen, by simp⟩

/-! ## The render host -/

/-- A rig gets to another with the same engine and the same ends of activations, at which the
same capture waits. -/
structure Frame (r r' : Rig α) : Prop where
  setup : r'.setup = r.setup
  engine : r'.engine = r.engine
  finished : r'.finished = r.finished
  pendingCapture : r'.pendingCapture = r.pendingCapture

omit [Scalar α] in
theorem Frame.refl (r : Rig α) : r.Frame r := ⟨rfl, rfl, rfl, rfl⟩

omit [Scalar α] in
theorem Frame.trans {r r' r'' : Rig α} (h : r.Frame r') (h' : r'.Frame r'') : r.Frame r'' :=
  ⟨h'.setup.trans h.setup, h'.engine.trans h.engine, h'.finished.trans h.finished,
    h'.pendingCapture.trans h.pendingCapture⟩

/-- Carrying out effects of the render host leaves the rest of a rig alone. -/
theorem frame_performHost (r : Rig α) (x : HostEffect α) : r.Frame (r.performHost x) := by
  cases x with
  | send m =>
      obtain ⟨seen, h⟩ := broadcast_eq r m
      exact (show r.performHost (.send m) = _ from h) ▸ ⟨rfl, rfl, rfl, rfl⟩
  | arm id => exact ⟨rfl, rfl, rfl, by simp [performHost, Rig.pendingCapture, Agenda.after]⟩
  | disarm id =>
      refine ⟨rfl, rfl, rfl, ?_⟩
      simp only [performHost, Rig.pendingCapture, Agenda.cancel, List.filter_filter]
      congr 1
      refine List.filter_congr fun t _ => ?_
      cases t.act <;> simp
  | settled id outcome =>
      obtain ⟨ws, seen, h⟩ := settleCompile_eq r id outcome
      exact (show r.performHost (.settled id outcome) = _ from h) ▸ ⟨rfl, rfl, rfl, rfl⟩

theorem frame_foldl_performHost (xs : List (HostEffect α)) (r : Rig α) :
    r.Frame (xs.foldl performHost r) := by
  induction xs generalizing r with
  | nil => exact .refl r
  | cons x xs ih => exact (frame_performHost r x).trans (ih _)

/-- Whatever the render host does, the rest of a rig is left alone. -/
theorem frame_actHost (r : Rig α) (step : Host × List (HostEffect α)) :
    r.Frame (r.actHost step) := by
  have hhost : r.Frame { r with host := step.1 } := ⟨rfl, rfl, rfl, rfl⟩
  exact hhost.trans (frame_foldl_performHost step.2 _)

theorem frame_hostCompile (r : Rig α) (caller : CompileCaller) (request : CompileRequest) :
    r.Frame (r.hostCompile caller request) := by
  have hcaller : r.Frame { r with compiles := Keyed.put r.host.nextId caller r.compiles } :=
    ⟨rfl, rfl, rfl, rfl⟩
  exact hcaller.trans (frame_actHost _ _)

theorem frame_startCompile (r : Rig α) (t : Ticket) (request : CompileRequest) :
    r.Frame (r.startCompile t request) := by
  unfold startCompile
  split
  · exact ⟨rfl, rfl, rfl, rfl⟩
  · exact frame_hostCompile r _ request
  · exact frame_hostCompile r _ request

omit [Scalar α] in
theorem frame_queue (r : Rig α) (w : Work) : r.Frame (r.queue w) := by
  obtain ⟨atOnce, onFiles, onTrees, h⟩ := queue_eq r w
  exact h ▸ ⟨rfl, rfl, rfl, rfl⟩

/-! ### Work that it adds -/

theorem adds_performHost (r : Rig α) (x : HostEffect α) : r.Adds (r.performHost x) := by
  cases x with
  | send m =>
      obtain ⟨seen, h⟩ := broadcast_eq r m
      exact (show r.performHost (.send m) = _ from h) ▸ .of_eq rfl rfl
  | arm id => exact .of_eq rfl rfl
  | disarm id => exact .of_eq rfl rfl
  | settled id outcome =>
      simp only [performHost, settleCompile]
      split
      · exact adds_queue r rfl
      · exact .of_eq rfl rfl
      · exact .of_eq rfl rfl

theorem adds_actHost (r : Rig α) (step : Host × List (HostEffect α)) :
    r.Adds (r.actHost step) := by
  have hfold (xs : List (HostEffect α)) (s : Rig α) : s.Adds (xs.foldl performHost s) := by
    induction xs generalizing s with
    | nil => exact .of_eq rfl rfl
    | cons x xs ih => exact (adds_performHost s x).trans (ih _)
  have hhost : r.Adds { r with host := step.1 } := .of_eq rfl rfl
  exact hhost.trans (hfold step.2 _)

theorem adds_startCompile (r : Rig α) (t : Ticket) (request : CompileRequest) :
    r.Adds (r.startCompile t request) := by
  have hhost (s : Rig α) : s.Adds (s.hostCompile (.activation t) request) := by
    have hcaller : s.Adds
        { s with compiles := Keyed.put s.host.nextId (.activation t) s.compiles } :=
      .of_eq rfl rfl
    exact hcaller.trans (adds_actHost _ _)
  have hsee : r.Adds (r.see (.compile request)) := .of_eq rfl rfl
  unfold startCompile
  split
  · exact hsee.trans (adds_queue _ rfl)
  · exact hhost r
  · exact hhost r

/-! ## Effects of the engine -/

/-- Carrying out an effect leaves most of a rig alone, unless a capture is scheduled or an
activation has ended. -/
theorem frame_perform (r : Rig α) {x : Effect α} (hcapture : ∀ name, x ≠ .scheduleCapture name)
    (hfinished : x.finish? = none) : r.Frame (r.perform x) := by
  cases x with
  | notice n => exact ⟨rfl, rfl, rfl, rfl⟩
  | resume t => exact frame_queue r (.resume t)
  | readSource t path => exact frame_queue r (.readSource t path)
  | compile t request => exact frame_startCompile r t request
  | record t record => exact frame_queue r (.record t record)
  | loadPreset t shader => exact frame_queue r (.loadPreset t shader)
  | scan => exact frame_queue r .scan
  | present values =>
      obtain ⟨seen, h⟩ := present_eq r values
      exact (show r.perform (.present values) = _ from h) ▸ ⟨rfl, rfl, rfl, rfl⟩
  | toggle name enabled =>
      obtain ⟨toggles, seen, h⟩ := toggle_eq r name enabled
      exact (show r.perform (.toggle name enabled) = _ from h) ▸ ⟨rfl, rfl, rfl, rfl⟩
  | scheduleCapture shader => exact absurd rfl (hcapture shader)
  | finished f => simp [Effect.finish?] at hfinished

theorem scheduleCapture_eq (r : Rig α) (shader : String) :
    ∃ capture agenda, r.scheduleCapture shader =
      { r with capture := capture, agenda := agenda } := by
  unfold scheduleCapture
  split <;> exact ⟨_, _, rfl⟩

/-- Carrying out an effect adds such work only as the engine asks for. -/
theorem adds_perform (r : Rig α) (x : Effect α) : r.Adds (r.perform x) := by
  cases x with
  | notice n => exact .of_eq rfl rfl
  | resume t => exact adds_queue r (w := .resume t) rfl
  | readSource t path => exact adds_queue r (w := .readSource t path) rfl
  | compile t request => exact adds_startCompile r t request
  | record t record => exact adds_queue r (w := .record t record) rfl
  | loadPreset t shader => exact adds_queue r (w := .loadPreset t shader) rfl
  | scan => exact adds_queue r (w := .scan) rfl
  | present values =>
      obtain ⟨seen, h⟩ := present_eq r values
      exact (show r.perform (.present values) = _ from h) ▸ .of_eq rfl rfl
  | toggle name enabled =>
      obtain ⟨toggles, seen, h⟩ := toggle_eq r name enabled
      exact (show r.perform (.toggle name enabled) = _ from h) ▸ .of_eq rfl rfl
  | scheduleCapture shader =>
      obtain ⟨capture, agenda, h⟩ := scheduleCapture_eq r shader
      exact (show r.perform (.scheduleCapture shader) = _ from h) ▸ .of_eq rfl rfl
  | finished f => exact .of_eq rfl rfl

/-- Carrying out an effect does not change the engine; ends of activations are noted. -/
theorem perform_eq (r : Rig α) (x : Effect α) :
    (r.perform x).setup = r.setup ∧ (r.perform x).engine = r.engine ∧
      (r.perform x).finished = r.finished ++ Effect.returns [x] := by
  have of_frame {x : Effect α} (h : r.Frame (r.perform x)) (hx : Effect.returns [x] = []) :
      (r.perform x).setup = r.setup ∧ (r.perform x).engine = r.engine ∧
        (r.perform x).finished = r.finished ++ Effect.returns [x] :=
    ⟨h.setup, h.engine, by rw [h.finished, hx, List.append_nil]⟩
  cases x with
  | scheduleCapture shader =>
      obtain ⟨capture, agenda, h⟩ := scheduleCapture_eq r shader
      rw [show r.perform (.scheduleCapture shader) = _ from h]
      exact ⟨rfl, rfl, (List.append_nil _).symm⟩
  | finished f => exact ⟨rfl, rfl, rfl⟩
  | _ => exact of_frame (frame_perform r (by simp) rfl) rfl

/-- Carrying out effects does not change the engine; ends of activations are noted. -/
theorem foldl_perform_eq (xs : List (Effect α)) (r : Rig α) :
    (xs.foldl perform r).setup = r.setup ∧ (xs.foldl perform r).engine = r.engine ∧
      (xs.foldl perform r).finished = r.finished ++ Effect.returns xs := by
  induction xs generalizing r with
  | nil => exact ⟨rfl, rfl, (List.append_nil _).symm⟩
  | cons x xs ih =>
      obtain ⟨hsetup, hengine, hfinished⟩ := perform_eq r x
      obtain ⟨hsetup', hengine', hfinished'⟩ := ih (r.perform x)
      refine ⟨hsetup'.trans hsetup, hengine'.trans hengine, hfinished'.trans ?_⟩
      rw [hfinished, List.append_assoc, ← Effect.returns_append]
      rfl

/-- The engine after it has acted; nothing that it has asked for waits any more. -/
@[simp] theorem engine_act (r : Rig α) (f : Engine α → Engine α) :
    (r.act f).engine = (f r.engine).dispatched :=
  (foldl_perform_eq _ _).2.1

/-- Acting leaves the capture that waits alone unless another is scheduled. -/
theorem pendingCapture_act (r : Rig α) (f : Engine α → Engine α)
    (hf : ∀ name, .scheduleCapture name ∉ (f r.engine).outbox) :
    (r.act f).pendingCapture = r.pendingCapture := by
  have hfold (xs : List (Effect α)) (s : Rig α) (hxs : ∀ name, .scheduleCapture name ∉ xs) :
      (xs.foldl perform s).pendingCapture = s.pendingCapture := by
    induction xs generalizing s with
    | nil => rfl
    | cons x xs ih =>
        have hx (name : String) : x ≠ .scheduleCapture name := fun h => hxs name (h ▸ by simp)
        have hxs' (name : String) : .scheduleCapture name ∉ xs :=
          fun h => hxs name (List.mem_cons_of_mem x h)
        refine (ih _ hxs').trans ?_
        cases x with
        | finished f => rfl
        | _ => exact (frame_perform s hx rfl).pendingCapture
  exact hfold _ _ hf

end Rig

end LiveVisuals
