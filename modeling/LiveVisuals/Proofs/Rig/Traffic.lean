import LiveVisuals.Proofs.Rig.Act

/-!
# The traffic of compiles

Between an activation that waits for its compile and the render host there is some traffic: a
compile is announced under an id, it ends when somebody replies or nobody does for too long, and
how it has ended is brought back to the activation. Nothing else that happens in a rig touches
that.

Main definitions:

- {lit}`Traffic`: the render host, who asked for which compile, and the ends of compiles that
  are on their way back.
- {lit}`Traffic.announce`, {lit}`Traffic.resolve`, {lit}`Traffic.giveUp`: the life of a compile.
- {lit}`Rig.traffic`: the traffic of a rig.

Main results:

- Theorems {lit}`Rig.traffic_perform` and {lit}`Rig.traffic_perform_compile`: what the effects
  of the engine do to the traffic.
- Theorems {lit}`Rig.traffic_takeReply`, {lit}`Rig.traffic_ring` and
  {lit}`Rig.traffic_dispose`: what ends compiles.
-/

namespace LiveVisuals

/-! ## Traffic -/

/-- Compiles that have been announced, and ends of compiles that are on their way back. -/
structure Traffic where
  /-- The render host, apart from its toggles. -/
  host : Host
  /-- Who asked for a compile, by id. -/
  compiles : Keyed CompileCaller
  settled : List (Ticket × CompileOutcome)

namespace Traffic

/-- A compile is announced on behalf of an activation. -/
def announce (tr : Traffic) (t : Ticket) (req : CompileRequest) : Traffic where
  host :=
    { tr.host with
      pending := Keyed.put tr.host.nextId req tr.host.pending
      issued := tr.host.issued + 1 }
  compiles := Keyed.put tr.host.nextId (.activation t) tr.compiles
  settled := tr.settled

/-- A compile that was announced ends. -/
def resolve (tr : Traffic) (id : String) (req : CompileRequest) (t : Ticket)
    (outcome : CompileOutcome) : Traffic where
  host := tr.host.settle id req outcome
  compiles := tr.compiles
  settled := tr.settled ++ [(t, outcome)]

/-- The activation that asked for a compile. -/
def caller? (tr : Traffic) (id : String) : Option Ticket :=
  match Keyed.get? id tr.compiles with
  | some (.activation t) => some t
  | _ => none

/-- What the activations are told whose compiles are given up. -/
def cancelled (tr : Traffic) (id : String) : Option (Ticket × CompileOutcome) :=
  (tr.caller? id).map fun t => (t, .error (Host.cancelText id))

/-- All compiles that have no outcome are given up. -/
def giveUp (tr : Traffic) : Traffic where
  host := { tr.host with pending := [] }
  compiles := tr.compiles
  settled := tr.settled ++ (Keyed.keys tr.host.pending).filterMap tr.cancelled

theorem caller?_eq_some {tr : Traffic} {id : String} {t : Ticket} :
    tr.caller? id = some t ↔ Keyed.get? id tr.compiles = some (.activation t) := by
  unfold caller?
  rcases Keyed.get? id tr.compiles with _ | caller
  · simp
  · cases caller <;> simp

end Traffic

/-- The end of a compile that is brought back to an activation. -/
def Work.settled? : Work → Option (Ticket × CompileOutcome)
  | .settle t outcome => some (t, outcome)
  | _ => none

namespace Rig

variable {α : Type}

/-- The ends of compiles that are on their way back to activations. -/
def settled (r : Rig α) : List (Ticket × CompileOutcome) := r.allWork.filterMap Work.settled?

/-- The traffic of a rig. -/
def traffic (r : Rig α) : Traffic := ⟨{ r.host with toggles := [] }, r.compiles, r.settled⟩

/-- Work other than the end of a compile does not touch the traffic. -/
theorem traffic_queue (r : Rig α) {w : Work} (hw : w.settled? = none) :
    (r.queue w).traffic = r.traffic := by
  have hsettled : (r.queue w).settled = r.settled := by
    cases w with
    | settle => simp [Work.settled?] at hw
    | loadPreset =>
        unfold queue
        simp only
        split <;> simp [settled, allWork, hw]
    | _ => simp [queue, settled, allWork, hw]
  obtain ⟨atOnce, onFiles, onTrees, h⟩ := queue_eq r w
  simp only [traffic, hsettled]
  rw [h]

/-- The end of a compile that is queued is on its way back. -/
theorem traffic_queue_settle (r : Rig α) (t : Ticket) (outcome : CompileOutcome) :
    (r.queue (.settle t outcome)).traffic =
      { r.traffic with settled := r.traffic.settled ++ [(t, outcome)] } := by
  simp [queue, traffic, settled, allWork, Work.settled?]

/-- The end of a compile is brought back to the activation that asked for it. -/
theorem traffic_settleCompile (r : Rig α) (id : String) (outcome : CompileOutcome) :
    (r.settleCompile id outcome).traffic =
      { r.traffic with
        settled := r.traffic.settled ++ (r.traffic.caller? id).toList.map (·, outcome) } := by
  unfold settleCompile
  rw [show r.traffic.caller? id = (match Keyed.get? id r.compiles with
    | some (.activation t) => some t | _ => none) from rfl]
  rcases Keyed.get? id r.compiles with _ | caller
  · simp
  · cases caller with
    | activation t => exact traffic_queue_settle r t outcome
    | outside number => simp [see]; rfl

variable [Scalar α]

/-! ## The render host -/

@[simp] theorem traffic_performHost_send (r : Rig α) (m : HostMessage α) :
    (r.performHost (.send m)).traffic = r.traffic := by
  obtain ⟨seen, h⟩ := broadcast_eq r m
  rw [show r.performHost (.send m) = _ from h]
  rfl

@[simp] theorem traffic_performHost_arm (r : Rig α) (id : String) :
    (r.performHost (.arm id)).traffic = r.traffic :=
  rfl

@[simp] theorem traffic_performHost_disarm (r : Rig α) (id : String) :
    (r.performHost (.disarm id)).traffic = r.traffic :=
  rfl

@[simp] theorem traffic_performHost_settled (r : Rig α) (id : String)
    (outcome : CompileOutcome) :
    (r.performHost (.settled id outcome)).traffic =
      { r.traffic with
        settled := r.traffic.settled ++ (r.traffic.caller? id).toList.map (·, outcome) } :=
  traffic_settleCompile r id outcome

/-- A compile is announced; if nobody is there it succeeds at once. -/
theorem traffic_hostCompile (r : Rig α) (t : Ticket) (req : CompileRequest) :
    (r.hostCompile (.activation t) req).traffic =
      if r.reach = 0 then
        (r.traffic.announce t req).resolve r.traffic.host.nextId req t (.ok ())
      else r.traffic.announce t req := by
  have hcaller : (r.traffic.announce t req).caller? r.traffic.host.nextId = some t :=
    Traffic.caller?_eq_some.mpr (Keyed.get?_put_self _ _ _)
  have hcompile : r.hostCompile (.activation t) req =
      actHost { r with compiles := Keyed.put r.host.nextId (.activation t) r.compiles }
        (r.host.compile r.reach req) := rfl
  rw [hcompile]
  unfold actHost Host.compile
  by_cases hreach : r.reach = 0
  · simp only [hreach, if_true, List.cons_append, List.nil_append, List.foldl_cons,
      List.foldl_nil, traffic_performHost_send, traffic_performHost_arm,
      traffic_performHost_disarm, traffic_performHost_settled]
    show (⟨_, _, r.traffic.settled ++ ((r.traffic.announce t req).caller?
      r.traffic.host.nextId).toList.map (·, .ok ())⟩ : Traffic) = _
    rw [hcaller]
    rfl
  · simp only [hreach, if_false, List.foldl_cons, List.foldl_nil, traffic_performHost_send,
      traffic_performHost_arm]
    rfl

/-- A reply that is waited for ends a compile. -/
theorem traffic_takeReply (r : Rig α) {id : String} {t : Ticket} {req : CompileRequest}
    (success : Bool) (error : Option String)
    (hid : Keyed.get? id r.traffic.host.pending = some req) (ht : r.traffic.caller? id = some t) :
    (r.takeReply id success error).1.traffic =
      r.traffic.resolve id req t (Host.outcomeOf success error) := by
  have hreply : r.host.reply (α := α) id (Host.outcomeOf success error) =
      (r.host.settle id req (Host.outcomeOf success error),
        some [.disarm id, .settled id (Host.outcomeOf success error)]) := by
    unfold Host.reply
    rw [show Keyed.get? id r.host.pending = some req from hid]
  simp only [takeReply, hreply, actHost, List.foldl_cons, List.foldl_nil,
    traffic_performHost_disarm, traffic_performHost_settled]
  show (⟨_, _, r.traffic.settled ++ (r.traffic.caller? id).toList.map (·, _)⟩ : Traffic) = _
  rw [ht]
  cases Host.outcomeOf success error <;> rfl

/-- A reply that is not waited for is passed over. -/
theorem takeReply_of_not_pending (r : Rig α) {id : String} (success : Bool)
    (error : Option String) (hid : Keyed.get? id r.traffic.host.pending = none) :
    (r.takeReply id success error).1 = r := by
  unfold takeReply
  rw [Host.reply_of_not_pending r.host id _ hid]

/-- A compile that nobody has replied to for too long fails. -/
theorem traffic_ring (r : Rig α) {id : String} {t : Ticket} {req : CompileRequest}
    (hid : Keyed.get? id r.traffic.host.pending = some req) (ht : r.traffic.caller? id = some t) :
    (r.ring (.compileLimit id)).traffic =
      r.traffic.resolve id req t (.error (Host.timeoutText req r.compileLimitText)) := by
  have hexpire : r.host.expire (α := α) id r.compileLimitText =
      (r.host.fail id, [.settled id (.error (Host.timeoutText req r.compileLimitText))]) := by
    unfold Host.expire
    rw [show Keyed.get? id r.host.pending = some req from hid]
  simp only [ring, hexpire, actHost, List.foldl_cons, List.foldl_nil,
    traffic_performHost_settled]
  show (⟨_, _, r.traffic.settled ++ (r.traffic.caller? id).toList.map (·, _)⟩ : Traffic) = _
  rw [ht]
  rfl

/-- The time of a compile that has ended is not looked at. -/
theorem ring_of_not_pending (r : Rig α) {id : String}
    (hid : Keyed.get? id r.traffic.host.pending = none) :
    r.ring (.compileLimit id) = r := by
  have hexpire : r.host.expire (α := α) id r.compileLimitText = (r.host, []) := by
    unfold Host.expire
    rw [show Keyed.get? id r.host.pending = none from hid]
  rw [ring, hexpire]
  rfl

/-- Those who asked for compiles are told that they were given up. -/
theorem traffic_foldl_cancel (ids : List String) (r : Rig α) :
    ((ids.flatMap fun id => [.disarm id, .settled id (.error (Host.cancelText id))]).foldl
      performHost r).traffic =
        { r.traffic with settled := r.traffic.settled ++ ids.filterMap r.traffic.cancelled } := by
  induction ids generalizing r with
  | nil => simp
  | cons id ids ih =>
      have htold : ((r.performHost (.disarm id)).performHost
          (.settled id (.error (Host.cancelText id)))).traffic =
            { r.traffic with
              settled := r.traffic.settled ++ (r.traffic.cancelled id).toList } := by
        rw [traffic_performHost_settled, traffic_performHost_disarm]
        unfold Traffic.cancelled
        cases r.traffic.caller? id <;> rfl
      simp only [List.flatMap_cons, List.cons_append, List.nil_append, List.foldl_cons]
      rw [ih, htold]
      have hcancelled : Traffic.cancelled { r.traffic with
          settled := r.traffic.settled ++ (r.traffic.cancelled id).toList } =
            r.traffic.cancelled := rfl
      rw [hcancelled, List.filterMap_cons]
      cases r.traffic.cancelled id <;> simp

/-- When the render host is shut down, everything that it waits for is given up. -/
theorem traffic_dispose (r : Rig α) : (r.actHost r.host.dispose).traffic = r.traffic.giveUp :=
  traffic_foldl_cancel (Keyed.keys r.host.pending)
    { r with host := { r.host with pending := [] } }

/-! ## Effects of the engine -/

/-- An effect of the engine other than asking for a compile does not touch the traffic. -/
theorem traffic_perform (r : Rig α) {x : Effect α} (hx : ∀ t req, x ≠ .compile t req) :
    (r.perform x).traffic = r.traffic := by
  cases x with
  | compile t req => exact absurd rfl (hx t req)
  | notice n => rfl
  | resume t => exact traffic_queue r rfl
  | readSource t path => exact traffic_queue r rfl
  | record t record => exact traffic_queue r rfl
  | loadPreset t shader => exact traffic_queue r rfl
  | scan => exact traffic_queue r rfl
  | present values =>
      obtain ⟨seen, h⟩ := present_eq r values
      rw [show r.perform (.present values) = _ from h]
      rfl
  | toggle name enabled =>
      obtain ⟨toggles, seen, h⟩ := toggle_eq r name enabled
      rw [show r.perform (.toggle name enabled) = _ from h]
      rfl
  | scheduleCapture shader =>
      obtain ⟨capture, agenda, h⟩ := scheduleCapture_eq r shader
      rw [show r.perform (.scheduleCapture shader) = _ from h]
      rfl
  | finished f => rfl

/-- Effects among which no compile is asked for do not touch the traffic. -/
theorem traffic_foldl_perform (xs : List (Effect α)) (r : Rig α)
    (hxs : ∀ t req, .compile t req ∉ xs) :
    (xs.foldl perform r).traffic = r.traffic := by
  induction xs generalizing r with
  | nil => rfl
  | cons x xs ih =>
      have hx : ∀ t req, x ≠ .compile t req := fun t req h => hxs t req (h ▸ by simp)
      refine (ih (r.perform x) ?_).trans (traffic_perform r hx)
      exact fun t req h => hxs t req (List.mem_cons_of_mem x h)

/-- A compile that an activation asks for goes to the render host. -/
theorem perform_compile (r : Rig α) (hr : r.setup.renderer ≠ .bench) (t : Ticket)
    (req : CompileRequest) : r.perform (.compile t req) = r.hostCompile (.activation t) req := by
  show r.startCompile t req = _
  unfold startCompile
  cases h : r.setup.renderer with
  | bench => exact absurd h hr
  | channel => rfl
  | browsers => rfl

end Rig

end LiveVisuals
