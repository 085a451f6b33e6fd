import LiveVisuals.Proofs.Rig.CatchUp

/-!
# Every compile ends once

Several browsers may reply to one compile, its time may be over meanwhile, and the render host may
be shut down. Whichever comes first decides, and the others find nobody who waits. What has been
asked of the surroundings of the host tells which compiles were announced and how each of them
ended, and the host keeps no more than can be read off it: it waits for the compiles that have not
ended, a timer runs for each of them and for no other, and the program in use is that of the
compile that succeeded last.

Main definitions:

- {lit}`Host.announced`, {lit}`Host.verdicts`: the compiles of a log, and how they ended.
- {lit}`Host.unsettled`, {lit}`Host.lastSuccess`: what the host keeps of them.
- {lit}`Host.Ledger`: a host agrees with a log.
- {lit}`Host.Booked`: it does so after a step.
- {lit}`Rig.Turn`, {lit}`Rig.History`: compiles, replies, timeouts and shutdowns in any order, with
  what is asked of the surroundings.

Main results:

- Theorems {lit}`Host.Ledger.announce`, {lit}`Host.Ledger.settle` and
  {lit}`Host.Ledger.giveUp`: what becomes of the compiles that a host waits for.
- Theorems {lit}`Host.Ledger.compile`, {lit}`Host.Ledger.reply`, {lit}`Host.Ledger.expire` and
  {lit}`Host.Ledger.dispose`: each step of the host agrees with what it asks for.
- Theorem {lit}`Rig.History.ledger`: a host agrees with its log, whatever has happened.
- Theorem {lit}`Rig.stable_history`: whatever a rig does is made of turns.
- Theorem {lit}`Rig.compiles_settle_once`: every compile ends once.
-/

namespace LiveVisuals

variable {α : Type}

/-- A name that is there is not looked up any further. -/
theorem Keyed.get?_append_of_mem {β : Type} {t : Keyed β} {key : String} (h : key ∈ keys t)
    (u : Keyed β) : get? key (t ++ u) = get? key t := by
  induction t with
  | nil => cases h
  | cons e t ih =>
      obtain ⟨k, v⟩ := e
      by_cases hk : k = key
      · simp [get?, hk]
      · rw [keys, List.map_cons, List.mem_cons] at h
        rw [List.cons_append, get?, get?, if_neg hk, if_neg hk]
        exact ih (h.resolve_left (Ne.symm hk))

/-! ## What a log tells -/

namespace HostEffect

/-- The compile that an effect announces. -/
def announced? : HostEffect α → Option (String × CompileRequest)
  | .send (.compile id request) => some (id, request)
  | _ => none

/-- The end of a compile that an effect tells of. -/
def verdict? : HostEffect α → Option (String × CompileOutcome)
  | .settled id outcome => some (id, outcome)
  | _ => none

/-- The compiles whose timers run after an effect, given those before. -/
def timed (ids : List String) : HostEffect α → List String
  | .arm id => ids ++ [id]
  | .disarm id => ids.filter fun other => decide (other ≠ id)
  | _ => ids

end HostEffect

namespace Host

/-- The compiles that have been announced, in order. -/
def announced (log : List (HostEffect α)) : Keyed CompileRequest :=
  log.filterMap HostEffect.announced?

/-- How compiles ended, in order. -/
def verdicts (log : List (HostEffect α)) : Keyed CompileOutcome :=
  log.filterMap HostEffect.verdict?

/-- The compiles that have been announced and have not ended. -/
def unsettled (log : List (HostEffect α)) : Keyed CompileRequest :=
  (announced log).filter fun e => decide (e.1 ∉ Keyed.keys (verdicts log))

/-- The program of the compile that succeeded last. -/
def lastSuccess (log : List (HostEffect α)) : Option HostProgram :=
  ((verdicts log).filter (·.2.isOk)).getLast?.bind fun v =>
    (Keyed.get? v.1 (announced log)).map fun request => ⟨v.1, request⟩

@[simp] theorem announced_append (log xs : List (HostEffect α)) :
    announced (log ++ xs) = announced log ++ announced xs :=
  List.filterMap_append

@[simp] theorem verdicts_append (log xs : List (HostEffect α)) :
    verdicts (log ++ xs) = verdicts log ++ verdicts xs :=
  List.filterMap_append

/-- A host and the timers that run agree with what has been asked of their surroundings. -/
structure Ledger (h : Host) (timed : List String) (log : List (HostEffect α)) : Prop where
  announcedOnce : (Keyed.keys (announced log)).Nodup
  settledOnce : (Keyed.keys (verdicts log)).Nodup
  issued : ∀ id ∈ Keyed.keys (announced log), h.Issued id
  known : ∀ id ∈ Keyed.keys (verdicts log), id ∈ Keyed.keys (announced log)
  pending : h.pending = unsettled log
  timed : timed = Keyed.keys h.pending
  program : h.program = lastSuccess log

theorem ledger_initial : initial.Ledger (α := α) [] [] where
  announcedOnce := List.nodup_nil
  settledOnce := List.nodup_nil
  issued := by simp [announced, Keyed.keys]
  known := by simp [verdicts, Keyed.keys]
  pending := rfl
  timed := rfl
  program := rfl

namespace Ledger

variable {h : Host} {timed : List String} {log xs : List (HostEffect α)}

/-- A compile that waits has been announced and has not ended. -/
theorem of_pending (hl : h.Ledger timed log) {id : String} {request : CompileRequest}
    (hid : Keyed.get? id h.pending = some request) :
    (id, request) ∈ announced log ∧ id ∉ Keyed.keys (verdicts log) := by
  have hmem := Keyed.mem_of_get? hid
  rw [hl.pending, unsettled, List.mem_filter] at hmem
  exact ⟨hmem.1, of_decide_eq_true hmem.2⟩

/-- Timers run for different compiles. -/
theorem nodup_timed (hl : h.Ledger timed log) : timed.Nodup := by
  rw [hl.timed, hl.pending]
  exact hl.announcedOnce.sublist (List.filter_sublist.map _)

/-- The next compile is a new one. -/
theorem nextId_not_mem (hl : h.Ledger timed log) : h.nextId ∉ Keyed.keys (announced log) :=
  fun hmem => (hl.issued _ hmem).ne_nextId rfl

/-- If no compile succeeds, the one that succeeded last is the same. -/
theorem lastSuccess_append (hl : h.Ledger timed log)
    (hfailed : ∀ v ∈ verdicts xs, v.2.isOk = false) :
    lastSuccess (log ++ xs) = lastSuccess log := by
  have hnone : (verdicts xs).filter (·.2.isOk) = [] := by
    rw [List.filter_eq_nil_iff]
    intro v hv
    simp [hfailed v hv]
  rw [lastSuccess, lastSuccess, verdicts_append, announced_append, List.filter_append, hnone,
    List.append_nil]
  cases hlast : ((verdicts log).filter (·.2.isOk)).getLast? with
  | none => rfl
  | some v =>
      have hv : v ∈ verdicts log := (List.mem_filter.mp (List.mem_of_getLast? hlast)).1
      have hknown : v.1 ∈ Keyed.keys (announced log) := hl.known v.1 (List.mem_map_of_mem hv)
      simp only [Option.bind_some, Keyed.get?_append_of_mem hknown]

/-- A compile is announced: the host waits for it, and its timer runs. -/
theorem announce (hl : h.Ledger timed log) (xs : List (HostEffect α)) (request : CompileRequest)
    (hannounced : announced xs = [(h.nextId, request)]) (hverdicts : verdicts xs = []) :
    Ledger { h with pending := Keyed.put h.nextId request h.pending, issued := h.issued + 1 }
      (timed ++ [h.nextId]) (log ++ xs) := by
  have hnew := hl.nextId_not_mem
  have hpending : Keyed.put h.nextId request h.pending = h.pending ++ [(h.nextId, request)] := by
    refine Keyed.put_of_not_mem request fun hmem => hnew ?_
    rw [hl.pending, unsettled] at hmem
    exact (List.filter_sublist.map _).subset hmem
  have hput : announced log ++ [(h.nextId, request)] =
      Keyed.put h.nextId request (announced log) := (Keyed.put_of_not_mem request hnew).symm
  constructor
  · rw [announced_append, hannounced, hput]
    exact Keyed.nodup_keys_put hl.announcedOnce _ _
  · rw [verdicts_append, hverdicts, List.append_nil]
    exact hl.settledOnce
  · intro id hid
    rw [announced_append, hannounced, Keyed.keys, List.map_append, List.mem_append] at hid
    rcases hid with hid | hid
    · exact (hl.issued id hid).mono (Nat.le_succ _)
    · rw [List.mem_singleton.mp hid]
      exact issued_nextId h _ rfl
  · intro id hid
    rw [verdicts_append, hverdicts, List.append_nil] at hid
    rw [announced_append, Keyed.keys, List.map_append]
    exact List.mem_append_left _ (hl.known id hid)
  · have hwaits : h.nextId ∉ Keyed.keys (verdicts log) := fun hmem => hnew (hl.known _ hmem)
    rw [hpending, hl.pending, unsettled, unsettled, announced_append, hannounced, verdicts_append,
      hverdicts, List.append_nil, List.filter_append]
    simp [hwaits]
  · rw [hl.timed, hpending, Keyed.keys, Keyed.keys, List.map_append]
    rfl
  · have hsame : lastSuccess (log ++ xs) = lastSuccess log :=
      hl.lastSuccess_append (by simp [hverdicts])
    rw [hsame]
    exact hl.program

/-- A compile that waits ends: the host does not wait for it any more, its timer is stopped, and
if it has succeeded, its program is the one in use. -/
theorem settle (hl : h.Ledger timed log) (xs : List (HostEffect α)) {id : String}
    {request : CompileRequest} (hid : Keyed.get? id h.pending = some request)
    (outcome : CompileOutcome)
    (hannounced : announced xs = []) (hverdicts : verdicts xs = [(id, outcome)]) :
    (h.settle id request outcome).Ledger (timed.filter fun other => decide (other ≠ id))
      (log ++ xs) := by
  obtain ⟨hmem, hnew⟩ := hl.of_pending hid
  have hknown : id ∈ Keyed.keys (announced log) := List.mem_map_of_mem hmem
  have hkeys : Keyed.keys (verdicts (log ++ xs)) = Keyed.keys (verdicts log) ++ [id] := by
    rw [verdicts_append, hverdicts, Keyed.keys, List.map_append]
    rfl
  constructor
  · rw [announced_append, hannounced, List.append_nil]
    exact hl.announcedOnce
  · rw [hkeys, List.nodup_append]
    refine ⟨hl.settledOnce, List.nodup_singleton id, ?_⟩
    intro a ha b hb heq
    exact hnew (List.mem_singleton.mp hb ▸ heq ▸ ha)
  · intro other hother
    rw [announced_append, hannounced, List.append_nil] at hother
    exact (hl.issued other hother).mono (Nat.le_of_eq (issued_settle h id request outcome).symm)
  · intro other hother
    rw [announced_append, hannounced, List.append_nil]
    rw [hkeys, List.mem_append] at hother
    rcases hother with hother | hother
    · exact hl.known other hother
    · exact List.mem_singleton.mp hother ▸ hknown
  · rw [pending_settle, hl.pending, unsettled, unsettled, hkeys, announced_append, hannounced,
      List.append_nil, Keyed.erase, List.filter_filter]
    refine List.filter_congr fun e _ => ?_
    simp [and_comm]
  · rw [pending_settle, Keyed.keys_erase, hl.timed]
  · cases outcome with
    | error problem =>
        have hsame : lastSuccess (log ++ xs) = lastSuccess log := by
          refine hl.lastSuccess_append fun v hv => ?_
          rw [hverdicts, List.mem_singleton] at hv
          rw [hv]
          rfl
        rw [hsame]
        exact hl.program
    | ok _ =>
        have hget : Keyed.get? id (announced log) = some request :=
          Keyed.get?_of_mem hl.announcedOnce hmem
        simp [lastSuccess, hannounced, hverdicts, Except.isOk, Except.toBool, hget, Host.settle,
          succeed]

/-- Everything that waits is given up: the host waits for nothing, and no timer runs. -/
theorem giveUp (hl : h.Ledger timed log) (hannounced : announced xs = [])
    (hverdicts : Keyed.keys (verdicts xs) = Keyed.keys h.pending)
    (hfailed : ∀ v ∈ verdicts xs, v.2.isOk = false) :
    Ledger { h with pending := [] } [] (log ++ xs) := by
  have hkeys : Keyed.keys (verdicts (log ++ xs)) =
      Keyed.keys (verdicts log) ++ Keyed.keys h.pending := by
    rw [verdicts_append, ← hverdicts, Keyed.keys, List.map_append]
    rfl
  have hwaits : ∀ id ∈ Keyed.keys h.pending,
      id ∈ Keyed.keys (announced log) ∧ id ∉ Keyed.keys (verdicts log) := by
    intro id hid
    obtain ⟨request, hget⟩ := Keyed.mem_keys_iff.mp hid
    obtain ⟨hmem, hnew⟩ := hl.of_pending hget
    exact ⟨List.mem_map_of_mem hmem, hnew⟩
  constructor
  · rw [announced_append, hannounced, List.append_nil]
    exact hl.announcedOnce
  · rw [hkeys, List.nodup_append]
    refine ⟨hl.settledOnce, hl.timed ▸ hl.nodup_timed, ?_⟩
    intro a ha b hb heq
    exact (hwaits b hb).2 (heq ▸ ha)
  · intro id hid
    rw [announced_append, hannounced, List.append_nil] at hid
    exact hl.issued id hid
  · intro id hid
    rw [announced_append, hannounced, List.append_nil]
    rw [hkeys, List.mem_append] at hid
    rcases hid with hid | hid
    · exact hl.known id hid
    · exact (hwaits id hid).1
  · rw [unsettled, announced_append, hannounced, List.append_nil, hkeys]
    symm
    rw [List.filter_eq_nil_iff]
    intro e he hnot
    have hnot' := of_decide_eq_true hnot
    refine hnot' (List.mem_append.mpr ?_)
    by_cases hended : e.1 ∈ Keyed.keys (verdicts log)
    · exact .inl hended
    · refine .inr ?_
      rw [hl.pending]
      exact List.mem_map_of_mem (List.mem_filter.mpr ⟨he, decide_eq_true hended⟩)
  · rfl
  · rw [hl.lastSuccess_append hfailed]
    exact hl.program

/-- A host that keeps the same of its compiles agrees with the same log. -/
theorem rest (hl : h.Ledger timed log) {h' : Host} (hpending : h'.pending = h.pending)
    (hprogram : h'.program = h.program) (hissued : h'.issued = h.issued) :
    h'.Ledger timed log where
  announcedOnce := hl.announcedOnce
  settledOnce := hl.settledOnce
  issued id hid := (hl.issued id hid).mono (Nat.le_of_eq hissued.symm)
  known := hl.known
  pending := hpending.trans hl.pending
  timed := by rw [hpending, hl.timed]
  program := hprogram.trans hl.program

end Ledger

/-- Timers that are stopped do not run, one after the other. -/
theorem foldl_timed_dispose (h : Host) (ids : List String) :
    (h.dispose (α := α)).2.foldl HostEffect.timed ids =
      ids.filter fun id => decide (id ∉ Keyed.keys h.pending) := by
  rw [dispose]
  simp only
  induction Keyed.keys h.pending generalizing ids with
  | nil => simp
  | cons id rest ih =>
      rw [List.flatMap_cons, List.foldl_append, ih]
      simp only [List.foldl_cons, List.foldl_nil, HostEffect.timed, List.filter_filter]
      refine List.filter_congr fun other _ => ?_
      simp [Bool.and_comm]

/-- Giving up announces nothing, and ends everything that waits. -/
theorem of_dispose (h : Host) :
    announced (h.dispose (α := α)).2 = [] ∧
      verdicts (h.dispose (α := α)).2 =
        (Keyed.keys h.pending).map fun id => (id, .error (cancelText id)) := by
  rw [dispose]
  simp only
  induction Keyed.keys h.pending with
  | nil => exact ⟨rfl, rfl⟩
  | cons id rest ih =>
      rw [List.flatMap_cons, announced_append, verdicts_append, ih.1, ih.2]
      exact ⟨rfl, rfl⟩

/-- After a step of the host, with what it asks for, the host and the timers agree with the log. -/
def Booked (timed : List String) (log : List (HostEffect α)) (step : Host × List (HostEffect α)) :
    Prop :=
  step.1.Ledger (step.2.foldl HostEffect.timed timed) (log ++ step.2)

namespace Ledger

variable {h : Host} {timed : List String} {log : List (HostEffect α)}

/-- A compile that reaches somebody waits, and one that reaches nobody succeeds at once. -/
theorem compile (hl : h.Ledger timed log) (reached : Nat) (request : CompileRequest) :
    Booked timed log (h.compile reached request) := by
  have hannounce := hl.announce [.arm h.nextId, .send (.compile _ request)] request rfl rfl
  by_cases hnobody : reached = 0
  · have hsettle := hannounce.settle [.disarm h.nextId, .settled h.nextId (.ok ())]
      (Keyed.get?_put_self h.nextId request _) (.ok ()) rfl rfl
    rw [List.append_assoc] at hsettle
    simp only [Host.compile, hnobody, if_true]
    exact hsettle
  · simp only [Host.compile, hnobody, if_false]
    exact hannounce

/-- A reply ends the compile that it is to. -/
theorem reply (hl : h.Ledger timed log) {id : String} {outcome : CompileOutcome} {h' : Host}
    {xs : List (HostEffect α)} (hreply : h.reply id outcome = (h', some xs)) :
    Booked timed log (h', xs) := by
  unfold Host.reply at hreply
  split at hreply
  · next request hid =>
      cases hreply
      exact hl.settle _ hid outcome rfl rfl
  · cases hreply

/-- A compile whose timer has fired ends. -/
theorem expire (hl : h.Ledger timed log) {id : String} (hid : id ∈ timed) (limit : String) :
    Booked (timed.filter fun other => decide (other ≠ id)) log (h.expire id limit) := by
  obtain ⟨request, hget⟩ := Keyed.mem_keys_iff.mp (hl.timed ▸ hid)
  simp only [Host.expire, hget]
  exact hl.settle _ hget (.error (timeoutText request limit)) rfl rfl

/-- A host that is shut down waits for nothing. -/
theorem dispose (hl : h.Ledger timed log) : Booked timed log h.dispose := by
  obtain ⟨hannounced, hverdicts⟩ := of_dispose (α := α) h
  have hnone : (h.dispose (α := α)).2.foldl HostEffect.timed timed = [] := by
    rw [foldl_timed_dispose, hl.timed, List.filter_eq_nil_iff]
    intro id hid
    simp [hid]
  rw [Booked, hnone]
  refine hl.giveUp hannounced ?_ ?_
  · rw [hverdicts, Keyed.keys, List.map_map]
    exact List.map_id _
  · intro v hv
    rw [hverdicts] at hv
    obtain ⟨id, -, rfl⟩ := List.mem_map.mp hv
    rfl

end Ledger

end Host

/-! ## Timers of compiles -/

namespace Rig

/-- The compiles that some timers are for, in order. -/
def compilesOf (ts : List (Timer α Alarm)) : List String := ts.filterMap (·.act.compile?)

@[simp] theorem compilesOf_append (ts us : List (Timer α Alarm)) :
    compilesOf (ts ++ us) = compilesOf ts ++ compilesOf us :=
  List.filterMap_append

theorem compilesOf_cons {t : Timer α Alarm} {id : String} (h : t.act.compile? = some id)
    (ts : List (Timer α Alarm)) : compilesOf (t :: ts) = id :: compilesOf ts := by
  simp [compilesOf, h]

/-- The compiles that a timer runs for, in order. -/
def timedCompiles (r : Rig α) : List String := compilesOf r.agenda.timers

theorem compilesOf_compileTimers (r : Rig α) : compilesOf r.compileTimers = r.timedCompiles := by
  rw [compileTimers, compilesOf, List.filterMap_filter]
  refine List.filterMap_congr fun t _ => ?_
  cases t.act.compile? <;> rfl

/-- Timers run for some compiles, and fire once. -/
structure Clocked (r : Rig α) (ids : List String) : Prop where
  timed : r.timedCompiles = ids
  once : ∀ t ∈ r.agenda.timers, t.act.compile?.isSome → t.period = none

/-- Timers of other things do not matter. -/
theorem Clocked.of_timers {r r' : Rig α} {ids : List String} (h : r.Clocked ids)
    (htimers : r'.compileTimers = r.compileTimers) : r'.Clocked ids := by
  refine ⟨?_, fun t ht hcompile => ?_⟩
  · rw [← compilesOf_compileTimers, htimers, compilesOf_compileTimers]
    exact h.timed
  · have hmem : t ∈ r.compileTimers := htimers ▸ List.mem_filter.mpr ⟨ht, hcompile⟩
    exact h.once t (List.mem_filter.mp hmem).1 hcompile

variable [Scalar α]

theorem host_performHost (r : Rig α) (x : HostEffect α) : (r.performHost x).host = r.host := by
  cases x with
  | send m =>
      obtain ⟨seen, h⟩ := broadcast_eq r m
      rw [show r.performHost (.send m) = _ from h]
  | arm id => rfl
  | disarm id => rfl
  | settled id outcome =>
      obtain ⟨ws, seen, h⟩ := settleCompile_eq r id outcome
      rw [show r.performHost (.settled id outcome) = _ from h]

/-- Timers are set and stopped as the render host asks. -/
theorem Clocked.performHost {r : Rig α} {ids : List String} (h : r.Clocked ids)
    (x : HostEffect α) : (r.performHost x).Clocked (x.timed ids) := by
  cases x with
  | send m =>
      obtain ⟨seen, heq⟩ := broadcast_eq r m
      exact (show r.performHost (.send m) = _ from heq) ▸ h.of_timers rfl
  | arm id =>
      have htimers : (r.performHost (.arm id)).agenda.timers = r.agenda.timers ++
          [⟨r.agenda.now + Agenda.delay r.setup.compileLimit, none, .compileLimit id⟩] := rfl
      refine ⟨?_, ?_⟩
      · rw [timedCompiles, htimers, compilesOf_append]
        exact congrArg (· ++ [id]) h.timed
      · intro t ht hcompile
        rw [htimers, List.mem_append] at ht
        rcases ht with ht | ht
        · exact h.once t ht hcompile
        · rw [List.mem_singleton.mp ht]
  | disarm id =>
      have htimers : (r.performHost (.disarm id)).agenda.timers =
          r.agenda.timers.filter fun t => !(t.act == .compileLimit id) := rfl
      refine ⟨?_, ?_⟩
      · rw [← h.timed, timedCompiles, timedCompiles, htimers, HostEffect.timed, compilesOf,
          compilesOf, List.filter_filterMap, List.filterMap_filter]
        refine List.filterMap_congr fun t _ => ?_
        cases hact : t.act with
        | compileLimit other =>
            by_cases heq : other = id <;> simp [Alarm.compile?, Option.filter, heq]
        | _ => simp [Alarm.compile?]
      · intro t ht hcompile
        rw [htimers] at ht
        exact h.once t (List.mem_filter.mp ht).1 hcompile
  | settled id outcome =>
      obtain ⟨ws, seen, heq⟩ := settleCompile_eq r id outcome
      exact (show r.performHost (.settled id outcome) = _ from heq) ▸ h.of_timers rfl

/-- What the render host asks for sets and stops timers in order; the host is the new one. -/
theorem Clocked.actHost {r : Rig α} {ids : List String} (h : r.Clocked ids)
    (step : Host × List (HostEffect α)) :
    (r.actHost step).host = step.1 ∧
      (r.actHost step).Clocked (step.2.foldl HostEffect.timed ids) := by
  have hfold (xs : List (HostEffect α)) {s : Rig α} {ids : List String} (hs : s.Clocked ids) :
      (xs.foldl Rig.performHost s).host = s.host ∧
        (xs.foldl Rig.performHost s).Clocked (xs.foldl HostEffect.timed ids) := by
    induction xs generalizing s ids with
    | nil => exact ⟨rfl, hs⟩
    | cons x xs ih =>
        obtain ⟨hhost, hclocked⟩ := ih (hs.performHost x)
        exact ⟨hhost.trans (host_performHost s x), hclocked⟩
  have hclocked : Clocked { r with host := step.1 } ids := h.of_timers rfl
  exact hfold step.2 hclocked

/-- If a step of the host agrees with the log, the rig that carries it out does. -/
theorem Clocked.ledger_actHost {r : Rig α} {ids : List String} (h : r.Clocked ids)
    {log : List (HostEffect α)} {step : Host × List (HostEffect α)}
    (hbooked : Host.Booked ids log step) :
    ∃ ids', (r.actHost step).host.Ledger ids' (log ++ step.2) ∧
      (r.actHost step).Clocked ids' := by
  obtain ⟨hhost, hclocked⟩ := h.actHost step
  exact ⟨_, hhost ▸ hbooked, hclocked⟩

/-- The timer of a compile that fires does not run any more. -/
theorem Clocked.fire? {r : Rig α} {ids : List String} (h : r.Clocked ids) (hids : ids.Nodup)
    {limit : α} {id : String} {agenda : Agenda α Alarm}
    (hfire : r.agenda.fire? limit = some (.compileLimit id, agenda)) :
    id ∈ ids ∧
      Clocked { r with agenda := agenda } (ids.filter fun other => decide (other ≠ id)) := by
  obtain ⟨ts, t, us, htimers, hact, -, hafter⟩ := Agenda.fire?_cases hfire
  have hcompile : t.act.compile? = some id := hact ▸ rfl
  have hgone : agenda.timers = ts ++ us := by
    rcases hafter with ⟨-, hgone⟩ | ⟨due, hperiod, -⟩
    · exact hgone
    · exact absurd (h.once t (by rw [htimers]; simp) (by simp [hcompile])) hperiod
  have hsplit : ids = compilesOf ts ++ id :: compilesOf us := by
    rw [← h.timed, timedCompiles, htimers, compilesOf_append, compilesOf_cons hcompile]
  have hnew := List.nodup_append.mp (hsplit ▸ hids)
  have hothers : ∀ other ∈ compilesOf ts ++ compilesOf us, other ≠ id := by
    intro other hother
    rcases List.mem_append.mp hother with hother | hother
    · exact hnew.2.2 other hother id List.mem_cons_self
    · rintro rfl
      exact (List.nodup_cons.mp hnew.2.1).1 hother
  refine ⟨by rw [hsplit]; simp, ?_, ?_⟩
  · have hkept : (compilesOf ts ++ compilesOf us).filter (fun other => decide (other ≠ id)) =
        compilesOf ts ++ compilesOf us :=
      List.filter_eq_self.mpr fun other hother => decide_eq_true (hothers other hother)
    rw [timedCompiles, hgone, compilesOf_append, ← hkept, hsplit, List.filter_append,
      List.filter_append, List.filter_cons_of_neg (by simp)]
  · intro u hu hcompiles
    refine h.once u ?_ hcompiles
    have hmem : u ∈ ts ++ us := hgone ▸ hu
    rw [htimers]
    rcases List.mem_append.mp hmem with hmem | hmem
    · exact List.mem_append_left _ hmem
    · exact List.mem_append_right _ (List.mem_cons_of_mem t hmem)

/-! ## Turns -/

/-- A rig gets to another with the same compiles and the same timers for them. -/
structure SameCompiles (r r' : Rig α) : Prop where
  pending : r'.host.pending = r.host.pending
  program : r'.host.program = r.host.program
  issued : r'.host.issued = r.host.issued
  timers : r'.compileTimers = r.compileTimers

/-- What can happen to compiles, at any time and in any order, and what the render host asks of
its surroundings then. -/
inductive Turn : Rig α → List (HostEffect α) → Rig α → Prop where
  | compile (r : Rig α) (caller : CompileCaller) (request : CompileRequest) :
      Turn r (r.host.compile r.reach request).2 (r.hostCompile caller request)
  /-- A reply arrives, from anybody and to anything. -/
  | reply (r : Rig α) (id : String) (success : Bool) (error : Option String) :
      Turn r ((r.host.reply id (Host.outcomeOf success error)).2.getD [])
        (r.takeReply id success error).1
  /-- The timer of a compile fires. -/
  | timeout {r : Rig α} {limit : α} {id : String} {agenda : Agenda α Alarm}
      (h : r.agenda.fire? limit = some (.compileLimit id, agenda)) :
      Turn r (r.host.expire id r.compileLimitText).2
        (Rig.ring { r with agenda := agenda } (.compileLimit id))
  | dispose (r : Rig α) : Turn r r.host.dispose.2 (r.actHost r.host.dispose)
  /-- Something else happens. -/
  | elsewhere {r r' : Rig α} (h : r.SameCompiles r') : Turn r [] r'

/-- What a rig can come to, with everything that its render host has asked of its surroundings. -/
inductive History : List (HostEffect α) → Rig α → Prop where
  | new (setup : Setup α) (disk : Disk) (receivers : Nat) :
      History [] (Rig.new setup disk receivers)
  | step {log xs : List (HostEffect α)} {r r' : Rig α} (h : History log r) (hturn : Turn r xs r') :
      History (log ++ xs) r'

/-- Every turn keeps the host and the timers in agreement with what is asked of their
surroundings. -/
theorem Turn.ledger {r r' : Rig α} {log xs : List (HostEffect α)} {ids : List String}
    (hturn : r.Turn xs r') (hl : r.host.Ledger ids log) (hc : r.Clocked ids) :
    ∃ ids', r'.host.Ledger ids' (log ++ xs) ∧ r'.Clocked ids' := by
  cases hturn with
  | compile caller request =>
      let r₁ : Rig α := { r with compiles := Keyed.put r.host.nextId caller r.compiles }
      have hsame : r₁.Clocked ids := hc.of_timers rfl
      exact hsame.ledger_actHost (hl.compile r.reach request)
  | reply id success error =>
      unfold takeReply
      rcases hreply : r.host.reply (α := α) id (Host.outcomeOf success error) with ⟨host, _ | ys⟩
      · rw [Option.getD_none, List.append_nil]
        exact ⟨ids, hl, hc⟩
      · exact hc.ledger_actHost (hl.reply hreply)
  | timeout hfire =>
      obtain ⟨hmem, hclocked⟩ := hc.fire? hl.nodup_timed hfire
      exact hclocked.ledger_actHost (hl.expire hmem r.compileLimitText)
  | dispose => exact hc.ledger_actHost hl.dispose
  | elsewhere hsame =>
      rw [List.append_nil]
      exact ⟨ids, hl.rest hsame.pending hsame.program hsame.issued, hc.of_timers hsame.timers⟩

/-- Whatever has happened, the host and the timers agree with what has been asked of their
surroundings. -/
theorem History.ledger {log : List (HostEffect α)} {r : Rig α} (h : History log r) :
    r.host.Ledger r.timedCompiles log ∧ r.Clocked r.timedCompiles := by
  induction h with
  | new setup disk receivers =>
      refine ⟨Host.ledger_initial, rfl, fun t ht => ?_⟩
      cases ht
  | step _ hturn ih =>
      obtain ⟨ids, hl, hc⟩ := hturn.ledger ih.1 ih.2
      rw [hc.timed]
      exact ⟨hl, hc⟩

/-- Whatever a rig does is made of turns. -/
theorem stable_history (log : List (HostEffect α)) :
    Stable fun r : Rig α => ∃ xs, History (log ++ xs) r := by
  have hstep {r r' : Rig α} {ys : List (HostEffect α)} (hturn : r.Turn ys r') :
      (∃ xs, History (log ++ xs) r) → ∃ xs, History (log ++ xs) r' := by
    rintro ⟨xs, h⟩
    refine ⟨xs ++ ys, ?_⟩
    rw [← List.append_assoc]
    exact h.step hturn
  constructor
  case rest =>
    intro r r' h hrest
    refine hstep (.elsewhere ⟨?_, ?_, ?_, hrest.timers⟩) h <;> rw [hrest.host]
  case compile => exact fun caller request => hstep (.compile _ caller request)
  case bench => exact fun request _ => hstep (.elsewhere ⟨rfl, rfl, rfl, rfl⟩)
  case reply => exact fun id success error => hstep (.reply _ id success error)
  case timeout => exact fun hfire => hstep (.timeout hfire)
  case toggle =>
    intro r name enabled
    obtain ⟨toggles, seen, heq⟩ := toggle_eq r name enabled
    rw [heq]
    exact hstep (.elsewhere ⟨rfl, rfl, rfl, rfl⟩)
  case present =>
    intro r values
    obtain ⟨seen, heq⟩ := present_eq r values
    rw [heq]
    exact hstep (.elsewhere ⟨rfl, rfl, rfl, rfl⟩)
  case capture =>
    intro r shader
    obtain ⟨seen, console, heq⟩ := requestCapture_eq r shader
    rw [heq]
    exact hstep (.elsewhere ⟨rfl, rfl, rfl, rfl⟩)

/-- A reply to a compile that nobody waits for is passed over. -/
theorem takeReply_eq_of_not_pending (r : Rig α) {id : String} (success : Bool)
    (error : Option String) (hid : id ∉ Keyed.keys r.host.pending) :
    r.takeReply id success error = (r, false) := by
  have hnone : Keyed.get? id r.host.pending = none := by
    rw [Option.eq_none_iff_forall_ne_some]
    exact fun request hget => hid (Keyed.mem_keys_iff.mpr ⟨request, hget⟩)
  rw [takeReply, Host.reply_of_not_pending _ _ _ hnone]

/-- Every compile ends once. Whatever has happened: no compile has ended twice, and however it has
ended, that stays so; the host waits for the compiles that have been announced and have not ended,
and a timer runs for each of them and for no other; a reply to anything else is not waited for and
changes nothing; and the program in use is that of the compile that succeeded last, so that a turn
in which none succeeds leaves it alone. -/
theorem compiles_settle_once {log : List (HostEffect α)} {r : Rig α} (h : History log r) :
    (Keyed.keys (Host.verdicts log)).Nodup ∧
      (∀ {xs : List (HostEffect α)} {r' : Rig α}, History (log ++ xs) r' →
        ∀ {id : String} {o o' : CompileOutcome}, (id, o) ∈ Host.verdicts log →
          (id, o') ∈ Host.verdicts (log ++ xs) → o' = o) ∧
      r.host.pending = Host.unsettled log ∧
      r.timedCompiles = Keyed.keys r.host.pending ∧
      (∀ id success error, id ∉ Keyed.keys r.host.pending →
        r.takeReply id success error = (r, false)) ∧
      r.host.program = Host.lastSuccess log ∧
      ∀ {xs : List (HostEffect α)} {r' : Rig α}, r.Turn xs r' →
        (∀ v ∈ Host.verdicts xs, v.2.isOk = false) → r'.host.program = r.host.program := by
  obtain ⟨hl, -⟩ := h.ledger
  refine ⟨hl.settledOnce, ?_, hl.pending, hl.timed, ?_, hl.program, ?_⟩
  · intro xs r' h' id o o' ho ho'
    have honce := h'.ledger.1.settledOnce
    have hmem : (id, o) ∈ Host.verdicts (log ++ xs) := by
      rw [Host.verdicts_append]
      exact List.mem_append_left _ ho
    exact congrArg Prod.snd (List.inj_on_of_nodup_map honce ho' hmem rfl)
  · exact fun id success error hid => r.takeReply_eq_of_not_pending success error hid
  · intro xs r' hturn hfailed
    rw [(h.step hturn).ledger.1.program, hl.lastSuccess_append hfailed, hl.program]

/-! ### Two compiles at a time -/

/-- The request of a program with a name. -/
def requestOf (name : String) : CompileRequest := ⟨name, .glsl, "void main()\x7b\x7d", []⟩

/-- A rig with two browsers that has asked them for two compiles. -/
def asking : Rig Float :=
  let setup : Setup Float :=
    { renderer := .channel, failures := [], captureRefusal := none, shaderDir := ["shaders"],
      presetDir := none, captureDir := none, errorLog := ["errors.jsonl"],
      captureDelay := 3000.0, compileLimit := 5000.0, pollInterval := 5000.0, busyPorts := [],
      start := ⟨0⟩ }
  ((Rig.new setup (.empty "home") 2).hostCompile (.outside 0) (requestOf "a")).hostCompile
    (.outside 1) (requestOf "b")

/-- The second of them has succeeded. -/
def overtaken : Rig Float := (asking.takeReply "id-2" true none).1

/-- The time of the first is over. -/
def overdue : Rig Float :=
  match overtaken.agenda.fire? 5000.0 with
  | some (alarm, agenda) => Rig.ring { overtaken with agenda := agenda } alarm
  | none => overtaken

/-- What the render host has asked of its surroundings meanwhile. -/
def overdueLog : List (HostEffect Float) :=
  [.arm "id-1", .send (.compile "id-1" (requestOf "a")), .arm "id-2",
    .send (.compile "id-2" (requestOf "b")), .disarm "id-2", .settled "id-2" (.ok ()),
    .settled "id-1" (.error "Compile of a timed out after 5000 ms")]

theorem history_overdue : History overdueLog overdue := by
  have hasked := ((History.new (α := Float) asking.setup (.empty "home") 2).step
    (.compile _ (.outside 0) (requestOf "a"))).step (.compile _ (.outside 1) (requestOf "b"))
  have hreplied : History _ overtaken := hasked.step (.reply asking "id-2" true none)
  have hfires : (overtaken.agenda.fire? 5000.0).map (·.1) = some (.compileLimit "id-1") := by
    decide +kernel
  obtain ⟨⟨alarm, agenda⟩, hfire, halarm⟩ := Option.map_eq_some_iff.mp hfires
  obtain rfl : alarm = .compileLimit "id-1" := halarm
  have htext : overtaken.compileLimitText = "5000" := by decide +kernel
  have hover := hreplied.step (.timeout hfire)
  have hring : overdue = Rig.ring { overtaken with agenda := agenda } (.compileLimit "id-1") := by
    rw [overdue, hfire]
  rw [htext, ← hring] at hover
  exact hover

/-- A compile has succeeded and another one has timed out. A late reply to that is not waited for,
and the program in use is that of the one that succeeded. -/
theorem compiles_settle_once_overdue :
    History overdueLog overdue ∧
      Host.verdicts overdueLog =
        [("id-2", .ok ()), ("id-1", .error "Compile of a timed out after 5000 ms")] ∧
      overdue.host.pending = [] ∧ overdue.timedCompiles = [] ∧
      overdue.takeReply "id-1" true none = (overdue, false) ∧
      overdue.host.program = some ⟨"id-2", requestOf "b"⟩ := by
  obtain ⟨-, -, hpending, htimed, hlate, hprogram, -⟩ := compiles_settle_once history_overdue
  have hnone : overdue.host.pending = [] := hpending.trans (by decide +kernel)
  have hkeys : Keyed.keys overdue.host.pending = [] := by rw [hnone]; rfl
  refine ⟨history_overdue, rfl, hnone, htimed.trans hkeys, hlate "id-1" true none ?_,
    hprogram.trans (by decide +kernel)⟩
  rw [hkeys]
  exact List.not_mem_nil

end Rig

end LiveVisuals
