import LiveVisuals.Proofs.Engine.Origin

/-!
# What the watcher sees

A change of the directory is later than the last scan, so a look at the directory sees it and
flags a reload. The flag stays until a tick asks for the scan of the reload.

Main definitions:

- {lit}`Engine.Reloading`: a reload is flagged, or its scan has been asked for.
- {lit}`Site.Calm`: acts that change nothing in the directory.
- {lit}`Site.Unseen`: the last scan is older than the directory.
- {lit}`Site.Alert`: a reload is flagged, or its scan has been asked for in the later part of a
  run.

Main results:

- Theorem {lit}`Engine.reloading_step`: a flagged reload stays flagged until its scan is asked
  for.
- Theorem {lit}`Engine.scan_of_tick`: a tick asks for it.
- Theorem {lit}`Site.flagged_of_poll`: a look at an unseen change flags a reload.
- Theorem {lit}`Site.unseen_or_alert`: a change is unseen or has flagged a reload.
-/

namespace LiveVisuals

variable {α : Type} [Scalar α]

/-! ## Flagged reloads -/

namespace Engine

/-- A reload is flagged, or the scan for one has been asked for. -/
def Reloading (e : Engine α) : Prop := e.session.reloadPending = true ∨ .scan ∈ e.outbox

/-- What has been asked for is not taken back by primitive changes. -/
theorem Primitive.mem_outbox {e e' : Engine α} (h : Primitive e e') {x : Effect α}
    (hx : x ∈ e.outbox) : x ∈ e'.outbox := by
  cases h with
  | session _ _ hrest =>
      rw [hrest]
      exact hx
  | flag => exact hx
  | reload =>
      unfold beginReload
      split
      · exact List.mem_append_left _ hx
      · exact hx
  | inbox => exact hx
  | emit => exact List.mem_append_left _ hx
  | activate purpose name =>
      obtain ⟨xs, hout, -⟩ := makes_activate e purpose name
      exact hout ▸ List.mem_append_left xs hx
  | arrive t came =>
      obtain ⟨xs, hout, -⟩ := makes_arrive e t came
      exact hout ▸ List.mem_append_left xs hx

/-- When a reload begins, a flagged one has its scan asked for. -/
theorem scan_of_beginReload {e : Engine α} (h : e.Reloading) : .scan ∈ e.beginReload.outbox := by
  rcases h with hpending | hscan
  · simp [beginReload, hpending, emit]
  · exact (Primitive.reload e).mem_outbox hscan

/-- Primitive changes keep a flag or have a scan asked for. -/
theorem Primitive.reloading {e e' : Engine α} (h : Primitive e e') (he : e.Reloading) :
    e'.Reloading := by
  rcases he with hpending | hscan
  · cases h with
    | session _ hsame _ => exact .inl (hsame.trans hpending)
    | flag => exact .inl rfl
    | reload => exact .inr (scan_of_beginReload (.inl hpending))
    | inbox => exact .inl hpending
    | emit => exact .inl hpending
    | activate purpose name =>
        have hsession := (spares_activate e purpose name).1
        exact .inl (hsession ▸ hpending)
    | arrive t came => exact .inl ((arrive_leaves e t came).2.trans hpending)
  · exact .inr (h.mem_outbox hscan)

/-- A flagged reload stays flagged until its scan is asked for. -/
theorem reloading_step {e : Engine α} (h : e.session.reloadPending = true) (x : Event α) :
    (e.step x).Reloading := by
  cases hx : x.scan? with
  | none => exact step_keeps (fun hprimitive he => hprimitive.reloading he) (.inl h) hx
  | some s =>
      rcases step_of_scan e hx with hstep | ⟨-, b, -, hstep⟩
      · rw [hstep]
        exact .inl h
      · rw [hstep]
        exact (Primitive.activate _ _ _).reloading (.inl h)

/-- A tick has the scan of a flagged reload asked for. -/
theorem scan_of_tick {e : Engine α} (h : e.session.reloadPending = true) (dt : α) :
    .scan ∈ (e.step (.tick dt)).outbox := by
  have hkeeps : ∀ {e e' : Engine α}, Primitive e e' → .scan ∈ e.outbox → .scan ∈ e'.outbox :=
    fun hprimitive hscan => hprimitive.mem_outbox hscan
  have hheard : (e.drain.mapSession fun s => s.frameTick dt).Reloading :=
    heard_keeps (P := Reloading) (fun hprimitive he => hprimitive.reloading he) (.inl h) dt
  have hbegun := scan_of_beginReload hheard
  exact conclude_keeps hkeeps (resolved_keeps hkeeps hbegun) dt _

end Engine

/-! ## Changes -/

namespace Site

variable {root : String} {tree : Files.Node}

/-- Acts that change nothing in the directory. -/
def Calm (vs : List (Act α)) : Prop := ∀ n, .change n ∉ vs

omit [Scalar α] in
theorem Calm.of_append {us vs : List (Act α)} (h : Calm (us ++ vs)) : Calm us ∧ Calm vs :=
  ⟨fun n hn => h n (List.mem_append_left _ hn), fun n hn => h n (List.mem_append_right _ hn)⟩

omit [Scalar α] in
/-- Acts that are not calm have a last change. -/
theorem exists_last_change {vs : List (Act α)} (h : ¬ Calm vs) :
    ∃ us n ws, vs = us ++ .change n :: ws ∧ Calm ws := by
  induction vs using List.reverseRecOn with
  | nil => exact absurd (fun n hn => by cases hn) h
  | append_singleton vs a ih =>
      by_cases hchange : ∃ n, a = .change n
      · obtain ⟨n, rfl⟩ := hchange
        exact ⟨vs, n, [], rfl, fun m hm => by cases hm⟩
      · have hvs : ¬ Calm vs := by
          intro hcalm
          refine h fun n hn => ?_
          rcases List.mem_append.mp hn with hn | hn
          · exact hcalm n hn
          · exact hchange ⟨n, (List.mem_singleton.mp hn).symm⟩
        obtain ⟨us, n, ws, rfl, hws⟩ := ih hvs
        refine ⟨us, n, ws ++ [a], by simp, fun m hm => ?_⟩
        rcases List.mem_append.mp hm with hm | hm
        · exact hws m hm
        · exact hchange ⟨m, (List.mem_singleton.mp hm).symm⟩

omit [Scalar α] in
/-- A change is told apart from others if there are none. -/
theorem change_unique {us us' vs vs' : List (Act α)} {n n' : Files.Node} (hus : Calm us)
    (hvs : Calm vs) (h : us ++ .change n :: vs = us' ++ .change n' :: vs') :
    us = us' ∧ n = n' ∧ vs = vs' := by
  rcases List.append_eq_append_iff.mp h with ⟨ws, rfl, hws⟩ | ⟨ws, rfl, hws⟩
  · cases ws with
    | nil =>
        cases hws
        simp
    | cons w ws =>
        cases hws
        exact absurd (by simp) (hvs n')
  · cases ws with
    | nil =>
        cases hws
        simp
    | cons w ws =>
        cases hws
        exact absurd (by simp) (hus n')

/-- Without changes the directory stays as it is. -/
theorem tree_of_calm (us : List (Act α)) {vs : List (Act α)} (h : Calm vs) :
    (run root tree (us ++ vs)).tree = (run root tree us).tree := by
  induction vs using List.reverseRecOn with
  | nil => rw [List.append_nil]
  | append_singleton vs a ih =>
      rw [← List.append_assoc, run_concat, ← ih h.of_append.1]
      cases a with
      | change n => exact absurd (by simp) (h n)
      | _ => rfl

theorem root_eq (root : String) (tree : Files.Node) (as bs : List (Act α)) :
    (run root tree as).engine.registry.root = (run root tree bs).engine.registry.root :=
  (root_run as).trans (root_run bs).symm

/-- Without changes scans find the same. -/
theorem scan_of_calm (us : List (Act α)) {vs : List (Act α)} (h : Calm vs) :
    (run root tree (us ++ vs)).scan = (run root tree us).scan := by
  rw [scan, scan, tree_of_calm us h, root_eq root tree (us ++ vs) us]

/-- Without changes files hold the same. -/
theorem read_of_calm (us : List (Act α)) {vs : List (Act α)} (h : Calm vs) (path : String) :
    (run root tree (us ++ vs)).read path = (run root tree us).read path := by
  rw [read, read, tree_of_calm us h, root_eq root tree (us ++ vs) us]

/-! ## Looks at the directory -/

/-- The last scan is older than the directory. -/
def Unseen (s : Site α) : Prop :=
  ∃ sig, s.engine.registry.signature = some sig ∧ sig.latest < s.tree.latest

omit [Scalar α] in
/-- A scan of the directory tells its latest modification time. -/
theorem latest_of_scan {s : Site α} {sc : Scan} (h : s.scan = .ok sc) :
    sc.signature.latest = s.tree.latest :=
  Scan.signature_of_ofNode h

/-- A change is not seen before there has been a look at it. -/
theorem unseen_of_change {us : List (Act α)} {n : Files.Node} {sig : Signature}
    (hsig : (run root tree us).engine.registry.signature = some sig)
    (hdated : (run root tree us).clock < n.latest) :
    (run root tree (us ++ [.change n])).Unseen := by
  rw [run_concat]
  have hle := (signature_le_clock us).2 sig hsig
  exact ⟨sig, hsig, Nat.lt_of_le_of_lt hle hdated⟩

/-- A look at an unseen change flags a reload. -/
theorem flagged_of_poll {s : Site α} {sc : Scan} (hunseen : s.Unseen) (hsc : s.scan = .ok sc) :
    (s.step .poll).engine.session.reloadPending = true := by
  obtain ⟨sig, hsig, hlt⟩ := hunseen
  have hne : sig ≠ sc.signature := by
    intro heq
    rw [← latest_of_scan hsc, heq] at hlt
    exact Nat.lt_irrefl _ hlt
  have hchanged : s.engine.registry.changed sc = true := by
    simp [Registry.changed, hsig, hne]
  have hevent : s.event? .poll = some (.poll sc) := by
    simp [event?, hsc, Except.toOption]
  have hstep : (s.step .poll).engine = (s.engine.poll sc).1.dispatched := by
    simp [step, engine, hevent, Performance.step, Engine.step]
  rw [hstep, Engine.poll, if_pos hchanged]
  rfl

/-- Without scans a change stays unseen. -/
theorem Unseen.step {s : Site α} (h : s.Unseen) {a : Act α} (hchange : ∀ n, a ≠ .change n)
    (hrescan : a ≠ .rescan) (hreload : a ≠ .reload) : (s.step a).Unseen := by
  have htree : (s.step a).tree = s.tree := by
    cases a with
    | change n => exact absurd rfl (hchange n)
    | _ => rfl
  have hregistry : (s.step a).engine.registry = s.engine.registry := by
    rcases registry_step s a with hsame | ⟨-, -, ha, -⟩
    · exact hsame
    · rcases ha with ha | ha
      · exact absurd ha hrescan
      · exact absurd ha hreload
  rw [Unseen, htree, hregistry]
  exact h

/-- The scan of a reload has been asked for in the later part of a run. -/
def Asks (root : String) (tree : Files.Node) (us vs : List (Act α)) : Prop :=
  ∃ xs, (run root tree (us ++ vs)).play.asked = (run root tree us).play.asked ++ xs ∧ .scan ∈ xs

/-- A reload is flagged after a run, or its scan has been asked for in the later part. -/
def Alert (root : String) (tree : Files.Node) (us vs : List (Act α)) : Prop :=
  (run root tree (us ++ vs)).engine.session.reloadPending = true ∨ Asks root tree us vs

/-- What has been asked for is never taken back. -/
theorem asked_prefix (root : String) (tree : Files.Node) (us vs : List (Act α)) :
    (run root tree us).play.asked <+: (run root tree (us ++ vs)).play.asked := by
  induction vs using List.reverseRecOn with
  | nil => simp
  | append_singleton vs a ih =>
      rw [← List.append_assoc, run_concat]
      refine ih.trans ?_
      cases hevent : (run root tree (us ++ vs)).event? a with
      | none => simp [step, hevent]
      | some x => simp [step, hevent, Performance.step]

theorem Asks.concat {us vs : List (Act α)} (h : Asks root tree us vs) (a : Act α) :
    Asks root tree us (vs ++ [a]) := by
  obtain ⟨xs, hxs, hscan⟩ := h
  obtain ⟨ys, hys⟩ := asked_prefix root tree (us ++ vs) [a]
  refine ⟨xs ++ ys, ?_, List.mem_append_left ys hscan⟩
  rw [← List.append_assoc, ← hys, hxs, List.append_assoc]

/-- A scan that an act asks for has been asked for. -/
theorem asks_of_outbox {us vs : List (Act α)} {a : Act α} {x : Engine.Event α}
    (hevent : (run root tree (us ++ vs)).event? a = some x)
    (hscan : .scan ∈ ((run root tree (us ++ vs)).engine.step x).outbox) :
    Asks root tree us (vs ++ [a]) := by
  obtain ⟨xs, hxs⟩ := asked_prefix root tree us vs
  refine ⟨xs ++ ((run root tree (us ++ vs)).engine.step x).outbox, ?_,
    List.mem_append_right xs hscan⟩
  rw [← List.append_assoc, run_concat, ← List.append_assoc, hxs]
  simp [step, hevent, Performance.step, engine]

/-- A flagged reload stays flagged until its scan is asked for. -/
theorem Alert.concat {us vs : List (Act α)} (h : Alert root tree us vs) (a : Act α) :
    Alert root tree us (vs ++ [a]) := by
  rcases h with hpending | hasks
  · cases hevent : (run root tree (us ++ vs)).event? a with
    | none =>
        left
        rw [← List.append_assoc, run_concat]
        simpa [step, engine, hevent] using hpending
    | some x =>
        rcases Engine.reloading_step hpending x with hflag | hscan
        · left
          rw [← List.append_assoc, run_concat]
          simpa [step, engine, hevent, Performance.step, Engine.dispatched] using hflag
        · exact .inr (asks_of_outbox hevent hscan)
  · exact .inr (hasks.concat a)

/-- A tick has the scan of a flagged reload asked for. -/
theorem Alert.tick {us vs : List (Act α)} (h : Alert root tree us vs) (dt : α) :
    Asks root tree us (vs ++ [.other (.tick dt) rfl]) := by
  rcases h with hpending | hasks
  · exact asks_of_outbox rfl (Engine.scan_of_tick hpending dt)
  · exact hasks.concat _

/-- As long as no reload has come, a change is unseen or has flagged a reload, if the watcher looks
at it before it is scanned on request. -/
theorem unseen_or_alert {us vs : List (Act α)} {sc : Scan} (hunseen : (run root tree us).Unseen)
    (hsc : (run root tree us).scan = .ok sc) (hcalm : Calm vs) (hreload : .reload ∉ vs)
    (hrescan : ∀ ws zs, vs = ws ++ .rescan :: zs → .poll ∈ ws ∨ .reload ∈ ws) :
    ((run root tree (us ++ vs)).Unseen ∧ .poll ∉ vs) ∨ Alert root tree us vs := by
  induction vs using List.reverseRecOn with
  | nil =>
      rw [List.append_nil]
      exact .inl ⟨hunseen, by simp⟩
  | append_singleton vs a ih =>
      have hreloads : .reload ∉ vs := fun h => hreload (List.mem_append_left _ h)
      have ha : .reload ≠ a := fun h => hreload (by simp [h])
      have hcalms := hcalm.of_append
      have hprior := ih hcalms.1 hreloads fun ws zs h => hrescan ws (zs ++ [a]) (by simp [h])
      rcases hprior with ⟨hunseen, hpoll⟩ | halert
      · have hscan : (run root tree (us ++ vs)).scan = .ok sc := by
          rw [scan_of_calm us hcalms.1, hsc]
        by_cases hlook : a = .poll
        · subst hlook
          right
          left
          rw [← List.append_assoc, run_concat]
          exact flagged_of_poll hunseen hscan
        · left
          have hscans : a ≠ .rescan := by
            rintro rfl
            rcases hrescan vs [] rfl with h | h
            · exact hpoll h
            · exact hreloads h
          have hchange : ∀ n, a ≠ .change n := fun n h => hcalm n (by simp [h])
          rw [← List.append_assoc, run_concat]
          refine ⟨hunseen.step hchange hscans ha.symm, ?_⟩
          simpa [hpoll] using Ne.symm hlook
      · exact .inr (halert.concat a)

end Site

end LiveVisuals
