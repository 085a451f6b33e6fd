import LiveVisuals.Proofs.Engine.Primitive
import LiveVisuals.Proofs.Files.Stamps
import LiveVisuals.Proofs.Rig.Rejection

/-!
# An engine and its shader directory

An engine at work on a directory that changes: scans show the directory as it is, and the source
of an activation is what the file holds when it is read. Changes, looks at the directory, scans
and everything else come in any order.

Main definitions:

- {lit}`Site`, {lit}`Site.Act`: an engine with its directory, and what can happen.
- {lit}`Site.run`: a site after some acts.
- {lit}`Site.Dated`: every change stamps a time later than all earlier ones.

Main results:

- Theorem {lit}`Site.exists_play`: the engine of a site is that of a performance.
- Theorem {lit}`Site.signature_le_clock`: no scan is later than the latest change.
- Theorem {lit}`Site.exists_signature_of_path`: sources are read only after a scan.
-/

namespace LiveVisuals

variable {α : Type}

namespace Engine

/-- Whether an event brings something from the shader directory. -/
def Event.readsFiles : Event α → Bool
  | .arrive _ (.source _) | .poll _ | .rescan _ | .scanned _ => true
  | _ => false

variable [Scalar α]

/-! ## Registries -/

/-- What comes for an activation leaves the registry and the flag of a reload alone. -/
theorem arrive_leaves (e : Engine α) (t : Ticket) (came : Arrival α) :
    (e.arrive t came).registry = e.registry ∧
      (e.arrive t came).session.reloadPending = e.session.reloadPending := by
  have hfinish : ∀ (e : Engine α) (a : Activation α) (o : Outcome α),
      (e.finish a o).registry = e.registry ∧
        (e.finish a o).session.reloadPending = e.session.reloadPending := by
    intro e a o
    simp [finish, noteAll_eq, emit]
  cases came with
  | turn =>
      simp only [arrive, resumed]
      split
      · split <;> simp [hfinish]
      · simp
  | source content =>
      simp only [arrive, sourceRead]
      split
      · split <;> simp [hfinish, emit, moveTo, noteAll_eq]
      · simp
  | program now outcome =>
      simp only [arrive, compiled]
      split
      · split
        · split
          · simp [hfinish]
          · simp [emit, moveTo]
        · simp [emit, moveTo, note]
        · simp
      · simp
  | record written =>
      simp only [arrive, recorded]
      split
      · split
        · cases written <;> simp [hfinish, note, emit]
        · simp
      · simp
  | preset saved =>
      simp only [arrive, presetLoaded]
      split
      · split
        · cases saved with
          | ok specs =>
              simp only
              split <;> simp [hfinish, install, Session.install, note, emit, mapSession]
          | error problem =>
              simp only
              split <;> simp [hfinish, install, Session.install, note, emit, mapSession]
        · simp
      · simp

/-- Primitive changes leave the registry alone. -/
theorem Primitive.registry {e e' : Engine α} (h : Primitive e e') : e'.registry = e.registry := by
  cases h with
  | session _ _ hrest => rw [hrest]
  | flag => rfl
  | reload =>
      unfold beginReload
      split <;> rfl
  | inbox => rfl
  | emit => rfl
  | activate purpose name =>
      unfold Engine.activate
      split <;> rfl
  | arrive t came => exact (arrive_leaves e t came).1

/-- The registry changes only when a scan is taken over. -/
theorem registry_step (e : Engine α) (x : Event α) :
    (e.step x).registry = (x.scan?.map e.registry.install).getD e.registry := by
  cases hx : x.scan? with
  | none =>
      exact step_keeps (P := fun e' => e'.registry = e.registry)
        (fun h he => h.registry.trans he) rfl hx
  | some s =>
      rcases step_of_scan e hx with hstep | ⟨-, b, -, hstep⟩
      · rw [hstep]
        rfl
      · rw [hstep, (Primitive.activate _ _ _).registry]
        rfl

/-- Before the first scan no shader is known, none has been found and none is active. -/
def Unscanned (e : Engine α) : Prop :=
  e.registry.signature = none → e.registry.descriptors = [] ∧
    (∀ a ∈ e.activations, a.stage.quest? = none) ∧ e.session.active = none

/-- An activation that has found no shader can only end. -/
theorem unscanned_arrive {e : Engine α} (h : e.Unscanned) (t : Ticket) (came : Arrival α) :
    (e.arrive t came).Unscanned := by
  intro hsignature
  rw [(arrive_leaves e t came).1] at hsignature ⊢
  obtain ⟨hdescriptors, hstages, hactive⟩ := h hsignature
  obtain ⟨xs, -, m⟩ := makes_arrive e t came
  have hflight : (∀ a ∈ (e.arrive t came).flight.activations, a.stage.quest? = none) ∧
      (e.arrive t came).flight.active = none := by
    have hstages' : ∀ a ∈ e.flight.activations, a.stage.quest? = none := hstages
    have hactive' : e.flight.active = none := hactive
    generalize (e.arrive t came).flight = g at m
    generalize e.flight = f at m hstages' hactive'
    generalize hl : some (t, came) = l at m
    cases m with
    | aside => exact ⟨hstages', hactive'⟩
    | ignored => exact ⟨hstages', hactive'⟩
    | missed => cases hl
    | begun => cases hl
    | @advanced a _ _ _ _ ha hadv _ =>
        have hnone := hstages' a ha
        generalize a.stage = s at hadv hnone
        cases hadv <;> cases hnone
    | @ended a _ o _ _ ha hends _ =>
        have hnone := hstages' a ha
        generalize a.stage = s at hends hnone
        cases hends with
        | notFound =>
            exact ⟨fun b hb => hstages' b (List.mem_of_mem_filter hb), by
              simpa [Flight.land, Outcome.shader?] using hactive'⟩
        | _ => cases hnone
  exact ⟨hdescriptors, hflight⟩

/-- Before the first scan events find no shader. -/
theorem unscanned_step {e : Engine α} (h : e.Unscanned) (x : Event α) : (e.step x).Unscanned := by
  cases hx : x.scan? with
  | some s =>
      intro hsignature
      rw [registry_step, hx] at hsignature
      cases hsignature
  | none =>
      refine step_keeps (fun {e e'} hprimitive h => ?_) h hx
      cases hprimitive with
      | session hactive _ hrest =>
          intro hsignature
          rw [hrest] at hsignature ⊢
          obtain ⟨hdescriptors, hstages, hnone⟩ := h hsignature
          exact ⟨hdescriptors, hstages, hactive.trans hnone⟩
      | flag => exact h
      | reload =>
          unfold beginReload
          split <;> exact h
      | inbox => exact h
      | emit => exact h
      | arrive t came => exact unscanned_arrive h t came
      | activate purpose name =>
          intro hsignature
          rw [(Primitive.activate e purpose name).registry] at hsignature ⊢
          obtain ⟨hdescriptors, hstages, hnone⟩ := h hsignature
          have hget : e.registry.get? name = none := by simp [Registry.get?, hdescriptors]
          have hsession := (spares_activate e purpose name).1
          rw [(activate_of_unknown e purpose hget).2, hsession]
          refine ⟨hdescriptors, fun a ha => ?_, hnone⟩
          rcases List.mem_append.mp ha with ha | ha
          · exact hstages a ha
          · rw [List.mem_singleton.mp ha]
            rfl

end Engine

/-! ## Sites -/

/-- An engine at work on a shader directory. -/
structure Site (α : Type) where
  play : Performance α
  /-- The shader directory. -/
  tree : Files.Node
  /-- The latest modification time that anything in the directory has had so far. -/
  clock : Nat

namespace Site

/-- What can happen at a site. -/
inductive Act (α : Type) where
  /-- The directory is changed from outside. -/
  | change (tree : Files.Node)
  /-- The watcher compares the directory with the last scan. -/
  | poll
  /-- The directory is scanned on request. -/
  | rescan
  /-- The directory is scanned for a reload. -/
  | reload
  /-- The source of an activation is read. -/
  | source (t : Ticket)
  /-- Something happens that has nothing to do with the directory. -/
  | other (x : Engine.Event α) (h : x.readsFiles = false)

/-- The engine of a site. -/
def engine (s : Site α) : Engine α := s.play.engine

/-- A scan of the directory as it is. -/
def scan (s : Site α) : Except Files.Error Scan :=
  Scan.ofNode s.engine.registry.root (.ok s.tree)

/-- What the file at a path holds. -/
def read (s : Site α) (path : String) : Except Files.Error String :=
  match Text.strip? (s.engine.registry.root ++ "/").toList path.toList with
  | some rest => s.tree.read (.ofString (String.ofList rest))
  | none => .error .notFound

/-- The path of the source that an activation waits for. -/
def pathOf? (s : Site α) (t : Ticket) : Option String :=
  match s.engine.activation? t with
  | some a =>
      match a.stage with
      | .reading q => some q.descriptor.path
      | _ => none
  | none => none

/-- What is read when the source of an activation is read. -/
def content (s : Site α) (t : Ticket) : Except Files.Error String :=
  match s.pathOf? t with
  | some path => s.read path
  | none => .error .notFound

/-- What an act is to the engine. A look or a scan on request that fails is nothing to it. -/
def event? (s : Site α) : Act α → Option (Engine.Event α)
  | .change _ => none
  | .poll => s.scan.toOption.map .poll
  | .rescan => s.scan.toOption.map .rescan
  | .reload => some (.scanned s.scan)
  | .source t => some (.arrive t (.source (s.content t)))
  | .other x _ => some x

/-- The directory after an act. -/
def treeAfter (s : Site α) : Act α → Files.Node
  | .change tree => tree
  | _ => s.tree

variable [Scalar α]

/-- A site after an act. -/
def step (s : Site α) (a : Act α) : Site α where
  play := ((s.event? a).map s.play.step).getD s.play
  tree := s.treeAfter a
  clock := max s.clock (s.treeAfter a).latest

/-- A site before anything has happened. -/
def start (root : String) (tree : Files.Node) : Site α := ⟨.start root, tree, tree.latest⟩

/-- A site after some acts. -/
def run (root : String) (tree : Files.Node) (as : List (Act α)) : Site α :=
  as.foldl step (start root tree)

@[simp] theorem run_concat (root : String) (tree : Files.Node) (as : List (Act α)) (a : Act α) :
    run root tree (as ++ [a]) = (run root tree as).step a := by
  simp [run]

/-- Every change stamps a modification time that is later than all earlier ones. -/
def Dated (root : String) (tree : Files.Node) (as : List (Act α)) : Prop :=
  ∀ us n vs, as = us ++ .change n :: vs → (run root tree us).clock < n.latest

variable {root : String} {tree : Files.Node}

/-- The engine of a site is that of a performance. -/
theorem exists_play (as : List (Act α)) :
    ∃ xs, (run root tree as).play = Performance.run root xs := by
  induction as using List.reverseRecOn with
  | nil => exact ⟨[], rfl⟩
  | append_singleton as a ih =>
      obtain ⟨xs, hxs⟩ := ih
      rw [run_concat]
      cases hevent : (run root tree as).event? a with
      | none => exact ⟨xs, by simp [step, hevent, hxs]⟩
      | some x => exact ⟨xs ++ [x], by simp [step, hevent, hxs]⟩

/-- What an engine keeps at every event, it keeps at every act. -/
theorem engine_step_keeps {P : Engine α → Prop} {s : Site α}
    (hP : ∀ x, P (s.engine.step x).dispatched) (h : P s.engine) (a : Act α) :
    P (s.step a).engine := by
  cases hevent : s.event? a with
  | none => simpa [step, engine, hevent] using h
  | some x => simpa [step, engine, hevent, Performance.step] using hP x

/-- The root of the registry is that of the site. -/
theorem root_run (as : List (Act α)) : (run root tree as).engine.registry.root = root := by
  induction as using List.reverseRecOn with
  | nil => rfl
  | append_singleton as a ih =>
      rw [run_concat]
      refine engine_step_keeps (P := fun e => e.registry.root = root) (fun x => ?_) ih a
      change ((run root tree as).engine.step x).registry.root = root
      rw [Engine.registry_step]
      cases x.scan? <;> exact ih

/-- Before the first scan of a site no shader has been found. -/
theorem unscanned_run (as : List (Act α)) : (run root tree as).engine.Unscanned := by
  induction as using List.reverseRecOn with
  | nil => exact fun _ => ⟨rfl, by simp [run, start, engine, Performance.start, Engine.new], rfl⟩
  | append_singleton as a ih =>
      rw [run_concat]
      exact engine_step_keeps (fun x => Engine.unscanned_step ih x) ih a

/-- Sources are read only after a scan. -/
theorem exists_signature_of_path {as : List (Act α)} {t : Ticket} {path : String}
    (h : (run root tree as).pathOf? t = some path) :
    ∃ sig, (run root tree as).engine.registry.signature = some sig := by
  cases hsignature : (run root tree as).engine.registry.signature with
  | some sig => exact ⟨sig, rfl⟩
  | none =>
      exfalso
      unfold pathOf? at h
      split at h
      · next a ha =>
          have hquest := (unscanned_run as hsignature).2.1 a (Engine.mem_of_activation? ha).1
          split at h
          · next q hs =>
              rw [hs] at hquest
              cases hquest
          · cases h
      · cases h

omit [Scalar α] in
/-- The scan that an act takes over is one of the directory as it is. -/
theorem scan_of_event {s : Site α} {a : Act α} {x : Engine.Event α} {sc : Scan}
    (hx : s.event? a = some x) (hsc : x.scan? = some sc) :
    s.scan = .ok sc ∧ (a = .rescan ∨ a = .reload) := by
  cases a with
  | change => cases hx
  | poll =>
      obtain ⟨sc', -, rfl⟩ := Option.map_eq_some_iff.mp hx
      cases hsc
  | rescan =>
      obtain ⟨sc', hsc', rfl⟩ := Option.map_eq_some_iff.mp hx
      cases hsc
      cases hscan : s.scan with
      | error e => simp [hscan, Except.toOption] at hsc'
      | ok sc'' => exact ⟨by simpa [hscan, Except.toOption] using hsc', .inl rfl⟩
  | reload =>
      cases hx
      cases hscan : s.scan with
      | error e => simp [hscan, Engine.Event.scan?] at hsc
      | ok sc' => exact ⟨by simpa [hscan, Engine.Event.scan?] using hsc, .inr rfl⟩
  | source t =>
      cases hx
      cases hsc
  | other y hy =>
      cases hx
      cases x <;> simp [Engine.Event.readsFiles, Engine.Event.scan?] at hy hsc

/-- The registry after an act: only scans change it. -/
theorem registry_step (s : Site α) (a : Act α) :
    (s.step a).engine.registry = s.engine.registry ∨
      ∃ sc, s.scan = .ok sc ∧ (a = .rescan ∨ a = .reload) ∧
        (s.step a).engine.registry = s.engine.registry.install sc := by
  cases hevent : s.event? a with
  | none => exact .inl (by simp [step, engine, hevent])
  | some x =>
      have hstep : (s.step a).engine.registry = (s.engine.step x).registry := by
        simp [step, engine, hevent, Performance.step, Engine.dispatched]
      rw [hstep, Engine.registry_step]
      cases hscan : x.scan? with
      | none => exact .inl rfl
      | some sc =>
          obtain ⟨hsc, ha⟩ := scan_of_event hevent hscan
          exact .inr ⟨sc, hsc, ha, rfl⟩

/-- A scan is replaced only by another. -/
theorem exists_signature_of_append (us : List (Act α)) {sig : Signature}
    (h : (run root tree us).engine.registry.signature = some sig) (vs : List (Act α)) :
    ∃ sig', (run root tree (us ++ vs)).engine.registry.signature = some sig' := by
  induction vs using List.reverseRecOn with
  | nil => exact ⟨sig, by rw [List.append_nil, h]⟩
  | append_singleton vs a ih =>
      obtain ⟨sig', hsig'⟩ := ih
      rw [← List.append_assoc, run_concat]
      rcases registry_step (run root tree (us ++ vs)) a with hregistry | ⟨sc, -, -, hregistry⟩
      · exact ⟨sig', by rw [hregistry, hsig']⟩
      · exact ⟨sc.signature, by rw [hregistry]; rfl⟩

/-- Neither the directory nor the last scan is later than the latest change. -/
theorem signature_le_clock (as : List (Act α)) :
    (run root tree as).tree.latest ≤ (run root tree as).clock ∧
      ∀ sig, (run root tree as).engine.registry.signature = some sig →
        sig.latest ≤ (run root tree as).clock := by
  induction as using List.reverseRecOn with
  | nil => exact ⟨Nat.le_refl _, fun sig hsig => by cases hsig⟩
  | append_singleton as a ih =>
      rw [run_concat]
      obtain ⟨htree, hsignature⟩ := ih
      refine ⟨Nat.le_max_right _ _, fun sig hsig => ?_⟩
      refine Nat.le_trans ?_ (Nat.le_max_left _ _)
      rcases registry_step (run root tree as) a with hregistry | ⟨sc, hsc, -, hregistry⟩
      · rw [hregistry] at hsig
        exact hsignature sig hsig
      · rw [hregistry] at hsig
        cases hsig
        rw [Scan.signature_of_ofNode hsc]
        exact htree

end Site

end LiveVisuals
