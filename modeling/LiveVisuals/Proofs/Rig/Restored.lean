import LiveVisuals.Proofs.Binding.Saved
import LiveVisuals.Proofs.Engine.Residue
import LiveVisuals.Proofs.Files.Frame
import LiveVisuals.Proofs.Rig.Act
import LiveVisuals.Rig.Operation

/-!
# Saved bindings come back

The bindings of the active shader are those that it was installed with and the edits since then,
so they are settled, however they came about. When they are saved and the shader is activated
again, be it after whatever else the engine has done in between, they are there again in the
same order. They all count as asked for by a person then. A saved table without bindings counts
as nothing, and the shader starts with derived ones.

Main definitions:

- {lit}`Rig.AtWork`: the engine of a rig is that of a performance.
- {lit}`Rig.Keeps`: a rig gets to another, and a file is left alone.

Main results:

- Theorem {lit}`Performance.settled_run`: the bindings of an active shader are settled.
- Theorem {lit}`Rig.disk_act`: whatever the engine asks for, the disk is left alone.
- Theorem {lit}`Rig.shows_of_saved`: a shader starts with what was saved for it.
- Theorem {lit}`Rig.saved_bindings_return`: saved bindings come back.
- Theorem {lit}`Rig.cleared_bindings_return`: bindings do not stay cleared.
-/

namespace LiveVisuals

/-! ## Bindings of an active shader -/

namespace BindingTable

/-- The bindings that a shader starts with are settled. -/
theorem settled_restored (t : Transpiled Float)
    (saved : Except PresetError (Option (List (BindingSpec Float)))) :
    (restored t saved).Settled := by
  unfold restored
  split <;> exact settled_empty.addAll _ _

/-- Cues keep a table settled. -/
theorem Settled.playAll {t : BindingTable Float} (h : t.Settled) (u : UniformSet Float)
    (cs : List (Cue Float)) : (Cue.playAll u t cs).1.Settled := by
  have hedits (xs : List (Edit Float)) {t : BindingTable Float} (h : t.Settled) :
      (xs.foldl BindingTable.edit t).Settled := by
    induction xs generalizing t with
    | nil => exact h
    | cons x xs ih => exact ih (h.edit x)
  exact (hedits _ h).of_plain (Cue.plain_playAll u rfl cs)

end BindingTable

namespace Engine

/-- The bindings of the active shader, if there is one, are settled. -/
def ActiveSettled (e : Engine Float) : Prop :=
  ∀ b, e.session.active = some b → e.session.bindings.Settled

/-- An event keeps the bindings of the active shader settled. -/
theorem ActiveSettled.step {e : Engine Float} (hout : e.outbox = []) (h : e.ActiveSettled)
    (x : Event Float) : (e.step x).ActiveSettled := by
  intro b hb
  rcases plays_step e x with hplays | ⟨t, came, r, b', -, hr, -, ho⟩
  · rw [hplays.active] at hb
    rw [hplays.bindings b hb]
    exact (h b hb).playAll _ _
  · have hinstalls : b' ∈ Effect.installs (e.step x).outbox :=
      List.mem_filterMap.mpr ⟨r, List.mem_filterMap.mpr ⟨_, hr, rfl⟩, by rw [ho]; rfl⟩
    obtain ⟨u, saved, -, hshows⟩ := install_of_step hout hinstalls
    rw [hshows.2]
    exact BindingTable.settled_restored _ _

/-- An activation that is the newest when it gets to its saved bindings shows its shader with the
bindings that it starts with, whatever became of loading them. -/
theorem shows_of_restoring {α : Type} [Scalar α] {e : Engine α} {t : Ticket} {a : Activation α}
    (ha : e.activation? t = some a) {q : Quest} {p : Transpiled α}
    (hstage : a.stage = .restoring q p) (hnewest : e.isOutdated q = false)
    (saved : Except PresetError (Option (List (BindingSpec α)))) :
    (e.presetLoaded t saved).Shows ⟨q.descriptor, p, q.generation⟩ saved := by
  have hinstall (e : Engine α) {specs : Option (List (BindingSpec α))}
      (hspecs : Session.freshBindings p specs = .restored p saved) :
      (e.install a ⟨q.descriptor, p, q.generation⟩ specs).Shows ⟨q.descriptor, p, q.generation⟩
        saved := by
    rw [Shows, install, session_finish]
    exact ⟨rfl, hspecs⟩
  unfold presetLoaded
  rw [ha]
  simp only [hstage]
  cases saved with
  | ok specs =>
      simp only [hnewest, Bool.false_eq_true, if_false]
      refine hinstall e ?_
      rcases specs with _ | _ | ⟨spec, specs⟩ <;> rfl
  | error problem =>
      have hnewest' (n : Notice) : (e.note n).isOutdated q = false := hnewest
      simp only [hnewest', Bool.false_eq_true, if_false]
      exact hinstall _ rfl

end Engine

namespace Performance

/-- The bindings of an active shader are settled, whatever has happened. -/
theorem settled_run (shaderRoot : String) (xs : List (Engine.Event Float)) :
    (run shaderRoot xs).engine.ActiveSettled := by
  induction xs using List.reverseRecOn with
  | nil =>
      intro b hb
      cases hb
  | append_singleton xs x ih =>
      rw [run_concat]
      exact ih.step (outbox_run shaderRoot xs) x

end Performance

namespace Rig

/-! ## The disk is left alone -/

section

variable {α : Type} [Scalar α]

theorem disk_performHost (r : Rig α) (x : HostEffect α) : (r.performHost x).disk = r.disk := by
  cases x with
  | send m =>
      obtain ⟨seen, h⟩ := broadcast_eq r m
      rw [show r.performHost (.send m) = _ from h]
  | arm id => rfl
  | disarm id => rfl
  | settled id outcome =>
      obtain ⟨ws, seen, h⟩ := settleCompile_eq r id outcome
      rw [show r.performHost (.settled id outcome) = _ from h]

/-- Whatever the render host does, the disk is left alone. -/
theorem disk_actHost (r : Rig α) (step : Host × List (HostEffect α)) :
    (r.actHost step).disk = r.disk := by
  have hfold (xs : List (HostEffect α)) (r : Rig α) :
      (xs.foldl performHost r).disk = r.disk := by
    induction xs generalizing r with
    | nil => rfl
    | cons x xs ih => exact (ih _).trans (disk_performHost r x)
  exact hfold step.2 _

/-- Carrying out an effect leaves the disk alone. -/
theorem disk_perform (r : Rig α) (x : Effect α) : (r.perform x).disk = r.disk := by
  have hqueue (w : Work) : (r.queue w).disk = r.disk := by
    obtain ⟨atOnce, onFiles, onTrees, h⟩ := queue_eq r w
    rw [h]
  cases x with
  | notice n => rfl
  | resume t => exact hqueue (.resume t)
  | readSource t path => exact hqueue (.readSource t path)
  | compile t request =>
      change (r.startCompile t request).disk = _
      unfold startCompile
      split
      · rfl
      · exact disk_actHost _ _
      · exact disk_actHost _ _
  | record t record => exact hqueue (.record t record)
  | loadPreset t shader => exact hqueue (.loadPreset t shader)
  | scan => exact hqueue .scan
  | present values =>
      obtain ⟨seen, h⟩ := present_eq r values
      rw [show r.perform (.present values) = _ from h]
  | toggle name enabled =>
      obtain ⟨toggles, seen, h⟩ := toggle_eq r name enabled
      rw [show r.perform (.toggle name enabled) = _ from h]
  | scheduleCapture shader =>
      obtain ⟨capture, agenda, h⟩ := scheduleCapture_eq r shader
      rw [show r.perform (.scheduleCapture shader) = _ from h]
  | finished f => rfl

/-- Whatever the engine asks for, the disk is left alone. -/
theorem disk_act (r : Rig α) (f : Engine α → Engine α) : (r.act f).disk = r.disk := by
  have hfold (xs : List (Effect α)) (r : Rig α) : (xs.foldl perform r).disk = r.disk := by
    induction xs generalizing r with
    | nil => rfl
    | cons x xs ih => exact (ih _).trans (disk_perform r x)
  exact hfold _ _

/-! ## What goes on after bindings were saved -/

/-- The engine of a rig is that of a performance, between two events. -/
def AtWork (r : Rig α) : Prop :=
  ∃ shaderRoot xs, r.engine = (Performance.run shaderRoot xs).engine

/-- A rig gets to another with the same place for saved bindings and with the same content of a
file. -/
structure Keeps (file : Files.Path) (r r' : Rig α) : Prop where
  dir : r'.setup.presetDir = r.setup.presetDir
  content : r'.disk.read file = r.disk.read file

omit [Scalar α] in
theorem Keeps.refl (file : Files.Path) (r : Rig α) : r.Keeps file r := ⟨rfl, rfl⟩

/-- Whatever happens to the engine, files are kept. -/
theorem Keeps.events {file : Files.Path} {r r' : Rig α} (h : r.Keeps file r')
    (xs : List (Engine.Event α)) : r.Keeps file (xs.foldl (fun r x => r.act (·.step x)) r') := by
  induction xs generalizing r' with
  | nil => exact h
  | cons x xs ih =>
      have hsetup : (r'.act (·.step x)).setup = r'.setup := (foldl_perform_eq _ _).1
      refine ih ⟨?_, ?_⟩
      · rw [hsetup, h.dir]
      · rw [disk_act, h.content]

/-- What it takes to save bindings, and what comes of it. -/
theorem saveBindings_eq_ok {r r' : Rig α} {path : String} (h : r.saveBindings = (r', .ok path)) :
    ∃ shader dir disk, r.engine.session.activeName? = some shader ∧
      r.setup.presetDir = some dir ∧
      r.disk.savePreset dir shader r.now
        (r.engine.session.bindings.toList.map (·.toBindingSpec)) = (disk, .ok path) ∧
      r' = { r with disk := disk } := by
  unfold saveBindings Engine.toSave? at h
  cases hshader : r.engine.session.activeName? with
  | none =>
      rw [hshader] at h
      cases h
  | some shader =>
      rw [hshader] at h
      cases hdir : r.setup.presetDir with
      | none =>
          rw [hdir] at h
          cases h
      | some dir =>
          rw [hdir] at h
          simp only [Option.map_some] at h
          cases hsave : r.disk.savePreset dir shader r.now
              (r.engine.session.bindings.toList.map (·.toBindingSpec)) with
          | mk disk written =>
              rw [hsave] at h
              cases written with
              | error e => cases h
              | ok written =>
                  cases h
                  exact ⟨shader, dir, disk, rfl, rfl, hsave, rfl⟩

end

/-- A shader whose bindings have been saved starts with what was saved, if its activation is the
newest when it gets there and the file is as it was. -/
theorem shows_of_saved {r r₁ r₂ : Rig Float} {path : String}
    (hsave : r.saveBindings = (r₁, .ok path))
    (hstorable : ∀ b ∈ r.engine.session.bindings.toList, b.toBindingSpec.Storable)
    (hjson : ∀ b ∈ r.engine.session.bindings.toList, ∀ x ∈ b.numbers,
      Scalar.isFinite x = true → (Json.num x).ReadsBack)
    {dir : Files.Path} (hdir : r.setup.presetDir = some dir) {t : Ticket} {a : Activation Float}
    {q : Quest} {p : Transpiled Float}
    (hshader : r.engine.session.activeName? = some q.descriptor.name)
    (hkept : r₁.Keeps (Preset.fileFor dir q.descriptor.name) r₂)
    (ha : r₂.engine.activation? t = some a) (hstage : a.stage = .restoring q p)
    (hnewest : r₂.engine.isOutdated q = false) :
    (r₂.work (.loadPreset t q.descriptor.name)).engine.Shows ⟨q.descriptor, p, q.generation⟩
      (.ok (some (r.engine.session.bindings.toList.map (·.toBindingSpec)))) := by
  obtain ⟨shader, dir', disk, hshader', hdir', hpreset, rfl⟩ := saveBindings_eq_ok hsave
  obtain rfl : q.descriptor.name = shader := Option.some.inj (hshader.symm.trans hshader')
  obtain rfl : dir = dir' := Option.some.inj (hdir.symm.trans hdir')
  have hload : r₂.savedBindings q.descriptor.name =
      .ok (some (r.engine.session.bindings.toList.map (·.toBindingSpec))) := by
    have hspecs : ∀ s ∈ r.engine.session.bindings.toList.map (·.toBindingSpec), s.Storable ∧
        ∀ x ∈ s.numbers, (Json.num x).ReadsBack := by
      intro s hs
      obtain ⟨b, hb, rfl⟩ := List.mem_map.mp hs
      have hstored := hstorable b hb
      exact ⟨hstored, fun x hx => hjson b hb x hx (hstored.finite x hx)⟩
    have hdir₂ : r₂.setup.presetDir = some dir := hkept.dir.trans hdir
    rw [savedBindings, hdir₂]
    exact Disk.load_of_savePreset (fun s hs => (hspecs s hs).1) (fun s hs => (hspecs s hs).2)
      hpreset hkept.content
  have hwork : r₂.work (.loadPreset t q.descriptor.name) =
      r₂.act (·.presetLoaded t (r₂.savedBindings q.descriptor.name)) := rfl
  rw [hwork, engine_act, hload]
  exact Engine.shows_of_restoring ha hstage hnewest _

/-- Saved bindings come back. Once they have been saved, an activation of the same shader that is
the newest when it gets to what was saved, with the file as it was, installs the shader, and the
bindings are there again in the same order. They all count as asked for by a person then. If no
bindings were left to save, the shader starts with those that are derived from its inputs. -/
theorem saved_bindings_return {r r₁ r₂ : Rig Float} (hwork : r.AtWork) {path : String}
    (hsave : r.saveBindings = (r₁, .ok path))
    (hstorable : ∀ b ∈ r.engine.session.bindings.toList, b.toBindingSpec.Storable)
    (hjson : ∀ b ∈ r.engine.session.bindings.toList, ∀ x ∈ b.numbers,
      Scalar.isFinite x = true → (Json.num x).ReadsBack)
    {dir : Files.Path} (hdir : r.setup.presetDir = some dir) {t : Ticket} {a : Activation Float}
    {q : Quest} {p : Transpiled Float}
    (hshader : r.engine.session.activeName? = some q.descriptor.name)
    (hkept : r₁.Keeps (Preset.fileFor dir q.descriptor.name) r₂)
    (ha : r₂.engine.activation? t = some a) (hstage : a.stage = .restoring q p)
    (hnewest : r₂.engine.isOutdated q = false) :
    let table := r.engine.session.bindings
    let session := (r₂.work (.loadPreset t q.descriptor.name)).engine.session
    session.active = some ⟨q.descriptor, p, q.generation⟩ ∧
      (table.toList ≠ [] →
        session.bindings.toList = table.toList.map fun b => { b with origin := .explicit }) ∧
      (table.toList = [] →
        session.bindings = BindingTable.empty.addAll (AutoBind.derive p.inputs) .auto) := by
  intro table session
  have hsettled : table.Settled := by
    obtain ⟨active, hactive, -⟩ := Option.map_eq_some_iff.mp hshader
    obtain ⟨shaderRoot, xs, hengine⟩ := hwork
    have hrun := Performance.settled_run shaderRoot xs
    rw [← hengine] at hrun
    exact hrun active hactive
  obtain ⟨hactive, hbindings⟩ :=
    shows_of_saved hsave hstorable hjson hdir hshader hkept ha hstage hnewest
  refine ⟨hactive, ?_, ?_⟩
  · intro hne
    have hrestored : BindingTable.restored p (.ok (some (table.toList.map (·.toBindingSpec)))) =
        BindingTable.empty.addAll (table.toList.map (·.toBindingSpec)) .explicit := by
      cases hlist : table.toList with
      | nil => exact absurd hlist hne
      | cons b bs => rfl
    have hadded : session.bindings =
        BindingTable.empty.addAll (table.toList.map (·.toBindingSpec)) .explicit :=
      hbindings.trans hrestored
    rw [hadded]
    exact hsettled.toList_addAll .explicit
  · intro hnone
    have hrestored : session.bindings =
        .restored p (.ok (some (table.toList.map (·.toBindingSpec)))) := hbindings
    rw [hrestored, hnone]
    rfl

/-! ### A shader with one binding -/

/-- A shader with an input that is bound by its name. -/
def waves : Descriptor := ⟨"a", "shaders/a.fs", "a.fs", .isf⟩

/-- The source of that shader. -/
def wavesSource : String :=
  "/*\x7b\"INPUTS\":[\x7b\"NAME\":\"speed\",\"TYPE\":\"float\"\x7d]\x7d*/"

/-- What happens to an activation of that shader until it waits for its saved bindings. -/
def approach (t : Ticket) : List (Engine.Event Float) :=
  [.activate .activation "a", .arrive t (.source (.ok wavesSource)),
    .arrive t (.program ⟨0⟩ (.ok ()))]

/-- A rig with an empty disk whose engine shows that shader, after something else. -/
def showing (x : Engine.Event Float) : Rig Float :=
  let setup : Setup Float :=
    { renderer := .bench, failures := [], captureRefusal := none, shaderDir := ["shaders"],
      presetDir := some ["bindings"], captureDir := none, errorLog := ["errors.jsonl"],
      captureDelay := 0.0, compileLimit := 0.0, pollInterval := 0.0, busyPorts := [],
      start := ⟨0⟩ }
  let scan : Scan := { descriptors := [waves], signature := .missing }
  let events := .rescan scan :: approach 0 ++ [.arrive 0 (.preset (.ok none)), x]
  { Rig.new setup (.empty "") 0 with engine := (Performance.run "shaders" events).engine }

/-- The bindings of a rig are saved, and its shader is activated again. -/
def revisited (r : Rig Float) : Rig Float :=
  (approach 1).foldl (fun r x => r.act (·.step x)) r.saveBindings.1

/-- The file of that shader. -/
theorem fileFor_waves : Preset.fileFor ["bindings"] "a" = ["bindings", "a.json"] := by
  have hname : FileName.safe "a" ++ ".json" = "a.json" := by decide
  rw [Preset.fileFor, hname,
    Files.Path.join_of_name _ (by decide) (by decide) (by decide) (by decide)]
  rfl

/-- The bindings of that shader can be saved. -/
theorem saveBindings_showing {x : Engine.Event Float}
    (h : (showing x).engine.session.activeName? = some "a") :
    (showing x).saveBindings.2 = .ok "/bindings/a.json" := by
  have hsaved : (showing x).engine.toSave? =
      some ("a", (showing x).engine.session.bindings.toList.map (·.toBindingSpec)) := by
    rw [Engine.toSave?, h]
    rfl
  have hdir : (showing x).setup.presetDir = some ["bindings"] := rfl
  rw [saveBindings, hsaved, hdir]
  simp only [Disk.savePreset, fileFor_waves]
  rfl

/-- Nothing that happens until the shader waits for its saved bindings touches them. -/
theorem keeps_revisited (file : Files.Path) (r : Rig Float) :
    r.saveBindings.1.Keeps file (revisited r) :=
  (Keeps.refl file _).events (approach 1)

/-- The shader with a derived binding, and with another one that was asked for. -/
def bound : Rig Float := showing (.addBinding ⟨"x", "bass", "add", 2.0, 0.5, 0.0, 1.0, -1.0⟩)

theorem activation?_revisited_bound : (revisited bound).engine.activation? 1 =
    some ⟨1, "a", .activation, .restoring ⟨2, waves⟩ (.ofSource .isf wavesSource)⟩ := by
  rfl

/-- A binding that was derived and one that was asked for are there again. -/
theorem saved_bindings_return_of_bound :
    let derived : BindingSpec Float := ⟨"speed", "energy_fast", "multiply", 1.0, 0.6, 1.0, 0.0, 4.0⟩
    let added : BindingSpec Float := ⟨"x", "bass", "add", 2.0, 0.5, 0.0, -1.0, 1.0⟩
    bound.engine.session.bindings.toList = [⟨derived, .auto⟩, ⟨added, .explicit⟩] ∧
      ((revisited bound).work (.loadPreset 1 "a")).engine.session.bindings.toList =
        [⟨derived, .explicit⟩, ⟨added, .explicit⟩] := by
  intro derived added
  have hlist : bound.engine.session.bindings.toList = [⟨derived, .auto⟩, ⟨added, .explicit⟩] := by
    decide +kernel
  have hshader : bound.engine.session.activeName? = some "a" := by decide +kernel
  have hstorable : ∀ b ∈ bound.engine.session.bindings.toList, b.toBindingSpec.Storable := by
    rw [hlist, List.forall_mem_cons, List.forall_mem_singleton]
    refine ⟨⟨?_, ?_, ?_, ?_⟩, ?_, ?_, ?_, ?_⟩ <;> decide
  have hjson : ∀ b ∈ bound.engine.session.bindings.toList, ∀ x ∈ b.numbers,
      Scalar.isFinite x = true → (Json.num x).ReadsBack := by
    have hderived : ∀ x ∈ derived.numbers, (Json.num x).ReadsBack := by
      simp only [derived, BindingSpec.numbers, List.forall_mem_cons]
      refine ⟨?_, ?_, ?_, ?_, ?_, List.forall_mem_nil _⟩ <;> rfl
    have hadded : ∀ x ∈ added.numbers, (Json.num x).ReadsBack := by
      simp only [added, BindingSpec.numbers, List.forall_mem_cons]
      refine ⟨?_, ?_, ?_, ?_, ?_, List.forall_mem_nil _⟩ <;> rfl
    rw [hlist, List.forall_mem_cons, List.forall_mem_singleton]
    exact ⟨fun x hx _ => hderived x hx, fun x hx _ => hadded x hx⟩
  have hsave : bound.saveBindings = (bound.saveBindings.1, .ok "/bindings/a.json") :=
    Prod.ext rfl (saveBindings_showing hshader)
  have hwork : bound.AtWork := ⟨_, _, rfl⟩
  have hnewest : (revisited bound).engine.isOutdated ⟨2, waves⟩ = false := by decide +kernel
  have hreturn := saved_bindings_return hwork hsave hstorable hjson rfl hshader
    (keeps_revisited _ bound) activation?_revisited_bound rfl hnewest
  have hne : bound.engine.session.bindings.toList ≠ [] := by
    rw [hlist]
    exact List.cons_ne_nil _ _
  refine ⟨hlist, (hreturn.2.1 hne).trans ?_⟩
  rw [hlist]
  rfl

/-- The shader after its bindings have been removed. -/
def cleared : Rig Float := showing .clearBindings

/-- Bindings do not stay cleared: if none are left to save, they are derived again. -/
theorem cleared_bindings_return :
    cleared.AtWork ∧ cleared.engine.session.activeName? = some "a" ∧
      cleared.engine.session.bindings.toList = [] ∧
      cleared.saveBindings.2 = .ok "/bindings/a.json" ∧
      ((revisited cleared).work (.loadPreset 1 "a")).engine.session.activeName? = some "a" ∧
      ((revisited cleared).work (.loadPreset 1 "a")).engine.session.bindings.toList =
        [⟨⟨"speed", "energy_fast", "multiply", 1.0, 0.6, 1.0, 0.0, 4.0⟩, .auto⟩] := by
  have hlist : cleared.engine.session.bindings.toList = [] := by decide +kernel
  have hshader : cleared.engine.session.activeName? = some "a" := by decide +kernel
  have hsaved : cleared.saveBindings.2 = .ok "/bindings/a.json" := saveBindings_showing hshader
  have hsave : cleared.saveBindings = (cleared.saveBindings.1, .ok "/bindings/a.json") :=
    Prod.ext rfl hsaved
  have hactivation : (revisited cleared).engine.activation? 1 =
      some ⟨1, "a", .activation, .restoring ⟨2, waves⟩ (.ofSource .isf wavesSource)⟩ := by
    rfl
  have hnewest : (revisited cleared).engine.isOutdated ⟨2, waves⟩ = false := by decide +kernel
  have hshows := shows_of_saved hsave (by simp [hlist]) (by simp [hlist]) rfl hshader
    (keeps_revisited _ cleared) hactivation rfl hnewest
  rw [hlist] at hshows
  have hderived : (BindingTable.empty.addAll
      (AutoBind.derive (Transpiled.ofSource (α := Float) .isf wavesSource).inputs) .auto).toList =
        [⟨⟨"speed", "energy_fast", "multiply", 1.0, 0.6, 1.0, 0.0, 4.0⟩, .auto⟩] := by
    decide +kernel
  refine ⟨⟨_, _, rfl⟩, hshader, hlist, hsaved, ?_, ?_⟩
  · exact congrArg (Option.map fun b => b.descriptor.name) hshows.1
  · exact (congrArg BindingTable.toList hshows.2).trans hderived

end Rig

end LiveVisuals
