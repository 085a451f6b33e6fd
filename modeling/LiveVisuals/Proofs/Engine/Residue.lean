import LiveVisuals.Proofs.Engine.Cue

/-!
# Installing a shader leaves no residue

The bindings of a shader that is installed do not depend on what went on before: they are the
saved ones, or those derived from its inputs, all smoothed from zero. From then on cues are all
that counts, until the next shader is installed. So two runs with whatever histories that have
installed the same program with the same saved bindings present the same values as long as
their cues are the same.

Main definitions:

- {lit}`BindingTable.restored`: the bindings that a shader starts with.

Main results:

- Theorem {lit}`Engine.install_of_step`: what an event that installs a shader is, and does.
- Theorem {lit}`Performance.no_residue`: installing a shader leaves no residue.
-/

namespace LiveVisuals

variable {α : Type} [Scalar α]

/-- The bindings that a shader starts with, given what became of loading saved ones: those that
could be loaded, if there are any, and the derived ones otherwise. -/
def BindingTable.restored (t : Transpiled α) :
    Except PresetError (Option (List (BindingSpec α))) → BindingTable α
  | .ok (some (spec :: specs)) => empty.addAll (spec :: specs) .explicit
  | _ => empty.addAll (AutoBind.derive t.inputs) .auto

/-- All readings start from zero. -/
theorem BindingTable.smoothed_restored (t : Transpiled α)
    (saved : Except PresetError (Option (List (BindingSpec α)))) :
    ∀ e ∈ (restored t saved).entries, e.2.smoothed = 0.0 := by
  unfold restored
  split <;> exact smoothed_addAll _ _

namespace Engine

/-- An engine shows a shader with the bindings that it starts with. -/
def Shows (e : Engine α) (b : ActiveShader α)
    (saved : Except PresetError (Option (List (BindingSpec α)))) : Prop :=
  e.session.active = some b ∧ e.session.bindings = .restored b.transpiled saved

omit [Scalar α] in
/-- Only the ends of activations tell of installed shaders. -/
theorem installs_emit (e : Engine α) {x : Effect α} (hx : x.finish? = none) :
    Effect.installs (e.emit x).outbox = Effect.installs e.outbox := by
  simp [emit, Effect.installs, Effect.returns, hx]

omit [Scalar α] in
/-- What an activation that ends has installed, if anything. -/
theorem installs_finish (e : Engine α) (a : Activation α) (o : Outcome α) :
    Effect.installs (e.finish a o).outbox = Effect.installs e.outbox ++ o.shader?.toList := by
  have hnotices : ∀ ns : List Notice, Effect.installs (ns.map (Effect.notice (α := α))) = [] :=
    fun ns => (Effect.quiet_of_isNotice (by simp [Effect.isNotice])).installs
  simp [finish, noteAll_eq, emit, hnotices]

omit [Scalar α] in
/-- The end of an activation leaves the session alone. -/
theorem session_finish (e : Engine α) (a : Activation α) (o : Outcome α) :
    (e.finish a o).session = e.session := by
  simp [finish, noteAll_eq, emit]

/-- An activation with its bindings at hand shows its shader, if it installs one. -/
theorem shows_of_restored {e : Engine α} (hout : Effect.installs e.outbox = [])
    {a : Activation α} {q : Quest} {p : Transpiled α} {specs : Option (List (BindingSpec α))}
    {saved : Except PresetError (Option (List (BindingSpec α)))}
    (hspecs : Session.freshBindings p specs = .restored p saved) {b : ActiveShader α}
    (hb : b ∈ Effect.installs
      (if e.isOutdated q then e.finish a .superseded
        else e.install a ⟨q.descriptor, p, q.generation⟩ specs).outbox) :
    Shows
      (if e.isOutdated q then e.finish a .superseded
        else e.install a ⟨q.descriptor, p, q.generation⟩ specs) b saved := by
  split at hb
  · simp [installs_finish, hout, Outcome.shader?] at hb
  · next hnew =>
      rw [if_neg hnew]
      let shown : ActiveShader α := ⟨q.descriptor, p, q.generation⟩
      have hinstalls : Effect.installs (e.install a shown specs).outbox = [shown] := by
        rw [install, installs_finish, note, installs_emit _ rfl, installs_emit _ rfl]
        simp [mapSession, hout, Outcome.shader?]
      obtain rfl : b = shown := List.mem_singleton.mp (hinstalls ▸ hb)
      have hsession : (e.install a shown specs).session = e.session.install shown specs := by
        rw [install, session_finish]
        rfl
      rw [Shows, hsession]
      exact ⟨rfl, hspecs⟩

/-- When saved bindings have come, a shader that is installed is shown with the bindings that it
starts with. -/
theorem shows_of_presetLoaded {e : Engine α} (hout : e.outbox = []) {t : Ticket}
    {saved : Except PresetError (Option (List (BindingSpec α)))} {b : ActiveShader α}
    (hb : b ∈ Effect.installs (e.presetLoaded t saved).outbox) :
    (e.presetLoaded t saved).Shows b saved := by
  have hnone : Effect.installs e.outbox = [] := by rw [hout]; rfl
  unfold presetLoaded at hb ⊢
  split at hb
  · next a ha =>
      split at hb
      · next q p hs =>
          cases saved with
          | ok specs =>
              refine shows_of_restored hnone ?_ hb
              rcases specs with _ | _ | ⟨spec, specs⟩ <;> rfl
          | error problem =>
              exact shows_of_restored ((installs_emit e rfl).trans hnone) rfl hb
      · simp [hnone] at hb
  · simp [hnone] at hb

/-- An event that installs a shader is the arrival of what was saved for it, and the shader is
shown with the bindings that it starts with. -/
theorem install_of_step {e : Engine α} (hout : e.outbox = []) {x : Event α} {b : ActiveShader α}
    (hb : b ∈ Effect.installs (e.step x).outbox) :
    ∃ t saved, x = .arrive t (.preset saved) ∧ (e.step x).Shows b saved := by
  obtain ⟨xs, hxs, ms⟩ := goes_step e x
  rw [hout, List.nil_append] at hxs
  rw [hxs] at hb
  cases x with
  | arrive t came =>
      obtain ⟨ys, hys, m⟩ := makes_arrive e t came
      obtain rfl : xs = ys := hxs.symm.trans (hys.trans (by simp [hout]))
      obtain ⟨hnone, -⟩ | ⟨a, o, bindings, -, -, hends, hreturns, -⟩ := m.of_some
      · simp [Effect.installs, hnone] at hb
      · have ho : o = .installed b := by
          cases o <;> simp_all [Effect.installs, Outcome.shader?]
        rw [ho] at hends
        generalize a.stage = s at hends
        cases hends with
        | installed q p saved =>
          exact ⟨t, saved, rfl, shows_of_presetLoaded hout (hxs ▸ hb)⟩
  | _ => simp [Effect.installs, ms.of_none.1] at hb

end Engine

namespace Performance

/-- A shader is installed by an event after a run. -/
def Installs (shaderRoot : String) (xs : List (Engine.Event α)) (x : Engine.Event α)
    (b : ActiveShader α) : Prop :=
  b ∈ Effect.installs ((run shaderRoot xs).engine.step x).outbox

/-- No shader is installed from a moment of a performance on. -/
def Keeps (p : Performance α) (ys : List (Engine.Event α)) : Prop :=
  Effect.installs (ys.foldl step p).asked = Effect.installs p.asked

/-- Only what comes for an activation installs a shader. -/
theorem keeps_of_no_arrival {p : Performance α} (hout : p.engine.outbox = [])
    {x : Engine.Event α} (hx : x.arrival? = none) : p.Keeps [x] := by
  obtain ⟨xs, hasked, ms⟩ := moves_step p x hout
  rw [hx] at ms
  have hnone : Effect.installs xs = [] := by simp [Effect.installs, ms.of_none.1]
  change Effect.installs (p.step x).asked = _
  rw [hasked, Effect.installs_append, hnone, List.append_nil]

/-- The values that are presented from a moment of a performance on. -/
def shown (p : Performance α) (ys : List (Engine.Event α)) : List (UniformValues α) :=
  (Effect.presented (ys.foldl step p).asked).drop (Effect.presented p.asked).length

/-- What holds when a shader has been installed by the arrival of {lit}`saved`. -/
structure Fresh (shaderRoot : String) (xs : List (Engine.Event α)) (x : Engine.Event α)
    (b : ActiveShader α) (saved : Except PresetError (Option (List (BindingSpec α)))) :
    Prop where
  arrival : ∃ t, x = .arrive t (.preset saved)
  /-- The bindings are the saved ones or the derived ones, and nothing else. -/
  bindings : (run shaderRoot (xs ++ [x])).engine.Shows b saved
  smoothed : ∀ e ∈ (run shaderRoot (xs ++ [x])).engine.session.bindings.entries,
    e.2.smoothed = 0.0
  /-- A file that is missing, unreadable, not JSON or of another shape counts as nothing. -/
  unusable : ∀ dir shader (files : Files.Node), saved = Preset.load dir shader files →
    (∀ content, files.read (Preset.fileFor dir shader) = .ok content →
      ∀ value : Json α, Json.readString? content = some value →
        ∀ specs, Preset.schema (some value) ≠ .accepted specs) →
    (run shaderRoot (xs ++ [x])).engine.session.bindings =
      BindingTable.empty.addAll (AutoBind.derive b.transpiled.inputs) .auto
  /-- Until the next install only edits change the entries. -/
  edits : ∀ ys, (run shaderRoot (xs ++ [x])).Keeps ys →
    let p := run shaderRoot (xs ++ [x])
    (ys.foldl step p).engine.session.active = some b ∧
      (ys.foldl step p).engine.session.bindings.plain =
        (((p.cues ys).filterMap Cue.edit?).foldl BindingTable.edit
          p.engine.session.bindings).plain
  /-- A run with another history that installs the same program with the same saved bindings
  presents the same values, as long as the cues are the same. -/
  values : ∀ ys shaderRoot' xs' t' b' ys',
    Installs shaderRoot' xs' (.arrive t' (.preset saved)) b' → b'.transpiled = b.transpiled →
    (run shaderRoot (xs ++ [x])).Keeps ys →
    (run shaderRoot' (xs' ++ [.arrive t' (.preset saved)])).Keeps ys' →
    (run shaderRoot' (xs' ++ [.arrive t' (.preset saved)])).cues ys' =
      (run shaderRoot (xs ++ [x])).cues ys →
    (run shaderRoot' (xs' ++ [.arrive t' (.preset saved)])).shown ys' =
      (run shaderRoot (xs ++ [x])).shown ys

/-- What is presented while a shader stays installed comes of the cues and of the bindings that
it started with. -/
theorem shown_of_shows {shaderRoot : String} {xs : List (Engine.Event α)} {b : ActiveShader α}
    {saved : Except PresetError (Option (List (BindingSpec α)))}
    (h : (run shaderRoot xs).engine.Shows b saved) {ys : List (Engine.Event α)}
    (hkept : (run shaderRoot xs).Keeps ys) :
    (run shaderRoot xs).shown ys =
      (Cue.playAll b.transpiled.uniforms (.restored b.transpiled saved)
        ((run shaderRoot xs).cues ys)).2 := by
  obtain ⟨-, -, hpresented⟩ := plays_run (outbox_run shaderRoot xs) h.1 ys hkept
  rw [shown, hpresented, List.drop_left, h.2]

/-- Installing a shader leaves no residue. -/
theorem no_residue (shaderRoot : String) (xs : List (Engine.Event α)) (x : Engine.Event α)
    (b : ActiveShader α) (hb : Installs shaderRoot xs x b) :
    ∃ saved, Fresh shaderRoot xs x b saved := by
  have hshows : ∀ {shaderRoot : String} {xs : List (Engine.Event α)} {x : Engine.Event α}
      {b : ActiveShader α}, Installs shaderRoot xs x b → ∃ t saved,
        x = .arrive t (.preset saved) ∧ (run shaderRoot (xs ++ [x])).engine.Shows b saved := by
    intro shaderRoot xs x b hb
    obtain ⟨t, saved, hx, h⟩ := Engine.install_of_step (outbox_run shaderRoot xs) hb
    rw [run_concat]
    exact ⟨t, saved, hx, h⟩
  obtain ⟨t, saved, hx, h⟩ := hshows hb
  refine ⟨saved, ⟨t, hx⟩, h, ?_, ?_, ?_, ?_⟩
  · rw [h.2]
    exact BindingTable.smoothed_restored b.transpiled saved
  · rintro dir shader files hsaved hunusable
    rw [h.2]
    have hnone := Preset.load_of_unusable hunusable
    rw [← hsaved] at hnone
    rcases saved with problem | _ | specs
    · rfl
    · rfl
    · exact absurd rfl (hnone specs)
  · intro ys hkept
    obtain ⟨hactive, hbindings, -⟩ := plays_run (outbox_run shaderRoot _) h.1 ys hkept
    exact ⟨hactive, by rw [hbindings]; exact Cue.plain_playAll _ rfl _⟩
  · intro ys shaderRoot' xs' t' b' ys' hb' hsame hkept hkept' hcues
    obtain ⟨t'', saved', hx', h'⟩ := hshows hb'
    obtain ⟨-, rfl⟩ : t'' = t' ∧ saved' = saved := by simpa using hx'.symm
    rw [shown_of_shows h hkept, shown_of_shows h' hkept', hsame, hcues]

/-- A show in which the shader {lit}`a` has been compiled, after some other events. -/
def rehearsed (before : List (Engine.Event Float)) (t : Ticket) : List (Engine.Event Float) :=
  let scan : Scan :=
    { descriptors := [⟨"a", "shaders/a.glsl", "a.glsl", .glsl⟩,
        ⟨"b", "shaders/b.glsl", "b.glsl", .glsl⟩]
      signature := .missing }
  .rescan scan :: before ++
    [.activate .activation "a", .arrive t (.source (.ok "")), .arrive t (.program ⟨0⟩ (.ok ()))]

/-- Another shader is shown and its bindings are edited. -/
def detour : List (Engine.Event Float) :=
  [.activate .activation "b", .arrive 0 (.source (.ok "")), .arrive 0 (.program ⟨0⟩ (.ok ())),
    .arrive 0 (.preset (.ok none)), .addBinding ⟨"x", "bass", "add", 1.0, 0.5, 0.0, 0.0, 1.0⟩]

/-- Whether or not another shader was shown before makes no difference for what is presented. -/
theorem no_residue_of_detour :
    let p := run "shaders" (rehearsed [] 0 ++ [.arrive 0 (.preset (.ok none))])
    let q := run "shaders" (rehearsed detour 1 ++ [.arrive 1 (.preset (.ok none))])
    (p.shown [.tick 0.5]).length = 1 ∧ q.shown [.tick 0.5] = p.shown [.tick 0.5] := by
  intro p q
  let b (generation : Nat) : ActiveShader Float :=
    ⟨⟨"a", "shaders/a.glsl", "a.glsl", .glsl⟩, .ofSource .glsl "", generation⟩
  have hp : Installs "shaders" (rehearsed [] 0) (.arrive 0 (.preset (.ok none))) (b 1) :=
    List.mem_singleton.mpr rfl
  have hq : Installs "shaders" (rehearsed detour 1) (.arrive 1 (.preset (.ok none))) (b 2) :=
    List.mem_singleton.mpr rfl
  obtain ⟨saved, h⟩ := no_residue "shaders" (rehearsed [] 0) _ (b 1) hp
  obtain ⟨t, ht⟩ := h.arrival
  cases ht
  have hcues : q.cues [.tick 0.5] = p.cues [.tick 0.5] := rfl
  exact ⟨rfl, h.values _ _ _ _ _ _ hq rfl (keeps_of_no_arrival (outbox_run _ _) rfl)
    (keeps_of_no_arrival (outbox_run _ _) rfl) hcues⟩

end Performance

end LiveVisuals
