import LiveVisuals.Proofs.Binding.Limited
import LiveVisuals.Proofs.Engine.Origin
import LiveVisuals.Proofs.Engine.Pace

/-!
# Only finite numbers are presented

What is presented comes of time, target size, pointer, features, defaults and binding outputs. In
exact arithmetic all of them stay finite in every run, whatever messages, request bodies, files of
saved bindings and shader headers say, infinite numbers included. Three ways to steer the show
have to be trusted: a browser can report an infinite size, a tool call can ask for infinite
limits, and another one for an infinite gain. A browser that reports an infinite size has it
presented.

Main definitions:

- {lit}`UniformValues.IsFinite`: values without infinite or undefined numbers.
- {lit}`Session.IsFinite`: a session that has only such values to present.
- {lit}`Engine.Event.Admitted`: what may happen, infinite sizes, limits and gains left out.

Main results:

- Theorem {lit}`UniformValues.transmitted_iff`: exactly finite values arrive as they are.
- Theorem {lit}`Session.IsFinite.change`: changes keep a session finite.
- Theorem {lit}`Performance.presents_finite`: all values that a run presents are finite.
- Theorem {lit}`Performance.infinite_numbers_are_presented`: the numbers that are left out are
  presented if they come in.
-/

namespace LiveVisuals

/-! ## Finite values -/

section

variable {α : Type} [Scalar α]

/-- A value without infinite or undefined numbers. -/
def UniformValue.IsFinite (v : UniformValue α) : Prop :=
  ∀ x ∈ v.numbers, Scalar.isFinite x = true

/-- Values without infinite or undefined numbers. -/
def UniformValues.IsFinite (values : UniformValues α) : Prop := ∀ e ∈ values, e.2.IsFinite

/-- A value that fits a type is finite. -/
theorem UniformValue.Fits.isFinite {type : GlslType} {v : UniformValue α} (h : v.Fits type) :
    v.IsFinite := by
  cases h with
  | float hx => exact List.forall_mem_singleton.mpr hx
  | int hx => exact List.forall_mem_singleton.mpr hx.1
  | bool b => exact fun x hx => by cases hx
  | vector _ hfinite => exact hfinite

/-- A number arrives as it is if and only if it is finite. -/
theorem Json.transmitted_num {x : α} :
    (Json.num x).transmitted = .num x ↔ Scalar.isFinite x = true := by
  rw [Json.transmitted]
  split
  · next h => exact iff_of_true rfl h
  · next h => exact iff_of_false (by simp) h

/-- Exactly the finite values arrive as they are. -/
theorem UniformValue.transmitted_iff {v : UniformValue α} :
    v.toJson.transmitted = v.toJson ↔ v.IsFinite := by
  cases v with
  | number x => exact Json.transmitted_num.trans (by simp [IsFinite, numbers])
  | flag b => exact iff_of_true rfl fun x hx => by cases hx
  | vector xs =>
      have hitems : Json.transmittedItems (xs.map Json.num) = xs.map Json.num ↔
          ∀ x ∈ xs, Scalar.isFinite x = true := by
        induction xs with
        | nil => simp [Json.transmittedItems]
        | cons x xs ih =>
            rw [List.map_cons, Json.transmittedItems, List.cons.injEq, Json.transmitted_num, ih,
              List.forall_mem_cons]
      exact (Json.arr.injEq _ _).to_iff.trans hitems

/-- Exactly finite values arrive as they are. -/
theorem UniformValues.transmitted_iff {values : UniformValues α} :
    values.toJson.transmitted = values.toJson ↔ values.IsFinite := by
  have hfields : Json.transmittedFields (values.map fun e => (e.1, e.2.toJson)) =
      values.map (fun e => (e.1, e.2.toJson)) ↔ values.IsFinite := by
    induction values with
    | nil => simp [Json.transmittedFields, IsFinite]
    | cons e values ih =>
        rw [List.map_cons, Json.transmittedFields, List.cons.injEq, ih, IsFinite, IsFinite,
          List.forall_mem_cons, Prod.mk.injEq, UniformValue.transmitted_iff]
        simp
  exact (Json.obj.injEq _ _).to_iff.trans hfields

/-- A program whose inputs are sound and whose slots are filled. -/
structure Transpiled.Sound (p : Transpiled α) : Prop where
  inputs : ∀ d ∈ p.inputs, d.Sound
  slots : ∀ s ∈ p.uniforms.slots, s.Filled

/-- Whatever a source holds, the program that is made of it is sound. -/
theorem Transpiled.sound_ofSource [Scalar.Regular α] (dialect : Dialect) (raw : String) :
    (ofSource dialect raw : Transpiled α).Sound := by
  obtain ⟨source, hread⟩ : ∃ s, (ShaderSource.read (α := α) dialect raw).1 = s := ⟨_, rfl⟩
  obtain ⟨-, huniforms, -⟩ := ofSource_of_read hread
  have hsound := ShaderSource.forall_mem_inputs Header.sound_of_declared hread
  refine ⟨?_, ?_⟩
  · have hinputs : (ofSource (α := α) dialect raw).inputs = source.inputs :=
      congrArg ShaderSource.inputs hread
    rwa [hinputs]
  · rw [huniforms]
    exact UniformSet.filled_of_mem_compile hsound

/-- From finite readings and finite outputs a sound program gets finite values. -/
theorem Transpiled.Sound.isFinite {p : Transpiled α} (h : p.Sound) {r : Readings α}
    (hr : r.IsFinite) {bound : Keyed α} (hbound : ∀ e ∈ bound, Scalar.isFinite e.2 = true) :
    (resolveUniforms p.uniforms r bound).IsFinite := by
  intro e he
  rw [resolveUniforms_eq] at he
  obtain ⟨s, hs, hself⟩ := List.mem_filterMap.mp he
  exact ((h.slots s hs).fits r bound e.2 hr hbound (name_of_namedValue? hself).2).isFinite

end

/-! ## Finite sessions -/

open Exact

variable {K : Type} [Field K] [LinearOrder K] [FloorRing K] [Base K]

/-- A change with data that are finite where it matters. -/
def Session.Change.Admitted : Session.Change (Exact K) → Prop
  | .edit (.add spec) => spec.Limited
  | .turn u => u.Steady
  | .resize width height => Scalar.isFinite width = true ∧ Scalar.isFinite height = true
  | .install b saved =>
      b.transpiled.Sound ∧ ∀ specs, saved = some specs → ∀ spec ∈ specs, spec.Limited
  | .pass dt _ => Scalar.isFinite dt = true
  | _ => True

/-- Such a change turns knobs to finite positions. -/
theorem Session.Change.Admitted.steady {c : Session.Change (Exact K)} (h : c.Admitted) :
    c.Steady := by
  cases c with
  | turn u => exact h
  | _ => trivial

/-- A program starts with bindings that have finite limits. -/
theorem Session.limited_freshBindings {p : Transpiled (Exact K)} (hp : p.Sound)
    {saved : Option (List (BindingSpec (Exact K)))}
    (hsaved : ∀ specs, saved = some specs → ∀ spec ∈ specs, spec.Limited) :
    (freshBindings p saved).Limited := by
  unfold freshBindings
  split
  · exact BindingTable.limited_empty.addAll (hsaved _ rfl) .explicit
  · exact BindingTable.limited_empty.addAll (AutoBind.limited_of_derive hp.inputs) .auto

/-- The pointer is finite if time and features are. -/
theorem Audio.isFinite_syntheticPointer {time : Exact K} {f : Audio.Frame (Exact K)}
    (htime : Scalar.isFinite time = true) (hf : ∀ x, Scalar.isFinite (f.read x) = true) :
    Scalar.isFinite (syntheticPointer time f).1 = true ∧
      Scalar.isFinite (syntheticPointer time f).2 = true := by
  have hbeat : Scalar.isFinite f.beatPhase = true := hf .beatPhase
  have henergy : Scalar.isFinite f.energySlow = true := hf .energySlow
  have hbass : Scalar.isFinite f.bass = true := hf .bass
  have hmid : Scalar.isFinite f.mid = true := hf .mid
  constructor
  · refine isFinite_clamp (isUndefined_of_isFinite ?_) rfl rfl
    simp [htime, hbeat, henergy, hbass]
  · refine isFinite_clamp (isUndefined_of_isFinite ?_) rfl rfl
    simp [htime, hbeat, henergy, hmid]

/-- A session that has only finite values to present. -/
structure Session.IsFinite (s : Session (Exact K)) : Prop where
  steady : s.Steady
  time : Scalar.isFinite s.time = true
  resolution : Scalar.isFinite s.resolution.1 = true ∧ Scalar.isFinite s.resolution.2 = true
  bindings : s.bindings.Limited
  active : ∀ b, s.active = some b → b.transpiled.Sound

namespace Session.IsFinite

variable {s : Session (Exact K)}

/-- The readings of a finite session are finite. -/
theorem readings (h : s.IsFinite) : s.readings.IsFinite := by
  have hfeatures := h.steady.extractor.features
  obtain ⟨hx, hy⟩ := Audio.isFinite_syntheticPointer h.time hfeatures
  exact ⟨h.time, h.resolution,
    ⟨(isFinite_mul _ _).trans (Bool.and_eq_true_iff.mpr ⟨hx, h.resolution.1⟩),
      (isFinite_mul _ _).trans (Bool.and_eq_true_iff.mpr ⟨hy, h.resolution.2⟩)⟩, hfeatures⟩

/-- The values of a finite session are finite. -/
theorem values (h : s.IsFinite) {vs : UniformValues (Exact K)} (hvs : s.resolve.2 = some vs) :
    vs.IsFinite := by
  cases hactive : s.active with
  | none => simp [resolve, hactive] at hvs
  | some b =>
      rw [Engine.resolve_of_active hactive] at hvs
      cases hvs
      exact (h.active b hactive).isFinite h.readings (h.bindings.advanceAll s.frame).outputs

variable [IsStrictOrderedRing K]

theorem initial : (Session.initial : Session (Exact K)).IsFinite :=
  ⟨.initial, rfl, ⟨rfl, rfl⟩, BindingTable.limited_empty, fun b hb => (by cases hb)⟩

/-- Changes keep a session finite. -/
theorem change (h : s.IsFinite) {c : Session.Change (Exact K)} (hc : c.Admitted) :
    (s.change c).IsFinite := by
  have hsteady := h.steady.change hc.steady
  cases c with
  | edit x =>
      refine ⟨hsteady, h.time, h.resolution, ?_, h.active⟩
      cases x with
      | add spec => exact h.bindings.add hc .explicit
      | remove uniform => exact h.bindings.remove uniform
      | clear => exact BindingTable.limited_empty
  | resize width height =>
      rcases s.resize_cases width height with hs | hs
      · rwa [Session.change, hs]
      · rw [Session.change, hs] at hsteady ⊢
        exact ⟨hsteady, h.time, hc, h.bindings, h.active⟩
  | install b saved =>
      refine ⟨hsteady, h.time, h.resolution, limited_freshBindings hc.1 hc.2, ?_⟩
      rintro b' hb'
      cases hb'
      exact hc.1
  | resolve =>
      rcases s.resolve_cases with hs | hs
      · rwa [Session.change, hs]
      · rw [Session.change, hs] at hsteady ⊢
        exact ⟨hsteady, h.time, h.resolution, h.bindings.advanceAll s.frame, h.active⟩
  | pass dt values =>
      refine ⟨hsteady, ?_, h.resolution, h.bindings, h.active⟩
      have hlapse := isFinite_greater hc (isFinite_number 0)
      have hspeed : Scalar.isFinite s.frame.speed = true := h.steady.extractor.features .speed
      have htime := h.time
      simp [Session.change, pass, hlapse, hspeed, htime]
  | _ => exact ⟨hsteady, h.time, h.resolution, h.bindings, h.active⟩

/-- Some changes keep a session finite. -/
theorem changes (h : s.IsFinite) {cs : List (Session.Change (Exact K))}
    (hcs : ∀ c ∈ cs, c.Admitted) : (cs.foldl Session.change s).IsFinite :=
  Session.changes_keep (fun _ _ hc hs => hs.change hc) h hcs

end Session.IsFinite

/-! ## What may happen -/

/-- A message brings finite data along. -/
theorem Command.admitted_of_changesOf (m : Osc.Message (Exact K)) :
    ∀ c ∈ changesOf m, c.Admitted := by
  intro c hc
  obtain ⟨command, hcommand, hchange⟩ := Option.bind_eq_some_iff.mp (Option.mem_toList.mp hc)
  obtain ⟨hadd, hturn⟩ := usable_of_message hcommand
  cases command with
  | addBinding spec =>
      cases hchange
      exact BindingSpec.limited_of_arguments (hadd spec rfl)
  | setControls u =>
      cases hchange
      exact hturn u rfl
  | _ => cases hchange <;> trivial

/-- What is defined and between two numbers is finite. -/
theorem Exact.isFinite_of_between {x : Exact K} {low high : K}
    (hx : Scalar.isUndefined x = false) (hlow : ¬x < number low) (hhigh : ¬number high < x) :
    Scalar.isFinite x = true := by
  cases x with
  | number a => rfl
  | infinite n => cases n <;> simp_all
  | undefined => simp at hx

/-- A tool call turns the style bias to a finite position, and leaves the gain unchecked. -/
theorem ControlUpdate.steady_of_call {v : Option (Json (Exact K))} {u : ControlUpdate (Exact K)}
    (h : Tool.schema .audioConfig v = .accepted (.configure u))
    (hgain : ∀ x ∈ u.beatBoostGain, Scalar.isFinite x = true) : u.Steady := by
  refine ⟨?_, hgain⟩
  rw [Tool.schema, Schema.object_eq_accepted] at h
  obtain ⟨fs, -, h⟩ := h
  simp only [Tool.controlsSchema, Checked.seq_eq_accepted, Checked.map_eq_accepted, Schema.field,
    Checked.under_eq_accepted] at h
  obtain ⟨_, ⟨_, gain, ⟨_, threshold, ⟨bias, hbias, rfl⟩, -, rfl⟩, -, rfl⟩, hu⟩ := h
  cases hu
  intro x hx
  obtain rfl : bias = some x := hx
  have haccepted := Schema.accepted_of_optional hbias
  rw [Schema.satisfying_eq_accepted] at haccepted
  obtain ⟨hnumber, hconditions⟩ := haccepted
  have hlow : ¬x < number (-1) := by
    simpa [Condition.atLeast] using hconditions _ List.mem_cons_self
  have hhigh : ¬number 1 < x := by
    simpa [Condition.atMost] using hconditions _ (List.mem_cons_of_mem _ List.mem_cons_self)
  exact isFinite_of_between (Schema.defined_of_number hnumber) hlow hhigh

namespace Engine

/-- What may happen. Messages are free to say what they like, and so are browsers, request bodies,
saved bindings and sources, except that a browser reports a finite size, and tool calls ask for
finite limits and a finite gain. -/
def Event.Admitted : Event (Exact K) → Prop
  | .tick dt => Scalar.isFinite dt = true
  | .arrive _ (.preset saved) =>
      ∀ specs, saved = .ok (some specs) →
        ∃ dir shader files, Preset.load dir shader files = .ok (some specs)
  | .addBinding spec =>
      (∃ body, BindingSpec.bodySchema body = .accepted spec) ∨
        ∃ args, Tool.schema .audioBind args = .accepted (.bind spec) ∧
          Scalar.isFinite spec.min = true ∧ Scalar.isFinite spec.max = true
  | .setControls u =>
      ∃ args, Tool.schema .audioConfig args = .accepted (.configure u) ∧
        ∀ x ∈ u.beatBoostGain, Scalar.isFinite x = true
  | .setResolution width height => Scalar.isFinite width = true ∧ Scalar.isFinite height = true
  | _ => True

theorem admitted_of_dueChanges (e : Engine (Exact K)) (dt : Exact K) :
    ∀ c ∈ e.dueChanges dt, c.Admitted :=
  forall_dueChanges.mpr
    ⟨fun m _ => Command.admitted_of_changesOf m, fun _ _ => trivial, trivial, trivial⟩

end Engine

namespace Performance

variable [IsStrictOrderedRing K]

/-- What may happen brings admitted changes about. -/
theorem admitted_of_changes (shaderRoot : String) (xs : List (Engine.Event (Exact K)))
    {x : Engine.Event (Exact K)} (hx : x.Admitted) :
    ∀ c ∈ (run shaderRoot xs).engine.changes x, c.Admitted := by
  cases x with
  | tick dt =>
      refine List.forall_mem_append.mpr ⟨Engine.admitted_of_dueChanges _ dt, ?_⟩
      exact List.forall_mem_cons.mpr ⟨trivial, List.forall_mem_singleton.mpr hx⟩
  | brokenTick dt =>
      refine List.forall_mem_append.mpr ⟨Engine.admitted_of_dueChanges _ dt, ?_⟩
      exact List.forall_mem_singleton.mpr trivial
  | control m => exact Command.admitted_of_changesOf m
  | addBinding spec =>
      refine List.forall_mem_singleton.mpr ?_
      rcases hx with ⟨body, hbody⟩ | ⟨args, hargs, hmin, hmax⟩
      · exact BindingSpec.limited_of_body hbody
      · exact BindingSpec.limited_of_call hargs hmin hmax
  | setControls u =>
      obtain ⟨args, hargs, hgain⟩ := hx
      exact List.forall_mem_singleton.mpr (ControlUpdate.steady_of_call hargs hgain)
  | setResolution width height => exact List.forall_mem_singleton.mpr hx
  | arrive t came =>
      intro c hc
      obtain ⟨saved, a, q, p, rfl, ha, hs, rfl⟩ :=
        Engine.install_of_brought? (Option.mem_toList.mp hc)
      obtain ⟨raw, rfl⟩ := (programs_run shaderRoot xs).1 a ha q.descriptor p (by rw [hs]; rfl)
      refine ⟨Transpiled.sound_ofSource q.descriptor.dialect raw, fun specs hspecs => ?_⟩
      obtain ⟨dir, shader, files, hload⟩ : ∃ dir shader files,
          Preset.load dir shader files = .ok (some specs) := by
        refine hx specs ?_
        cases saved with
        | error problem => cases hspecs
        | ok saved => exact congrArg Except.ok hspecs
      exact Preset.limited_of_load hload
  | poll s =>
      simp only [Engine.changes]
      split <;> simp [Session.Change.Admitted]
  | _ => simp [Engine.changes, Session.Change.Admitted]

/-- The session of a run in which only such things happen has only finite values to present. -/
theorem isFinite_session (shaderRoot : String) {xs : List (Engine.Event (Exact K))}
    (hxs : ∀ x ∈ xs, x.Admitted) : (run shaderRoot xs).engine.session.IsFinite := by
  refine session_run (Q := Session.Change.Admitted) .initial (fun _ _ hc hs => hs.change hc)
    shaderRoot xs fun ys y hy => admitted_of_changes shaderRoot ys ?_
  exact hxs y (hy.subset (by simp))

/-- So the values that are due at the next tick are finite. -/
theorem isFinite_due (shaderRoot : String) {xs : List (Engine.Event (Exact K))}
    (hxs : ∀ x ∈ xs, x.Admitted) (dt : Exact K) {vs : UniformValues (Exact K)}
    (hvs : ((run shaderRoot xs).engine.due dt).resolve.2 = some vs) : vs.IsFinite := by
  have hdue : ((run shaderRoot xs).engine.due dt).IsFinite := by
    rw [Engine.due, (Engine.brings_due _ dt).session]
    exact (isFinite_session shaderRoot hxs).changes (Engine.admitted_of_dueChanges _ dt)
  exact hdue.values hvs

/-- All values that a run presents are finite, and arrive as they are, whatever messages come in
and whatever request bodies, saved bindings and sources say, as long as ticks stand for finite
times, browsers report finite sizes, and tool calls ask for finite limits and gains. So are the
values of one more tick, also if they are handed to a renderer that fails then. -/
theorem presents_finite (shaderRoot : String) (xs : List (Engine.Event (Exact K)))
    (hxs : ∀ x ∈ xs, x.Admitted) :
    (∀ vs ∈ Effect.presented (run shaderRoot xs).asked,
      vs.IsFinite ∧ vs.toJson.transmitted = vs.toJson) ∧
    ∀ dt, ∀ vs ∈ ((run shaderRoot xs).engine.due dt).resolve.2,
      vs.IsFinite ∧ vs.toJson.transmitted = vs.toJson := by
  refine ⟨presented_run shaderRoot xs fun ys x hx vs hvs => ?_, fun dt vs hvs => ?_⟩
  · have hys : ∀ y ∈ ys, y.Admitted := fun y hy =>
      hxs y (hx.subset (List.mem_append_left [x] hy))
    have hfinite : vs.IsFinite := by
      cases x with
      | tick dt => exact isFinite_due shaderRoot hys dt hvs
      | _ => cases hvs
    exact ⟨hfinite, UniformValues.transmitted_iff.mpr hfinite⟩
  · have hfinite := isFinite_due shaderRoot hxs dt hvs
    exact ⟨hfinite, UniformValues.transmitted_iff.mpr hfinite⟩

/-! ## A show with infinite numbers -/

/-- A shader with an input is shown, and then some more happens. -/
def onStage (more : List (Engine.Event (Exact ℚ))) : List (Engine.Event (Exact ℚ)) :=
  let source := "/*\x7b\"INPUTS\": [\x7b\"NAME\": \"glow\", \"TYPE\": \"float\", " ++
    "\"DEFAULT\": 0.5\x7d]\x7d*/ void main()\x7b\x7d"
  .rescan ⟨[⟨"a", "shaders/a.fs", "a.fs", .isf⟩], .missing⟩ :: .activate .activation "a" ::
    .arrive 0 (.source (.ok source)) :: .arrive 0 (.program ⟨0⟩ (.ok ())) ::
    .arrive 0 (.preset (.ok none)) :: more

/-- The numbers that some events present under a name, tick by tick. -/
def shownNumbers (name : String) (xs : List (Engine.Event (Exact ℚ))) :
    List (Option (List (Exact ℚ))) :=
  (Effect.presented (run "shaders" xs).asked).map fun vs =>
    (Keyed.get? name vs).map (·.numbers)

/-- A call for a binding whose resting value and multiplier are infinite, and its limits finite. -/
def boundlessCall : Json (Exact ℚ) :=
  .obj [("uniform", .str "glow"), ("feature", .str "bass"),
    ("multiplier", .num (.infinite false)), ("base", .num (.infinite false))]

/-- The binding that the call asks for. -/
def boundless : BindingSpec (Exact ℚ) :=
  ⟨"glow", "bass", "add", .infinite false, 0.5, .infinite false, 0.0, 1.0⟩

/-- An infinite level comes in, and a tool call binds an input by infinite numbers. -/
def excess : List (Engine.Event (Exact ℚ)) :=
  onStage [.receive ⟨Audio.Address.bass, [.num (.infinite false)]⟩, .addBinding boundless,
    .tick 0.1]

/-- Infinite numbers come in, and what is presented is finite. -/
theorem presents_finite_of_excess :
    (∀ x ∈ excess, x.Admitted) ∧ shownNumbers "glow" excess = [some [.number 1]] ∧
      ∀ vs ∈ Effect.presented (run "shaders" excess).asked,
        vs.IsFinite ∧ vs.toJson.transmitted = vs.toJson := by
  have hcall : Tool.schema .audioBind (some boundlessCall) = .accepted (.bind boundless) := rfl
  have hadmitted : ∀ x ∈ excess, x.Admitted := by
    simp only [excess, onStage, List.forall_mem_cons, List.not_mem_nil, false_implies,
      implies_true, and_true]
    refine ⟨trivial, trivial, trivial, trivial, fun specs hspecs => ?_, trivial, ?_, rfl⟩
    · cases hspecs
    · exact .inr ⟨some boundlessCall, hcall, rfl, rfl⟩
  have hshown : shownNumbers "glow" excess = [some [.number 1]] := by decide +kernel
  exact ⟨hadmitted, hshown, (presents_finite "shaders" excess hadmitted).1⟩

/-- The size that a text of a browser reports. -/
def reportedSize? (text : String) : Option (Exact ℚ × Exact ℚ) :=
  (Json.readString? text).bind fun value =>
    match ClientMessage.schema (some value) with
    | .accepted (.resize width height) => some (width, height)
    | _ => none

/-- A call for a binding without limits. -/
def limitlessCall : Json (Exact ℚ) :=
  .obj [("uniform", .str "glow"), ("feature", .str "bass"), ("base", .num (.infinite false)),
    ("max", .num (.infinite false))]

/-- A call for a gain without limits. -/
def gainCall : Json (Exact ℚ) := .obj [("beatBoostGain", .num (.infinite false))]

/-- An infinite size that a browser reports is presented, and does not arrive as it is. So are
infinite limits that a tool call asks for, and after one that asks for an infinite gain not even
time is defined any more. -/
theorem infinite_numbers_are_presented :
    (∃ width height : Exact ℚ,
      reportedSize? "\x7b\"type\":\"resize\",\"width\":1e400,\"height\":720\x7d" =
        some (width, height) ∧
      ∃ vs ∈ Effect.presented
          (run "shaders" (onStage [.setResolution width height, .tick 0.1])).asked,
        (∃ v ∈ Keyed.get? "resolution" vs, ¬v.IsFinite) ∧ vs.toJson.transmitted ≠ vs.toJson) ∧
    (∃ spec : BindingSpec (Exact ℚ),
      Tool.schema .audioBind (some limitlessCall) = .accepted (.bind spec) ∧
      shownNumbers "glow" (onStage [.addBinding spec, .tick 0.1]) = [some [.infinite false]]) ∧
    ∃ u : ControlUpdate (Exact ℚ),
      Tool.schema .audioConfig (some gainCall) = .accepted (.configure u) ∧
      shownNumbers "time" (onStage [.setControls u,
        .receive ⟨Audio.Address.bass, [.num 0.0]⟩, .tick 0.1, .tick 0.1]) =
        [some [.number 0], some [.undefined]] := by
  refine ⟨⟨.infinite false, .number 720, by decide +kernel, ?_⟩,
    ⟨⟨"glow", "bass", "add", 1.0, 0.5, .infinite false, 0.0, .infinite false⟩, rfl,
      by decide +kernel⟩,
    ⟨⟨none, none, some (.infinite false)⟩, rfl, by decide +kernel⟩⟩
  have hshown : shownNumbers "resolution" (onStage
      [.setResolution (.infinite false) (.number 720), .tick 0.1]) =
        [some [.infinite false, .number 720]] := by decide +kernel
  obtain ⟨vs, hvs, hnumbers⟩ := List.mem_map.mp (hshown ▸ List.mem_singleton_self _)
  obtain ⟨v, hv, hinfinite⟩ := Option.map_eq_some_iff.mp hnumbers
  have hnot : ¬v.IsFinite := by
    intro hfinite
    rw [UniformValue.IsFinite, hinfinite] at hfinite
    exact Bool.noConfusion (hfinite (.infinite false) List.mem_cons_self)
  refine ⟨vs, hvs, ⟨v, hv, hnot⟩, fun hsame => hnot ?_⟩
  exact UniformValues.transmitted_iff.mp hsame _ (Keyed.mem_of_get? hv)

end Performance

end LiveVisuals
