import LiveVisuals.Proofs.Engine.Newest
import LiveVisuals.Proofs.Rig.Act

/-!
# Failed activations

An activation that fails, because there is no shader of its name, its source cannot be read or
its compile does not succeed, leaves the session and the capture that waits alone at each of
its steps, whatever goes on in between. The failure is reported as what it is, and a name that
is not known outdates nothing.

Main definitions:

- {lit}`Outcome.isRejection`: an activation has failed.
- {lit}`Engine.Spares`: an engine gets to another with the same session and no new capture.

Main results:

- Theorem {lit}`Engine.spares_arrive`: what comes for an activation spares the session unless it
  brings a shader back.
- Theorem {lit}`Performance.rejection_spares`: failed activations leave the session alone.
-/

namespace LiveVisuals

variable {α : Type}

/-- Whether an activation has failed. -/
def Outcome.isRejection : Outcome α → Bool
  | .notFound | .unreadable _ | .uncompilable _ => true
  | .installed _ | .superseded => false

namespace Engine

/-! ## Steps that spare the session -/

/-- An engine gets to another that has the same session, and no capture is scheduled. -/
def Spares (e e' : Engine α) : Prop :=
  e'.session = e.session ∧
    ∀ name, .scheduleCapture name ∈ e'.outbox → .scheduleCapture name ∈ e.outbox

namespace Spares

variable {e e' : Engine α}

theorem refl (e : Engine α) : e.Spares e := ⟨rfl, fun _ h => h⟩

/-- Effects other than the scheduling of a capture spare the session. -/
theorem emit (h : e.Spares e') {x : Effect α} (hx : ∀ name, x ≠ .scheduleCapture name) :
    e.Spares (e'.emit x) := by
  refine ⟨h.1, fun name hname => h.2 name ?_⟩
  rcases List.mem_append.mp hname with hname | hname
  · exact hname
  · exact absurd (List.mem_singleton.mp hname).symm (hx name)

theorem note (h : e.Spares e') (n : Notice) : e.Spares (e'.note n) := h.emit (by simp)

theorem noteAll (h : e.Spares e') (ns : List Notice) : e.Spares (e'.noteAll ns) := by
  induction ns generalizing e' with
  | nil => exact h
  | cons n ns ih => exact ih (h.note n)

theorem moveTo (h : e.Spares e') (t : Ticket) (stage : Stage α) : e.Spares (e'.moveTo t stage) :=
  h

/-- The end of an activation spares the session; whatever is installed is installed before. -/
theorem finish (h : e.Spares e') (a : Activation α) (o : Outcome α) :
    e.Spares (e'.finish a o) := by
  have hactivations (as : List (Activation α)) : e.Spares { e' with activations := as } := h
  exact ((hactivations _).noteAll _).emit (by simp)

end Spares

/-- The start of an activation spares the session. -/
theorem spares_activate (e : Engine α) (purpose : Purpose) (name : String) :
    e.Spares (e.activate purpose name) := by
  unfold activate
  split
  · have h : e.Spares { e with issued := _, activations := _ } := .refl e
    exact h.emit (by simp)
  · have h : e.Spares { e with generation := _, issued := _, activations := _ } := .refl e
    exact h.emit (by simp)

theorem spares_resumed (e : Engine α) (t : Ticket) : e.Spares (e.resumed t) := by
  unfold resumed
  split
  · split
    · exact (Spares.refl e).finish _ _
    · exact .refl e
  · exact .refl e

theorem spares_recorded (e : Engine α) (t : Ticket) (written : Except Files.Error Unit) :
    e.Spares (e.recorded t written) := by
  unfold recorded
  split
  · split
    · cases written with
      | ok => exact (Spares.refl e).finish _ _
      | error problem => exact ((Spares.refl e).note _).finish _ _
    · exact .refl e
  · exact .refl e

theorem spares_compiled (e : Engine α) (now : Timestamp) (t : Ticket)
    (outcome : Except String Unit) : e.Spares (e.compiled now t outcome) := by
  unfold compiled
  split
  · split
    · split
      · exact (Spares.refl e).finish _ _
      · exact ((Spares.refl e).moveTo _ _).emit (by simp)
    · have h (n : Notice) (es : ErrorLog) : e.Spares { e.note n with errors := es } :=
        (Spares.refl e).note n
      exact ((h _ _).moveTo _ _).emit (by simp)
    · exact .refl e
  · exact .refl e

variable [Scalar α]

theorem spares_sourceRead (e : Engine α) (t : Ticket) (content : Except Files.Error String) :
    e.Spares (e.sourceRead t content) := by
  unfold sourceRead
  split
  · split
    · exact (Spares.refl e).finish _ _
    · exact (((Spares.refl e).noteAll _).moveTo _ _).emit (by simp)
    · exact .refl e
  · exact .refl e

/-- Saved bindings have come for an activation: it gives up, or brings its shader back. -/
theorem spares_restored {e e' : Engine α} (h : e.Spares e') (a : Activation α) (q : Quest)
    (b : ActiveShader α) (specs : Option (List (BindingSpec α))) :
    e.Spares (if e'.isOutdated q then e'.finish a .superseded else e'.install a b specs) ∨
      ∃ r, .finished r ∈
        (if e'.isOutdated q then e'.finish a .superseded else e'.install a b specs).outbox ∧
        r.ticket = a.ticket ∧ r.outcome = .installed b := by
  split
  · exact .inl (h.finish _ _)
  · exact .inr ⟨_, List.mem_append_right _ (List.mem_singleton_self _), rfl, rfl⟩

/-- When saved bindings have come, the session is spared or a shader is brought back. -/
theorem spares_presetLoaded (e : Engine α) (t : Ticket)
    (saved : Except PresetError (Option (List (BindingSpec α)))) :
    e.Spares (e.presetLoaded t saved) ∨
      ∃ r b, .finished r ∈ (e.presetLoaded t saved).outbox ∧ r.ticket = t ∧
        r.outcome = .installed b := by
  unfold presetLoaded
  split
  · next a ha =>
      split
      · next q p hs =>
          obtain ⟨-, rfl⟩ := mem_of_activation? ha
          let b : ActiveShader α := ⟨q.descriptor, p, q.generation⟩
          cases saved with
          | ok specs =>
              refine (spares_restored (.refl e) a q b specs).imp_right ?_
              exact fun ⟨r, hr, ht, ho⟩ => ⟨r, b, hr, ht, ho⟩
          | error problem =>
              refine (spares_restored ((Spares.refl e).note _) a q b none).imp_right ?_
              exact fun ⟨r, hr, ht, ho⟩ => ⟨r, b, hr, ht, ho⟩
      · exact .inl (.refl e)
  · exact .inl (.refl e)

/-- What comes for an activation spares the session, unless it brings a shader back. -/
theorem spares_arrive (e : Engine α) (t : Ticket) (came : Arrival α) :
    e.Spares (e.arrive t came) ∨
      ∃ r b, .finished r ∈ (e.arrive t came).outbox ∧ r.ticket = t ∧
        r.outcome = .installed b := by
  cases came with
  | turn => exact .inl (spares_resumed e t)
  | source content => exact .inl (spares_sourceRead e t content)
  | program now outcome => exact .inl (spares_compiled e now t outcome)
  | record written => exact .inl (spares_recorded e t written)
  | preset saved => exact spares_presetLoaded e t saved

omit [Scalar α] in
/-- An activation of a name that is not known outdates nothing. -/
theorem activate_of_unknown (e : Engine α) (purpose : Purpose) {name : String}
    (h : e.registry.get? name = none) :
    (e.activate purpose name).generation = e.generation ∧
      (e.activate purpose name).activations =
        e.activations ++ [⟨e.issued, name, purpose, .lost⟩] := by
  simp [activate, h, emit]

/-- What comes for an activation outdates nothing and leaves the others on their way. -/
theorem arrive_others (e : Engine α) (t : Ticket) (came : Arrival α) :
    (e.arrive t came).generation = e.generation ∧
      ∀ b ∈ e.activations, b.ticket ≠ t → b ∈ (e.arrive t came).activations := by
  obtain ⟨xs, -, m⟩ := makes_arrive e t came
  have hflight : (e.arrive t came).flight.generation = e.flight.generation ∧
      ∀ b ∈ e.flight.activations, b.ticket ≠ t → b ∈ (e.arrive t came).flight.activations := by
    generalize (e.arrive t came).flight = g at m
    generalize e.flight = f at m
    generalize hl : some (t, came) = l at m
    cases m with
    | aside => cases hl
    | missed => cases hl
    | begun => cases hl
    | ignored => exact ⟨rfl, fun b hb _ => hb⟩
    | advanced =>
        cases hl
        exact ⟨rfl, fun b hb ht => List.mem_map.mpr ⟨b, hb, by simp [ht]⟩⟩
    | ended =>
        cases hl
        exact ⟨rfl, fun b hb ht => List.mem_filter.mpr ⟨hb, by simpa using ht⟩⟩
  exact hflight

end Engine

/-! ## Failures are reported -/

namespace Flight

open Effect

/-- An activation has failed to compile, and ends so or has ended so. -/
def Failing (f : Flight α) (log : List (Effect α)) (t : Ticket) (failure : CompileFailure) :
    Prop :=
  (∃ a ∈ f.activations, a.ticket = t ∧ ∃ q, a.stage = .recording q failure) ∨
    ∃ r ∈ returns log, r.ticket = t ∧ r.outcome = .uncompilable failure

variable [Scalar α] {f g : Flight α} {log xs : List (Effect α)}

/-- An activation that has failed to compile does not get out of it. -/
theorem Failing.move {l : Option (Ticket × Engine.Arrival α)} {t : Ticket}
    {failure : CompileFailure} (h : f.Failing log t failure) (hacc : f.Accounted log)
    (m : f.Move l xs g) : g.Failing (log ++ xs) t failure := by
  obtain ⟨a, ha, rfl, q, hs⟩ | ⟨r, hr, ht, ho⟩ := h
  · cases m with
    | aside => exact .inl ⟨a, ha, rfl, q, hs⟩
    | ignored => exact .inl ⟨a, ha, rfl, q, hs⟩
    | missed => exact .inl ⟨a, List.mem_append_left _ ha, rfl, q, hs⟩
    | begun => exact .inl ⟨a, List.mem_append_left _ ha, rfl, q, hs⟩
    | @advanced b _ stage x ns hb hadv _ =>
        have hne : a.ticket ≠ b.ticket := fun hab => by
          obtain rfl := hacc.eq_of_ticket ha hb hab
          rw [hs] at hadv
          cases hadv
        exact .inl ⟨a, List.mem_map.mpr ⟨a, ha, by simp [hne]⟩, rfl, q, hs⟩
    | @ended b _ o ns bindings hb hends _ =>
        by_cases hab : a.ticket = b.ticket
        · obtain rfl := hacc.eq_of_ticket ha hb hab
          rw [hs] at hends
          cases hends
          refine .inr ⟨⟨a.ticket, a.requested, .uncompilable failure, bindings⟩, ?_, rfl, rfl⟩
          simp
        · exact .inl ⟨a, List.mem_filter.mpr ⟨ha, by simpa using hab⟩, rfl, q, hs⟩
  · exact .inr ⟨r, by simp [hr], ht, ho⟩

/-- A compile that does not succeed fails its activation. -/
theorem Accounted.failing (h : f.Accounted log) {t : Ticket} {now : Timestamp} {message : String}
    (m : f.Move (some (t, .program now (.error message))) xs g) {a : Activation α}
    (ha : f.find? t = some a) {q : Quest} {p : Transpiled α} (hs : a.stage = .compiling q p) :
    g.Failing (log ++ xs) t (Engine.failureOf q p message) := by
  have hat : a.ticket = t := by simpa using List.find?_some ha
  have hmem : a ∈ f.activations := List.mem_of_find?_eq_some ha
  rcases h.move_of_awaits m ha (by rw [hs]; rfl) with
    ⟨stage, x, ns, hadv, rfl, -, -⟩ | ⟨o, bs, ns, hends, -, -, -⟩
  · rw [hs] at hadv
    cases hadv
    refine .inl ⟨{ a with stage := .recording q (Engine.failureOf q p message) }, ?_, hat, q, rfl⟩
    exact List.mem_map.mpr ⟨a, hmem, by simp [hat]⟩
  · rw [hs] at hends
    cases hends

end Flight

namespace Performance

open Effect

variable [Scalar α]

/-- A compile that does not succeed fails its activation, whether or not that can be written to
the log. -/
theorem failing_of_receives {shaderRoot : String} {xs : List (Engine.Event α)} {t : Ticket}
    {now : Timestamp} {message : String}
    (h : Receives shaderRoot xs t (.program now (.error message))) :
    ∃ (q : Quest) (p : Transpiled α),
      .compile t (Engine.compileRequest q.descriptor p) ∈ (run shaderRoot xs).asked ∧
      (run shaderRoot xs).engine.flight.Failing (run shaderRoot xs).asked t
        (Engine.failureOf q p message) := by
  obtain ⟨ys, zs, a, rfl, ha, hawaits⟩ := h
  have hacc := accounted shaderRoot ys
  obtain ⟨hmem, hat⟩ := Engine.mem_of_activation? ha
  obtain ⟨q, p, hs⟩ : ∃ q p, a.stage = .compiling q p := by
    cases hs : a.stage <;> simp_all [Stage.awaits]
  let x : Engine.Event α := .arrive t (.program now (.error message))
  refine ⟨q, p, ?_, ?_⟩
  · have hfits := hacc.stages a hmem
    rw [hs, hat] at hfits
    exact mem_asked_of_prefix hfits.2.1
  · obtain ⟨es, hes, m⟩ := Engine.makes_arrive (run shaderRoot ys).engine t
      (.program now (.error message))
    rw [outbox_run, List.nil_append] at hes
    subst hes
    have hfailing : (run shaderRoot (ys ++ [x])).engine.flight.Failing
        (run shaderRoot (ys ++ [x])).asked t (Engine.failureOf q p message) := by
      rw [run_concat]
      exact hacc.failing m ha hs
    rw [List.append_cons]
    have hkept := run_induction
      (P := fun f log => f.Accounted log ∧ f.Failing log t (Engine.failureOf q p message))
      shaderRoot (ys ++ [x]) zs ⟨accounted shaderRoot _, hfailing⟩
      fun f log l es g m h => ⟨h.1.move m, h.2.move h.1 m⟩
    exact hkept.2

/-- A failed compile is reported whether or not it could be written to the log. -/
theorem returns_of_recording (shaderRoot : String) (xs : List (Engine.Event α)) {t : Ticket}
    {a : Activation α} {q : Quest} {failure : CompileFailure}
    (written : Except Files.Error Unit)
    (ha : (run shaderRoot xs).engine.activation? t = some a)
    (hs : a.stage = .recording q failure) :
    ∃ r ∈ (run shaderRoot xs).returns (.arrive t (.record written)),
      r.ticket = t ∧ r.outcome = .uncompilable failure := by
  obtain ⟨es, hes, m⟩ := Engine.makes_arrive (run shaderRoot xs).engine t (.record written)
  rw [outbox_run, List.nil_append] at hes
  have hawaits : a.stage.awaits (.record written) := by simp [hs, Stage.awaits]
  rcases (accounted shaderRoot xs).move_of_awaits m ha hawaits with
    ⟨stage, x, ns, hadv, -, -, -⟩ | ⟨o, bs, ns, hends, -, hns, hquiet⟩
  · rw [hs] at hadv
    cases hadv
  · rw [hs] at hends
    cases hends
    refine ⟨⟨t, a.requested, .uncompilable failure, bs⟩, ?_, rfl, rfl⟩
    have hreturns : (run shaderRoot xs).returns (.arrive t (.record written)) =
        Effect.returns es := congrArg Effect.returns hes
    simp [hreturns, hns]

/-- An activation ends once. -/
theorem eq_of_returns {shaderRoot : String} {xs : List (Engine.Event α)} {r s : Finish α}
    (hr : r ∈ Effect.returns (run shaderRoot xs).asked)
    (hs : s ∈ Effect.returns (run shaderRoot xs).asked) (hrs : r.ticket = s.ticket) : r = s :=
  List.inj_on_of_nodup_map (List.nodup_append.mp (accounted shaderRoot xs).nodup).2.1 hr hs hrs

/-- No step of an activation that fails changes the session or schedules a capture. -/
theorem spares_of_rejection {shaderRoot : String} {ys zs : List (Engine.Event α)}
    {r : Finish α} {came : Engine.Arrival α}
    (hr : r ∈ Effect.returns (run shaderRoot (ys ++ .arrive r.ticket came :: zs)).asked)
    (hrejection : r.outcome.isRejection) :
    (run shaderRoot ys).engine.Spares ((run shaderRoot ys).engine.arrive r.ticket came) := by
  refine (Engine.spares_arrive _ _ _).resolve_right ?_
  rintro ⟨s, b, hs, hsr, hsb⟩
  have hmem : .finished s ∈ (run shaderRoot (ys ++ .arrive r.ticket came :: zs)).asked := by
    rw [List.append_cons]
    refine mem_asked_of_prefix ?_
    rw [run_concat]
    exact List.mem_append_right _ hs
  obtain rfl := eq_of_returns hr (List.mem_filterMap.mpr ⟨_, hmem, rfl⟩) hsr.symm
  simp [hsb, Outcome.isRejection] at hrejection

end Performance

/-! ## Failed activations leave the session alone -/

namespace Rig

/-- A rig gets to another with the same session and the same capture that waits. -/
def KeepsShow (g g' : Rig α) : Prop :=
  g'.engine.session = g.engine.session ∧ g'.pendingCapture = g.pendingCapture

variable [Scalar α]

/-- An engine that spares its session spares it also in a rig, with the capture that waits. -/
theorem keepsShow_act (g : Rig α) (f : Engine α → Engine α) (h : g.engine.Spares (f g.engine))
    (hout : g.engine.outbox = []) : g.KeepsShow (g.act f) := by
  refine ⟨by rw [engine_act]; exact h.1, pendingCapture_act g f fun name hname => ?_⟩
  simpa [hout] using h.2 name hname

/-- What the render host does disturbs nothing. -/
theorem keepsShow_actHost (g : Rig α) (step : Host × List (HostEffect α)) :
    g.KeepsShow (g.actHost step) :=
  ⟨congrArg Engine.session (frame_actHost g step).engine, (frame_actHost g step).pendingCapture⟩

end Rig

namespace Performance

variable [Scalar α]

/-- Failed activations leave the session alone. None of their steps changes it or the capture
that waits, nor does the start of any activation, nor does a compile that times out or is given
up. A compile that does not succeed is reported as such, whether or not that could be written to
the log; a request always comes to a result, which says so if it has failed; and a name that is
not known outdates nothing. -/
theorem rejection_spares (shaderRoot : String) (xs : List (Engine.Event α)) :
    (∀ r ∈ Effect.returns (run shaderRoot xs).asked, r.outcome.isRejection →
      ∀ ys came zs (g : Rig α), xs = ys ++ .arrive r.ticket came :: zs →
        g.engine = (run shaderRoot ys).engine →
          g.KeepsShow (g.act (·.step (.arrive r.ticket came)))) ∧
    (∀ purpose name (g : Rig α), g.engine.outbox = [] →
      g.KeepsShow (g.act (·.activate purpose name))) ∧
    (∀ id (g : Rig α),
      g.KeepsShow (g.ring (.compileLimit id)) ∧ g.KeepsShow (g.actHost g.host.dispose)) ∧
    (∀ t now message, Receives shaderRoot xs t (.program now (.error message)) →
      ∃ (q : Quest) (p : Transpiled α),
        .compile t (Engine.compileRequest q.descriptor p) ∈ (run shaderRoot xs).asked ∧
        (run shaderRoot xs).engine.flight.Failing (run shaderRoot xs).asked t
          (Engine.failureOf q p message)) ∧
    (∀ t a q failure written, (run shaderRoot xs).engine.activation? t = some a →
      a.stage = .recording q failure →
        ∃ r ∈ (run shaderRoot xs).returns (.arrive t (.record written)),
          r.ticket = t ∧ r.outcome = .uncompilable failure) ∧
    (∀ t a came, (run shaderRoot xs).engine.activation? t = some a → a.stage.awaits came →
      (∃ r ∈ (run shaderRoot xs).returns (.arrive t came), r.ticket = t) ∨
        ∃ b ∈ (run shaderRoot (xs ++ [.arrive t came])).engine.activations,
          b.ticket = t ∧ b.stage.remaining < a.stage.remaining) ∧
    (∀ r : Finish α, (RequestResult.ofFinish r).isSuccess = !r.outcome.isRejection ∧
      ∀ failure, r.outcome = .uncompilable failure →
        RequestResult.ofFinish r =
          .compileError r.requested failure.message failure.diagnostics) ∧
    (∀ (e : Engine α) purpose name, e.registry.get? name = none →
      (e.activate purpose name).generation = e.generation ∧
      (e.activate purpose name).activations =
        e.activations ++ [⟨e.issued, name, purpose, .lost⟩]) ∧
    (∀ t came,
      (run shaderRoot (xs ++ [.arrive t came])).engine.generation =
        (run shaderRoot xs).engine.generation ∧
      ∀ b ∈ (run shaderRoot xs).engine.activations, b.ticket ≠ t →
        b ∈ (run shaderRoot (xs ++ [.arrive t came])).engine.activations) := by
  refine ⟨?_, ?_, ?_, ?_, ?_, ?_, ?_, ?_, ?_⟩
  · rintro r hr hrejection ys came zs g rfl hg
    refine Rig.keepsShow_act g _ ?_ (by rw [hg, outbox_run])
    rw [hg]
    exact spares_of_rejection hr hrejection
  · intro purpose name g hout
    exact Rig.keepsShow_act g _ (Engine.spares_activate g.engine purpose name) hout
  · exact fun id g => ⟨Rig.keepsShow_actHost g _, Rig.keepsShow_actHost g _⟩
  · exact fun t now message h => failing_of_receives h
  · exact fun t a q failure written ha hs => returns_of_recording shaderRoot xs written ha hs
  · exact fun t a came ha hawaits => returns_or_remaining_lt shaderRoot xs ha hawaits
  · intro r
    constructor
    · cases ho : r.outcome <;>
        simp [RequestResult.ofFinish, RequestResult.isSuccess, Outcome.isRejection, ho]
    · intro failure ho
      simp [RequestResult.ofFinish, ho]
  · exact fun e purpose name h => Engine.activate_of_unknown e purpose h
  · intro t came
    rw [run_concat]
    exact Engine.arrive_others _ t came

/-- While one shader is active the compile of another fails. -/
def failing : List (Engine.Event Float) :=
  .rescan twoShaders :: .activate .request "a" :: completing 0 ++
    [.activate .request "b", .arrive 1 (.source (.ok "")),
      .arrive 1 (.program ⟨0⟩ (.error "ERROR: 0:1: x"))]

/-- What comes then: the failure could not be written to the log. -/
def unrecorded : Engine.Event Float := .arrive 1 (.record (.error .isDirectory))

/-- A rig in which the compile has failed. -/
def failingRig : Rig Float :=
  let setup : Setup Float :=
    { renderer := .channel, failures := [], captureRefusal := none, shaderDir := ["shaders"]
      presetDir := none, captureDir := none, errorLog := ["errors.log"], captureDelay := 0.0
      compileLimit := 0.0, pollInterval := 0.0, busyPorts := [], start := ⟨0⟩ }
  { Rig.new setup (.empty "home") 1 with engine := (run "shaders" failing).engine }

/-- A compile that has failed is reported though it could not be written to the log, the shader that
is active stays so, and asking for one that is not there then outdates nothing. -/
theorem rejection_spares_failing :
    (∃ r ∈ Effect.returns (run "shaders" (failing ++ [unrecorded])).asked,
        r.ticket = 1 ∧ r.outcome.isRejection = true ∧
        failingRig.KeepsShow (failingRig.act (·.step unrecorded))) ∧
      failingRig.KeepsShow (failingRig.act (·.activate .request "c")) ∧
      (Receives "shaders" failing 1 (.program ⟨0⟩ (.error "ERROR: 0:1: x")) ∧
        ∃ (q : Quest) (p : Transpiled Float),
          .compile 1 (Engine.compileRequest q.descriptor p) ∈ (run "shaders" failing).asked ∧
          (run "shaders" failing).engine.flight.Failing (run "shaders" failing).asked 1
            (Engine.failureOf q p "ERROR: 0:1: x")) ∧
      (∃ r ∈ (run "shaders" failing).returns unrecorded, r.ticket = 1 ∧
        ∃ failure, r.outcome = .uncompilable failure ∧
          RequestResult.ofFinish r =
            .compileError r.requested failure.message failure.diagnostics) ∧
      (failingRig.engine.activate .request "c").generation = failingRig.engine.generation := by
  obtain ⟨hsteps, -⟩ := rejection_spares "shaders" (failing ++ [unrecorded])
  obtain ⟨-, hstart, -, hfailing, hreported, -, hresult, hunknown, -⟩ :=
    rejection_spares "shaders" failing
  have hcompiled : Receives "shaders" failing 1 (.program ⟨0⟩ (.error "ERROR: 0:1: x")) :=
    ⟨failing.dropLast, [], _, rfl, rfl, rfl⟩
  obtain ⟨r, hr, ht, ho⟩ := hreported 1 _ _ _ (.error .isDirectory) rfl rfl
  have hreturned : r ∈ Effect.returns (run "shaders" (failing ++ [unrecorded])).asked := by
    rw [run_concat]
    show r ∈ Effect.returns ((run "shaders" failing).asked ++ _)
    rw [Effect.returns_append]
    exact List.mem_append_right _ hr
  have hrejection : r.outcome.isRejection = true := by rw [ho]; rfl
  have hspared := hsteps r hreturned hrejection failing (.record (.error .isDirectory)) []
    failingRig (by rw [ht]; rfl) rfl
  rw [ht] at hspared
  exact ⟨⟨r, hreturned, ht, hrejection, hspared⟩, hstart .request "c" failingRig rfl,
    ⟨hcompiled, hfailing 1 ⟨0⟩ _ hcompiled⟩, ⟨r, hr, ht, _, ho, (hresult r).2 _ ho⟩,
    (hunknown failingRig.engine .request "c" rfl).1⟩

end Performance

end LiveVisuals
