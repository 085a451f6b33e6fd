import LiveVisuals.Proofs.Binding.Edit
import LiveVisuals.Proofs.Rig.Rejection

/-!
# Cues

While a shader is active, only two things have an influence on its bindings and on the values
that are presented: edits of the bindings, and the readings of a frame. These are the cues of a
run. Everything else that happens, other activations on their way included, leaves bindings and
values alone.

Main definitions:

- {lit}`Cue`, {lit}`Cue.play`: a cue, and what comes of it.
- {lit}`Engine.cues`: the cues of an event.
- {lit}`Engine.Plays`: an engine gets to another as cues say.

Main results:

- Theorem {lit}`Engine.plays_step`: an event that installs no shader plays its cues.
- Theorem {lit}`Performance.plays_run`: so does a run during which none is installed.
-/

namespace LiveVisuals

variable {α : Type}

/-- What has an influence on bindings and values. -/
inductive Cue (α : Type) where
  | edit (x : BindingTable.Edit α)
  /-- A frame with its readings, and whether its values are presented in the end. -/
  | frame (r : Readings α) (shown : Bool)

namespace Cue

/-- The edit of a cue. -/
def edit? : Cue α → Option (BindingTable.Edit α)
  | edit x => some x
  | frame .. => none

variable [Scalar α]

/-- A table after a cue, and the values that are presented. -/
def play (u : UniformSet α) (t : BindingTable α) : Cue α → BindingTable α × List (UniformValues α)
  | edit x => (t.edit x, [])
  | frame r shown =>
      let (t, outputs) := t.computeAll r.frame
      (t, if shown then [resolveUniforms u r outputs] else [])

/-- A table after some cues, and the values that are presented. -/
def playAll (u : UniformSet α) (t : BindingTable α) :
    List (Cue α) → BindingTable α × List (UniformValues α)
  | [] => (t, [])
  | c :: cs =>
      let (t, vs) := c.play u t
      let (t, ws) := playAll u t cs
      (t, vs ++ ws)

/-- Cues are played one after the other. -/
theorem playAll_append (u : UniformSet α) (t : BindingTable α) (cs ds : List (Cue α)) :
    playAll u t (cs ++ ds) =
      ((playAll u (playAll u t cs).1 ds).1,
        (playAll u t cs).2 ++ (playAll u (playAll u t cs).1 ds).2) := by
  induction cs generalizing t with
  | nil => simp [playAll]
  | cons c cs ih => simp [playAll, ih]

/-- Apart from smoothed readings, a table after some cues is the table after their edits. -/
theorem plain_playAll (u : UniformSet α) {t t' : BindingTable α} (h : t.plain = t'.plain)
    (cs : List (Cue α)) :
    (playAll u t cs).1.plain = ((cs.filterMap edit?).foldl BindingTable.edit t').plain := by
  induction cs generalizing t t' with
  | nil => exact h
  | cons c cs ih =>
      cases c with
      | edit x => exact ih (BindingTable.plain_edit h x)
      | frame r shown => exact ih ((BindingTable.plain_advanceAll t r.frame).trans h)

end Cue

/-! ## Cues of events -/

/-- The values that are presented, in order. -/
def Effect.presented (log : List (Effect α)) : List (UniformValues α) :=
  log.filterMap fun
    | .present values => some values
    | _ => none

@[simp] theorem Effect.presented_append (log log' : List (Effect α)) :
    presented (log ++ log') = presented log ++ presented log' := by
  simp [presented]

/-- Effects other than the presentation of values present none. -/
theorem Effect.presented_emit (e : Engine α) {x : Effect α} (hx : ∀ vs, x ≠ .present vs) :
    presented (e.emit x).outbox = presented e.outbox := by
  cases x with
  | present vs => exact absurd rfl (hx vs)
  | _ => simp [Engine.emit, presented]

theorem Effect.presented_noteAll (e : Engine α) (ns : List Notice) :
    presented (e.noteAll ns).outbox = presented e.outbox := by
  rw [Engine.noteAll_eq]
  simp [presented]

namespace Command

/-- The edit that a command asks for. -/
def edit? : Command α → Option (BindingTable.Edit α)
  | .addBinding spec => some (.add spec)
  | .removeBinding uniform => some (.remove uniform)
  | .clearBindings => some .clear
  | _ => none

variable [Scalar α]

/-- The cues of a message. -/
def cuesOf (m : Osc.Message α) : List (Cue α) :=
  (((ofMessage? m).bind edit?).map Cue.edit).toList

end Command

namespace Engine

variable [Scalar α]

/-- The engine at a tick when everything that waited has been applied and heard. -/
def heard (e : Engine α) (dt : α) : Engine α := e.drain.mapSession fun s => s.frameTick dt

/-- The cues of a tick. -/
def tickCues (e : Engine α) (dt : α) (shown : Bool) : List (Cue α) :=
  e.inbox.drain.commands.flatMap Command.cuesOf ++ [.frame (e.heard dt).session.readings shown]

/-- The cues of an event. -/
def cues (e : Engine α) : Event α → List (Cue α)
  | .addBinding spec => [.edit (.add spec)]
  | .removeBinding uniform => [.edit (.remove uniform)]
  | .clearBindings => [.edit .clear]
  | .control m => Command.cuesOf m
  | .tick dt => e.tickCues dt true
  | .brokenTick dt => e.tickCues dt false
  | _ => []

/-! ## Playing cues -/

/-- An engine that shows a shader gets to another one as cues say. -/
structure Plays (e : Engine α) (cs : List (Cue α)) (e' : Engine α) : Prop where
  active : e'.session.active = e.session.active
  bindings : ∀ b, e.session.active = some b →
    e'.session.bindings = (Cue.playAll b.transpiled.uniforms e.session.bindings cs).1
  presented : ∀ b, e.session.active = some b →
    Effect.presented e'.outbox = Effect.presented e.outbox ++
      (Cue.playAll b.transpiled.uniforms e.session.bindings cs).2

namespace Plays

variable {e e' e'' : Engine α} {cs ds : List (Cue α)}

/-- Where bindings and presented values stay, nothing is played. -/
theorem aside (hactive : e'.session.active = e.session.active)
    (hbindings : e'.session.bindings = e.session.bindings)
    (hout : Effect.presented e'.outbox = Effect.presented e.outbox) : e.Plays [] e' :=
  ⟨hactive, fun _ _ => hbindings, fun _ _ => by simp [hout, Cue.playAll]⟩

theorem refl (e : Engine α) : e.Plays [] e := aside rfl rfl rfl

/-- Cues are played one after the other. -/
theorem trans (first : e.Plays cs e') (second : e'.Plays ds e'') : e.Plays (cs ++ ds) e'' := by
  refine ⟨second.active.trans first.active, fun b hb => ?_, fun b hb => ?_⟩
  · have hb' := first.active.trans hb
    rw [Cue.playAll_append, second.bindings b hb', first.bindings b hb]
  · have hb' := first.active.trans hb
    rw [Cue.playAll_append, second.presented b hb', first.presented b hb, first.bindings b hb,
      List.append_assoc]

/-- Nothing is played after cues. -/
theorem andThen (first : e.Plays cs e') (second : e'.Plays [] e'') : e.Plays cs e'' := by
  simpa using first.trans second

/-- A change of the session that keeps the active shader and the bindings plays nothing. -/
theorem mapSession (e : Engine α) {f : Session α → Session α}
    (hactive : (f e.session).active = e.session.active)
    (hbindings : (f e.session).bindings = e.session.bindings) : e.Plays [] (e.mapSession f) :=
  aside hactive hbindings rfl

/-- An edit is played. -/
theorem edit (e : Engine α) (x : BindingTable.Edit α) :
    e.Plays [.edit x] (e.mapSession fun s => { s with bindings := s.bindings.edit x }) :=
  ⟨rfl, fun _ _ => rfl, fun _ _ => by simp [Cue.playAll, Cue.play, Engine.mapSession]⟩

/-- Effects that present no values play nothing. -/
theorem emit (e : Engine α) {x : Effect α} (hx : ∀ vs, x ≠ .present vs) :
    e.Plays [] (e.emit x) :=
  aside rfl rfl (Effect.presented_emit e hx)

theorem noteAll (e : Engine α) (ns : List Notice) : e.Plays [] (e.noteAll ns) :=
  aside (by rw [noteAll_eq]) (by rw [noteAll_eq]) (Effect.presented_noteAll e ns)

end Plays

omit [Scalar α] in
/-- The start of an activation presents nothing. -/
theorem presented_activate (e : Engine α) (purpose : Purpose) (name : String) :
    Effect.presented (e.activate purpose name).outbox = Effect.presented e.outbox := by
  unfold activate
  split <;> simp [Engine.emit, Effect.presented]

/-- The start of an activation plays nothing. -/
theorem plays_activate (e : Engine α) (purpose : Purpose) (name : String) :
    e.Plays [] (e.activate purpose name) := by
  have hsession := (spares_activate e purpose name).1
  exact .aside (by rw [hsession]) (by rw [hsession]) (presented_activate e purpose name)

/-- What is asked for when something comes for an activation presents no values. -/
theorem presented_of_arrival {f g : Flight α} {t : Ticket} {came : Arrival α}
    {xs : List (Effect α)} (m : f.Move (some (t, came)) xs g) : Effect.presented xs = [] := by
  have hquiet : ∀ x ∈ xs, ∀ vs, x ≠ .present vs := by
    generalize hl : some (t, came) = l at m
    cases m with
    | aside => cases hl
    | missed => cases hl
    | begun => cases hl
    | ignored => simp
    | @advanced a _ _ _ _ _ hadv hns =>
        rintro x hx vs rfl
        rcases List.mem_append.mp hx with hx | hx
        · exact Bool.false_ne_true (hns _ hx)
        · generalize a.stage = s at hadv
          cases hadv <;> simp at hx
    | ended _ _ _ hns =>
        rintro x hx vs rfl
        rcases List.mem_append.mp hx with hx | hx
        · rcases hns _ hx with hx | ⟨s, -, hs⟩
          · exact Bool.false_ne_true hx
          · cases hs
        · simp at hx
  refine List.filterMap_eq_nil_iff.mpr fun x hx => ?_
  cases x with
  | present vs => exact absurd rfl (hquiet _ hx vs)
  | _ => rfl

/-- What comes for an activation presents nothing. -/
theorem presented_arrive (e : Engine α) (t : Ticket) (came : Arrival α) :
    Effect.presented (e.arrive t came).outbox = Effect.presented e.outbox := by
  obtain ⟨xs, hout, m⟩ := makes_arrive e t came
  rw [hout, Effect.presented_append, presented_of_arrival m, List.append_nil]

/-- What comes for an activation plays nothing, unless a shader is installed. -/
theorem plays_arrive (e : Engine α) (t : Ticket) (came : Arrival α) :
    e.Plays [] (e.arrive t came) ∨
      ∃ r b, .finished r ∈ (e.arrive t came).outbox ∧ r.ticket = t ∧
        r.outcome = .installed b := by
  refine (spares_arrive e t came).imp_left fun h => ?_
  exact .aside (by rw [h.1]) (by rw [h.1]) (presented_arrive e t came)

/-- A command plays the edit that it asks for. -/
theorem plays_obey (e : Engine α) (c : Command α) :
    e.Plays ((c.edit?.map Cue.edit).toList) (e.obey c).1 := by
  cases c with
  | resetAudio => exact (Plays.mapSession e (by rfl) (by rfl)).trans (.emit _ (by simp))
  | addBinding spec => exact .edit e (.add spec)
  | incompleteBinding => exact .emit e (by simp)
  | removeBinding uniform => exact .edit e (.remove uniform)
  | clearBindings => exact .edit e .clear
  | setControls u =>
      exact .mapSession e (f := fun s => { s with controls := s.controls.update u }) rfl rfl
  | loadShader name energy valence => exact (Plays.noteAll e _).trans (plays_activate _ _ name)
  | setToggle name enabled =>
      exact (Plays.mapSession e (by rfl) (by rfl)).trans (.emit _ (by simp))

theorem plays_handle (e : Engine α) (m : Osc.Message α) :
    e.Plays (Command.cuesOf m) (e.handle m).1 := by
  unfold handle Command.cuesOf
  split
  · next c hc =>
      rw [hc]
      exact plays_obey e c
  · next hc =>
      rw [hc]
      exact .refl e

/-- Where every step of a fold plays cues, the fold plays all of them. -/
theorem plays_foldl {β : Type} {f : Engine α → β → Engine α} {g : β → List (Cue α)}
    (hf : ∀ (e : Engine α) b, e.Plays (g b) (f e b)) (e : Engine α) (bs : List β) :
    e.Plays (bs.flatMap g) (bs.foldl f e) := by
  induction bs generalizing e with
  | nil => exact .refl e
  | cons b bs ih => exact (hf e b).trans (ih (f e b))

theorem plays_drain (e : Engine α) :
    e.Plays (e.inbox.drain.commands.flatMap Command.cuesOf) e.drain := by
  have hinbox : e.Plays [] { e with inbox := .empty } := .aside rfl rfl rfl
  have hhear : ∀ (e : Engine α) (m : Osc.Message α), e.Plays [] (e.hear m) :=
    fun e m => .mapSession e rfl rfl
  have haudio : ∀ e' : Engine α, e'.Plays [] (e.inbox.drain.audio.foldl hear e') := by
    intro e'
    have hnone : e.inbox.drain.audio.flatMap (fun _ => ([] : List (Cue α))) = [] := by simp
    exact hnone ▸ plays_foldl hhear e' e.inbox.drain.audio
  exact (hinbox.trans (plays_foldl plays_handle _ _)).andThen (haudio _)

theorem plays_beginReload (e : Engine α) : e.Plays [] e.beginReload := by
  unfold beginReload
  split
  · exact (Plays.mapSession e (by rfl) (by rfl)).trans (.emit _ (by simp))
  · exact .refl e

/-- The readings of a tick are those after everything that waited has been heard. -/
theorem readings_beginReload (e : Engine α) :
    e.beginReload.session.readings = e.session.readings := by
  unfold beginReload
  split <;> rfl

/-- An engine at a tick, when the values of its active shader are due. -/
theorem plays_due (e : Engine α) (dt : α) :
    e.Plays (e.inbox.drain.commands.flatMap Command.cuesOf) (e.heard dt).beginReload :=
  ((plays_drain e).andThen (.mapSession _ rfl rfl)).andThen (plays_beginReload _)

/-- What a frame comes to while a shader is active. -/
theorem resolve_of_active {s : Session α} {b : ActiveShader α} (h : s.active = some b) :
    s.resolve =
      ({ s with bindings := (s.bindings.computeAll s.frame).1 },
        some (resolveUniforms b.transpiled.uniforms s.readings
          (s.bindings.computeAll s.frame).2)) := by
  simp [Session.resolve, h]

/-- The values of a frame are worked out. -/
theorem plays_resolve (e : Engine α) :
    e.Plays [.frame e.session.readings false] { e with session := e.session.resolve.1 } := by
  cases hactive : e.session.active with
  | none =>
      have hsession : e.session.resolve.1 = e.session := by simp [Session.resolve, hactive]
      rw [hsession]
      exact ⟨rfl, by simp [hactive], by simp [hactive]⟩
  | some b =>
      rw [resolve_of_active hactive]
      exact ⟨rfl, fun _ _ => rfl, fun _ _ => by simp [Cue.playAll, Cue.play]⟩

/-- The values of a frame are worked out and presented. -/
theorem plays_conclude (e : Engine α) (dt : α) :
    e.Plays [.frame e.session.readings true]
      ({ e with session := e.session.resolve.1 }.conclude dt e.session.resolve.2) := by
  cases hactive : e.session.active with
  | none =>
      have hresolve : e.session.resolve = (e.session, none) := by simp [Session.resolve, hactive]
      rw [hresolve]
      exact ⟨rfl, by simp [hactive], by simp [hactive]⟩
  | some b =>
      rw [resolve_of_active hactive]
      refine ⟨rfl, fun _ _ => rfl, fun c hc => ?_⟩
      obtain rfl : b = c := Option.some.inj (hactive.symm.trans hc)
      simp only [conclude, Engine.emit, Engine.mapSession, Effect.presented_append]
      rfl

/-- An event that installs no shader plays its cues. -/
theorem plays_step (e : Engine α) (x : Event α) :
    e.Plays (e.cues x) (e.step x) ∨
      ∃ t came r b, x = .arrive t came ∧ .finished r ∈ (e.step x).outbox ∧ r.ticket = t ∧
        r.outcome = .installed b := by
  cases x with
  | arrive t came =>
      refine (plays_arrive e t came).imp_right ?_
      rintro ⟨r, b, hr, ht, hb⟩
      exact ⟨t, came, r, b, rfl, hr, ht, hb⟩
  | activate purpose name => exact .inl (plays_activate e purpose name)
  | tick dt =>
      have hframe := plays_conclude (e.heard dt).beginReload dt
      rw [readings_beginReload] at hframe
      exact .inl ((plays_due e dt).trans hframe)
  | brokenTick dt =>
      have hframe := plays_resolve (e.heard dt).beginReload
      rw [readings_beginReload] at hframe
      exact .inl ((plays_due e dt).trans hframe)
  | receive m => exact .inl (.aside rfl rfl rfl)
  | control m => exact .inl (plays_handle e m)
  | addBinding spec => exact .inl (.edit e (.add spec))
  | removeBinding uniform => exact .inl (.edit e (.remove uniform))
  | clearBindings => exact .inl (.edit e .clear)
  | setControls u =>
      exact .inl (.mapSession e (f := fun s => { s with controls := s.controls.update u }) rfl rfl)
  | setToggle name enabled =>
      exact .inl ((Plays.mapSession e (by rfl) (by rfl)).trans (.emit _ (by simp)))
  | setResolution width height =>
      have hresize : (e.session.resize width height).active = e.session.active ∧
          (e.session.resize width height).bindings = e.session.bindings := by
        unfold Session.resize
        split <;> exact ⟨rfl, rfl⟩
      exact .inl (.mapSession e (f := fun s => s.resize width height) hresize.1 hresize.2)
  | markReload =>
      exact .inl (.mapSession e (f := fun s => { s with reloadPending := true }) rfl rfl)
  | poll s =>
      refine .inl ?_
      simp only [step, poll]
      split
      · exact .mapSession e (f := fun s => { s with reloadPending := true }) rfl rfl
      · exact .refl e
  | rescan s =>
      exact .inl (.aside rfl rfl (by simp [step, takeScan, note, Engine.emit, Effect.presented]))
  | scanned s =>
      have htake : ∀ s, e.Plays [] (e.takeScan s) := fun s =>
        .aside rfl rfl (by simp [takeScan, note, Engine.emit, Effect.presented])
      cases s with
      | error problem => exact .inl (.emit e (by simp))
      | ok s =>
          refine .inl ?_
          simp only [step, scanned]
          split
          · exact (htake s).trans (plays_activate _ _ _)
          · exact htake s

end Engine

/-! ## Cues of runs -/

namespace Performance

variable [Scalar α]

/-- The cues of some events, from a moment of a performance on. -/
def cues (p : Performance α) : List (Engine.Event α) → List (Cue α)
  | [] => []
  | x :: xs => p.engine.cues x ++ cues (p.step x) xs

/-- What has been asked for stays asked for. -/
theorem asked_prefix_foldl (p : Performance α) (xs : List (Engine.Event α)) :
    p.asked <+: (xs.foldl step p).asked := by
  induction xs generalizing p with
  | nil => exact List.prefix_rfl
  | cons x xs ih => exact (List.prefix_append _ _).trans (ih (p.step x))

/-- If no shader has been installed after some events, none was by the first of them. -/
theorem installs_step_of_foldl {p : Performance α} {x : Engine.Event α}
    {xs : List (Engine.Event α)}
    (h : Effect.installs (xs.foldl step (p.step x)).asked = Effect.installs p.asked) :
    Effect.installs (p.engine.step x).outbox = [] ∧
      Effect.installs (xs.foldl step (p.step x)).asked = Effect.installs (p.step x).asked := by
  obtain ⟨log, hlog⟩ := asked_prefix_foldl (p.step x) xs
  have hstep : (p.step x).asked = p.asked ++ (p.engine.step x).outbox := rfl
  rw [← hlog, hstep, Effect.installs_append, Effect.installs_append, List.append_assoc,
    List.append_right_eq_self, List.append_eq_nil_iff] at h
  refine ⟨h.1, ?_⟩
  rw [← hlog, Effect.installs_append, h.2, List.append_nil]

/-- While a shader stays installed, a performance plays the cues of what happens. -/
theorem plays_run {p : Performance α} (hout : p.engine.outbox = []) {b : ActiveShader α}
    (hactive : p.engine.session.active = some b) (xs : List (Engine.Event α))
    (hkept : Effect.installs (xs.foldl step p).asked = Effect.installs p.asked) :
    let q := xs.foldl step p
    let played := Cue.playAll b.transpiled.uniforms p.engine.session.bindings (p.cues xs)
    q.engine.session.active = some b ∧ q.engine.session.bindings = played.1 ∧
      Effect.presented q.asked = Effect.presented p.asked ++ played.2 := by
  induction xs generalizing p with
  | nil => exact ⟨hactive, rfl, by simp [cues, Cue.playAll]⟩
  | cons x xs ih =>
      obtain ⟨hnone, hrest⟩ := installs_step_of_foldl hkept
      have hplays : p.engine.Plays (p.engine.cues x) (p.engine.step x) := by
        refine (Engine.plays_step p.engine x).resolve_right ?_
        rintro ⟨t, came, r, c, -, hr, -, hc⟩
        have hmem : c ∈ Effect.installs (p.engine.step x).outbox :=
          List.mem_filterMap.mpr ⟨r, List.mem_filterMap.mpr ⟨_, hr, rfl⟩, by rw [hc]; rfl⟩
        simp [hnone] at hmem
      obtain ⟨hactive', hbindings', hpresented'⟩ :=
        ih (p := p.step x) rfl (hplays.active.trans hactive) hrest
      have hbindings : (p.step x).engine.session.bindings = _ := hplays.bindings b hactive
      have hpresented : Effect.presented (p.step x).asked =
          Effect.presented p.asked ++ (Cue.playAll b.transpiled.uniforms
            p.engine.session.bindings (p.engine.cues x)).2 := by
        have houtbox := hplays.presented b hactive
        rw [hout] at houtbox
        exact (Effect.presented_append _ _).trans (congrArg _ houtbox)
      rw [cues, Cue.playAll_append]
      refine ⟨hactive', ?_, ?_⟩
      · rw [← hbindings]
        exact hbindings'
      · rw [← hbindings, ← List.append_assoc, ← hpresented]
        exact hpresented'

end Performance

end LiveVisuals
