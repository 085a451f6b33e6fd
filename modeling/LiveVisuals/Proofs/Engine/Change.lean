import LiveVisuals.Proofs.Engine.Residue

/-!
# Changes of the session

Whatever happens to an engine, its session changes in a few ways only. An event tells which
changes come of it, and all values that are presented are those of a tick. So what the changes
keep holds of the session throughout a run, as long as the data of the changes are as they should
be.

Main definitions:

- {lit}`Session.Change`, {lit}`Session.change`: the ways in which a session changes.
- {lit}`Engine.changes`: the changes that come of an event.
- {lit}`Engine.Brings`: an engine gets to another as changes say, and presents nothing.

Main results:

- Theorem {lit}`Engine.changes_step`: the session after an event, and what the event presents.
- Theorem {lit}`Performance.session_run`: what all changes of a run keep holds of its session.
- Theorem {lit}`Performance.presented_run`: what holds of the values of each tick holds of all that
  a run presents.
-/

namespace LiveVisuals

variable {α : Type}

namespace Session

/-- The ways in which a session changes. -/
inductive Change (α : Type) where
  /-- The music that was heard so far is forgotten. -/
  | forget
  | hear (m : Osc.Message α)
  | edit (x : BindingTable.Edit α)
  | turn (u : ControlUpdate α)
  | toggle (name : String) (enabled : Bool)
  | resize (width height : α)
  /-- A reload is flagged or taken up. -/
  | reload (pending : Bool)
  | install (b : ActiveShader α) (saved : Option (List (BindingSpec α)))
  /-- The music is heard for a tick. -/
  | frame (dt : α)
  /-- The bindings advance for a tick. -/
  | resolve
  | pass (dt : α) (values : Option (UniformValues α))

variable [Scalar α]

/-- A session after a change. -/
def change (s : Session α) : Change α → Session α
  | .forget => { s with extractor := s.extractor.reset }
  | .hear m => { s with extractor := s.extractor.ingest m.address m.args }
  | .edit x => { s with bindings := s.bindings.edit x }
  | .turn u => { s with controls := s.controls.update u }
  | .toggle name enabled => { s with controls := s.controls.toggle name enabled }
  | .resize width height => s.resize width height
  | .reload pending => { s with reloadPending := pending }
  | .install b saved => s.install b saved
  | .frame dt => s.frameTick dt
  | .resolve => s.resolve.1
  | .pass dt values => s.pass dt values

/-- A size is taken as it is or ignored. -/
theorem resize_cases (s : Session α) (width height : α) :
    s.resize width height = s ∨
      s.resize width height = { s with resolution := (width, height) } := by
  unfold resize
  split
  · exact .inr rfl
  · exact .inl rfl

/-- All bindings advance when values are worked out, or nothing does. -/
theorem resolve_cases (s : Session α) :
    s.resolve.1 = s ∨ s.resolve.1 = { s with bindings := s.bindings.advanceAll s.frame } := by
  unfold resolve
  split
  · exact .inl rfl
  · exact .inr rfl

/-- What each of some changes keeps is kept by all of them. -/
theorem changes_keep {P : Session α → Prop} {Q : Change α → Prop}
    (hchange : ∀ s c, Q c → P s → P (s.change c)) {s : Session α} (h : P s)
    {cs : List (Change α)} (hcs : ∀ c ∈ cs, Q c) : P (cs.foldl change s) := by
  induction cs generalizing s with
  | nil => exact h
  | cons c cs ih =>
      rw [List.forall_mem_cons] at hcs
      exact ih (hchange s c hcs.1 h) hcs.2

end Session

/-! ## Changes of events -/

/-- The knobs that the speed depends on are turned to finite positions, if at all. -/
structure ControlUpdate.Steady [Scalar α] (u : ControlUpdate α) : Prop where
  styleBias : ∀ x ∈ u.styleBias, Scalar.isFinite x = true
  beatBoostGain : ∀ x ∈ u.beatBoostGain, Scalar.isFinite x = true

namespace Command

/-- The change that a command asks for, if it is not about activations. -/
def change? : Command α → Option (Session.Change α)
  | .resetAudio => some .forget
  | .addBinding spec => some (.edit (.add spec))
  | .removeBinding uniform => some (.edit (.remove uniform))
  | .clearBindings => some (.edit .clear)
  | .setControls u => some (.turn u)
  | .setToggle name enabled => some (.toggle name enabled)
  | .incompleteBinding | .loadShader .. => none

variable [Scalar α]

/-- The changes that come of a message. -/
def changesOf (m : Osc.Message α) : List (Session.Change α) :=
  ((ofMessage? m).bind change?).toList

/-- What is taken from a message is usable: a binding is one of its arguments, and a knob is
turned to a finite position. -/
theorem usable_of_message {m : Osc.Message α} {c : Command α} (h : ofMessage? m = some c) :
    (∀ spec, c = addBinding spec → BindingSpec.ofArguments? m.args = some spec) ∧
      ∀ u, c = setControls u → u.Steady := by
  have hknob {f : α → ControlUpdate α} (hf : ∀ x, Scalar.isFinite x = true → (f x).Steady)
      (h : ((argNumber? m.args[0]?).map fun x => setControls (f x)) = some c) :
      (∀ spec, c = addBinding spec → BindingSpec.ofArguments? m.args = some spec) ∧
        ∀ u, c = setControls u → u.Steady := by
    obtain ⟨x, hx, rfl⟩ := Option.map_eq_some_iff.mp h
    refine ⟨by simp, fun u hu => ?_⟩
    cases hu
    exact hf x (isFinite_of_argNumber? hx)
  unfold ofMessage? at h
  split at h
  · cases h
    exact ⟨by simp, by simp⟩
  · cases h
    unfold ofBinding
    cases hargs : BindingSpec.ofArguments? m.args with
    | none => exact ⟨by simp, by simp⟩
    | some spec => exact ⟨by simp, by simp⟩
  · obtain ⟨uniform, -, rfl⟩ := Option.map_eq_some_iff.mp h
    exact ⟨by simp, by simp⟩
  · cases h
    exact ⟨by simp, by simp⟩
  · exact hknob (fun x hx => ⟨by simpa using hx, by simp [ControlUpdate.none]⟩) h
  · exact hknob (fun x hx => ⟨by simp [ControlUpdate.none], by simp [ControlUpdate.none]⟩) h
  · exact hknob (fun x hx => ⟨by simp [ControlUpdate.none], by simpa using hx⟩) h
  · obtain ⟨name, -, rfl⟩ := Option.map_eq_some_iff.mp h
    exact ⟨by simp, by simp⟩
  · obtain ⟨name, -, rfl⟩ := Option.map_eq_some_iff.mp h
    exact ⟨by simp [ofToggle], by simp [ofToggle]⟩

end Command

namespace Engine

variable [Scalar α]

/-- The installation that an arrival brings about. -/
def brought? (e : Engine α) (t : Ticket) : Arrival α → Option (Session.Change α)
  | .preset saved =>
      match e.activation? t with
      | some a =>
          match a.stage with
          | .restoring q p =>
              if e.isOutdated q then none
              else some (.install ⟨q.descriptor, p, q.generation⟩ saved.toOption.join)
          | _ => none
      | none => none
  | _ => none

omit [Scalar α] in
/-- What is brought about is the installation of a shader whose saved bindings have come. -/
theorem install_of_brought? {e : Engine α} {t : Ticket} {came : Arrival α}
    {c : Session.Change α} (h : e.brought? t came = some c) :
    ∃ saved a q p, came = .preset saved ∧ a ∈ e.activations ∧ a.stage = .restoring q p ∧
      c = .install ⟨q.descriptor, p, q.generation⟩ saved.toOption.join := by
  cases came with
  | preset saved =>
      simp only [brought?] at h
      split at h
      · next a ha =>
          split at h
          · next q p hs =>
              split at h
              · cases h
              · cases h
                exact ⟨saved, a, q, p, rfl, (mem_of_activation? ha).1, hs, rfl⟩
          · cases h
      · cases h
  | _ => cases h

/-- The session of a tick when the values of its active shader are due. -/
def due (e : Engine α) (dt : α) : Session α := (e.heard dt).beginReload.session

/-- The changes of a tick until the values of its active shader are due. -/
def dueChanges (e : Engine α) (dt : α) : List (Session.Change α) :=
  e.inbox.drain.commands.flatMap Command.changesOf ++ e.inbox.drain.audio.map .hear ++
    [.frame dt, .reload false]

/-- The changes that come of an event. -/
def changes (e : Engine α) : Event α → List (Session.Change α)
  | .activate .. | .receive _ | .rescan _ | .scanned _ => []
  | .arrive t came => (e.brought? t came).toList
  | .tick dt => e.dueChanges dt ++ [.resolve, .pass dt (e.due dt).resolve.2]
  | .brokenTick dt => e.dueChanges dt ++ [.resolve]
  | .control m => Command.changesOf m
  | .addBinding spec => [.edit (.add spec)]
  | .removeBinding uniform => [.edit (.remove uniform)]
  | .clearBindings => [.edit .clear]
  | .setControls u => [.turn u]
  | .setToggle name enabled => [.toggle name enabled]
  | .setResolution width height => [.resize width height]
  | .markReload => [.reload true]
  | .poll s => if e.registry.changed s then [.reload true] else []

/-- The values that an event presents. -/
def presents (e : Engine α) : Event α → Option (UniformValues α)
  | .tick dt => (e.due dt).resolve.2
  | _ => none

/-- What holds of the changes of a tick. -/
theorem forall_dueChanges {Q : Session.Change α → Prop} {e : Engine α} {dt : α} :
    (∀ c ∈ e.dueChanges dt, Q c) ↔
      (∀ m ∈ e.inbox.drain.commands, ∀ c ∈ Command.changesOf m, Q c) ∧
        (∀ m ∈ e.inbox.drain.audio, Q (.hear m)) ∧ Q (.frame dt) ∧ Q (.reload false) := by
  simp only [dueChanges, List.forall_mem_append, List.forall_mem_flatMap, List.forall_mem_map,
    List.forall_mem_cons, List.not_mem_nil, false_implies, implies_true, and_true, and_assoc]

/-! ## Steps as changes -/

/-- An engine gets to another with a session that changes have led to, and presents nothing. -/
structure Brings (e : Engine α) (cs : List (Session.Change α)) (e' : Engine α) : Prop where
  session : e'.session = cs.foldl Session.change e.session
  presented : Effect.presented e'.outbox = Effect.presented e.outbox

namespace Brings

variable {e e' e'' : Engine α} {cs ds : List (Session.Change α)}

theorem refl (e : Engine α) : e.Brings [] e := ⟨rfl, rfl⟩

/-- Changes come one after the other. -/
theorem trans (first : e.Brings cs e') (second : e'.Brings ds e'') : e.Brings (cs ++ ds) e'' := by
  refine ⟨?_, second.presented.trans first.presented⟩
  rw [List.foldl_append, ← first.session]
  exact second.session

/-- A change comes about. -/
theorem change (e : Engine α) (c : Session.Change α) :
    e.Brings [c] (e.mapSession fun s => s.change c) :=
  ⟨rfl, rfl⟩

/-- Effects that present no values change nothing. -/
theorem emit (e : Engine α) {x : Effect α} (hx : ∀ vs, x ≠ .present vs) :
    e.Brings [] (e.emit x) :=
  ⟨rfl, Effect.presented_emit e hx⟩

theorem noteAll (e : Engine α) (ns : List Notice) : e.Brings [] (e.noteAll ns) :=
  ⟨by rw [noteAll_eq]; rfl, Effect.presented_noteAll e ns⟩

theorem activate (e : Engine α) (purpose : Purpose) (name : String) :
    e.Brings [] (e.activate purpose name) :=
  ⟨(spares_activate e purpose name).1, presented_activate e purpose name⟩

end Brings

theorem brings_obey (e : Engine α) (c : Command α) : e.Brings c.change?.toList (e.obey c).1 := by
  cases c with
  | resetAudio => exact (Brings.change e .forget).trans (.emit _ (by simp))
  | addBinding spec => exact .change e (.edit (.add spec))
  | incompleteBinding => exact .emit e (by simp)
  | removeBinding uniform => exact .change e (.edit (.remove uniform))
  | clearBindings => exact .change e (.edit .clear)
  | setControls u => exact .change e (.turn u)
  | loadShader name energy valence => exact (Brings.noteAll e _).trans (.activate _ _ name)
  | setToggle name enabled =>
      exact (Brings.change e (.toggle name enabled)).trans (.emit _ (by simp))

theorem brings_handle (e : Engine α) (m : Osc.Message α) :
    e.Brings (Command.changesOf m) (e.handle m).1 := by
  unfold handle Command.changesOf
  split
  · next c hc =>
      rw [hc]
      exact brings_obey e c
  · next hc =>
      rw [hc]
      exact .refl e

/-- Where every step of a fold brings changes about, the fold brings all of them about. -/
theorem brings_foldl {β : Type} {f : Engine α → β → Engine α} {g : β → List (Session.Change α)}
    (hf : ∀ (e : Engine α) b, e.Brings (g b) (f e b)) (e : Engine α) (bs : List β) :
    e.Brings (bs.flatMap g) (bs.foldl f e) := by
  induction bs generalizing e with
  | nil => exact .refl e
  | cons b bs ih => exact (hf e b).trans (ih (f e b))

/-- What waits for a tick is applied and heard, and a reload is taken up. -/
theorem brings_due (e : Engine α) (dt : α) :
    e.Brings (e.dueChanges dt) (e.heard dt).beginReload := by
  have hinbox : e.Brings [] { e with inbox := .empty } := ⟨rfl, rfl⟩
  have haudio : ∀ e' : Engine α,
      e'.Brings (e.inbox.drain.audio.map .hear) (e.inbox.drain.audio.foldl hear e') := by
    intro e'
    rw [List.map_eq_flatMap]
    exact brings_foldl (fun e m => .change e (.hear m)) e' _
  have hcommands := brings_foldl brings_handle { e with inbox := .empty } e.inbox.drain.commands
  have hdrain := (hinbox.trans hcommands).trans (haudio _)
  have hreload : ∀ e' : Engine α, e'.Brings [.reload false] e'.beginReload := by
    intro e'
    unfold beginReload
    split
    · exact (Brings.change e' (.reload false)).trans (.emit _ (by simp))
    · next hpending =>
        refine ⟨?_, rfl⟩
        have hsame : e'.session = { e'.session with reloadPending := false } := by
          rw [← Bool.eq_false_iff.mpr hpending]
        exact hsame
  have hframe := (hdrain.trans (.change _ (.frame dt))).trans (hreload _)
  rw [dueChanges, List.append_cons _ (Session.Change.frame dt)]
  exact hframe

/-- Saved bindings that have come for an activation bring its shader back, unless it is outdated. -/
theorem session_of_restored (e : Engine α) (a : Activation α) (q : Quest) (b : ActiveShader α)
    (specs : Option (List (BindingSpec α))) :
    (if e.isOutdated q then e.finish a .superseded else e.install a b specs).session =
      (if e.isOutdated q then none else some (Session.Change.install b specs)).toList.foldl
        Session.change e.session := by
  split
  · exact session_finish e a .superseded
  · exact session_finish _ a _

/-- What comes for an activation changes nothing unless it brings its shader back. -/
theorem brings_arrive (e : Engine α) (t : Ticket) (came : Arrival α) :
    e.Brings (e.brought? t came).toList (e.arrive t came) := by
  refine ⟨?_, presented_arrive e t came⟩
  cases came with
  | turn => exact (spares_resumed e t).1
  | source content => exact (spares_sourceRead e t content).1
  | program now outcome => exact (spares_compiled e now t outcome).1
  | record written => exact (spares_recorded e t written).1
  | preset saved =>
      simp only [arrive, presetLoaded, brought?]
      cases ha : e.activation? t with
      | none => rfl
      | some a =>
          cases hs : a.stage with
          | restoring q p =>
              simp only [hs]
              cases saved with
              | ok specs => exact session_of_restored e a q _ specs
              | error problem => exact session_of_restored (e.note _) a q _ none
          | _ => simp [hs]

/-- At its end a tick presents its values, if there are any, and passes. -/
theorem conclude_presents (e : Engine α) (dt : α) (values : Option (UniformValues α)) :
    (e.conclude dt values).session = e.session.pass dt values ∧
      Effect.presented (e.conclude dt values).outbox =
        Effect.presented e.outbox ++ values.toList := by
  cases values with
  | none => exact ⟨rfl, (List.append_nil _).symm⟩
  | some vs => exact ⟨rfl, Effect.presented_append _ _⟩

/-- The session after an event is the session after its changes, and what is presented in it
joins what was presented before. -/
theorem changes_step (e : Engine α) (x : Event α) :
    (e.step x).session = (e.changes x).foldl Session.change e.session ∧
      Effect.presented (e.step x).outbox =
        Effect.presented e.outbox ++ (e.presents x).toList := by
  have hquiet {cs : List (Session.Change α)} {e' : Engine α} (h : e.Brings cs e') :
      e'.session = cs.foldl Session.change e.session ∧
        Effect.presented e'.outbox = Effect.presented e.outbox ++ [] :=
    ⟨h.session, h.presented.trans (List.append_nil _).symm⟩
  have htake (s : Scan) : e.Brings [] (e.takeScan s) :=
    ⟨rfl, by simp [takeScan, note, Engine.emit, Effect.presented]⟩
  cases x with
  | activate purpose name => exact hquiet (.activate e purpose name)
  | arrive t came => exact hquiet (brings_arrive e t came)
  | tick dt =>
      have hdue := brings_due e dt
      obtain ⟨hsession, hpresented⟩ :=
        conclude_presents { (e.heard dt).beginReload with session := (e.due dt).resolve.1 } dt
          (e.due dt).resolve.2
      refine ⟨hsession.trans ?_, hpresented.trans ?_⟩
      · rw [changes, List.foldl_append, ← hdue.session]
        rfl
      · rw [← hdue.presented]
        rfl
  | brokenTick dt =>
      have hdue := brings_due e dt
      exact hquiet ⟨by rw [changes, List.foldl_append, ← hdue.session]; rfl, hdue.presented⟩
  | receive m => exact hquiet ⟨rfl, rfl⟩
  | control m => exact hquiet (brings_handle e m)
  | addBinding spec => exact hquiet (.change e (.edit (.add spec)))
  | removeBinding uniform => exact hquiet (.change e (.edit (.remove uniform)))
  | clearBindings => exact hquiet (.change e (.edit .clear))
  | setControls u => exact hquiet (.change e (.turn u))
  | setToggle name enabled =>
      exact hquiet ((Brings.change e (.toggle name enabled)).trans (.emit _ (by simp)))
  | setResolution width height => exact hquiet (.change e (.resize width height))
  | markReload => exact hquiet (.change e (.reload true))
  | poll s =>
      simp only [step, poll, changes]
      split
      · exact hquiet (.change e (.reload true))
      · exact hquiet (.refl e)
  | rescan s => exact hquiet (htake s)
  | scanned s =>
      cases s with
      | error problem => exact hquiet (.emit e (by simp))
      | ok s =>
          simp only [step, scanned]
          split
          · exact hquiet ((htake s).trans (.activate _ _ _))
          · exact hquiet (htake s)

end Engine

/-! ## Changes of runs -/

namespace Performance

variable [Scalar α]

/-- What all changes of a run keep holds of its session. -/
theorem session_run {P : Session α → Prop} {Q : Session.Change α → Prop} (hstart : P .initial)
    (hchange : ∀ s c, Q c → P s → P (s.change c)) (shaderRoot : String)
    (xs : List (Engine.Event α))
    (hxs : ∀ ys x, ys ++ [x] <+: xs → ∀ c ∈ (run shaderRoot ys).engine.changes x, Q c) :
    P (run shaderRoot xs).engine.session := by
  induction xs using List.reverseRecOn with
  | nil => exact hstart
  | append_singleton xs x ih =>
      have hold := ih fun ys y hys => hxs ys y (hys.trans (List.prefix_append xs [x]))
      rw [run_concat]
      change P ((run shaderRoot xs).engine.step x).session
      rw [(Engine.changes_step _ x).1]
      exact Session.changes_keep hchange hold (hxs xs x List.prefix_rfl)

/-- What holds of the values of each tick holds of all that is presented. -/
theorem presented_run {V : UniformValues α → Prop} (shaderRoot : String)
    (xs : List (Engine.Event α))
    (hxs : ∀ ys x, ys ++ [x] <+: xs → ∀ vs ∈ (run shaderRoot ys).engine.presents x, V vs) :
    ∀ vs ∈ Effect.presented (run shaderRoot xs).asked, V vs := by
  induction xs using List.reverseRecOn with
  | nil => simp [run, start, Effect.presented]
  | append_singleton xs x ih =>
      have hold := ih fun ys y hys => hxs ys y (hys.trans (List.prefix_append xs [x]))
      have hnew := (Engine.changes_step (run shaderRoot xs).engine x).2
      rw [outbox_run] at hnew
      rw [run_concat]
      intro vs hvs
      change vs ∈ Effect.presented
        ((run shaderRoot xs).asked ++ ((run shaderRoot xs).engine.step x).outbox) at hvs
      rw [Effect.presented_append, hnew] at hvs
      rcases List.mem_append.mp hvs with hvs | hvs
      · exact hold vs hvs
      · exact hxs xs x List.prefix_rfl vs (by simpa [Effect.presented] using hvs)

end Performance

end LiveVisuals
