import LiveVisuals.Proofs.Audio.Ingest
import LiveVisuals.Proofs.Engine.Flight

/-!
# What the rest of an engine takes from hearing

Most of what an engine does neither looks at what was heard and at the messages that wait nor
changes them. Only ticks do, and resets; and of what was heard a tick sees raw values by name.
So engines that have heard alike go on alike.

Main definitions:

- {lit}`Engine.attune`: an engine that has heard something else and at which other messages
  wait.
- {lit}`Engine.Event.isDeaf`: an event that has nothing to do with hearing.
- {lit}`Engine.Alike`: engines that have heard alike and are the same in everything else.
- {lit}`Engine.Agrees`: what can be told of such engines.

Main results:

- Theorem {lit}`Engine.step_attune`: deaf events have nothing to do with hearing.
- Theorem {lit}`Engine.Alike.step`: engines that are alike stay so, whatever happens.
- Theorem {lit}`Engine.Alike.tick_of_drain`: engines that have taken in alike present the same
  values.
-/

namespace LiveVisuals

variable {α : Type}

namespace Engine

/-- An engine that has heard something else and at which other messages wait. -/
def attune (e : Engine α) (x : Audio.Extractor α) (i : Osc.Inbox α) : Engine α :=
  { e with session := { e.session with extractor := x }, inbox := i }

section Attune

variable (e : Engine α) (x : Audio.Extractor α) (i : Osc.Inbox α)

@[simp] theorem attune_self : e.attune e.session.extractor e.inbox = e := rfl

theorem noteAll_attune (ns : List Notice) :
    (e.attune x i).noteAll ns = (e.noteAll ns).attune x i := by
  simp [noteAll_eq, attune]

theorem finish_attune (a : Activation α) (o : Outcome α) :
    (e.attune x i).finish a o = (e.finish a o).attune x i := by
  simp [finish, noteAll_eq, emit, attune]

theorem activate_attune (purpose : Purpose) (name : String) :
    (e.attune x i).activate purpose name = (e.activate purpose name).attune x i := by
  unfold activate
  simp only [attune]
  split <;> rfl

theorem resumed_attune (t : Ticket) :
    (e.attune x i).resumed t = (e.resumed t).attune x i := by
  unfold resumed
  rw [show (e.attune x i).activation? t = e.activation? t from rfl]
  rcases e.activation? t with _ | ⟨u, name, purpose, stage⟩
  · rfl
  · cases stage with
    | lost => exact finish_attune e x i _ _
    | _ => rfl

theorem recorded_attune (t : Ticket) (written : Except Files.Error Unit) :
    (e.attune x i).recorded t written = (e.recorded t written).attune x i := by
  unfold recorded
  rw [show (e.attune x i).activation? t = e.activation? t from rfl]
  rcases e.activation? t with _ | ⟨u, name, purpose, stage⟩
  · rfl
  · cases stage with
    | recording q f =>
        cases written with
        | ok => exact finish_attune e x i _ _
        | error problem => exact finish_attune (e.note _) x i _ _
    | _ => rfl

theorem compiled_attune (now : Timestamp) (t : Ticket) (outcome : Except String Unit) :
    (e.attune x i).compiled now t outcome = (e.compiled now t outcome).attune x i := by
  unfold compiled
  rw [show (e.attune x i).activation? t = e.activation? t from rfl]
  rcases e.activation? t with _ | ⟨u, name, purpose, stage⟩
  · rfl
  · cases stage with
    | compiling q p =>
        cases outcome with
        | error log => rfl
        | ok =>
            dsimp only
            rw [show (e.attune x i).isOutdated q = e.isOutdated q from rfl]
            split
            · exact finish_attune e x i _ _
            · rfl
    | _ => rfl

theorem scanned_attune (s : Except Files.Error Scan) :
    (e.attune x i).scanned s = (e.scanned s).attune x i := by
  cases s with
  | error problem => rfl
  | ok s =>
      unfold scanned
      dsimp only
      rw [show ((e.attune x i).takeScan s).session.active = (e.takeScan s).session.active from rfl]
      split
      · exact activate_attune (e.takeScan s) x i _ _
      · rfl

variable [Scalar α]

theorem sourceRead_attune (t : Ticket) (content : Except Files.Error String) :
    (e.attune x i).sourceRead t content = (e.sourceRead t content).attune x i := by
  unfold sourceRead
  rw [show (e.attune x i).activation? t = e.activation? t from rfl]
  rcases e.activation? t with _ | ⟨u, name, purpose, stage⟩
  · rfl
  · cases stage with
    | reading q =>
        cases content with
        | error problem => exact finish_attune e x i _ _
        | ok raw => simp only [noteAll_attune]; rfl
    | _ => rfl

theorem install_attune (a : Activation α) (b : ActiveShader α)
    (saved : Option (List (BindingSpec α))) :
    (e.attune x i).install a b saved = (e.install a b saved).attune x i :=
  finish_attune (((e.mapSession fun s => s.install b saved).emit _).note _) x i a _

theorem restored_attune (a : Activation α) (q : Quest) (b : ActiveShader α)
    (saved : Option (List (BindingSpec α))) :
    (if (e.attune x i).isOutdated q then (e.attune x i).finish a .superseded
      else (e.attune x i).install a b saved) =
      (if e.isOutdated q then e.finish a .superseded else e.install a b saved).attune x i := by
  rw [show (e.attune x i).isOutdated q = e.isOutdated q from rfl]
  split
  · exact finish_attune e x i a _
  · exact install_attune e x i a b saved

theorem presetLoaded_attune (t : Ticket)
    (saved : Except PresetError (Option (List (BindingSpec α)))) :
    (e.attune x i).presetLoaded t saved = (e.presetLoaded t saved).attune x i := by
  unfold presetLoaded
  rw [show (e.attune x i).activation? t = e.activation? t from rfl]
  rcases e.activation? t with _ | ⟨u, name, purpose, stage⟩
  · rfl
  · cases stage with
    | restoring q p =>
        cases saved with
        | ok specs => exact restored_attune e x i _ q _ specs
        | error problem => exact restored_attune (e.note _) x i _ q _ none
    | _ => rfl

theorem arrive_attune (t : Ticket) (came : Arrival α) :
    (e.attune x i).arrive t came = (e.arrive t came).attune x i := by
  cases came with
  | turn => exact resumed_attune e x i t
  | source content => exact sourceRead_attune e x i t content
  | program now outcome => exact compiled_attune e x i now t outcome
  | record written => exact recorded_attune e x i t written
  | preset saved => exact presetLoaded_attune e x i t saved

/-- Commands other than a reset have nothing to do with hearing. -/
theorem obey_attune (c : Command α) (hc : c ≠ .resetAudio) :
    ((e.attune x i).obey c).1 = (e.obey c).1.attune x i := by
  cases c with
  | resetAudio => exact absurd rfl hc
  | loadShader name energy valence =>
      simp only [obey, noteAll_attune]
      exact activate_attune _ x i _ _
  | _ => rfl

end Attune

/-! ## Commands -/

/-- Only a message to the address of the reset asks for one. -/
theorem address_of_reset [Scalar α] {m : Osc.Message α}
    (h : Command.ofMessage? m = some .resetAudio) : m.address = Audio.Address.reset := by
  unfold Command.ofMessage? at h
  dsimp only at h
  split at h
  · assumption
  · simp only [Command.ofBinding, Option.some.injEq] at h
    split at h <;> cases h
  all_goals simp [Command.ofToggle] at h

/-- A message to another address than that of the reset has nothing to do with hearing. -/
theorem handle_attune [Scalar α] (e : Engine α) (x : Audio.Extractor α) (i : Osc.Inbox α)
    {m : Osc.Message α} (hm : m.address ≠ Audio.Address.reset) :
    ((e.attune x i).handle m).1 = (e.handle m).1.attune x i := by
  unfold handle
  split
  · next c hc =>
      refine obey_attune e x i c ?_
      rintro rfl
      exact hm (address_of_reset hc)
  · rfl

/-- A message to the address of the reset has extractors begin anew. -/
theorem handle_of_reset [Scalar α] (e : Engine α) {m : Osc.Message α}
    (hm : m.address = Audio.Address.reset) : (e.handle m).1 = (e.obey .resetAudio).1 := by
  have hc : Command.ofMessage? m = some .resetAudio := by
    unfold Command.ofMessage?
    rw [hm]
    rfl
  simp [handle, hc]

/-! ## Deaf events -/

/-- Whether an event has nothing to do with hearing. -/
def Event.isDeaf : Event α → Bool
  | .tick _ | .brokenTick _ | .receive _ => false
  | .control m => m.address != Audio.Address.reset
  | _ => true

/-- Deaf events neither look at what was heard, and at the messages that wait, nor change them. -/
theorem step_attune [Scalar α] (e : Engine α) (x : Audio.Extractor α) (i : Osc.Inbox α)
    {ev : Event α} (hev : ev.isDeaf) : (e.attune x i).step ev = (e.step ev).attune x i := by
  cases ev with
  | activate purpose name => exact activate_attune e x i purpose name
  | arrive t came => exact arrive_attune e x i t came
  | tick => simp [Event.isDeaf] at hev
  | brokenTick => simp [Event.isDeaf] at hev
  | receive => simp [Event.isDeaf] at hev
  | control m => exact handle_attune e x i (by simpa [Event.isDeaf] using hev)
  | setResolution width height =>
      simp only [step, setResolution, mapSession, attune, Session.resize]
      split <;> rfl
  | poll s =>
      simp only [step, poll]
      rw [show (e.attune x i).registry = e.registry from rfl]
      split <;> rfl
  | scanned s => exact scanned_attune e x i s
  | _ => rfl

/-! ## Engines that are alike -/

/-- Engines that have heard alike and are the same in everything else. -/
def Alike (e e' : Engine α) : Prop :=
  ∃ x, e' = e.attune x e.inbox ∧ e.session.extractor.Alike x

/-- Engines at which nothing that has to do with music, bindings or controls differs. -/
structure Agrees [Scalar α] (e e' : Engine α) : Prop where
  rawValue : ∀ address, e'.session.extractor.rawValue address =
    e.session.extractor.rawValue address
  isStale : e'.session.extractor.isStale = e.session.extractor.isStale
  frame : e'.session.frame = e.session.frame
  bindings : e'.session.bindings = e.session.bindings
  controls : e'.session.controls = e.session.controls

namespace Alike

variable {e e' : Engine α}

theorem refl (e : Engine α) : e.Alike e := ⟨e.session.extractor, rfl, .refl _⟩

theorem trans {e'' : Engine α} (h : e.Alike e') (h' : e'.Alike e'') : e.Alike e'' := by
  obtain ⟨x, rfl, hx⟩ := h
  obtain ⟨y, rfl, hy⟩ := h'
  exact ⟨y, rfl, hx.trans hy⟩

theorem inbox (h : e.Alike e') : e'.inbox = e.inbox := by
  obtain ⟨x, rfl, -⟩ := h
  rfl

theorem receive (h : e.Alike e') (m : Osc.Message α) : (e.receive m).Alike (e'.receive m) := by
  obtain ⟨x, rfl, hx⟩ := h
  exact ⟨x, rfl, hx⟩

/-- What each step of a fold keeps alike a fold keeps alike. -/
theorem foldl {β : Type} {f : Engine α → β → Engine α}
    (hf : ∀ (e e' : Engine α) b, e.Alike e' → (f e b).Alike (f e' b)) (h : e.Alike e')
    (bs : List β) : (bs.foldl f e).Alike (bs.foldl f e') := by
  induction bs generalizing e e' with
  | nil => exact h
  | cons b bs ih => exact ih (hf e e' b h)

theorem beginReload (h : e.Alike e') : e.beginReload.Alike e'.beginReload := by
  obtain ⟨x, rfl, hx⟩ := h
  unfold Engine.beginReload
  rw [show (e.attune x e.inbox).session.reloadPending = e.session.reloadPending from rfl]
  split
  · exact ⟨x, rfl, hx⟩
  · exact ⟨x, rfl, hx⟩

variable [Scalar α]

theorem agrees (h : e.Alike e') : e.Agrees e' := by
  obtain ⟨x, rfl, hx⟩ := h
  exact ⟨hx.rawValue, hx.isStale, hx.frame, rfl, rfl⟩

theorem hear (h : e.Alike e') (m : Osc.Message α) : (e.hear m).Alike (e'.hear m) := by
  obtain ⟨x, rfl, hx⟩ := h
  exact ⟨x.ingest m.address m.args, rfl, hx.ingest m.address m.args⟩

theorem step_of_isDeaf (h : e.Alike e') (ev : Event α) (hev : ev.isDeaf) :
    (e.step ev).Alike (e'.step ev) := by
  obtain ⟨x, rfl, hx⟩ := h
  have hself := step_attune e e.session.extractor e.inbox hev
  rw [attune_self] at hself
  refine ⟨x, ?_, ?_⟩
  · rw [step_attune e x e.inbox hev, hself]
    rfl
  · rw [hself]
    exact hx

theorem handle (h : e.Alike e') (m : Osc.Message α) : (e.handle m).1.Alike (e'.handle m).1 := by
  by_cases hm : m.address = Audio.Address.reset
  · obtain ⟨x, rfl, hx⟩ := h
    rw [handle_of_reset e hm, handle_of_reset (e.attune x e.inbox) hm]
    refine ⟨x.reset, rfl, ?_⟩
    exact hx.reset ▸ .refl _
  · exact h.step_of_isDeaf (.control m) (by simpa [Event.isDeaf] using hm)

theorem drain (h : e.Alike e') : e.drain.Alike e'.drain := by
  have hempty : Alike { e with inbox := .empty } { e' with inbox := .empty } := by
    obtain ⟨x, rfl, hx⟩ := h
    exact ⟨x, rfl, hx⟩
  unfold Engine.drain
  rw [h.inbox]
  exact foldl (fun _ _ m h => h.hear m) (foldl (fun _ _ m h => h.handle m) hempty _) _

theorem frameTick (h : e.Alike e') (dt : α) :
    (e.mapSession fun s => s.frameTick dt).Alike (e'.mapSession fun s => s.frameTick dt) := by
  obtain ⟨x, rfl, hx⟩ := h
  exact ⟨x.tick dt e.session.controls.toControls, rfl, hx.tick dt _⟩

/-- Engines that are alike come to the same values. -/
theorem resolve (h : e.Alike e') :
    Alike { e with session := e.session.resolve.1 } { e' with session := e'.session.resolve.1 } ∧
      e'.session.resolve.2 = e.session.resolve.2 := by
  obtain ⟨x, rfl, hx⟩ := h
  have hframe : (e.attune x e.inbox).session.frame = e.session.frame := hx.frame
  have hreadings : (e.attune x e.inbox).session.readings = e.session.readings := by
    unfold Session.readings
    rw [hframe]
    rfl
  unfold Session.resolve
  rw [show (e.attune x e.inbox).session.active = e.session.active from rfl, hframe, hreadings]
  rcases e.session.active with _ | active
  · exact ⟨⟨x, rfl, hx⟩, rfl⟩
  · exact ⟨⟨x, rfl, hx⟩, rfl⟩

/-- A tick starts from what has been taken in. -/
theorem prepare_of_drain (h : e.drain.Alike e'.drain) (dt : α) :
    (e.prepare dt).1.Alike (e'.prepare dt).1 ∧ (e'.prepare dt).2 = (e.prepare dt).2 :=
  ((h.frameTick dt).beginReload).resolve

theorem conclude (h : e.Alike e') (dt : α) (values : Option (UniformValues α)) :
    (e.conclude dt values).Alike (e'.conclude dt values) := by
  obtain ⟨x, rfl, hx⟩ := h
  have hframe : (e.attune x e.inbox).session.frame = e.session.frame := hx.frame
  cases values with
  | none =>
      refine ⟨x, ?_, hx⟩
      simp only [Engine.conclude, mapSession, Session.pass, hframe]
      rfl
  | some vs =>
      refine ⟨x, ?_, hx⟩
      have hframe' : ((e.attune x e.inbox).emit (.present vs)).session.frame =
          e.session.frame := hx.frame
      simp only [Engine.conclude, mapSession, Session.pass, hframe']
      rfl

/-- Engines that have taken in alike present the same values, and are alike after the tick. -/
theorem tick_of_drain (h : e.drain.Alike e'.drain) (dt : α) :
    (e.tick dt).1.Alike (e'.tick dt).1 ∧ (e'.tick dt).2 = (e.tick dt).2 := by
  obtain ⟨hprepare, hvalues⟩ := prepare_of_drain h dt
  refine ⟨?_, hvalues⟩
  have hconclude := hprepare.conclude dt (e.prepare dt).2
  show ((e.prepare dt).1.conclude dt (e.prepare dt).2).Alike
    ((e'.prepare dt).1.conclude dt (e'.prepare dt).2)
  rw [hvalues]
  exact hconclude

/-- Engines that are alike stay so at every event. -/
theorem step (h : e.Alike e') (ev : Event α) : (e.step ev).Alike (e'.step ev) := by
  cases ev with
  | tick dt => exact (tick_of_drain h.drain dt).1
  | brokenTick dt => exact (prepare_of_drain h.drain dt).1
  | receive m => exact h.receive m
  | control m => exact h.handle m
  | _ => exact h.step_of_isDeaf _ rfl

end Alike

end Engine

end LiveVisuals
