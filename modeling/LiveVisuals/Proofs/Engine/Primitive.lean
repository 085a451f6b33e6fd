import LiveVisuals.Proofs.Engine.Flight
import LiveVisuals.Proofs.Shader.Lookup

/-!
# What events are made of

Apart from scans that are taken over, every event is made of a few primitive changes: of the
session, of the inbox, of what is asked for, and of activations that start or for which
something comes. What all of these keep, an event keeps.

Main definitions:

- {lit}`Engine.Primitive`: the primitive changes.
- {lit}`Engine.Event.scan?`: the scan that is taken over by an event.

Main results:

- Theorem {lit}`Engine.step_keeps`: what primitive changes keep is kept by events that take over
  no scan.
- Theorems {lit}`Engine.step_of_scan` and {lit}`Engine.step_scanned_of_active`: what an event that
  takes over a scan does.
- Theorem {lit}`Engine.activate_of_known`: what the start of an activation does that finds its
  shader.
-/

namespace LiveVisuals

variable {α : Type}

namespace Engine

variable [Scalar α]

/-- The changes that events are made of. -/
inductive Primitive : Engine α → Engine α → Prop where
  | session {e e' : Engine α} (hactive : e'.session.active = e.session.active)
      (hpending : e'.session.reloadPending = e.session.reloadPending)
      (hrest : e' = { e with session := e'.session }) : Primitive e e'
  /-- A reload is flagged. -/
  | flag (e : Engine α) : Primitive e e.markReload
  /-- A reload begins if one is flagged. -/
  | reload (e : Engine α) : Primitive e e.beginReload
  | inbox (e : Engine α) (i : Osc.Inbox α) : Primitive e { e with inbox := i }
  | emit (e : Engine α) {x : Effect α} (hx : x.isAside) : Primitive e (e.emit x)
  | activate (e : Engine α) (purpose : Purpose) (name : String) :
      Primitive e (e.activate purpose name)
  | arrive (e : Engine α) (t : Ticket) (came : Arrival α) : Primitive e (e.arrive t came)

/-- The scan that is taken over by an event. -/
def Event.scan? : Event α → Option Scan
  | .rescan s | .scanned (.ok s) => some s
  | _ => none

section

variable {P : Engine α → Prop} (hP : ∀ {e e' : Engine α}, Primitive e e' → P e → P e')
include hP

theorem session_keeps {e e' : Engine α} (h : P e)
    (hactive : e'.session.active = e.session.active)
    (hpending : e'.session.reloadPending = e.session.reloadPending)
    (hrest : e' = { e with session := e'.session }) : P e' :=
  hP (.session hactive hpending hrest) h

theorem noteAll_keeps {e : Engine α} (h : P e) (ns : List Notice) : P (e.noteAll ns) := by
  induction ns generalizing e with
  | nil => exact h
  | cons n ns ih => exact ih (hP (.emit e rfl) h)

theorem obey_keeps {e : Engine α} (h : P e) (c : Command α) : P (e.obey c).1 := by
  cases c with
  | resetAudio => exact hP (.emit (e.mapSession _) rfl) (session_keeps hP h rfl rfl rfl)
  | addBinding spec => exact session_keeps hP h rfl rfl rfl
  | incompleteBinding => exact hP (.emit e rfl) h
  | removeBinding uniform => exact session_keeps hP h rfl rfl rfl
  | clearBindings => exact session_keeps hP h rfl rfl rfl
  | setControls u => exact session_keeps hP h rfl rfl rfl
  | loadShader name energy valence => exact hP (.activate _ _ name) (noteAll_keeps hP h _)
  | setToggle name enabled => exact hP (.emit (e.mapSession _) rfl) (session_keeps hP h rfl rfl rfl)

theorem handle_keeps {e : Engine α} (h : P e) (m : Osc.Message α) : P (e.handle m).1 := by
  unfold handle
  split
  · exact obey_keeps hP h _
  · exact h

omit [Scalar α] hP in
/-- What every step of a fold keeps is kept by the fold. -/
theorem foldl_keeps {β : Type} {f : Engine α → β → Engine α}
    (hf : ∀ {e : Engine α}, P e → ∀ b, P (f e b)) {e : Engine α} (h : P e) (bs : List β) :
    P (bs.foldl f e) := by
  induction bs generalizing e with
  | nil => exact h
  | cons b bs ih => exact ih (hf h b)

/-- What primitive changes keep is kept when the messages that wait are applied and the music is
heard. -/
theorem heard_keeps {e : Engine α} (h : P e) (dt : α) :
    P (e.drain.mapSession fun s => s.frameTick dt) := by
  have hcommands : P (e.inbox.drain.commands.foldl (fun e m => (e.handle m).1)
      { e with inbox := .empty }) :=
    foldl_keeps (P := P) (fun h m => handle_keeps hP h m) (hP (.inbox e .empty) h) _
  have hhear : ∀ {e : Engine α}, P e → ∀ m, P (e.hear m) :=
    fun h m => session_keeps hP h rfl rfl rfl
  have hdrain : P e.drain := foldl_keeps (P := P) hhear hcommands _
  exact session_keeps hP hdrain rfl rfl rfl

/-- What primitive changes keep is kept while values are resolved. -/
theorem resolved_keeps {e : Engine α} (h : P e) :
    P { e with session := e.session.resolve.1 } := by
  refine session_keeps hP h ?_ ?_ rfl <;>
    · dsimp only
      unfold Session.resolve
      split <;> rfl

theorem conclude_keeps {e : Engine α} (h : P e) (dt : α) (values : Option (UniformValues α)) :
    P (e.conclude dt values) := by
  cases values with
  | none => exact session_keeps hP h rfl rfl rfl
  | some vs => exact session_keeps hP (hP (.emit e (x := .present vs) rfl) h) rfl rfl rfl

theorem prepare_keeps {e : Engine α} (h : P e) (dt : α) : P (e.prepare dt).1 :=
  resolved_keeps hP (hP (.reload _) (heard_keeps hP h dt))

/-- What primitive changes keep is kept by every event that takes over no scan. -/
theorem step_keeps {e : Engine α} (h : P e) {x : Event α} (hx : x.scan? = none) :
    P (e.step x) := by
  cases x with
  | activate purpose name => exact hP (.activate e purpose name) h
  | arrive t a => exact hP (.arrive e t a) h
  | tick dt => exact conclude_keeps hP (prepare_keeps hP h dt) dt _
  | brokenTick dt => exact prepare_keeps hP h dt
  | receive m => exact hP (.inbox e _) h
  | control m => exact handle_keeps hP h m
  | addBinding spec => exact session_keeps hP h rfl rfl rfl
  | removeBinding uniform => exact session_keeps hP h rfl rfl rfl
  | clearBindings => exact session_keeps hP h rfl rfl rfl
  | setControls u => exact session_keeps hP h rfl rfl rfl
  | setToggle name enabled => exact hP (.emit (e.mapSession _) rfl) (session_keeps hP h rfl rfl rfl)
  | setResolution width height =>
      refine session_keeps hP h ?_ ?_ rfl <;>
        · simp only [step, setResolution, mapSession]
          unfold Session.resize
          split <;> rfl
  | markReload => exact hP (.flag e) h
  | poll s =>
      simp only [step, poll]
      split
      · exact hP (.flag e) h
      · exact h
  | rescan s => cases hx
  | scanned s =>
      cases s with
      | error problem => exact hP (.emit e rfl) h
      | ok s => cases hx

end

omit [Scalar α] in
/-- An activation that finds its shader is the newest one then, and has its source read. -/
theorem activate_of_known (e : Engine α) (purpose : Purpose) {name : String} {d : Descriptor}
    (h : e.registry.get? name = some d) :
    (e.activate purpose name).flight =
        { e.flight.begin purpose name (.reading ⟨e.generation + 1, d⟩) with
          generation := e.generation + 1 } ∧
      (e.activate purpose name).outbox = e.outbox ++ [.readSource e.issued d.path] := by
  simp [activate, h, emit, flight, Flight.begin]

/-- The scan of a reload has the active shader activated anew. -/
theorem step_scanned_of_active {e : Engine α} (s : Scan) {b : ActiveShader α}
    (hb : e.session.active = some b) :
    e.step (.scanned (.ok s)) = (e.takeScan s).activate .reload b.descriptor.address := by
  have hactive : (e.takeScan s).session.active = some b := hb
  simp only [step, scanned, hactive]
  rfl

/-- An event that takes over a scan does just that, and if it is that of a reload, the active
shader is activated anew. -/
theorem step_of_scan (e : Engine α) {x : Event α} {s : Scan} (hx : x.scan? = some s) :
    e.step x = e.takeScan s ∨
      (x = .scanned (.ok s) ∧ ∃ b, e.session.active = some b ∧
        e.step x = (e.takeScan s).activate .reload b.descriptor.address) := by
  cases x with
  | rescan s' =>
      cases hx
      exact .inl rfl
  | scanned s' =>
      cases s' with
      | error problem => cases hx
      | ok s' =>
          cases hx
          cases hactive : e.session.active with
          | none =>
              left
              have hactive' : (e.takeScan s).session.active = none := hactive
              simp only [step, scanned, hactive']
          | some b => exact .inr ⟨rfl, b, rfl, step_scanned_of_active s hactive⟩
  | _ => cases hx

end Engine

end LiveVisuals
