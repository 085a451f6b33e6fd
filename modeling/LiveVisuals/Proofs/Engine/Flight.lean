import LiveVisuals.Proofs.Engine.Run

/-!
# Activations in flight

Most of what an engine does has nothing to do with activations. What it knows about them is its
flight, and a flight changes by moves of five kinds only: something goes on aside, an
activation is started and finds its shader or does not, one gets further, or one ends. Every
event is a chain of such moves, and what a run keeps is proved once per kind of move.

Main definitions:

- {lit}`Flight`: the part of an engine that is about activations.
- {lit}`Stage.Advance`, {lit}`Stage.Ends`: how an activation gets further, and how it ends.
- {lit}`Flight.Move`, {lit}`Flight.Moves`: the moves, with what is asked for, and chains of them.

Main results:

- Theorem {lit}`Engine.goes_step`: every event is a chain of moves.
- Theorem {lit}`Performance.run_induction`: what all moves keep holds from some moment on.
-/

namespace LiveVisuals

variable {α : Type}

/-- What an engine knows about activations. -/
structure Flight (α : Type) where
  generation : Nat
  issued : Nat
  activations : List (Activation α)
  active : Option (ActiveShader α)

/-- The part of an engine that is about activations. -/
def Engine.flight (e : Engine α) : Flight α :=
  ⟨e.generation, e.issued, e.activations, e.session.active⟩

/-- What an activation that has found its shader carries along. -/
def Stage.quest? : Stage α → Option Quest
  | .lost => none
  | .reading q | .compiling q _ | .recording q _ | .restoring q _ => some q

/-- Whether what has come is what an activation waits for. -/
def Stage.awaits : Stage α → Engine.Arrival α → Bool
  | .lost, .turn | .reading _, .source _ | .compiling .., .program .. => true
  | .recording .., .record _ | .restoring .., .preset _ => true
  | _, _ => false

/-- The shader that an activation has installed. -/
def Outcome.shader? : Outcome α → Option (ActiveShader α)
  | .installed a => some a
  | _ => none

namespace Effect

/-- Whether an effect is a notice. -/
def isNotice : Effect α → Bool
  | .notice _ => true
  | _ => false

/-- Whether an effect has nothing to do with activations. -/
def isAside : Effect α → Bool
  | .notice _ | .scan | .present _ | .toggle .. => true
  | _ => false

end Effect

/-! ## Stages -/

/-- How an activation gets further when something comes for it, and what it asks for next. The
number is that of the newest activation. -/
inductive Stage.Advance [Scalar α] (newest : Nat) (t : Ticket) :
    Stage α → Engine.Arrival α → Stage α → Effect α → Prop where
  | read (q : Quest) (raw : String) :
      Stage.Advance newest t (.reading q) (.source (.ok raw))
        (.compiling q (.ofSource q.descriptor.dialect raw))
        (.compile t (Engine.compileRequest q.descriptor
          (.ofSource q.descriptor.dialect raw : Transpiled α)))
  | compiled (q : Quest) (p : Transpiled α) (now : Timestamp) (h : q.generation = newest) :
      Stage.Advance newest t (.compiling q p) (.program now (.ok ()))
        (.restoring q p) (.loadPreset t q.descriptor.name)
  | failed (q : Quest) (p : Transpiled α) (now : Timestamp) (log : String) :
      Stage.Advance newest t (.compiling q p) (.program now (.error log))
        (.recording q (Engine.failureOf q p log))
        (.record t ⟨now, Engine.failureOf q p log⟩)

/-- How an activation ends when something comes for it. -/
inductive Stage.Ends (newest : Nat) : Stage α → Engine.Arrival α → Outcome α → Prop where
  | notFound : Stage.Ends newest .lost .turn .notFound
  | unreadable (q : Quest) (problem : Files.Error) :
      Stage.Ends newest (.reading q) (.source (.error problem)) (.unreadable problem)
  | overtaken (q : Quest) (p : Transpiled α) (now : Timestamp) (h : q.generation ≠ newest) :
      Stage.Ends newest (.compiling q p) (.program now (.ok ())) .superseded
  | uncompilable (q : Quest) (f : CompileFailure) (written : Except Files.Error Unit) :
      Stage.Ends newest (.recording q f) (.record written) (.uncompilable f)
  | outdated (q : Quest) (p : Transpiled α)
      (saved : Except PresetError (Option (List (BindingSpec α))))
      (h : q.generation ≠ newest) :
      Stage.Ends newest (.restoring q p) (.preset saved) .superseded
  | installed (q : Quest) (p : Transpiled α)
      (saved : Except PresetError (Option (List (BindingSpec α))))
      (h : q.generation = newest) :
      Stage.Ends newest (.restoring q p) (.preset saved)
        (.installed ⟨q.descriptor, p, q.generation⟩)

/-! ## Moves -/

namespace Flight

/-- The activation of a ticket. -/
def find? (f : Flight α) (t : Ticket) : Option (Activation α) :=
  f.activations.find? (·.ticket == t)

/-- An activation is started. -/
def begin (f : Flight α) (purpose : Purpose) (name : String) (stage : Stage α) : Flight α :=
  { f with
    issued := f.issued + 1
    activations := f.activations ++ [⟨f.issued, name, purpose, stage⟩] }

/-- An activation waits for something else. -/
def moveTo (f : Flight α) (t : Ticket) (stage : Stage α) : Flight α :=
  { f with
    activations := f.activations.map fun a =>
      if a.ticket = t then { a with stage := stage } else a }

/-- An activation ends; the shader that it has installed is the active one. -/
def land (f : Flight α) (t : Ticket) (o : Outcome α) : Flight α :=
  { f with
    activations := f.activations.filter (·.ticket != t)
    active := o.shader?.or f.active }

/-- The moves of a flight, with what has come for an activation, and what is asked for. -/
inductive Move [Scalar α] :
    Flight α → Option (Ticket × Engine.Arrival α) → List (Effect α) → Flight α → Prop where
  /-- Something goes on that has nothing to do with activations. -/
  | aside {f : Flight α} {xs : List (Effect α)} (h : ∀ x ∈ xs, x.isAside) : Move f none xs f
  /-- Something has come that the activation does not wait for. -/
  | ignored {f : Flight α} {t : Ticket} {came : Engine.Arrival α}
      (h : ∀ a, f.find? t = some a → a.stage.awaits came = false) :
      Move f (some (t, came)) [] f
  /-- An activation is started and finds no shader. -/
  | missed (f : Flight α) (purpose : Purpose) (name : String) :
      Move f none [.resume f.issued] (f.begin purpose name .lost)
  /-- An activation is started and finds its shader; it is the newest one now. -/
  | begun (f : Flight α) (purpose : Purpose) (name : String) (d : Descriptor) :
      Move f none [.readSource f.issued d.path]
        { f.begin purpose name (.reading ⟨f.generation + 1, d⟩) with
          generation := f.generation + 1 }
  | advanced {f : Flight α} {a : Activation α} {came : Engine.Arrival α} {stage : Stage α}
      {x : Effect α} {ns : List (Effect α)} (ha : a ∈ f.activations)
      (h : a.stage.Advance f.generation a.ticket came stage x) (hns : ∀ n ∈ ns, n.isNotice) :
      Move f (some (a.ticket, came)) (ns ++ [x]) (f.moveTo a.ticket stage)
  | ended {f : Flight α} {a : Activation α} {came : Engine.Arrival α} {o : Outcome α}
      {ns : List (Effect α)} (bindings : List (Binding α)) (ha : a ∈ f.activations)
      (h : a.stage.Ends f.generation came o)
      (hns : ∀ n ∈ ns,
        n.isNotice ∨ ∃ s, o = .installed s ∧ n = .scheduleCapture s.descriptor.name) :
      Move f (some (a.ticket, came))
        (ns ++ [.finished ⟨a.ticket, a.requested, o, bindings⟩]) (f.land a.ticket o)

/-- Chains of moves that have the same cause. -/
inductive Moves [Scalar α] :
    Flight α → Option (Ticket × Engine.Arrival α) → List (Effect α) → Flight α → Prop where
  | refl (f : Flight α) (l : Option (Ticket × Engine.Arrival α)) : Moves f l [] f
  | tail {f g h : Flight α} {l : Option (Ticket × Engine.Arrival α)} {xs ys : List (Effect α)} :
      Moves f l xs g → Move g l ys h → Moves f l (xs ++ ys) h

namespace Moves

variable [Scalar α] {f g h : Flight α} {l : Option (Ticket × Engine.Arrival α)}
  {xs ys : List (Effect α)}

/-- A move is a chain. -/
theorem single (m : Move f l xs g) : Moves f l xs g := by
  simpa using (refl f l).tail m

/-- Chains can be put together. -/
theorem trans (first : Moves f l xs g) (second : Moves g l ys h) : Moves f l (xs ++ ys) h := by
  induction second with
  | refl => simpa using first
  | tail _ m ih =>
      rw [← List.append_assoc]
      exact (ih first).tail m

/-- What each move keeps is kept by a chain. The property may look at all effects so far. -/
theorem keep {P : Flight α → List (Effect α) → Prop} (ms : Moves f l xs g)
    (hmove : ∀ f log xs g, Move f l xs g → P f log → P g (log ++ xs))
    {log : List (Effect α)} (hf : P f log) : P g (log ++ xs) := by
  induction ms with
  | refl => simpa using hf
  | tail _ m ih =>
      rw [← List.append_assoc]
      exact hmove _ _ _ _ m (ih hmove)

end Moves

end Flight

/-! ## Events are chains of moves -/

namespace Engine

variable [Scalar α]

omit [Scalar α] in
/-- The notices of a list are effects asked for in order. -/
theorem noteAll_eq (e : Engine α) (ns : List Notice) :
    e.noteAll ns = { e with outbox := e.outbox ++ ns.map .notice } := by
  induction ns generalizing e with
  | nil => simp [noteAll]
  | cons n ns ih =>
      have h : e.noteAll (n :: ns) = (e.note n).noteAll ns := rfl
      rw [h, ih]
      simp [note, emit]

/-- An engine gets to another by one move of its flight, which is all that is asked for. -/
def Makes (e : Engine α) (l : Option (Ticket × Arrival α)) (e' : Engine α) : Prop :=
  ∃ xs, e'.outbox = e.outbox ++ xs ∧ Flight.Move e.flight l xs e'.flight

/-- An engine gets to another by a chain of moves. -/
def Goes (e : Engine α) (l : Option (Ticket × Arrival α)) (e' : Engine α) : Prop :=
  ∃ xs, e'.outbox = e.outbox ++ xs ∧ Flight.Moves e.flight l xs e'.flight

/-- One move is a way to go. -/
theorem Makes.goes {e e' : Engine α} {l : Option (Ticket × Arrival α)} (h : e.Makes l e') :
    e.Goes l e' := by
  obtain ⟨xs, hout, m⟩ := h
  exact ⟨xs, hout, .single m⟩

namespace Goes

variable {e e' e'' : Engine α} {l : Option (Ticket × Arrival α)}

/-- An engine gets to where effects that are aside lead. -/
theorem aside (xs : List (Effect α)) (hout : e'.outbox = e.outbox ++ xs)
    (hflight : e'.flight = e.flight) (hxs : ∀ x ∈ xs, x.isAside) : e.Goes none e' :=
  Makes.goes ⟨xs, hout, hflight ▸ .aside hxs⟩

/-- An engine gets to where it is. -/
theorem refl (e : Engine α) : e.Goes none e := aside [] (by simp) rfl (by simp)

/-- Ways to go can be put together. -/
theorem trans (first : e.Goes l e') (second : e'.Goes l e'') : e.Goes l e'' := by
  obtain ⟨xs, hxs, ms⟩ := first
  obtain ⟨ys, hys, ns⟩ := second
  exact ⟨xs ++ ys, by rw [hys, hxs, List.append_assoc], ms.trans ns⟩

/-- A change of the session that keeps the active shader is aside. -/
theorem mapSession (e : Engine α) {f : Session α → Session α}
    (hf : (f e.session).active = e.session.active) : e.Goes none (e.mapSession f) :=
  aside [] (by simp [Engine.mapSession]) (by simp [flight, Engine.mapSession, hf])
    (by simp)

/-- Effects that have nothing to do with activations are aside. -/
theorem emit (e : Engine α) {x : Effect α} (hx : x.isAside) : e.Goes none (e.emit x) :=
  aside [x] rfl rfl (by simpa using hx)

theorem noteAll (e : Engine α) (ns : List Notice) : e.Goes none (e.noteAll ns) := by
  rw [noteAll_eq]
  exact aside _ rfl rfl (by simp [Effect.isAside])

end Goes

/-! ### Starting an activation -/

theorem makes_activate (e : Engine α) (purpose : Purpose) (name : String) :
    e.Makes none (e.activate purpose name) := by
  unfold activate
  split
  · exact ⟨[.resume e.issued], rfl, .missed e.flight purpose name⟩
  · next d _ =>
      exact ⟨[.readSource e.issued d.path], rfl, .begun e.flight purpose name d⟩

/-! ### Something comes for an activation -/

omit [Scalar α] in
/-- The activation of a ticket is one of those on their way. -/
theorem mem_of_activation? {e : Engine α} {t : Ticket} {a : Activation α}
    (h : e.activation? t = some a) : a ∈ e.activations ∧ a.ticket = t := by
  refine ⟨List.mem_of_find?_eq_some h, ?_⟩
  simpa using List.find?_some h

/-- What an activation does not wait for is ignored. -/
theorem makes_ignored {e : Engine α} {t : Ticket} {came : Arrival α} {a : Activation α}
    (ha : e.activation? t = some a) (h : a.stage.awaits came = false) :
    e.Makes (some (t, came)) e := by
  refine ⟨[], by simp, .ignored fun b hb => ?_⟩
  obtain rfl : a = b := Option.some.inj (ha.symm.trans hb)
  exact h

/-- What comes for an activation that is not on its way is ignored. -/
theorem makes_unknown {e : Engine α} {t : Ticket} {came : Arrival α}
    (h : e.activation? t = none) : e.Makes (some (t, came)) e :=
  ⟨[], by simp, .ignored fun b hb => absurd (h.symm.trans hb) (by simp)⟩

/-- An activation ends by the way that its stage allows. -/
theorem makes_finish {e e' : Engine α} {t : Ticket} {a : Activation α} {came : Arrival α}
    {o : Outcome α} (ns : List (Effect α)) (h : e.activation? t = some a)
    (hout : e'.outbox = e.outbox ++ ns)
    (hflight : e'.flight = { e.flight with active := o.shader?.or e.flight.active })
    (hends : a.stage.Ends e.generation came o)
    (hns : ∀ n ∈ ns, n.isNotice ∨ ∃ s, o = .installed s ∧ n = .scheduleCapture s.descriptor.name) :
    e.Makes (some (t, came)) (e'.finish a o) := by
  obtain ⟨ha, rfl⟩ := mem_of_activation? h
  let notices : List (Effect α) := (endNotices a.purpose a.requested o).map .notice
  have hland : (e'.finish a o).flight = e.flight.land a.ticket o := by
    have hacts : e'.activations = e.activations := congrArg Flight.activations hflight
    have hfinish : (e'.finish a o).flight =
        { e'.flight with activations := e'.activations.filter (·.ticket != a.ticket) } := by
      simp [finish, noteAll_eq, emit, flight]
    rw [hfinish, hflight, hacts]
    rfl
  have hend : Flight.Move e.flight (some (a.ticket, came))
      ((ns ++ notices) ++ [.finished ⟨a.ticket, a.requested, o, e'.session.bindings.toList⟩])
      (e.flight.land a.ticket o) := by
    refine .ended _ ha hends fun n hn => ?_
    rcases List.mem_append.mp hn with hn | hn
    · exact hns n hn
    · obtain ⟨m, -, rfl⟩ := List.mem_map.mp hn
      exact .inl rfl
  refine ⟨(ns ++ notices) ++ [_], ?_, hland ▸ hend⟩
  simp [finish, noteAll_eq, emit, hout, notices]

/-- An activation gets further by the way that its stage allows. -/
theorem makes_advance {e e' : Engine α} {t : Ticket} {a : Activation α} {came : Arrival α}
    {stage : Stage α} {x : Effect α} (ns : List (Effect α)) (h : e.activation? t = some a)
    (hout : e'.outbox = e.outbox ++ (ns ++ [x])) (hflight : e'.flight = e.flight.moveTo t stage)
    (hadv : a.stage.Advance e.generation t came stage x) (hns : ∀ n ∈ ns, n.isNotice) :
    e.Makes (some (t, came)) e' := by
  obtain ⟨ha, rfl⟩ := mem_of_activation? h
  exact ⟨_, hout, hflight ▸ .advanced ha hadv hns⟩

theorem makes_resumed (e : Engine α) (t : Ticket) :
    e.Makes (some (t, .turn)) (e.resumed t) := by
  unfold resumed
  split
  · next a ha =>
      split
      · next hs => exact makes_finish [] ha (by simp) rfl (hs ▸ .notFound) (by simp)
      · exact makes_ignored ha (by cases h : a.stage <;> simp_all [Stage.awaits])
  · next h => exact makes_unknown h

theorem makes_sourceRead (e : Engine α) (t : Ticket) (content : Except Files.Error String) :
    e.Makes (some (t, .source content)) (e.sourceRead t content) := by
  unfold sourceRead
  split
  · next a ha =>
      cases content with
      | error problem =>
          split
          · next q _ hs h =>
              cases h
              exact makes_finish [] ha (by simp) rfl (hs ▸ .unreadable q problem) (by simp)
          · next h => cases h
          · exact makes_ignored ha (by cases h : a.stage <;> simp_all [Stage.awaits])
      | ok raw =>
          split
          · next h => cases h
          · next q _ hs h =>
              cases h
              have hadv : Stage.Advance e.generation t _ _ _ _ := .read (α := α) q raw
              let warnings : List Notice :=
                (Transpiled.ofSource (α := α) q.descriptor.dialect raw).warnings.map fun w =>
                  .warning s!"[shader] {q.descriptor.name}: {w}"
              refine makes_advance (warnings.map .notice) ha ?_ ?_ (hs ▸ hadv)
                (by simp [Effect.isNotice])
              · simp [emit, moveTo, noteAll_eq, warnings]
              · simp [emit, moveTo, noteAll_eq, flight, Flight.moveTo]
          · exact makes_ignored ha (by cases h : a.stage <;> simp_all [Stage.awaits])
  · next h => exact makes_unknown h

theorem makes_compiled (e : Engine α) (now : Timestamp) (t : Ticket)
    (outcome : Except String Unit) :
    e.Makes (some (t, .program now outcome)) (e.compiled now t outcome) := by
  unfold compiled
  split
  · next a ha =>
      cases outcome with
      | ok =>
          split
          · next q p _ hs h =>
              by_cases hq : q.generation = e.generation
              · have hnew : e.isOutdated q = false := by simp [isOutdated, hq]
                rw [hnew]
                exact makes_advance [] ha rfl rfl (hs ▸ .compiled q p now hq) (by simp)
              · have hold : e.isOutdated q = true := by simp [isOutdated, hq]
                rw [hold]
                exact makes_finish [] ha (by simp) rfl (hs ▸ .overtaken q p now hq)
                  (by simp)
          · next h => cases h
          · exact makes_ignored ha (by cases h : a.stage <;> simp_all [Stage.awaits])
      | error log =>
          split
          · next h => cases h
          · next q p _ hs h =>
              cases h
              have hadv : Stage.Advance e.generation t _ _ _ _ := .failed q p now log
              let line := Notice.failure s!"[shader] {(failureOf q p log).message}"
              refine makes_advance [.notice line] ha ?_ rfl (hs ▸ hadv)
                (by simp [Effect.isNotice])
              simp [emit, moveTo, note, line]
          · exact makes_ignored ha (by cases h : a.stage <;> simp_all [Stage.awaits])
  · next h => exact makes_unknown h

theorem makes_recorded (e : Engine α) (t : Ticket) (written : Except Files.Error Unit) :
    e.Makes (some (t, .record written)) (e.recorded t written) := by
  unfold recorded
  split
  · next a ha =>
      split
      · next q f hs =>
          have hends : Stage.Ends (α := α) e.generation _ _ _ := .uncompilable q f written
          cases written with
          | ok => exact makes_finish [] ha (by simp) rfl (hs ▸ hends) (by simp)
          | error problem =>
              exact makes_finish [.notice _] ha rfl rfl (hs ▸ hends)
                (by simp [Effect.isNotice])
      · exact makes_ignored ha (by cases h : a.stage <;> simp_all [Stage.awaits])
  · next h => exact makes_unknown h

/-- Saved bindings have come for an activation, perhaps after a notice. -/
theorem makes_restored {e e' : Engine α} {t : Ticket} {a : Activation α} {q : Quest}
    {p : Transpiled α} (ns : List Notice)
    (saved : Except PresetError (Option (List (BindingSpec α))))
    (h : e.activation? t = some a) (hs : a.stage = .restoring q p) (he : e' = e.noteAll ns)
    (specs : Option (List (BindingSpec α))) :
    e.Makes (some (t, .preset saved))
      (if e'.isOutdated q then e'.finish a .superseded
       else e'.install a ⟨q.descriptor, p, q.generation⟩ specs) := by
  rw [noteAll_eq] at he
  by_cases hq : q.generation = e.generation
  · have hnew : e'.isOutdated q = false := by simp [isOutdated, hq, he]
    rw [hnew]
    let count := (Session.freshBindings p specs).size
    let line := Notice.info
      s!"[engine] active: {q.descriptor.dialect.name}/{q.descriptor.name} ({count} bindings)"
    refine makes_finish (ns.map .notice ++ [.scheduleCapture q.descriptor.name, .notice line])
      h ?_ ?_ (hs ▸ .installed q p saved hq) ?_
    · simp [note, emit, mapSession, Session.install, he, line, count]
    · simp [note, emit, mapSession, he, flight, Session.install, Outcome.shader?]
    · rintro n hn
      simp only [List.mem_append, List.mem_map, List.mem_cons, List.not_mem_nil, or_false] at hn
      rcases hn with ⟨m, -, rfl⟩ | rfl | rfl
      · exact .inl rfl
      · exact .inr ⟨_, rfl, rfl⟩
      · exact .inl rfl
  · have hold : e'.isOutdated q = true := by simp [isOutdated, hq, he]
    rw [hold]
    refine makes_finish (ns.map .notice) h (by simp [he]) (by simp [he, flight]; rfl)
      (hs ▸ .outdated q p saved hq) (by simp [Effect.isNotice])

theorem makes_presetLoaded (e : Engine α) (t : Ticket)
    (saved : Except PresetError (Option (List (BindingSpec α)))) :
    e.Makes (some (t, .preset saved)) (e.presetLoaded t saved) := by
  unfold presetLoaded
  split
  · next a ha =>
      split
      · next q p hs =>
          cases saved with
          | ok specs => exact makes_restored [] _ ha hs rfl specs
          | error problem => exact makes_restored [_] _ ha hs rfl none
      · exact makes_ignored ha (by cases h : a.stage <;> simp_all [Stage.awaits])
  · next h => exact makes_unknown h

/-- What comes for an activation gets it further or ends it, or nothing happens. -/
theorem makes_arrive (e : Engine α) (t : Ticket) (came : Arrival α) :
    e.Makes (some (t, came)) (e.arrive t came) := by
  cases came with
  | turn => exact makes_resumed e t
  | source content => exact makes_sourceRead e t content
  | program now outcome => exact makes_compiled e now t outcome
  | record written => exact makes_recorded e t written
  | preset saved => exact makes_presetLoaded e t saved

/-! ### Commands and ticks -/

/-- Of all commands only a request for a shader has to do with activations. -/
theorem goes_obey (e : Engine α) (c : Command α) : e.Goes none (e.obey c).1 := by
  cases c with
  | resetAudio => exact (Goes.mapSession e (by rfl)).trans (.emit _ rfl)
  | addBinding spec => exact .mapSession e (by rfl)
  | incompleteBinding => exact .emit e rfl
  | removeBinding uniform => exact .mapSession e (by rfl)
  | clearBindings => exact .mapSession e (by rfl)
  | setControls u => exact .mapSession e (by rfl)
  | loadShader name energy valence =>
      exact (Goes.noteAll e _).trans (makes_activate _ .background name).goes
  | setToggle name enabled => exact (Goes.mapSession e (by rfl)).trans (.emit _ rfl)

theorem goes_handle (e : Engine α) (m : Osc.Message α) : e.Goes none (e.handle m).1 := by
  unfold handle
  split
  · exact goes_obey e _
  · exact .refl e

/-- Where every step of a fold goes, the fold goes. -/
theorem goes_foldl {β : Type} {f : Engine α → β → Engine α}
    (hf : ∀ (e : Engine α) b, e.Goes none (f e b)) (e : Engine α) (bs : List β) :
    e.Goes none (bs.foldl f e) := by
  induction bs generalizing e with
  | nil => exact .refl e
  | cons b bs ih => exact (hf e b).trans (ih (f e b))

theorem goes_hear (e : Engine α) (m : Osc.Message α) : e.Goes none (e.hear m) :=
  .mapSession e (by rfl)

theorem goes_drain (e : Engine α) : e.Goes none e.drain := by
  have hinbox : e.Goes none { e with inbox := .empty } :=
    .aside [] (by simp) rfl (by simp)
  exact (hinbox.trans (goes_foldl goes_handle _ _)).trans (goes_foldl goes_hear _ _)

theorem goes_beginReload (e : Engine α) : e.Goes none e.beginReload := by
  unfold beginReload
  split
  · exact (Goes.mapSession e (by rfl)).trans (.emit _ rfl)
  · exact .refl e

theorem goes_prepare (e : Engine α) (dt : α) : e.Goes none (e.prepare dt).1 := by
  have hframe : e.drain.Goes none (e.drain.mapSession fun s => s.frameTick dt) :=
    .mapSession _ (by rfl)
  have hresolve (e : Engine α) : e.Goes none { e with session := e.session.resolve.1 } := by
    refine .mapSession e (f := fun s => s.resolve.1) ?_
    unfold Session.resolve
    split <;> rfl
  exact (((goes_drain e).trans hframe).trans (goes_beginReload _)).trans (hresolve _)

theorem goes_conclude (e : Engine α) (dt : α) (values : Option (UniformValues α)) :
    e.Goes none (e.conclude dt values) := by
  cases values with
  | none => exact .mapSession e (by rfl)
  | some vs => exact (Goes.emit e (by rfl)).trans (.mapSession _ (by rfl))

/-! ### Scans -/

theorem goes_takeScan (e : Engine α) (s : Scan) : e.Goes none (e.takeScan s) :=
  .aside [.notice _] rfl rfl (by simp [Effect.isAside])

theorem goes_scanned (e : Engine α) (s : Except Files.Error Scan) : e.Goes none (e.scanned s) := by
  cases s with
  | error problem => exact .emit e rfl
  | ok s =>
      unfold scanned
      simp only
      split
      · exact (goes_takeScan e s).trans (makes_activate _ .reload _).goes
      · exact goes_takeScan e s

/-- What has come for an activation with an event, if anything. -/
def Event.arrival? : Event α → Option (Ticket × Arrival α)
  | .arrive t a => some (t, a)
  | _ => none

omit [Scalar α] in
theorem Event.arrival?_eq_some {x : Event α} {l : Ticket × Arrival α}
    (h : x.arrival? = some l) : ∃ t a, x = .arrive t a := by
  cases x with
  | arrive t a => exact ⟨t, a, rfl⟩
  | _ => simp [Event.arrival?] at h

/-- Every event is a chain of moves; those of an arrival are about the activation that it is
for. -/
theorem goes_step (e : Engine α) (x : Event α) : e.Goes x.arrival? (e.step x) := by
  cases x with
  | activate purpose name => exact (makes_activate e purpose name).goes
  | arrive t a => exact (makes_arrive e t a).goes
  | tick dt => exact (goes_prepare e dt).trans (goes_conclude _ dt _)
  | brokenTick dt => exact goes_prepare e dt
  | receive m => exact .aside [] (by simp [step, receive]) rfl (by simp)
  | control m => exact goes_handle e m
  | addBinding spec => exact .mapSession e (by rfl)
  | removeBinding uniform => exact .mapSession e (by rfl)
  | clearBindings => exact .mapSession e (by rfl)
  | setControls u => exact .mapSession e (by rfl)
  | setToggle name enabled =>
      exact (Goes.mapSession e (by rfl)).trans (.emit _ rfl)
  | setResolution width height =>
      refine .mapSession e (f := fun s => s.resize width height) ?_
      unfold Session.resize
      split <;> rfl
  | markReload => exact .mapSession e (by rfl)
  | poll s =>
      simp only [step, poll]
      split
      · exact .mapSession e (by rfl)
      · exact .refl e
  | rescan s => exact goes_takeScan e s
  | scanned s => exact goes_scanned e s

end Engine

/-! ## Runs are chains of moves -/

namespace Performance

variable [Scalar α]

/-- A step of a performance is a chain of moves, and what it asks for is kept. -/
theorem moves_step (p : Performance α) (x : Engine.Event α) (hout : p.engine.outbox = []) :
    ∃ xs, (p.step x).asked = p.asked ++ xs ∧
      Flight.Moves p.engine.flight x.arrival? xs (p.step x).engine.flight := by
  obtain ⟨xs, hxs, ms⟩ := Engine.goes_step p.engine x
  refine ⟨xs, ?_, ms⟩
  rw [hout, List.nil_append] at hxs
  simp [step, hxs]

/-- What holds at some moment of a run and is kept by every move holds from then on. -/
theorem run_induction {P : Flight α → List (Effect α) → Prop} (shaderRoot : String)
    (ys zs : List (Engine.Event α))
    (hys : P (run shaderRoot ys).engine.flight (run shaderRoot ys).asked)
    (hmove : ∀ f log l xs g, Flight.Move f l xs g → P f log → P g (log ++ xs)) :
    P (run shaderRoot (ys ++ zs)).engine.flight (run shaderRoot (ys ++ zs)).asked := by
  induction zs using List.reverseRecOn with
  | nil => rwa [List.append_nil]
  | append_singleton zs z ih =>
      rw [← List.append_assoc, run_concat]
      obtain ⟨xs, hxs, ms⟩ := moves_step (run shaderRoot (ys ++ zs)) z (outbox_run shaderRoot _)
      rw [hxs]
      exact ms.keep (fun f log xs g m => hmove f log _ xs g m) ih

end Performance

end LiveVisuals
