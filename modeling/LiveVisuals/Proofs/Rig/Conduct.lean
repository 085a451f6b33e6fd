import LiveVisuals.Proofs.Rig.Act
import LiveVisuals.Rig.Clock

/-!
# What a rig does

Whatever a rig does, whether its engine acts, time passes or a browser sends a text, comes down
to a few things that touch its render host, the timers of compiles or what is seen of it. The
rest leaves these alone, so a property that those few things keep is kept by everything.

Main definitions:

- {lit}`Rig.compileTimers`: the timers of compiles.
- {lit}`Rig.Takes`: a piece of work has been taken out of what waits.
- {lit}`Rig.Kept`: a property is kept by the single things that a rig does.
- {lit}`Rig.Rest`: a rig gets to another with the same host, timers of compiles and sightings.
- {lit}`Rig.Stable`: a property is kept by what touches these.

Main results:

- Theorem {lit}`Agenda.fire?_cases`: a timer that fires is gone, or due again later.
- Theorem {lit}`Rig.work_look_eq`: what a look at the shader directory comes to.
- Theorems {lit}`Rig.Kept.act`, {lit}`Rig.Kept.work`, {lit}`Rig.Kept.ring` and
  {lit}`Rig.Kept.advance`: such a property is kept by whatever a rig does of its own accord.
- Theorem {lit}`Rig.Stable.kept`: a stable property is such a property.
- Theorem {lit}`Rig.Stable.sendText`: it is kept by whatever a browser sends, too.
-/

namespace LiveVisuals

variable {α : Type}

/-! ## Timers -/

/-- The compile that an alarm is for. -/
def Alarm.compile? : Alarm → Option String
  | .compileLimit id => some id
  | _ => none

/-- A timer that fires is one of those that were set, and it is due. It is gone then, or due again
later. -/
theorem Agenda.fire?_cases {act : Type} [Scalar α] {a a' : Agenda α act} {limit : α} {x : act}
    (h : a.fire? limit = some (x, a')) :
    ∃ ts t us, a.timers = ts ++ t :: us ∧ t.act = x ∧ ¬limit < t.due ∧
      ((t.period = none ∧ a'.timers = ts ++ us) ∨
        ∃ due, t.period ≠ none ∧ a'.timers = ts ++ { t with due := due } :: us) := by
  unfold fire? at h
  split at h
  · cases h
  · next i _ =>
    split at h
    · cases h
    · next t ht =>
      split at h
      · cases h
      · next hdue =>
        cases h
        obtain ⟨hi, rfl⟩ := List.getElem?_eq_some_iff.mp ht
        refine ⟨a.timers.take i, a.timers[i], a.timers.drop (i + 1), ?_, rfl, hdue, ?_⟩
        · rw [List.getElem_cons_drop, List.take_append_drop]
        · cases hperiod : a.timers[i].period with
          | none => exact .inl ⟨rfl, List.eraseIdx_eq_take_drop_succ _ _⟩
          | some p =>
              refine .inr ⟨a.timers[i].due + p, by simp, ?_⟩
              exact List.set_eq_take_append_cons_drop.trans (if_pos hi)

/-- A timer that fires leaves those for other things alone. -/
theorem Agenda.filter_of_fire?_ne {act : Type} [Scalar α] {a a' : Agenda α act} {limit : α}
    {x : act} (p : act → Bool) (h : a.fire? limit = some (x, a')) (hx : p x = false) :
    a'.timers.filter (fun u => p u.act) = a.timers.filter (fun u => p u.act) := by
  obtain ⟨ts, u, us, htimers, rfl, -, hafter⟩ := fire?_cases h
  rw [htimers]
  rcases hafter with ⟨-, hgone⟩ | ⟨due, -, hlater⟩
  · rw [hgone]
    simp [hx]
  · rw [hlater]
    simp [hx]

namespace Rig

/-- The timers of compiles. -/
def compileTimers (r : Rig α) : List (Timer α Alarm) :=
  r.agenda.timers.filter (·.act.compile?.isSome)

/-! ## Work that is taken -/

/-- A piece of work is taken out of what waits, whichever it is. -/
def Takes (r : Rig α) (w : Work) (r' : Rig α) : Prop :=
  r.allWork.Perm (w :: r'.allWork) ∧ ∃ atOnce onFiles onTrees,
    r' = { r with atOnce := atOnce, onFiles := onFiles, onTrees := onTrees }

/-- What is done next is taken from what waits. -/
theorem takes_of_next? {r r' : Rig α} {w : Work} (h : r.next? = some (w, r')) : r.Takes w r' := by
  obtain ⟨ys, zs, hwork, hleft, hqueues⟩ := next?_eq h
  exact ⟨by rw [hwork, hleft]; exact List.perm_middle, hqueues⟩

/-- Work of some kind is what is taken, if it is of that kind, and what is left. -/
theorem Takes.filterMap {β : Type} {r r' : Rig α} {w : Work} (h : r.Takes w r')
    (f : Work → Option β) :
    (r.allWork.filterMap f).Perm ((f w).toList ++ r'.allWork.filterMap f) := by
  have hwork := h.1.filterMap f
  cases hw : f w <;> simpa [hw] using hwork

variable [Scalar α]

/-! ## Timers of compiles -/

/-- The timer of something else that fires leaves those of compiles alone. -/
theorem compileTimers_fire? {r : Rig α} {limit : α} {x : Alarm}
    {agenda : Agenda α Alarm} (hx : x.compile? = none)
    (hfire : r.agenda.fire? limit = some (x, agenda)) :
    compileTimers { r with agenda := agenda } = r.compileTimers :=
  Agenda.filter_of_fire?_ne (fun x : Alarm => x.compile?.isSome) hfire (by simp [hx])

/-- A capture that is scheduled does not matter for the timers of compiles. -/
theorem compileTimers_scheduleCapture (r : Rig α) (shader : String) :
    (r.scheduleCapture shader).compileTimers = r.compileTimers := by
  unfold scheduleCapture
  split
  · simp only [compileTimers, Agenda.after, Agenda.cancel, List.filter_append, List.filter_filter]
    have hothers : (r.agenda.timers.filter fun t =>
        t.act.compile?.isSome && !(t.act == .capture)) =
          r.agenda.timers.filter (·.act.compile?.isSome) := by
      refine List.filter_congr fun t _ => ?_
      cases t.act <;> rfl
    rw [hothers]
    exact List.append_nil _
  · rfl

/-! ## What a rig does of its own accord -/

/-- A look that ends leaves the flag down and tells who has asked from outside what has come of it.
Failures are put on the console. -/
theorem work_look_eq (r : Rig α) (caller : LookCaller) :
    ∃ console, r.work (.look caller) =
      { r with
        engine := r.poll.1.engine
        looking := false
        looked := r.looked ++ (if caller = .outside then [r.poll.2] else [])
        console := console } := by
  have hpoll : r.poll.1 = { r with engine := r.poll.1.engine } := by
    unfold poll
    split <;> rfl
  change ∃ console, r.poll.1.endLook caller r.poll.2 = _
  rw [hpoll]
  cases caller with
  | timer =>
      simp only [reduceCtorEq, if_false, List.append_nil]
      cases r.poll.2 <;> exact ⟨_, rfl⟩
  | outside => exact ⟨r.console, rfl⟩

/-- The end of a check is seen and put on the console at most. -/
theorem work_checkCapture_eq (r : Rig α) (shader : String) :
    ∃ seen console, r.work (.checkCapture shader) =
      { r with seen := seen, console := console } := by
  change ∃ seen console, (if r.hasPicture shader then r else r.requestCapture shader) = _
  split
  · exact ⟨_, _, rfl⟩
  · exact requestCapture_eq r shader

/-- A property is kept by the single things that make up what a rig does of its own accord. -/
structure Kept (P : Rig α → Prop) : Prop where
  /-- The engine moves on, a file is written, loops and clocks go on, or something is reported. -/
  beside : ∀ {r : Rig α} (engine : Engine α) (disk : Disk) (loops : List (RenderLoop α))
    (looked : List (Except Files.Error Bool)) (console : List Notice) (now : α), P r →
      P { r with
        engine := engine
        disk := disk
        loops := loops
        looked := looked
        console := console
        agenda := { r.agenda with now := now } }
  perform : ∀ {r : Rig α} (x : Effect α), P r → P (r.perform x)
  /-- A piece of work that the engine has asked for is about to be done. -/
  take : ∀ {r r' : Rig α} {w : Work}, r.next? = some (w, r') → w.isEngineWork = true → P r → P r'
  look : ∀ {r : Rig α} (caller : LookCaller), P r → P (r.look caller).1
  /-- A look at the shader directory is over. -/
  lookEnd : ∀ {r r' : Rig α} {caller : LookCaller}, r.next? = some (.look caller, r') →
    P r → P { r' with looking := false }
  check : ∀ {r r' : Rig α} {shader : String}, r.next? = some (.checkCapture shader, r') →
    P r → P (r'.work (.checkCapture shader))
  timeout : ∀ {r : Rig α} {limit : α} {id : String} {agenda : Agenda α Alarm},
    r.agenda.fire? limit = some (.compileLimit id, agenda) → P r →
      P (Rig.ring { r with agenda := agenda } (.compileLimit id))
  expire : ∀ {r : Rig α} {limit : α} {agenda : Agenda α Alarm},
    r.agenda.fire? limit = some (.capture, agenda) → P r →
      P (Rig.ring { r with agenda := agenda } .capture)
  /-- A timer for something else fires. -/
  fire : ∀ {r : Rig α} {limit : α} {alarm : Alarm} {agenda : Agenda α Alarm},
    r.agenda.fire? limit = some (alarm, agenda) → alarm.compile? = none → alarm ≠ .capture →
      P r → P { r with agenda := agenda }

namespace Kept

variable {P : Rig α → Prop} (hP : Kept P) {r : Rig α}

include hP

/-- Whatever the engine does, carrying out what it asks for keeps the property. -/
theorem act (h : P r) (f : Engine α → Engine α) : P (r.act f) := by
  have hfold (xs : List (Effect α)) {s : Rig α} (hs : P s) :
      P (xs.foldl Rig.perform s) := by
    induction xs generalizing s with
    | nil => exact hs
    | cons x xs ih => exact ih (hP.perform x hs)
  have hengine : P { r with engine := (f r.engine).dispatched } :=
    hP.beside _ r.disk r.loops r.looked r.console r.agenda.now h
  exact hfold (f r.engine).outbox hengine

/-- Doing the next piece of work keeps the property. -/
theorem work (h : P r) {r' : Rig α} {w : Work} (hnext : r.next? = some (w, r')) :
    P (r'.work w) := by
  cases w with
  | resume t => exact hP.act (hP.take hnext rfl h) fun e => e.resumed t
  | settle t outcome => exact hP.act (hP.take hnext rfl h) fun e => e.compiled r'.now t outcome
  | readSource t path =>
      exact hP.act (hP.take hnext rfl h) fun e =>
        e.sourceRead t (r'.disk.read (r'.disk.locate path))
  | record t record =>
      have htaken := hP.take hnext rfl h
      have hdisk := hP.beside r'.engine (r'.disk.appendRecord r'.setup.errorLog record).1
        r'.loops r'.looked r'.console r'.agenda.now htaken
      exact hP.act hdisk fun e => e.recorded t (r'.disk.appendRecord r'.setup.errorLog record).2
  | loadPreset t shader =>
      exact hP.act (hP.take hnext rfl h) fun e => e.presetLoaded t (r'.savedBindings shader)
  | scan =>
      exact hP.act (hP.take hnext rfl h) fun e => e.scanned (r'.disk.scan r'.setup.shaderDir)
  | look caller =>
      obtain ⟨console, hwork⟩ := work_look_eq r' caller
      rw [hwork]
      exact hP.beside _ r'.disk r'.loops _ console r'.agenda.now (hP.lookEnd hnext h)
  | checkCapture shader => exact hP.check hnext h

/-- Doing work until something holds keeps the property. -/
theorem workUntil (h : P r) (stop : Rig α → Bool) (most : Nat) :
    P (Rig.workUntil stop most r) := by
  induction most generalizing r with
  | zero => exact h
  | succ most ih =>
      unfold Rig.workUntil
      split
      · exact h
      · split
        · next hnext => exact ih (hP.work h hnext)
        · exact h

/-- A tick keeps the property. -/
theorem tick (h : P r) (dt : α) : P (r.tick dt).1 := by
  unfold Rig.tick
  simp only
  split
  · exact hP.act h fun _ => (r.engine.prepare dt).1
  · exact hP.act h fun _ => (r.engine.prepare dt).1.conclude dt (r.engine.prepare dt).2

/-- An alarm that goes off keeps the property. -/
theorem ring (h : P r) {limit : α} {alarm : Alarm} {agenda : Agenda α Alarm}
    (hfire : r.agenda.fire? limit = some (alarm, agenda)) :
    P (Rig.ring { r with agenda := agenda } alarm) := by
  cases alarm with
  | compileLimit id => exact hP.timeout hfire h
  | capture => exact hP.expire hfire h
  | frame i =>
      have hagenda := hP.fire hfire rfl (by simp) h
      simp only [Rig.ring, stepLoop]
      split
      · exact hagenda
      · next l _ =>
        let now := loopClock { r with agenda := agenda } l
        have hlast : P { r with agenda := agenda, loops := r.loops.set i { l with last := now } } :=
          hP.beside r.engine r.disk _ r.looked r.console agenda.now hagenda
        have htick := hP.tick hlast (Engine.tickTime l.last now)
        split
        · next heq =>
          rw [heq] at htick
          exact htick
        · next s problem heq =>
          rw [heq] at htick
          exact hP.beside s.engine s.disk s.loops s.looked _ s.agenda.now htick
  | poll => exact hP.look .timer (hP.fire hfire rfl (by simp) h)

/-- Letting time pass keeps the property. -/
theorem advance (h : P r) (ms : α) : P (r.advance ms) := by
  have hring (limit : α) (most : Nat) {s : Rig α} (hs : P s) :
      P (ringUntil limit most s) := by
    induction most generalizing s with
    | zero => exact hs
    | succ most ih =>
        unfold ringUntil
        split
        · next hfire => exact ih (hP.workUntil (hP.ring hs hfire) _ _)
        · exact hs
  have hrung := hring (r.agenda.now + ms) (r.alarmBound ms) h
  exact hP.beside _ _ _ _ _ (r.agenda.now + ms) hrung

end Kept

/-! ## Stable properties -/

/-- A rig gets to another with the same render host, the same browsers, the same timers of
compiles and nothing new to be seen. -/
structure Rest (r r' : Rig α) : Prop where
  renderer : r'.setup.renderer = r.setup.renderer
  host : r'.host = r.host
  clients : r'.net.clients = r.net.clients
  seen : r'.seen = r.seen
  timers : r'.compileTimers = r.compileTimers

omit [Scalar α] in
/-- What is done next is only taken from what waits. -/
theorem rest_of_next? {r r' : Rig α} {w : Work} (h : r.next? = some (w, r')) : r.Rest r' := by
  obtain ⟨-, atOnce, onFiles, onTrees, rfl⟩ := takes_of_next? h
  exact ⟨rfl, rfl, rfl, rfl, rfl⟩

/-- A property is kept by whatever touches the render host, the timers of compiles or what is
seen. -/
structure Stable (P : Rig α → Prop) : Prop where
  rest : ∀ {r r' : Rig α}, P r → r.Rest r' → P r'
  compile : ∀ {r : Rig α} (caller : CompileCaller) (request : CompileRequest),
    P r → P (r.hostCompile caller request)
  /-- A test bench takes a program as it is. -/
  bench : ∀ {r : Rig α} (request : CompileRequest), r.setup.renderer = .bench →
    P r → P (r.see (.compile request))
  reply : ∀ {r : Rig α} (id : String) (success : Bool) (error : Option String),
    P r → P (r.takeReply id success error).1
  timeout : ∀ {r : Rig α} {limit : α} {id : String} {agenda : Agenda α Alarm},
    r.agenda.fire? limit = some (.compileLimit id, agenda) → P r →
      P (Rig.ring { r with agenda := agenda } (.compileLimit id))
  toggle : ∀ {r : Rig α} (name : String) (enabled : Bool), P r → P (r.toggle name enabled)
  present : ∀ {r : Rig α} (values : UniformValues α), P r → P (r.present values)
  capture : ∀ {r : Rig α} (shader : String), P r → P (r.requestCapture shader)

namespace Stable

variable {P : Rig α → Prop} (hP : Stable P) {r : Rig α}

include hP

theorem queue (h : P r) (w : Work) : P (r.queue w) := by
  obtain ⟨atOnce, onFiles, onTrees, heq⟩ := queue_eq r w
  rw [heq]
  exact hP.rest h ⟨rfl, rfl, rfl, rfl, rfl⟩

/-- Carrying out an effect of the engine keeps a stable property. -/
theorem perform (h : P r) (x : Effect α) : P (r.perform x) := by
  cases x with
  | notice n => exact hP.rest h ⟨rfl, rfl, rfl, rfl, rfl⟩
  | resume t => exact hP.queue h (.resume t)
  | readSource t path => exact hP.queue h (.readSource t path)
  | compile t request =>
      change P (r.startCompile t request)
      unfold startCompile
      split
      · next hbench => exact hP.queue (hP.bench request hbench h) _
      · exact hP.compile _ request h
      · exact hP.compile _ request h
  | record t record => exact hP.queue h (.record t record)
  | loadPreset t shader => exact hP.queue h (.loadPreset t shader)
  | scan => exact hP.queue h .scan
  | present values => exact hP.present values h
  | toggle name enabled => exact hP.toggle name enabled h
  | scheduleCapture shader =>
      have htimers := compileTimers_scheduleCapture r shader
      obtain ⟨capture, agenda, heq⟩ := scheduleCapture_eq r shader
      rw [heq] at htimers
      exact (show r.perform (.scheduleCapture shader) = _ from heq) ▸
        hP.rest h ⟨rfl, rfl, rfl, rfl, htimers⟩
  | finished f => exact hP.rest h ⟨rfl, rfl, rfl, rfl, rfl⟩

/-- A stable property is kept by the single things that a rig does of its own accord. -/
theorem kept : Kept P where
  beside _ _ _ _ _ _ h := hP.rest h ⟨rfl, rfl, rfl, rfl, rfl⟩
  perform x h := hP.perform h x
  take hnext _ h := hP.rest h (rest_of_next? hnext)
  look := by
    intro r caller h
    unfold look
    split
    · exact h
    · have hraised : P { r with looking := true } := hP.rest h ⟨rfl, rfl, rfl, rfl, rfl⟩
      exact hP.queue hraised (.look caller)
  lookEnd hnext h := hP.rest (hP.rest h (rest_of_next? hnext)) ⟨rfl, rfl, rfl, rfl, rfl⟩
  check := by
    intro r r' shader hnext h
    have htaken := hP.rest h (rest_of_next? hnext)
    change P (if r'.hasPicture shader then r' else r'.requestCapture shader)
    split
    · exact htaken
    · exact hP.capture shader htaken
  timeout hfire h := hP.timeout hfire h
  expire := by
    intro r limit agenda hfire h
    have hidle : P { r with agenda := agenda, capture := r.capture.expire.1 } :=
      hP.rest h ⟨rfl, rfl, rfl, rfl, compileTimers_fire? rfl hfire⟩
    simp only [Rig.ring]
    split
    · next shader _ => exact hP.queue hidle (.checkCapture shader)
    · exact hidle
  fire hfire hcompile _ h :=
    hP.rest h ⟨rfl, rfl, rfl, rfl, compileTimers_fire? hcompile hfire⟩

/-- Whatever the engine does, carrying out what it asks for keeps a stable property. -/
theorem act (h : P r) (f : Engine α → Engine α) : P (r.act f) := hP.kept.act h f

/-- Letting time pass keeps a stable property. -/
theorem advance (h : P r) (ms : α) : P (r.advance ms) := hP.kept.advance h ms

/-- A text of a browser keeps a stable property. -/
theorem sendText (h : P r) (client text : String) :
    P (r.sendText client text) := by
  have hsay {s : Rig α} (hs : P s) (n : Notice) : P (s.say n) :=
    hP.rest hs ⟨rfl, rfl, rfl, rfl, rfl⟩
  unfold Rig.sendText
  split
  · unfold takeText
    split
    · exact hsay h _
    · split
      · next m _ =>
        cases m with
        | compiled id success error =>
            simp only [takeMessage]
            split
            · exact hP.reply id success error (hsay h _)
            · exact hP.reply id success error h
        | resize width height => exact hP.act h fun e => e.setResolution width height
        | captureComplete name filename size => exact hsay h _
        | state fps => exact hP.rest h ⟨rfl, rfl, rfl, rfl, rfl⟩
        | ready => exact hsay h _
      · exact hsay h _
  · exact h

end Stable

end Rig

end LiveVisuals
