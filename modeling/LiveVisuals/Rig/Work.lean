import LiveVisuals.Rig.Basic

/-!
# The work of a rig

The effects that an engine asks for are carried out in order: some act on the renderer at
once, others become work. Work is done until none is left: first what can be done at once,
then work on single files in the order in which it came up, and scans of the shader directory
last. It is looked at for changes by one caller at a time: who asks meanwhile is told at once that
there is none.

Main definitions:

- {lit}`Rig.perform`: carry out an effect of the engine.
- {lit}`Rig.act`: let the engine do something, and carry out what it asks for.
- {lit}`Rig.look`: have the shader directory looked at.
- {lit}`Rig.work`: do a piece of work.
- {lit}`Rig.settle`: do all work.
-/

namespace LiveVisuals.Rig

variable {α : Type} [Scalar α]

/-! ## Renderer -/

/-- Number of browsers that a message reaches. -/
def reach (r : Rig α) : Nat :=
  match r.setup.renderer with
  | .bench => 0
  | .channel => r.receivers
  | .browsers => r.net.clients.length

/-- Send a message to all browsers. -/
def broadcast (r : Rig α) (m : HostMessage α) : Rig α :=
  match r.setup.renderer with
  | .bench => r
  | .channel => r.see (.send m)
  | .browsers =>
      let sent := m.toJson.transmitted
      r.net.clients.foldl (fun r client => r.see (.received client sent)) r

/-- Tell who asked for a compile how it ended. -/
def settleCompile (r : Rig α) (id : String) (outcome : CompileOutcome) : Rig α :=
  match Keyed.get? id r.compiles with
  | some (.activation t) => r.queue (.settle t outcome)
  | some (.outside number) => r.see (.settled number outcome)
  | none => r

/-- Carry out an effect of the render host. -/
def performHost (r : Rig α) : HostEffect α → Rig α
  | .send m => r.broadcast m
  | .arm id => { r with agenda := r.agenda.after r.setup.compileLimit (.compileLimit id) }
  | .disarm id => { r with agenda := r.agenda.cancel (· == .compileLimit id) }
  | .settled id outcome => r.settleCompile id outcome

/-- Let the render host do something, and carry out what it asks for. -/
def actHost (r : Rig α) (step : Host × List (HostEffect α)) : Rig α :=
  step.2.foldl performHost { r with host := step.1 }

/-- Ask the render host for a compile. -/
def hostCompile (r : Rig α) (caller : CompileCaller) (request : CompileRequest) : Rig α :=
  let r := { r with compiles := Keyed.put r.host.nextId caller r.compiles }
  r.actHost (r.host.compile r.reach request)

/-- Ask for a compile on behalf of an activation. -/
def startCompile (r : Rig α) (t : Ticket) (request : CompileRequest) : Rig α :=
  match r.setup.renderer with
  | .bench =>
      let outcome : CompileOutcome :=
        match Keyed.get? request.name r.setup.failures with
        | some log => .error log
        | none => .ok ()
      (r.see (.compile request)).queue (.settle t outcome)
  | .channel | .browsers => r.hostCompile (.activation t) request

/-- Present uniform values. -/
def present (r : Rig α) (values : UniformValues α) : Rig α :=
  match r.setup.renderer with
  | .bench => r.see (.present values.length)
  | .channel | .browsers => r.broadcast (.uniforms values)

/-- Hand a toggle on to the renderer. -/
def toggle (r : Rig α) (name : String) (enabled : Bool) : Rig α :=
  match r.setup.renderer with
  | .bench => r.see (.toggle name enabled)
  | .channel | .browsers => r.actHost (r.host.toggle name enabled)

/-! ## First captures -/

/-- Let a shader wait for its first capture. -/
def scheduleCapture (r : Rig α) (shader : String) : Rig α :=
  if r.setup.captureDir.isSome then
    { r with
      capture := .schedule shader
      agenda := (r.agenda.cancel (· == .capture)).after r.setup.captureDelay .capture }
  else r

/-- Give up the first capture that waits. -/
def cancelCapture (r : Rig α) : Rig α :=
  { r with capture := .idle, agenda := r.agenda.cancel (· == .capture) }

/-- Ask for a picture. -/
def requestCapture (r : Rig α) (shader : String) : Rig α :=
  let r := r.say (CaptureScheduler.requestNotice shader)
  match r.setup.captureRefusal with
  | some (refused, problem) =>
      if refused = shader then r.say (CaptureScheduler.failureNotice shader problem)
      else sent r
  | none => sent r
where
  /-- The request reaches the renderer. -/
  sent (r : Rig α) : Rig α :=
    match r.setup.renderer with
    | .bench => r.see (.capture shader)
    | .channel | .browsers => r.broadcast (.capture shader)

/-- Whether there is a picture of a shader. -/
def hasPicture (r : Rig α) (shader : String) : Bool :=
  r.setup.captureDir.any fun dir => r.disk.root.has (CaptureScheduler.file dir shader)

/-! ## Effects -/

/-- Carry out an effect of the engine. -/
def perform (r : Rig α) : Effect α → Rig α
  | .notice n => r.say n
  | .resume t => r.queue (.resume t)
  | .readSource t path => r.queue (.readSource t path)
  | .compile t request => r.startCompile t request
  | .record t record => r.queue (.record t record)
  | .loadPreset t shader => r.queue (.loadPreset t shader)
  | .scan => r.queue .scan
  | .present values => r.present values
  | .toggle name enabled => r.toggle name enabled
  | .scheduleCapture shader => r.scheduleCapture shader
  | .finished f => { r with finished := r.finished ++ [f] }

/-- Carry out what the engine has asked for. -/
def dispatch (r : Rig α) : Rig α :=
  r.engine.outbox.foldl perform { r with engine := r.engine.dispatched }

/-- Let the engine do something, and carry out what it asks for. -/
def act (r : Rig α) (f : Engine α → Engine α) : Rig α :=
  dispatch { r with engine := f r.engine }

/-! ## Looking at the shader directory -/

/-- Have the shader directory looked at, unless that is under way already; says whether it was
not. -/
def look (r : Rig α) (caller : LookCaller) : Rig α × Bool :=
  if r.looking then (r, false)
  else ({ r with looking := true }.queue (.look caller), true)

/-- Look at the shader directory; a change brings about a reload at the next tick. -/
def poll (r : Rig α) : Rig α × Except Files.Error Bool :=
  match r.disk.scan r.setup.shaderDir with
  | .error e => (r, .error e)
  | .ok s =>
      let (e, changed) := r.engine.poll s
      ({ r with engine := e }, .ok changed)

/-- Tell who asked for a look what has come of it. A timer reports failures only. -/
def endLook (r : Rig α) (caller : LookCaller) (outcome : Except Files.Error Bool) : Rig α :=
  let r := { r with looking := false }
  match caller, outcome with
  | .timer, .ok _ => r
  | .timer, .error e => r.say (.failure s!"[engine] shader poll failed: {e.code}")
  | .outside, _ => { r with looked := r.looked ++ [outcome] }

/-! ## Work -/

/-- The saved bindings of a shader. -/
def savedBindings (r : Rig α) (shader : String) :
    Except PresetError (Option (List (BindingSpec α))) :=
  match r.setup.presetDir with
  | some dir => Preset.load dir shader r.disk.root
  | none => .ok none

/-- Do a piece of work. -/
def work (r : Rig α) : Work → Rig α
  | .resume t => r.act fun e => e.resumed t
  | .settle t outcome => r.act fun e => e.compiled r.now t outcome
  | .readSource t path => r.act fun e => e.sourceRead t (r.disk.read (r.disk.locate path))
  | .record t record =>
      let (disk, written) := r.disk.appendRecord r.setup.errorLog record
      { r with disk := disk }.act fun e => e.recorded t written
  | .loadPreset t shader => r.act fun e => e.presetLoaded t (r.savedBindings shader)
  | .scan => r.act fun e => e.scanned (r.disk.scan r.setup.shaderDir)
  | .look caller =>
      let (r, outcome) := r.poll
      r.endLook caller outcome
  | .checkCapture shader => if r.hasPicture shader then r else r.requestCapture shader

/-- The next piece of work, and the rig without it. -/
def next? (r : Rig α) : Option (Work × Rig α) :=
  match r.atOnce, r.onFiles, r.onTrees with
  | w :: ws, _, _ => some (w, { r with atOnce := ws })
  | [], w :: ws, _ => some (w, { r with onFiles := ws })
  | [], [], w :: ws => some (w, { r with onTrees := ws })
  | [], [], [] => none

/-- Do work until some condition holds, at most so many pieces. -/
def workUntil (stop : Rig α → Bool) : (most : Nat) → Rig α → Rig α
  | 0, r => r
  | most + 1, r =>
      if stop r then r
      else
        match r.next? with
        | some (w, r) => workUntil stop most (r.work w)
        | none => r

/-- The most pieces of work that can come of the work that waits: none brings about more than
four others, one after the other. -/
def workBound (r : Rig α) : Nat :=
  5 * (r.atOnce.length + r.onFiles.length + r.onTrees.length)

/-- Do all work. -/
def settle (r : Rig α) : Rig α := workUntil (fun _ => false) r.workBound r

end LiveVisuals.Rig
