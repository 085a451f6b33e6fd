import LiveVisuals.Rig.Net
import LiveVisuals.Service.Tool

/-!
# Operating a rig

What people and programs outside ask of a rig. Some answers are there at once; others are made
when an activation has ended.

Main definitions:

- {lit}`Later`: an answer that is there or is still to come.
- {lit}`Rig.activate`: activate a shader.
- {lit}`Rig.request`: a request to the web interface.
- {lit}`Rig.call`: a call of a tool.
-/

namespace LiveVisuals

/-- An answer that is there, or that is made when an activation has ended. -/
inductive Later (α β : Type) where
  | now (answer : β)
  | after (t : Ticket) (answer : Finish α → β)

namespace Rig

variable {α : Type} [Scalar α]

/-- Activate a shader; the ticket tells the activation from others. -/
def activate (r : Rig α) (purpose : Purpose) (name : String) : Rig α × Ticket :=
  (r.act fun e => e.activate purpose name, r.engine.issued)

/-- Request a shader; the answer is made of the result. -/
def load {β : Type} (r : Rig α) (name : String) (answer : RequestResult α → β) :
    Rig α × Later α β :=
  let (r, t) := r.activate .request name
  (r, .after t fun f => answer (.ofFinish f))

/-- Activate shaders all at once. -/
def activateAll (r : Rig α) (names : List String) : Rig α × List Ticket :=
  names.foldl
    (fun (r, ts) name =>
      let (r, t) := activate r .activation name
      (r, ts ++ [t]))
    (r, [])

/-- Whether an activation waits for saved bindings. -/
def isRestoring (r : Rig α) (t : Ticket) : Bool :=
  match r.engine.activation? t with
  | some ⟨_, _, _, .restoring ..⟩ => true
  | _ => false

/-- Activate a shader, and another when the first has compiled and waits for its saved
bindings. -/
def supersede (r : Rig α) (first second : String) : Rig α × List Ticket :=
  let (r, t) := r.activate .activation first
  let r := workUntil (isRestoring · t) r.workBound r
  let (r, u) := r.activate .activation second
  (r, [t, u])

/-- Scan the shader directory now. -/
def rescan (r : Rig α) : Rig α × Except Files.Error Nat :=
  match r.disk.scan r.setup.shaderDir with
  | .ok s =>
      let r := r.act fun e => e.takeScan s
      (r, .ok r.engine.registry.size)
  | .error e => (r, .error e)

/-- Save the bindings of the active shader; the answer is the path of the file. -/
def saveBindings (r : Rig α) : Rig α × Except Engine.SaveError String :=
  match r.engine.toSave?, r.setup.presetDir with
  | none, _ => (r, .error .noActiveShader)
  | some _, none => (r, .error .noStore)
  | some (shader, specs), some dir =>
      let (disk, path) := r.disk.savePreset dir shader r.now specs
      ({ r with disk := disk }, path.mapError .file)

/-! ## Messages -/

/-- A message arrives that somebody has read already. -/
def receive (r : Rig α) (m : Osc.Message α) : Rig α :=
  { r with listener := r.listener.count }.act fun e => e.receive m

/-- A message arrives at the socket; it is lost if nobody listens. -/
def datagram (r : Rig α) (m : Osc.Message α) : Rig α × Option Nat :=
  if r.listener.listening then
    let r := r.receive m
    (r, some r.listener.received)
  else (r, none)

/-- Listen for messages. -/
def startListening (r : Rig α) (host port : String) : Rig α :=
  let (listener, notices) := r.listener.start host port
  { r with listener := listener }.sayAll notices

/-- Stop listening for messages. -/
def stopListening (r : Rig α) : Rig α :=
  let (listener, notices) := r.listener.stop
  { r with listener := listener }.sayAll notices

/-- Carry out a message at once; says whether there was anything to do. -/
def control (r : Rig α) (m : Osc.Message α) : Rig α × Bool :=
  let (e, done) := r.engine.handle m
  (r.act fun _ => e, done)

/-! ## The web interface -/

/-- Who follows the show. -/
def audience (r : Rig α) : Audience α := ⟨r.net.clients.length, r.net.fps⟩

/-- A request to the web interface; what it carries and what is answered goes over a wire. -/
def request (r : Rig α) (req : ApiRequest α) : Option (Rig α × Later α (ApiResponse α)) :=
  let req := { req with body := req.body.map Json.transmitted }
  (req.answer? r.engine r.audience).map fun
    | .reply e response => (r.act fun _ => e, .now response)
    | .afterLoading name => r.load name .ofResult

/-- A request to a server of the rig. -/
def requestAt (r : Rig α) (port : Nat) (req : ApiRequest α) :
    Except NetError (Option (Rig α × Later α (ApiResponse α))) :=
  if r.net.webPorts.contains port then .ok (r.request req) else .error .refused

/-! ## Tools -/

/-- A call of a tool with checked arguments. -/
def call (r : Rig α) (c : ToolCall α) : Rig α × Later α (ToolAnswer α) :=
  match c.start r.engine with
  | .reply e answer => (r.act fun _ => e, .now answer)
  | .afterLoading name => r.load name .ofResult
  | .afterReading d transpiled =>
      (r, .now (.ofSource d transpiled (r.disk.read (r.disk.locate d.path))))
  | .afterRescan =>
      let (r, count) := r.rescan
      (r, .now (.ofRescan count))
  | .afterSaving =>
      let (r, file) := r.saveBindings
      (r, .now (.ofSave r.engine.session.bindings.size file))

end Rig

end LiveVisuals
