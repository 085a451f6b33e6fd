import LiveVisuals.Rig.Clock

/-!
# Servers and browsers

A rig can answer requests and take connections of browsers at ports. A browser that connects
is sent what it needs to catch up; what it sends is checked before it counts.

Main definitions:

- {lit}`Rig.startServers`, {lit}`Rig.stopServers`: the servers.
- {lit}`Rig.connect`, {lit}`Rig.sendText`, {lit}`Rig.disconnect`: the life of a browser.
- {lit}`Rig.takeMessage`: what a message of a browser brings about.
-/

namespace LiveVisuals

/-- Why a connection cannot be made. -/
inductive NetError where
  | portInUse
  | refused
deriving DecidableEq, Repr

/-- Code of a network error. -/
def NetError.code : NetError → String
  | portInUse => "EADDRINUSE"
  | refused => "ECONNREFUSED"

namespace Rig

variable {α : Type} [Scalar α]

/-- Change servers and browsers. -/
def mapNet (r : Rig α) (f : Net α → Net α) : Rig α := { r with net := f r.net }

/-- Whether a port is in use. -/
def inUse (r : Rig α) (port : Nat) : Bool :=
  r.setup.busyPorts.contains port || r.net.webPorts.contains port ||
    r.net.socketPorts.contains port

/-- Start the servers. If the port for browsers is in use, that is only reported. -/
def startServers (r : Rig α) (web socket : Nat) : Except NetError (Rig α) :=
  if r.inUse web then .error .portInUse
  else
    let r := r.mapNet fun n => { n with webPorts := n.webPorts ++ [web], lastWeb := some web }
    let r := r.sayAll
      [ .info s!"[http] listening on http://localhost:{web}"
      , .info s!"[ws] listening on ws://localhost:{socket}" ]
    .ok <|
      if r.inUse socket then
        (r.mapNet fun n => { n with lastSocket := none }).say (.failure "[ws] server error:")
      else
        r.mapNet fun n =>
          { n with socketPorts := n.socketPorts ++ [socket], lastSocket := some socket }

/-- What is reported when a browser has gone; {lit}`left` is the number of those that stay. -/
def goneNotice (left : Nat) : Notice := .info s!"[ws] client disconnected  (remaining: {left})"

/-- Why browsers are sent away when the servers stop. -/
def stopReason : String := "server shutting down"

/-- Code of a connection that ends as it should. -/
def normalClosure : Nat := 1000

/-- Stop the servers that were started last, and send all browsers away. -/
def stopServers (r : Rig α) : Rig α :=
  let clients := r.net.clients
  let r := r.mapNet fun n =>
    { n with
      clients := []
      webPorts := n.webPorts.filter fun p => some p != n.lastWeb
      socketPorts := n.socketPorts.filter fun p => some p != n.lastSocket
      lastWeb := none
      lastSocket := none }
  let r := clients.foldl
    (fun r client => (r.see (.closed client normalClosure stopReason)).say (goneNotice 0)) r
  r.say (.info "[http] servers stopped")

/-! ## Browsers -/

/-- A browser connects and is sent what it needs to catch up. -/
def connect (r : Rig α) (client : String) (port : Nat) : Except NetError (Rig α) :=
  if r.net.socketPorts.contains port then
    let r := r.mapNet fun n => { n with clients := n.clients ++ [client] }
    let total := r.net.clients.length
    let r := r.say (.info s!"[ws] client connected from unknown  (total: {total})")
    let messages : List (HostMessage α) := r.host.syncMessages
    .ok (messages.foldl (fun r m => r.see (.received client m.toJson.transmitted)) r)
  else .error .refused

/-- A browser disconnects. -/
def disconnect (r : Rig α) (client : String) : Rig α :=
  if r.net.clients.contains client then
    let r := r.mapNet fun n => { n with clients := n.clients.erase client }
    (r.see (.closed client normalClosure "")).say (goneNotice r.net.clients.length)
  else r

/-- A reply to a compile arrives; says whether it was waited for. -/
def takeReply (r : Rig α) (id : String) (success : Bool) (error : Option String) :
    Rig α × Bool :=
  let (host, effects?) := r.host.reply id (Host.outcomeOf success error)
  match effects? with
  | some effects => (r.actHost (host, effects), true)
  | none => (r, false)

/-- What a message of a browser brings about. -/
def takeMessage (r : Rig α) : ClientMessage α → Rig α
  | .compiled id success error =>
      let r := if success then r.say (.info s!"[shader] compiled OK: {id}") else r
      (r.takeReply id success error).1
  | .resize width height => r.act fun e => e.setResolution width height
  | .captureComplete _ filename size =>
      r.say (.info s!"[capture] saved: {filename} ({Scalar.text size} bytes)")
  | .state fps => r.mapNet fun n => { n with fps := some fps }
  | .ready => r.say (.info "[ws] client reports ready")

/-- A browser sends a text. -/
def takeText (r : Rig α) (text : String) : Rig α :=
  match Json.readString? text with
  | none => r.say (.failure "[ws] failed to parse message:")
  | some value =>
      match ClientMessage.schema (α := α) (some value) with
      | .accepted m => r.takeMessage m
      | .refused issues =>
          let problem := (issues.map (·.message)).headD "undefined"
          r.say (.warning s!"[ws] ignoring malformed message: {problem}")

/-- A browser sends a text, if it is connected. -/
def sendText (r : Rig α) (client text : String) : Rig α :=
  if r.net.clients.contains client then r.takeText text else r

end Rig

end LiveVisuals
