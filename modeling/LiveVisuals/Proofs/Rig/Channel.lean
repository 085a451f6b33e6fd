import Mathlib.Logic.Relation
import LiveVisuals.Proofs.Rig.Conduct

/-!
# The channel to connected browsers

Browsers connect and go at any time. What the render host sends reaches those that are connected
at that moment, and each of them once; a browser that connects is sent what the host keeps for
it. Everything that a rig does comes down to a few exchanges, and the rest leaves the channel
alone.

Main definitions:

- {lit}`Rig.mail`: the messages that a browser has been sent.
- {lit}`Rig.Exchange`: what can happen on the channel.
- {lit}`Rig.OnAir`: what a rig with connected browsers can come to.
- {lit}`Rig.Tells`: some messages have reached every browser that is connected.

Main results:

- Theorem {lit}`Rig.tells_broadcast`: a message reaches every connected browser once.
- Theorem {lit}`Rig.tells_actHost`: what the render host asks for reaches them in order.
- Theorem {lit}`Rig.stable_onAir`: whatever a rig does is made of exchanges.
-/

namespace LiveVisuals

variable {α : Type}

/-! ## Mail -/

/-- What a browser has been sent by a sighting. -/
def Sighting.mail? (client : String) : Sighting α → Option (Json α)
  | .received c m => if c = client then some m else none
  | _ => none

/-- Whether a sighting is that a browser has gone. -/
def Sighting.parts (client : String) : Sighting α → Bool
  | .closed c _ _ => c == client
  | _ => false

/-- The messages that the effects of a render host send, in order. -/
def HostEffect.message? : HostEffect α → Option (HostMessage α)
  | .send m => some m
  | _ => none

namespace Rig

/-- The messages that a browser has been sent, latest first. -/
def mail (client : String) (seen : List (Sighting α)) : List (Json α) :=
  seen.filterMap (Sighting.mail? client)

theorem mail_append (client : String) (seen seen' : List (Sighting α)) :
    mail client (seen ++ seen') = mail client seen ++ mail client seen' :=
  List.filterMap_append

variable [Scalar α]

/-! ## What can happen -/

/-- A rig gets to another with the same channel. -/
structure Beside (r r' : Rig α) : Prop where
  renderer : r'.setup.renderer = r.setup.renderer
  host : r'.host = r.host
  clients : r'.net.clients = r.net.clients
  seen : r'.seen = r.seen

/-- What can happen on the channel, at any time and in any order. -/
inductive Exchange : Rig α → Rig α → Prop where
  | compile (r : Rig α) (caller : CompileCaller) (request : CompileRequest) :
      Exchange r (r.hostCompile caller request)
  | reply (r : Rig α) (id : String) (success : Bool) (error : Option String) :
      Exchange r (r.takeReply id success error).1
  | timeout (r : Rig α) (id : String) : Exchange r (r.ring (.compileLimit id))
  | dispose (r : Rig α) : Exchange r (r.actHost r.host.dispose)
  | toggle (r : Rig α) (name : String) (enabled : Bool) : Exchange r (r.toggle name enabled)
  | present (r : Rig α) (values : UniformValues α) : Exchange r (r.present values)
  | capture (r : Rig α) (shader : String) : Exchange r (r.requestCapture shader)
  /-- A browser connects that is not connected yet. -/
  | connect {r r' : Rig α} {client : String} {port : Nat} (hnew : client ∉ r.net.clients)
      (h : r.connect client port = .ok r') : Exchange r r'
  | disconnect (r : Rig α) (client : String) : Exchange r (r.disconnect client)
  | stop (r : Rig α) : Exchange r r.stopServers
  /-- Something happens that does not touch the channel. -/
  | beside {r r' : Rig α} (h : r.Beside r') : Exchange r r'

/-- What a rig whose programs are compiled by connected browsers can come to. -/
inductive OnAir : Rig α → Prop where
  | new {setup : Setup α} (disk : Disk) (receivers : Nat) (h : setup.renderer = .browsers) :
      OnAir (Rig.new setup disk receivers)
  | step {r r' : Rig α} (h : OnAir r) (hstep : r.Exchange r') : OnAir r'

/-! ## Messages that reach everybody -/

/-- Some messages, and nothing else, have reached every browser that is connected, and nobody has
come or gone. -/
structure Tells (r r' : Rig α) (ms : List (HostMessage α)) : Prop where
  renderer : r'.setup.renderer = r.setup.renderer
  host : r'.host = r.host
  clients : r'.net.clients = r.net.clients
  seen : ∃ new, r'.seen = new ++ r.seen ∧
    (∀ c ∈ r.net.clients, mail c new = ms.reverse.map (·.toJson.transmitted)) ∧
    ∀ c, ∀ s ∈ new, s.parts c = false

/-- Nothing has reached anybody. -/
theorem Beside.tells {r r' : Rig α} (h : r.Beside r') : r.Tells r' [] :=
  ⟨h.renderer, h.host, h.clients, [], h.seen, fun _ _ => rfl, by simp⟩

omit [Scalar α] in
theorem Beside.refl (r : Rig α) : r.Beside r := ⟨rfl, rfl, rfl, rfl⟩

/-- What has reached everybody adds up. -/
theorem Tells.trans {r r' r'' : Rig α} {ms ms' : List (HostMessage α)} (h : r.Tells r' ms)
    (h' : r'.Tells r'' ms') : r.Tells r'' (ms ++ ms') := by
  obtain ⟨new, hseen, hmail, hstay⟩ := h.seen
  obtain ⟨new', hseen', hmail', hstay'⟩ := h'.seen
  refine ⟨h'.renderer.trans h.renderer, h'.host.trans h.host, h'.clients.trans h.clients,
    new' ++ new, ?_, ?_, ?_⟩
  · rw [hseen', hseen, List.append_assoc]
  · intro c hc
    rw [mail_append, hmail c hc, hmail' c (h.clients ▸ hc), List.reverse_append, List.map_append]
  · intro c s hs
    rcases List.mem_append.mp hs with hs | hs
    · exact hstay' c s hs
    · exact hstay c s hs

omit [Scalar α] in
/-- A browser that is connected once gets one of the copies of a message. -/
theorem mail_map_received {clients : List String} (hdistinct : clients.Nodup) (m : Json α)
    {c : String} (hc : c ∈ clients) :
    mail c (clients.map fun client => (.received client m : Sighting α)) = [m] := by
  induction clients with
  | nil => cases hc
  | cons client clients ih =>
      rw [List.nodup_cons] at hdistinct
      by_cases heq : client = c
      · have hrest : mail c (clients.map fun client => (.received client m : Sighting α)) = [] := by
          rw [mail, List.filterMap_map, List.filterMap_eq_nil_iff]
          intro other hother
          have hne : other ≠ c := by
            rintro rfl
            exact hdistinct.1 (heq ▸ hother)
          exact if_neg hne
        have hhead : (Sighting.received client m).mail? c = some m := if_pos heq
        rw [List.map_cons, mail, List.filterMap_cons_some hhead]
        exact congrArg (m :: ·) hrest
      · have hhead : (Sighting.received client m).mail? c = none := if_neg heq
        rw [List.map_cons, mail, List.filterMap_cons_none hhead]
        exact ih hdistinct.2 ((List.mem_cons.mp hc).resolve_left (Ne.symm heq))

omit [Scalar α] in
/-- Sightings one after the other. -/
theorem foldl_see {β : Type} (f : β → Sighting α) (xs : List β) (r : Rig α) :
    xs.foldl (fun r x => r.see (f x)) r = { r with seen := (xs.map f).reverse ++ r.seen } := by
  induction xs generalizing r with
  | nil => rfl
  | cons x xs ih =>
      rw [List.foldl_cons, ih]
      simp [see]

/-- A message reaches every connected browser once. -/
theorem tells_broadcast {r : Rig α} (hr : r.setup.renderer = .browsers)
    (hdistinct : r.net.clients.Nodup) (m : HostMessage α) : r.Tells (r.broadcast m) [m] := by
  have hseen : r.broadcast m = { r with
      seen := (r.net.clients.map fun c => .received c m.toJson.transmitted).reverse ++
        r.seen } := by
    simp only [broadcast, hr]
    exact foldl_see _ _ _
  rw [hseen]
  refine ⟨rfl, rfl, rfl, _, rfl, ?_, ?_⟩
  · intro c hc
    have hone := mail_map_received hdistinct m.toJson.transmitted hc
    rw [mail, List.filterMap_reverse, ← mail, hone]
    rfl
  · intro c s hs
    obtain ⟨client, -, rfl⟩ := List.mem_map.mp (List.mem_reverse.mp hs)
    rfl

/-- The end of a compile reaches nobody. -/
theorem tells_settleCompile (r : Rig α) (id : String) (outcome : CompileOutcome) :
    r.Tells (r.settleCompile id outcome) [] := by
  unfold settleCompile
  split
  · exact Beside.tells ⟨rfl, rfl, rfl, rfl⟩
  · next number _ =>
    refine ⟨rfl, rfl, rfl, [.settled number outcome], rfl, fun _ _ => rfl, ?_⟩
    intro c s hs
    rw [List.mem_singleton.mp hs]
    rfl
  · exact (Beside.refl r).tells

/-- An effect of the render host reaches every connected browser if it is a message. -/
theorem tells_performHost {r : Rig α} (hr : r.setup.renderer = .browsers)
    (hdistinct : r.net.clients.Nodup) (x : HostEffect α) :
    r.Tells (r.performHost x) x.message?.toList := by
  cases x with
  | send m => exact tells_broadcast hr hdistinct m
  | arm id => exact Beside.tells ⟨rfl, rfl, rfl, rfl⟩
  | disarm id => exact Beside.tells ⟨rfl, rfl, rfl, rfl⟩
  | settled id outcome => exact tells_settleCompile r id outcome

/-- What the render host asks for reaches the browsers in order. -/
theorem tells_foldl_performHost (xs : List (HostEffect α)) {r : Rig α}
    (hr : r.setup.renderer = .browsers) (hdistinct : r.net.clients.Nodup) :
    r.Tells (xs.foldl performHost r) (xs.filterMap HostEffect.message?) := by
  induction xs generalizing r with
  | nil => exact (Beside.refl r).tells
  | cons x xs ih =>
      have hfirst := tells_performHost hr hdistinct x
      have hrest := ih (hfirst.renderer.trans hr) (hfirst.clients ▸ hdistinct)
      have hms : (x :: xs).filterMap HostEffect.message? =
          x.message?.toList ++ xs.filterMap HostEffect.message? := by
        rw [List.filterMap_cons]
        cases x.message? <;> rfl
      rw [hms]
      exact hfirst.trans hrest

/-- What the render host asks for reaches the browsers in order; the host is the new one. -/
theorem tells_actHost {r : Rig α} (hr : r.setup.renderer = .browsers)
    (hdistinct : r.net.clients.Nodup) (step : Host × List (HostEffect α)) :
    Tells { r with host := step.1 } (r.actHost step) (step.2.filterMap HostEffect.message?) :=
  tells_foldl_performHost step.2 hr hdistinct

end Rig

/-! ## Moves of the render host -/

/-- What the render host does in an exchange, and what it tells the browsers. -/
inductive Host.Move (reached : Nat) (h : Host) : Host → List (HostMessage α) → Prop where
  /-- A compile is announced to somebody. -/
  | announce (request : CompileRequest) (hreached : reached ≠ 0) :
      Move reached h
        { h with pending := Keyed.put h.nextId request h.pending, issued := h.issued + 1 }
        [.compile h.nextId request]
  /-- Nobody is there to compile, so the program is accepted. -/
  | accept (request : CompileRequest) (hreached : reached = 0) :
      Move reached h
        (Host.settle
          { h with pending := Keyed.put h.nextId request h.pending, issued := h.issued + 1 }
          h.nextId request (.ok ()))
        [.compile h.nextId request]
  /-- A compile that was announced ends. -/
  | settle {id : String} {request : CompileRequest} (hid : Keyed.get? id h.pending = some request)
      (outcome : CompileOutcome) : Move reached h (h.settle id request outcome) []
  | giveUp : Move reached h { h with pending := [] } []
  | toggle (name : String) (enabled : Bool) :
      Move reached h { h with toggles := Keyed.put name enabled h.toggles } [.toggle name enabled]
  | uniforms (values : UniformValues α) : Move reached h h [.uniforms values]
  | capture (shader : String) : Move reached h h [.capture shader]
  | rest : Move reached h h []

namespace Rig

variable [Scalar α]

/-- A move of the render host in a rig, whatever else happens there that does not touch the
channel. -/
def Moves (r r' : Rig α) : Prop :=
  ∃ h ms, r.host.Move r.net.clients.length h ms ∧ Tells { r with host := h } r' ms

/-- What the render host asks for is a move if it is one of the host. -/
theorem moves_actHost {r : Rig α} (hr : r.setup.renderer = .browsers)
    (hdistinct : r.net.clients.Nodup) {step : Host × List (HostEffect α)}
    (ms : List (HostMessage α)) (hms : step.2.filterMap HostEffect.message? = ms)
    (hmove : r.host.Move r.net.clients.length step.1 ms) : r.Moves (r.actHost step) :=
  ⟨step.1, ms, hmove, hms ▸ tells_actHost hr hdistinct step⟩

/-- What does not touch the channel is a move. -/
theorem Beside.moves {r r' : Rig α} (h : r.Beside r') : r.Moves r' :=
  ⟨r.host, [], .rest, h.tells⟩

/-- What does not touch the channel may come first. -/
theorem Beside.trans_moves {r r₁ r' : Rig α} (h : r.Beside r₁) (h' : r₁.Moves r') : r.Moves r' := by
  obtain ⟨g, ms, hmove, htells⟩ := h'
  have hbeside : Beside { r with host := g } { r₁ with host := g } :=
    ⟨h.renderer, rfl, h.clients, h.seen⟩
  rw [h.host, h.clients] at hmove
  exact ⟨g, ms, hmove, hbeside.tells.trans htells⟩

/-- A broadcast that the host does not take part in is a move. -/
theorem moves_broadcast {r : Rig α} (hr : r.setup.renderer = .browsers)
    (hdistinct : r.net.clients.Nodup) {m : HostMessage α}
    (hmove : r.host.Move r.net.clients.length r.host [m]) : r.Moves (r.broadcast m) :=
  ⟨r.host, [m], hmove, tells_broadcast hr hdistinct m⟩

/-- A compile is a move, whether anybody is there or not. -/
theorem moves_hostCompile {r : Rig α} (hr : r.setup.renderer = .browsers)
    (hdistinct : r.net.clients.Nodup) (caller : CompileCaller) (request : CompileRequest) :
    r.Moves (r.hostCompile caller request) := by
  have hreach : r.reach = r.net.clients.length := by simp only [reach, hr]
  let r₁ : Rig α := { r with compiles := Keyed.put r.host.nextId caller r.compiles }
  have hbeside : r.Beside r₁ := ⟨rfl, rfl, rfl, rfl⟩
  have hreach₁ : r₁.reach = r.net.clients.length := hreach
  suffices hmoves : r₁.Moves (r₁.actHost (r.host.compile r₁.reach request)) from
    hbeside.trans_moves hmoves
  have hr₁ : r₁.setup.renderer = .browsers := hr
  have hmessage : (r.host.compile (α := α) r₁.reach request).2.filterMap HostEffect.message? =
      [.compile r.host.nextId request] := by
    simp only [Host.compile]
    split <;> rfl
  refine moves_actHost hr₁ hdistinct _ hmessage ?_
  by_cases hnobody : r.net.clients.length = 0
  · simp only [Host.compile, hreach₁, hnobody, if_true]
    exact .accept request hnobody
  · simp only [Host.compile, hreach₁, hnobody, if_false]
    exact .announce request hnobody

/-- A reply is a move. -/
theorem moves_takeReply {r : Rig α} (hr : r.setup.renderer = .browsers)
    (hdistinct : r.net.clients.Nodup) (id : String) (success : Bool) (error : Option String) :
    r.Moves (r.takeReply id success error).1 := by
  unfold takeReply
  cases hid : Keyed.get? id r.host.pending with
  | none =>
      rw [Host.reply_of_not_pending _ _ _ hid]
      exact (Beside.refl r).moves
  | some request =>
      simp only [Host.reply, hid]
      exact moves_actHost hr hdistinct _ rfl (.settle hid _)

/-- The end of the time of a compile is a move. -/
theorem moves_ring {r : Rig α} (hr : r.setup.renderer = .browsers)
    (hdistinct : r.net.clients.Nodup) (id : String) : r.Moves (r.ring (.compileLimit id)) := by
  cases hid : Keyed.get? id r.host.pending with
  | none =>
      have hexpire : r.host.expire (α := α) id r.compileLimitText = (r.host, []) := by
        simp only [Host.expire, hid]
      refine moves_actHost hr hdistinct [] ?_ ?_
      · rw [hexpire]
        rfl
      · rw [hexpire]
        exact .rest
  | some request =>
      have hexpire : r.host.expire (α := α) id r.compileLimitText =
          (r.host.fail id,
            [.settled id (.error (Host.timeoutText request r.compileLimitText))]) := by
        simp only [Host.expire, hid]
      refine moves_actHost hr hdistinct [] ?_ ?_
      · rw [hexpire]
        rfl
      · rw [hexpire]
        exact .settle hid (.error (Host.timeoutText request r.compileLimitText))

/-- Giving up all compiles is a move. -/
theorem moves_dispose {r : Rig α} (hr : r.setup.renderer = .browsers)
    (hdistinct : r.net.clients.Nodup) : r.Moves (r.actHost r.host.dispose) := by
  refine moves_actHost hr hdistinct [] ?_ .giveUp
  rw [List.filterMap_eq_nil_iff]
  intro x hx
  simp only [Host.dispose, List.mem_flatMap, List.mem_cons, List.not_mem_nil, or_false] at hx
  obtain ⟨id, -, rfl | rfl⟩ := hx
  · rfl
  · rfl

/-- Asking for a picture is a move. -/
theorem moves_requestCapture {r : Rig α} (hr : r.setup.renderer = .browsers)
    (hdistinct : r.net.clients.Nodup) (shader : String) : r.Moves (r.requestCapture shader) := by
  let r₁ := r.say (CaptureScheduler.requestNotice shader)
  have hsent : r.Moves (requestCapture.sent shader r₁) := by
    have hbroadcast : r₁.Moves (r₁.broadcast (.capture shader)) :=
      moves_broadcast (r := r₁) hr hdistinct (.capture shader)
    have heq : requestCapture.sent shader r₁ = r₁.broadcast (.capture shader) := by
      have hr₁ : r₁.setup.renderer = .browsers := hr
      simp only [requestCapture.sent, hr₁]
    have hbeside : r.Beside r₁ := ⟨rfl, rfl, rfl, rfl⟩
    rw [heq]
    exact hbeside.trans_moves hbroadcast
  unfold requestCapture
  simp only
  split
  · split
    · exact Beside.moves ⟨rfl, rfl, rfl, rfl⟩
    · exact hsent
  · exact hsent

/-- An exchange is a move of the render host, or a browser comes or goes. -/
theorem Exchange.moves_or {r r' : Rig α} (h : r.Exchange r') (hr : r.setup.renderer = .browsers)
    (hdistinct : r.net.clients.Nodup) :
    r.Moves r' ∨
      (∃ client port, client ∉ r.net.clients ∧ r.connect client port = .ok r') ∨
      (∃ client, r' = r.disconnect client) ∨ r' = r.stopServers := by
  cases h with
  | compile caller request => exact .inl (moves_hostCompile hr hdistinct caller request)
  | reply id success error => exact .inl (moves_takeReply hr hdistinct id success error)
  | timeout id => exact .inl (moves_ring hr hdistinct id)
  | dispose => exact .inl (moves_dispose hr hdistinct)
  | toggle name enabled =>
      refine .inl ?_
      simp only [Rig.toggle, hr]
      exact moves_actHost hr hdistinct _ rfl (.toggle name enabled)
  | present values =>
      refine .inl ?_
      simp only [Rig.present, hr]
      exact moves_broadcast hr hdistinct (.uniforms values)
  | capture shader => exact .inl (moves_requestCapture hr hdistinct shader)
  | connect hnew hconnect => exact .inr (.inl ⟨_, _, hnew, hconnect⟩)
  | disconnect client => exact .inr (.inr (.inl ⟨client, rfl⟩))
  | stop => exact .inr (.inr (.inr rfl))
  | beside hbeside => exact .inl hbeside.moves

/-! ## Coming and going -/

/-- What a browser is sent when it connects, and that it is connected then. -/
theorem connect_eq {r r' : Rig α} {client : String} {port : Nat}
    (h : r.connect client port = .ok r') :
    r'.setup = r.setup ∧ r'.host = r.host ∧ r'.net.clients = r.net.clients ++ [client] ∧
      r'.seen = (r.host.syncMessages.map fun m : HostMessage α =>
        .received client m.toJson.transmitted).reverse ++ r.seen := by
  unfold connect at h
  split at h
  · cases h
    rw [foldl_see]
    exact ⟨rfl, rfl, rfl, rfl⟩
  · cases h

omit [Scalar α] in
/-- A browser that disconnects is not connected any more. -/
theorem disconnect_eq (r : Rig α) (client : String) :
    r.disconnect client = r ∨
      ((r.disconnect client).setup = r.setup ∧ (r.disconnect client).host = r.host ∧
        (r.disconnect client).net.clients = r.net.clients.erase client ∧
        (r.disconnect client).seen = .closed client normalClosure "" :: r.seen) := by
  unfold disconnect
  split
  · exact .inr ⟨rfl, rfl, rfl, rfl⟩
  · exact .inl rfl

omit [Scalar α] in
/-- When the servers stop nobody is connected any more. -/
theorem stopServers_eq (r : Rig α) :
    r.stopServers.setup = r.setup ∧ r.stopServers.host = r.host ∧
      r.stopServers.net.clients = [] := by
  have hfold (clients : List String) (s : Rig α) :
      let s' := clients.foldl (fun r client =>
        (r.see (.closed client normalClosure stopReason)).say (goneNotice 0)) s
      s'.setup = s.setup ∧ s'.host = s.host ∧ s'.net = s.net := by
    induction clients generalizing s with
    | nil => exact ⟨rfl, rfl, rfl⟩
    | cons client clients ih => exact ih _
  obtain ⟨hsetup, hhost, hnet⟩ := hfold r.net.clients (r.mapNet fun n =>
    { n with
      clients := []
      webPorts := n.webPorts.filter fun p => some p != n.lastWeb
      socketPorts := n.socketPorts.filter fun p => some p != n.lastSocket
      lastWeb := none
      lastSocket := none })
  exact ⟨hsetup, hhost, congrArg Net.clients hnet⟩

/-- Programs are compiled by the connected browsers, each of which is connected once. -/
structure Wired (r : Rig α) : Prop where
  renderer : r.setup.renderer = .browsers
  distinct : r.net.clients.Nodup

theorem Wired.exchange {r r' : Rig α} (h : r.Wired) (hstep : r.Exchange r') : r'.Wired := by
  rcases hstep.moves_or h.renderer h.distinct with
    ⟨g, ms, -, htells⟩ | ⟨client, port, hnew, hconnect⟩ | ⟨client, rfl⟩ | rfl
  · exact ⟨htells.renderer.trans h.renderer, htells.clients ▸ h.distinct⟩
  · obtain ⟨hsetup, -, hclients, -⟩ := connect_eq hconnect
    refine ⟨hsetup ▸ h.renderer, hclients ▸ ?_⟩
    rw [List.nodup_append]
    refine ⟨h.distinct, List.nodup_singleton client, ?_⟩
    intro c hc c' hc'
    rw [List.mem_singleton.mp hc']
    rintro rfl
    exact hnew hc
  · rcases disconnect_eq r client with heq | ⟨hsetup, -, hclients, -⟩
    · exact heq.symm ▸ h
    · exact ⟨hsetup ▸ h.renderer, hclients ▸ h.distinct.erase client⟩
  · obtain ⟨hsetup, -, hclients⟩ := stopServers_eq r
    exact ⟨hsetup ▸ h.renderer, hclients ▸ List.nodup_nil⟩

theorem OnAir.wired {r : Rig α} (h : OnAir r) : r.Wired := by
  induction h with
  | new disk receivers h => exact ⟨h, List.nodup_nil⟩
  | step _ hstep ih => exact ih.exchange hstep

/-! ## What a rig does -/

/-- What does not touch the channel may happen. -/
theorem OnAir.beside {r r' : Rig α} (h : OnAir r) (hbeside : r.Beside r') : OnAir r' :=
  h.step (.beside hbeside)

/-- Whatever a rig does is made of exchanges. -/
theorem stable_onAir : Stable (OnAir (α := α)) where
  rest h hrest := h.beside ⟨hrest.renderer, hrest.host, hrest.clients, hrest.seen⟩
  compile caller request h := h.step (.compile _ caller request)
  bench request hbench h := by
    rw [h.wired.renderer] at hbench
    cases hbench
  reply id success error h := h.step (.reply _ id success error)
  timeout hfire h := by
    refine OnAir.step (OnAir.beside h ?_) (.timeout _ _)
    exact ⟨rfl, rfl, rfl, rfl⟩
  toggle name enabled h := h.step (.toggle _ name enabled)
  present values h := h.step (.present _ values)
  capture shader h := h.step (.capture _ shader)

end Rig

end LiveVisuals
