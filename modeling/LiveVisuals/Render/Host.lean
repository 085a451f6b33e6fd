import LiveVisuals.Render.Message

/-!
# The render host

Programs are compiled by browsers. A compile is announced to all of them under a fresh id; the
first reply decides, and without a reply it times out. If nobody is there, the program is
accepted as it is and replayed to the browser that comes first.

Main definitions:

- {lit}`Host`: compiles without an outcome, the program in use, and the toggles.
- {lit}`Host.compile`, {lit}`Host.reply`, {lit}`Host.expire`, {lit}`Host.dispose`: the life of
  a compile.
- {lit}`Host.syncMessages`: what a browser that has just connected is sent.

Main statements:

- {lit}`Host.reply_of_not_pending`: a reply that nobody waits for changes nothing.
- {lit}`Host.program_fail`: a failure keeps the program in use.
- {lit}`Host.nextId_injective`: no id is given out twice.
-/

namespace LiveVisuals

/-- A program that was compiled, under its id. -/
structure HostProgram where
  id : String
  request : CompileRequest
deriving DecidableEq, Repr

/-- How a compile ended: it succeeded, or a compiler log tells why not. -/
abbrev CompileOutcome := Except String Unit

/-- The state of a render host. -/
structure Host where
  /-- Compiles without an outcome, by id. -/
  pending : Keyed CompileRequest
  program : Option HostProgram
  toggles : Keyed Bool
  /-- Number of ids given out. -/
  issued : Nat

/-- What a host asks its surroundings to do. -/
inductive HostEffect (α : Type) where
  | send (m : HostMessage α)
  /-- Start the timeout of a compile. -/
  | arm (id : String)
  /-- Stop the timeout of a compile. -/
  | disarm (id : String)
  /-- Tell the one who asked for a compile how it ended. -/
  | settled (id : String) (outcome : CompileOutcome)

namespace Host

variable {α : Type}

/-- A host before any compile. -/
def initial : Host := ⟨[], none, [], 0⟩

/-- The id that the next compile gets. -/
def nextId (h : Host) : String := s!"id-{h.issued + 1}"

/-- Hosts that give out the same id next have given out as many. -/
theorem nextId_injective {h h' : Host} (heq : h.nextId = h'.nextId) : h.issued = h'.issued := by
  have hrepr : (h.issued + 1).repr = (h'.issued + 1).repr := by simpa [nextId] using heq
  have hdigits : Nat.toDigits 10 (h.issued + 1) = Nat.toDigits 10 (h'.issued + 1) := by
    rw [← Nat.toList_repr, ← Nat.toList_repr, hrepr]
  have hvalue := congrArg (Nat.ofDigitChars 10 · 0) hdigits
  simp only [Nat.ofDigitChars_ten_toDigits] at hvalue
  omega

/-- Number of compiles without an outcome. -/
def pendingCompiles (h : Host) : Nat := h.pending.length

/-- A compile succeeds: its program is the one in use. -/
def succeed (h : Host) (id : String) (r : CompileRequest) : Host :=
  { h with pending := Keyed.erase id h.pending, program := some ⟨id, r⟩ }

/-- A compile fails: the program in use stays. -/
def fail (h : Host) (id : String) : Host := { h with pending := Keyed.erase id h.pending }

/-- A failure keeps the program in use. -/
@[simp] theorem program_fail (h : Host) (id : String) : (h.fail id).program = h.program := rfl

/-- The state after a compile has ended in some way. -/
def settle (h : Host) (id : String) (r : CompileRequest) : CompileOutcome → Host
  | .ok _ => h.succeed id r
  | .error _ => h.fail id

@[simp] theorem pending_settle (h : Host) (id : String) (r : CompileRequest)
    (outcome : CompileOutcome) : (h.settle id r outcome).pending = Keyed.erase id h.pending := by
  cases outcome <;> rfl

@[simp] theorem issued_settle (h : Host) (id : String) (r : CompileRequest)
    (outcome : CompileOutcome) : (h.settle id r outcome).issued = h.issued := by
  cases outcome <;> rfl

/-- A reply arrives. The second part is absent if nobody waits for it. -/
def reply (h : Host) (id : String) (outcome : CompileOutcome) :
    Host × Option (List (HostEffect α)) :=
  match Keyed.get? id h.pending with
  | some r => (h.settle id r outcome, some [.disarm id, .settled id outcome])
  | none => (h, none)

/-- A reply that nobody waits for changes nothing. -/
theorem reply_of_not_pending (h : Host) (id : String) (outcome : CompileOutcome)
    (hid : Keyed.get? id h.pending = none) :
    h.reply (α := α) id outcome = (h, none) := by
  simp [reply, hid]

/-- What a failed compile reports if the browser does not say why. -/
def defaultFailure : String := "compile failed"

/-- The outcome that a browser reports. -/
def outcomeOf (success : Bool) (error : Option String) : CompileOutcome :=
  if success then .ok () else .error (error.getD defaultFailure)

/-- Announce a compile; {lit}`reached` is the number of browsers that get the message. -/
def compile (h : Host) (reached : Nat) (r : CompileRequest) : Host × List (HostEffect α) :=
  let id := h.nextId
  let announced := { h with pending := Keyed.put id r h.pending, issued := h.issued + 1 }
  let effects : List (HostEffect α) := [.arm id, .send (.compile id r)]
  if reached = 0 then
    (announced.settle id r (.ok ()), effects ++ [.disarm id, .settled id (.ok ())])
  else (announced, effects)

/-- What a compile that got no reply reports; {lit}`limit` is the time it was given. -/
def timeoutText (r : CompileRequest) (limit : String) : String :=
  s!"Compile of {r.name} timed out after {limit} ms"

/-- The time of a compile is over. -/
def expire (h : Host) (id limit : String) : Host × List (HostEffect α) :=
  match Keyed.get? id h.pending with
  | some r => (h.fail id, [.settled id (.error (timeoutText r limit))])
  | none => (h, [])

/-- What a compile reports that was given up. -/
def cancelText (id : String) : String := s!"Compile {id} cancelled"

/-- Give up every compile that has no outcome. -/
def dispose (h : Host) : Host × List (HostEffect α) :=
  ( { h with pending := [] }
  , (Keyed.keys h.pending).flatMap fun id =>
      [.disarm id, .settled id (.error (cancelText id))] )

/-- Note a toggle and announce it. -/
def toggle (h : Host) (name : String) (enabled : Bool) : Host × List (HostEffect α) :=
  ( { h with toggles := Keyed.put name enabled h.toggles }
  , [.send (.toggle name enabled)] )

/-- What a browser that has just connected is sent. -/
def syncMessages (h : Host) : List (HostMessage α) :=
  (h.program.toList.map fun p => .push p.id p.request) ++
    (h.toggles.map fun (name, enabled) => .toggle name enabled) ++ [.getState]

end Host

end LiveVisuals
