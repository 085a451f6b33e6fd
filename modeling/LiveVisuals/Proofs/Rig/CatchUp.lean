import LiveVisuals.Proofs.Rig.Channel

/-!
# What a browser knows

A browser that connects is sent the program and the toggles that the render host keeps, and from
then on it hears what everybody hears. So it always knows the toggles, and it has been sent each
program whose compile was announced after it came. But a compile that was announced before it
came and is still without an outcome is neither replayed nor announced to it, and nothing is sent
when such a program comes into use: exactly those browsers that connected meanwhile have not been
sent it.

Main definitions:

- {lit}`Json.toggleOf?`, {lit}`Json.programId?`: what a message says of a toggle or a program.
- {lit}`Host.Orderly`: ids are given out once, and toggles are kept once each.
- {lit}`Host.KnownTo`: what a browser has been sent agrees with what the host keeps, apart from
  the compiles that it came too late for.
- {lit}`Rig.Connected`: a browser has been connected since some moment.

Main results:

- Theorem {lit}`Host.KnownTo.move`: every move of the host keeps a browser informed.
- Theorem {lit}`Rig.known_unless_late`: what each browser has been sent, whatever has happened.
- Theorem {lit}`Rig.latecomer_misses_program`: a browser that has not been sent the program.
-/

namespace LiveVisuals

variable {α : Type}

/-! ## What messages say -/

namespace Json

/-- Whether a message is of a kind. -/
def isOfKind (kind : String) (m : Json α) : Bool :=
  (m.field? "type").bind asString? == some kind

/-- What a message says of a toggle. -/
def toggleOf? (name : String) (m : Json α) : Option Bool :=
  if m.isOfKind "display_toggle" && (m.field? "name").bind asString? == some name then
    (m.field? "enabled").bind asBool?
  else none

/-- The id of the program that a message brings. -/
def programId? (m : Json α) : Option String :=
  if m.isOfKind "shader_compile" || m.isOfKind "shader_push" then
    (m.field? "id").bind asString?
  else none

end Json

variable [Scalar α]

/-- What a message says of a toggle when it arrives. -/
theorem toggleOf?_transmitted (name : String) (m : HostMessage α) :
    m.toJson.transmitted.toggleOf? name =
      match m with
      | .toggle other enabled => if other = name then some enabled else none
      | _ => none := by
  cases m <;> simp [HostMessage.toJson, Json.toggleOf?, Json.isOfKind, Json.transmitted,
    Json.transmittedFields, Json.field?, Keyed.get?, Json.asString?, Json.asBool?]

/-- The program that a message brings when it arrives. -/
theorem programId?_transmitted (m : HostMessage α) :
    m.toJson.transmitted.programId? =
      match m with
      | .compile id _ => some id
      | .push id _ => some id
      | _ => none := by
  cases m <;> simp [HostMessage.toJson, Json.programId?, Json.isOfKind, Json.transmitted,
    Json.transmittedFields, Json.field?, Keyed.get?, Json.asString?]

/-! ## What the host keeps -/

namespace Host

omit [Scalar α]

/-- An id has been given out. -/
def Issued (h : Host) (id : String) : Prop := ∃ n < h.issued, id = { h with issued := n }.nextId

/-- The next id has not been given out. -/
theorem Issued.ne_nextId {h : Host} {id : String} (hid : h.Issued id) : id ≠ h.nextId := by
  obtain ⟨n, hn, rfl⟩ := hid
  intro heq
  have hsame : n = h.issued := nextId_injective heq
  omega

/-- Ids stay given out while others are. -/
theorem Issued.mono {h h' : Host} {id : String} (hid : h.Issued id)
    (hle : h.issued ≤ h'.issued) : h'.Issued id := by
  obtain ⟨n, hn, rfl⟩ := hid
  exact ⟨n, by omega, rfl⟩

/-- Once it is given out, an id is. -/
theorem issued_nextId (h : Host) (g : Host) (hg : g.issued = h.issued + 1) : g.Issued h.nextId :=
  ⟨h.issued, by omega, rfl⟩

/-- Compiles that wait and the program in use have ids that were given out, each a different one,
and toggles are kept once each. -/
structure Orderly (h : Host) : Prop where
  pending : ∀ id ∈ Keyed.keys h.pending, h.Issued id
  program : ∀ p, h.program = some p → h.Issued p.id ∧ p.id ∉ Keyed.keys h.pending
  toggles : (Keyed.keys h.toggles).Nodup

theorem orderly_initial : Orderly initial where
  pending := by simp [initial, Keyed.keys]
  program := by simp [initial]
  toggles := List.nodup_nil

/-- A removed name is not there. -/
theorem not_mem_keys_erase (id : String) (pending : Keyed CompileRequest) :
    id ∉ Keyed.keys (Keyed.erase id pending) := by
  simp [Keyed.keys_erase]

/-- What is announced keeps order. -/
theorem Orderly.announce {h : Host} (ho : h.Orderly) (request : CompileRequest) :
    Orderly
      { h with pending := Keyed.put h.nextId request h.pending, issued := h.issued + 1 } := by
  have hkeys : ∀ id ∈ Keyed.keys (Keyed.put h.nextId request h.pending),
      id ∈ Keyed.keys h.pending ∨ id = h.nextId := by
    intro id hid
    rw [Keyed.keys_put] at hid
    split at hid
    · exact .inl hid
    · simpa using hid
  constructor
  · intro id hid
    rcases hkeys id hid with hold | rfl
    · exact (ho.pending id hold).mono (Nat.le_succ _)
    · exact issued_nextId h _ rfl
  · intro p hp
    obtain ⟨hissued, hnot⟩ := ho.program p hp
    refine ⟨hissued.mono (Nat.le_succ _), ?_⟩
    intro hmem
    rcases hkeys p.id hmem with hold | hnext
    · exact hnot hold
    · exact hissued.ne_nextId hnext
  · exact ho.toggles

/-- What ends keeps order. -/
theorem Orderly.settle {h : Host} (ho : h.Orderly) {id : String} {request : CompileRequest}
    (hid : id ∈ Keyed.keys h.pending) (outcome : CompileOutcome) :
    Orderly (h.settle id request outcome) := by
  have hkeys : ∀ other ∈ Keyed.keys (Keyed.erase id h.pending), other ∈ Keyed.keys h.pending := by
    intro other hother
    rw [Keyed.keys_erase] at hother
    exact (List.mem_filter.mp hother).1
  cases outcome with
  | ok _ =>
      refine ⟨fun other hother => ho.pending other (hkeys other hother), ?_, ho.toggles⟩
      intro p hp
      cases hp
      exact ⟨ho.pending id hid, not_mem_keys_erase id h.pending⟩
  | error _ =>
      refine ⟨fun other hother => ho.pending other (hkeys other hother), ?_, ho.toggles⟩
      intro p hp
      obtain ⟨hissued, hnot⟩ := ho.program p hp
      exact ⟨hissued, fun hmem => hnot (hkeys p.id hmem)⟩

/-- Every move keeps order, and ids that were given out stay so. -/
theorem Orderly.move {h h' : Host} {reached : Nat} {ms : List (HostMessage α)} (ho : h.Orderly)
    (hmove : h.Move reached h' ms) : h'.Orderly ∧ h.issued ≤ h'.issued := by
  cases hmove with
  | announce request => exact ⟨ho.announce request, Nat.le_succ _⟩
  | accept request =>
      have hmem : h.nextId ∈ Keyed.keys (Keyed.put h.nextId request h.pending) :=
        Keyed.mem_keys_iff.mpr ⟨request, Keyed.get?_put_self _ _ _⟩
      exact ⟨(ho.announce request).settle hmem (.ok ()), Nat.le_succ _⟩
  | settle hid outcome =>
      exact ⟨ho.settle (Keyed.mem_keys_iff.mpr ⟨_, hid⟩) outcome,
        Nat.le_of_eq (issued_settle h _ _ outcome).symm⟩
  | giveUp =>
      refine ⟨⟨by simp [Keyed.keys], ?_, ho.toggles⟩, Nat.le_refl _⟩
      intro p hp
      exact ⟨(ho.program p hp).1, by simp [Keyed.keys]⟩
  | toggle name enabled =>
      exact ⟨⟨ho.pending, ho.program, Keyed.nodup_keys_put ho.toggles name enabled⟩,
        Nat.le_refl _⟩
  | uniforms values => exact ⟨ho, Nat.le_refl _⟩
  | capture shader => exact ⟨ho, Nat.le_refl _⟩
  | rest => exact ⟨ho, Nat.le_refl _⟩

end Host

/-! ## What a browser has been sent -/

/-- A program has been sent, as a compile or as a replay. -/
def HasProgram (mail : List (Json α)) (p : HostProgram) : Prop :=
  (HostMessage.compile p.id p.request).toJson.transmitted ∈ mail ∨
    (HostMessage.push p.id p.request).toJson.transmitted ∈ mail

/-- What has been sent stays sent. -/
theorem HasProgram.mono {mail new : List (Json α)} {p : HostProgram} (h : HasProgram mail p) :
    HasProgram (new ++ mail) p :=
  h.imp (List.mem_append_right new) (List.mem_append_right new)

namespace Host

/-- What a browser has been sent agrees with what the host keeps: the latest word on each toggle
is the value of the host, and programs that wait or are in use have been sent, except those of
compiles that the browser came too late for, of which nothing has been sent. -/
structure KnownTo (h : Host) (late : List String) (mail : List (Json α)) : Prop where
  toggles : ∀ name, mail.findSome? (·.toggleOf? name) = Keyed.get? name h.toggles
  pending : ∀ id request, Keyed.get? id h.pending = some request → id ∉ late →
    HasProgram mail ⟨id, request⟩
  program : ∀ p, h.program = some p → p.id ∉ late → HasProgram mail p
  missed : ∀ id ∈ late, ∀ m ∈ mail, m.programId? ≠ some id

omit [Scalar α] in
/-- Toggles that are told one after the other: the latest word on each is the value. -/
theorem findSome?_reverse_toggles {f : String × Bool → Option Bool} (name : String)
    (hf : ∀ e, f e = if e.1 = name then some e.2 else none) {toggles : Keyed Bool}
    (hdistinct : (Keyed.keys toggles).Nodup) :
    toggles.reverse.findSome? f = Keyed.get? name toggles := by
  induction toggles with
  | nil => rfl
  | cons e toggles ih =>
      obtain ⟨k, enabled⟩ := e
      rw [Keyed.keys, List.map_cons, List.nodup_cons] at hdistinct
      rw [List.reverse_cons, List.findSome?_append, ih hdistinct.2, Keyed.get?]
      by_cases hk : k = name
      · have hnone : Keyed.get? name toggles = none := by
          cases hget : Keyed.get? name toggles with
          | none => rfl
          | some v => exact absurd (Keyed.mem_keys_iff.mpr ⟨v, hget⟩) (hk ▸ hdistinct.1)
        simp [hnone, hk, hf]
      · cases Keyed.get? name toggles <;> simp [hk, hf]

/-- A toggle as it is told. -/
def toggleMessage (e : String × Bool) : HostMessage α := .toggle e.1 e.2

/-- A browser that connects is sent what the host keeps. -/
theorem knownTo_syncMessages {h : Host} (ho : h.Orderly) :
    h.KnownTo (Keyed.keys h.pending)
      ((h.syncMessages : List (HostMessage α)).map (·.toJson.transmitted)).reverse := by
  have hprogram : ∀ m ∈ (h.program.toList.map fun p => (.push p.id p.request : HostMessage α)),
      ∃ p, h.program = some p ∧ m = .push p.id p.request := by
    intro m hm
    obtain ⟨p, hp, rfl⟩ := List.mem_map.mp hm
    exact ⟨p, Option.mem_toList.mp hp, rfl⟩
  constructor
  · intro name
    have htoggles := findSome?_reverse_toggles name
      (f := fun e => (toggleMessage (α := α) e).toJson.transmitted.toggleOf? name)
      (fun e => toggleOf?_transmitted name (toggleMessage e)) ho.toggles
    have hpush : h.program.toList.reverse.findSome?
        (fun p => (HostMessage.push p.id p.request : HostMessage α).toJson.transmitted.toggleOf?
          name) = none := by
      rw [List.findSome?_eq_none_iff]
      intro p _
      rw [toggleOf?_transmitted]
    have hstate := toggleOf?_transmitted name (.getState : HostMessage α)
    simp only [syncMessages, List.map_append, List.reverse_append, List.findSome?_append,
      List.map_map, List.map_cons, List.map_nil, List.reverse_singleton, List.findSome?_cons,
      List.findSome?_nil, ← List.map_reverse, List.findSome?_map, hstate]
    rw [Option.none_or]
    exact (congrArg₂ Option.or htoggles hpush).trans (Option.or_none)
  · intro id request hid hlate
    exact absurd (Keyed.mem_keys_iff.mpr ⟨request, hid⟩) hlate
  · intro p hp _
    refine .inr ?_
    simp [syncMessages, hp]
  · intro id hid m hm
    obtain ⟨message, hmessage, rfl⟩ := List.mem_map.mp (List.mem_reverse.mp hm)
    rw [programId?_transmitted]
    simp only [syncMessages, List.mem_append, List.mem_singleton] at hmessage
    rcases hmessage with (hpush | htoggle) | rfl
    · obtain ⟨p, hp, rfl⟩ := hprogram message hpush
      intro heq
      cases heq
      exact (ho.program p hp).2 hid
    · obtain ⟨e, -, rfl⟩ := List.mem_map.mp htoggle
      simp
    · simp

/-- A message that says nothing of toggles and programs leaves a browser as informed as it was. -/
theorem KnownTo.other {h : Host} {late : List String} {mail : List (Json α)}
    (hk : h.KnownTo late mail) {m : HostMessage α}
    (htoggle : ∀ name, m.toJson.transmitted.toggleOf? name = none)
    (hprogram : m.toJson.transmitted.programId? = none) :
    h.KnownTo late ([m.toJson.transmitted] ++ mail) where
  toggles name := by
    rw [List.findSome?_append, List.findSome?_singleton, htoggle]
    exact hk.toggles name
  pending id request hid hlate := (hk.pending id request hid hlate).mono
  program p hp hlate := (hk.program p hp hlate).mono
  missed id hid m' hm' := by
    rcases List.mem_append.mp hm' with hm' | hm'
    · rw [List.mem_singleton.mp hm', hprogram]
      simp
    · exact hk.missed id hid m' hm'

/-- Every move of the host keeps a browser informed that hears what is told. -/
theorem KnownTo.move {h h' : Host} {late : List String} {mail : List (Json α)} {reached : Nat}
    {ms : List (HostMessage α)} (hk : h.KnownTo late mail) (hlate : ∀ id ∈ late, h.Issued id)
    (hreached : reached ≠ 0) (hmove : h.Move reached h' ms) :
    h'.KnownTo late (ms.reverse.map (·.toJson.transmitted) ++ mail) := by
  cases hmove with
  | announce request _ =>
      constructor
      · intro name
        rw [List.reverse_singleton, List.map_singleton, List.findSome?_append,
          List.findSome?_singleton, toggleOf?_transmitted]
        exact hk.toggles name
      · intro id request' hid hnot
        by_cases hnext : id = h.nextId
        · subst hnext
          obtain rfl : request = request' := by simpa using hid
          exact .inl (List.mem_append_left mail (List.mem_singleton_self _))
        · rw [Keyed.get?_put_of_ne _ _ hnext] at hid
          exact (hk.pending id request' hid hnot).mono
      · intro p hp hnot
        exact (hk.program p hp hnot).mono
      · intro id hid m hm
        rcases List.mem_append.mp hm with hm | hm
        · rw [List.reverse_singleton, List.map_singleton, List.mem_singleton] at hm
          rw [hm, programId?_transmitted]
          intro heq
          exact (hlate id hid).ne_nextId (Option.some.inj heq).symm
        · exact hk.missed id hid m hm
  | accept request hnobody => exact absurd hnobody hreached
  | @settle id request hid outcome =>
      cases outcome with
      | ok _ =>
          refine ⟨hk.toggles, ?_, ?_, hk.missed⟩
          · intro other request' hother hnot
            exact hk.pending other request' (Keyed.get?_of_erase hother).2 hnot
          · intro p hp hnot
            cases hp
            exact hk.pending id request hid hnot
      | error _ =>
          refine ⟨hk.toggles, ?_, hk.program, hk.missed⟩
          intro other request' hother hnot
          exact hk.pending other request' (Keyed.get?_of_erase hother).2 hnot
  | giveUp =>
      refine ⟨hk.toggles, ?_, hk.program, hk.missed⟩
      intro id request hid _
      cases hid
  | toggle name enabled =>
      refine ⟨?_, fun id request hid hnot => (hk.pending id request hid hnot).mono,
        fun p hp hnot => (hk.program p hp hnot).mono, ?_⟩
      · intro other
        rw [List.reverse_singleton, List.map_singleton, List.findSome?_append,
          List.findSome?_singleton, toggleOf?_transmitted]
        by_cases hname : name = other
        · subst hname
          simp
        · simp only [hname, if_false, Option.none_or]
          rw [Keyed.get?_put_of_ne _ _ (Ne.symm hname)]
          exact hk.toggles other
      · intro id hid m hm
        rcases List.mem_append.mp hm with hm | hm
        · rw [List.reverse_singleton, List.map_singleton, List.mem_singleton] at hm
          rw [hm, programId?_transmitted]
          simp
        · exact hk.missed id hid m hm
  | uniforms values =>
      exact hk.other (fun name => toggleOf?_transmitted name _) (programId?_transmitted _)
  | capture shader =>
      exact hk.other (fun name => toggleOf?_transmitted name _) (programId?_transmitted _)
  | rest => exact hk

end Host

/-! ## What happens to a browser -/

namespace Rig

/-- The ids are given out in order, whatever has happened. -/
theorem OnAir.orderly {r : Rig α} (h : OnAir r) : r.host.Orderly := by
  induction h with
  | new disk receivers h => exact Host.orderly_initial
  | @step r r' h hstep ih =>
      rcases hstep.moves_or h.wired.renderer h.wired.distinct with
        ⟨g, ms, hmove, htells⟩ | ⟨client, port, -, hconnect⟩ | ⟨client, rfl⟩ | rfl
      · have hhost : r'.host = g := htells.host
        rw [hhost]
        exact (ih.move hmove).1
      · rw [(connect_eq hconnect).2.1]
        exact ih
      · rcases disconnect_eq r client with heq | ⟨-, hhost, -, -⟩
        · rwa [heq]
        · rwa [hhost]
      · rw [(stopServers_eq r).2.1]
        exact ih

/-- A browser that was not connected connects and has stayed connected since; {lit}`since` is
what was seen from then on, latest first. -/
structure Connected (client : String) (before after r : Rig α) (since : List (Sighting α)) :
    Prop where
  onAir : OnAir before
  new : client ∉ before.net.clients
  connects : ∃ port, before.connect client port = .ok after
  run : Relation.ReflTransGen Exchange after r
  seen : r.seen = since ++ before.seen
  stays : ∀ s ∈ since, s.parts client = false

/-- A browser stays connected while nothing is seen of its going. -/
theorem Connected.step {client : String} {before after r r' : Rig α}
    {since new : List (Sighting α)} (h : Connected client before after r since)
    (hstep : r.Exchange r') (hseen : r'.seen = new ++ r.seen)
    (hstays : ∀ s ∈ new, s.parts client = false) :
    Connected client before after r' (new ++ since) where
  onAir := h.onAir
  new := h.new
  connects := h.connects
  run := h.run.tail hstep
  seen := by rw [hseen, h.seen, List.append_assoc]
  stays s hs := by
    rcases List.mem_append.mp hs with hs | hs
    · exact hstays s hs
    · exact h.stays s hs

/-- A browser that is connected has been so since some moment, and what it has been sent since
then agrees with what the host keeps. -/
def Informed (client : String) (r : Rig α) : Prop :=
  ∃ before after since, Connected client before after r since ∧
    (∀ id ∈ Keyed.keys before.host.pending, r.host.Issued id) ∧
    r.host.KnownTo (Keyed.keys before.host.pending) (mail client since)

/-- A browser that connects is informed. -/
theorem informed_connect {r r' : Rig α} (h : OnAir r) {client : String} {port : Nat}
    (hnew : client ∉ r.net.clients) (hconnect : r.connect client port = .ok r') :
    r'.Informed client := by
  obtain ⟨-, hhost, -, hseen⟩ := connect_eq hconnect
  have horderly := h.orderly
  refine ⟨r, r', _, ⟨h, hnew, ⟨port, hconnect⟩, .refl, hseen, ?_⟩, ?_, ?_⟩
  · intro s hs
    obtain ⟨m, -, rfl⟩ := List.mem_map.mp (List.mem_reverse.mp hs)
    rfl
  · rw [hhost]
    exact horderly.pending
  · have hmail : mail client (r.host.syncMessages.map fun m : HostMessage α =>
        .received client m.toJson.transmitted).reverse =
          ((r.host.syncMessages : List (HostMessage α)).map (·.toJson.transmitted)).reverse := by
      rw [mail, List.filterMap_reverse, List.filterMap_map]
      congr 1
      rw [← List.filterMap_eq_map]
      refine List.filterMap_congr fun m _ => ?_
      exact if_pos rfl
    rw [hmail, hhost]
    exact Host.knownTo_syncMessages horderly

/-- Whatever happens, a browser that stays connected stays informed. -/
theorem Informed.step {r r' : Rig α} {client : String} (h : r.Informed client) (hair : OnAir r)
    (hclient : client ∈ r.net.clients) (hclient' : client ∈ r'.net.clients)
    (hstep : r.Exchange r') : r'.Informed client := by
  obtain ⟨before, after, since, hconnected, hlate, hknown⟩ := h
  have hsame (new : List (Sighting α)) (hseen : r'.seen = new ++ r.seen)
      (hhost : r'.host = r.host) (hnew : mail client new = [])
      (hstays : ∀ s ∈ new, s.parts client = false) : r'.Informed client := by
    refine ⟨before, after, _, hconnected.step hstep hseen hstays, hhost ▸ hlate, ?_⟩
    rw [mail_append, hnew, hhost]
    exact hknown
  rcases hstep.moves_or hair.wired.renderer hair.wired.distinct with
    ⟨g, ms, hmove, htells⟩ | ⟨other, port, hnew, hconnect⟩ | ⟨other, rfl⟩ | rfl
  · obtain ⟨new, hseen, hmail, hstays⟩ := htells.seen
    have hhost : r'.host = g := htells.host
    have hreached : r.net.clients.length ≠ 0 := Nat.ne_of_gt (List.length_pos_of_mem hclient)
    have hissued := (hair.orderly.move hmove).2
    refine ⟨before, after, _, hconnected.step hstep hseen (hstays client), ?_, ?_⟩
    · intro id hid
      rw [hhost]
      exact (hlate id hid).mono hissued
    · rw [mail_append, hmail client hclient, hhost]
      exact hknown.move hlate hreached hmove
  · obtain ⟨-, hhost, -, hseen⟩ := connect_eq hconnect
    have hne : other ≠ client := by
      rintro rfl
      exact hnew hclient
    refine hsame _ hseen hhost ?_ ?_
    · rw [mail, List.filterMap_eq_nil_iff]
      intro s hs
      obtain ⟨m, -, rfl⟩ := List.mem_map.mp (List.mem_reverse.mp hs)
      exact if_neg hne
    · intro s hs
      obtain ⟨m, -, rfl⟩ := List.mem_map.mp (List.mem_reverse.mp hs)
      rfl
  · rcases disconnect_eq r other with heq | ⟨-, hhost, hclients, hseen⟩
    · exact hsame [] (by rw [heq]; rfl) (by rw [heq]) rfl (by simp)
    · have hne : other ≠ client := by
        rintro rfl
        rw [hclients] at hclient'
        exact hair.wired.distinct.not_mem_erase hclient'
      refine hsame [.closed other normalClosure ""] hseen hhost rfl ?_
      intro s hs
      rw [List.mem_singleton.mp hs]
      exact beq_false_of_ne hne
  · rw [(stopServers_eq r).2.2] at hclient'
    cases hclient'

/-- Every connected browser is informed, whatever has happened. -/
theorem OnAir.informed {r : Rig α} (h : OnAir r) : ∀ c ∈ r.net.clients, r.Informed c := by
  induction h with
  | new disk receivers h => simp [Rig.new]
  | @step r r' h hstep ih =>
      intro c hc
      by_cases hold : c ∈ r.net.clients
      · exact (ih c hold).step h hold hc hstep
      · rcases hstep.moves_or h.wired.renderer h.wired.distinct with
          ⟨g, ms, -, htells⟩ | ⟨client, port, hnew, hconnect⟩ | ⟨client, rfl⟩ | rfl
        · exact absurd (htells.clients ▸ hc) hold
        · rw [(connect_eq hconnect).2.2.1, List.mem_append] at hc
          obtain rfl : c = client := List.mem_singleton.mp (hc.resolve_left hold)
          exact informed_connect h hnew hconnect
        · rcases disconnect_eq r client with heq | ⟨-, -, hclients, -⟩
          · exact absurd (heq ▸ hc) hold
          · exact absurd (List.mem_of_mem_erase (hclients ▸ hc)) hold
        · rw [(stopServers_eq r).2.2] at hc
          cases hc

/-- Every browser that is connected has connected at some moment and stayed since. Since then the
latest word that it was sent on each toggle is the value that the host keeps, and it has been sent
the program in use, as a compile or as the replay of its connect, unless the compile of that
program was waiting at the moment when it connected: then it has been sent nothing of it. -/
theorem known_unless_late {r : Rig α} (h : OnAir r) {client : String}
    (hclient : client ∈ r.net.clients) :
    ∃ before after since, Connected client before after r since ∧
      (∀ name, (mail client since).findSome? (·.toggleOf? name) =
        Keyed.get? name r.host.toggles) ∧
      ∀ p, r.host.program = some p →
        (p.id ∉ Keyed.keys before.host.pending → HasProgram (mail client since) p) ∧
        (p.id ∈ Keyed.keys before.host.pending →
          ∀ m ∈ mail client since, m.programId? ≠ some p.id) := by
  obtain ⟨before, after, since, hconnected, -, hknown⟩ := h.informed client hclient
  refine ⟨before, after, since, hconnected, hknown.toggles, ?_⟩
  intro p hp
  exact ⟨hknown.program p hp, hknown.missed p.id⟩

/-- A rig to which browsers can connect at port 1. -/
def studio : Rig Float :=
  let setup : Setup Float :=
    { renderer := .browsers, failures := [], captureRefusal := none, shaderDir := ["shaders"]
      presetDir := none, captureDir := none, errorLog := ["errors.log"], captureDelay := 0.0
      compileLimit := 0.0, pollInterval := 0.0, busyPorts := [], start := ⟨0⟩ }
  (Rig.new setup (.empty "home") 0).mapNet fun n => { n with socketPorts := [1] }

/-- A browser connects. -/
def joined (r : Rig Float) (client : String) : Rig Float :=
  match r.connect client 1 with
  | .ok r' => r'
  | .error _ => r

/-- A browser connects, a program is announced to it, another browser connects, and the first one
replies that it has compiled the program. -/
def latecomer : Rig Float :=
  let request : CompileRequest := ⟨"a", .glsl, "void main() ", []⟩
  let r := (joined studio "early").toggle "grid" true
  let r := joined (r.hostCompile (.outside 1) request) "late"
  (r.takeReply "id-1" true none).1

theorem onAir_joined {r : Rig Float} (h : OnAir r) (client : String)
    (hnew : client ∉ r.net.clients) : OnAir (joined r client) := by
  unfold joined
  split
  · next r' hconnect => exact h.step (.connect hnew hconnect)
  · exact h

theorem onAir_latecomer : OnAir latecomer := by
  have hstudio : OnAir studio := (OnAir.new (.empty "home") 0 rfl).beside ⟨rfl, rfl, rfl, rfl⟩
  have hearly := onAir_joined hstudio "early" (by decide)
  have hcompile := (hearly.step (.toggle _ "grid" true)).step
    (.compile _ (.outside 1) ⟨"a", .glsl, "void main() ", []⟩)
  exact (onAir_joined hcompile "late" (by decide)).step (.reply _ "id-1" true none)

/-- What the browser knows that came second: the toggle, but not the program. -/
theorem known_unless_late_latecomer :
    ∃ before after since, Connected "late" before after latecomer since ∧
      (∀ name, (mail "late" since).findSome? (·.toggleOf? name) =
        Keyed.get? name latecomer.host.toggles) ∧
      ∀ p, latecomer.host.program = some p →
        (p.id ∉ Keyed.keys before.host.pending → HasProgram (mail "late" since) p) ∧
        (p.id ∈ Keyed.keys before.host.pending →
          ∀ m ∈ mail "late" since, m.programId? ≠ some p.id) :=
  known_unless_late onAir_latecomer (by decide)

/-- No compile waits any more and there is a program in use, which has not been sent to the
browser that connected while its compile was waiting. -/
theorem latecomer_misses_program :
    OnAir latecomer ∧ latecomer.host.pending = [] ∧ "late" ∈ latecomer.net.clients ∧
      ∃ p, latecomer.host.program = some p ∧ ¬ HasProgram (mail "late" latecomer.seen) p := by
  have hids : (mail "late" latecomer.seen).map Json.programId? = [none, none] := rfl
  have hprogram : latecomer.host.program.map (·.id) = some "id-1" := rfl
  obtain ⟨p, hp, hid⟩ := Option.map_eq_some_iff.mp hprogram
  refine ⟨onAir_latecomer, rfl, by decide, p, hp, ?_⟩
  have hnone : ∀ m ∈ mail "late" latecomer.seen, m.programId? = none := by
    intro m hm
    have hmem := List.mem_map_of_mem (f := Json.programId?) hm
    rw [hids] at hmem
    simpa using hmem
  rintro (hcompile | hpush)
  · have hbrings := hnone _ hcompile
    rw [programId?_transmitted] at hbrings
    cases hbrings
  · have hbrings := hnone _ hpush
    rw [programId?_transmitted] at hbrings
    cases hbrings

end Rig

end LiveVisuals
