import LiveVisuals.Proofs.Engine.Hearing

/-!
# Messages that wait

Messages wait for the next tick, which applies commands first and only the latest audio value
of each address. That makes no difference: a value that was passed over would have been
overwritten, since values of an address write the same names; no command but the reset looks at
what was heard; and before a reset values do not count.

Main definitions:

- {lit}`Osc.Message.IsUsable`: a message that carries no audio value, or one that can be used.
- {lit}`Engine.deliver`: apply a message at once.
- {lit}`Performance.waiting`: the messages that have come since the last tick.

Main results:

- Theorem {lit}`Engine.alike_takeIn_push`: to wait makes no difference for one message.
- Theorem {lit}`Engine.alike_takeIn`: nor for any number of messages.
- Theorem {lit}`Performance.drain_eq_delivery`: a tick is as if all messages that wait were
  applied one by one before it.
-/

namespace LiveVisuals

variable {α : Type} [Scalar α]

/-- A message that carries no audio value, or one that can be used. -/
def Osc.Message.IsUsable (m : Osc.Message α) : Prop :=
  Audio.isValueAddress m.address →
    ((Audio.Extractor.initial : Audio.Extractor α).ingest? m.address m.args).isSome

/-- A usable audio value writes something. -/
theorem Osc.Message.IsUsable.writes {m : Osc.Message α} (h : m.IsUsable)
    (hm : Audio.isValueAddress m.address) : ∃ ws, Audio.writes? m.address m.args = some ws := by
  have hsome := h hm
  rw [Audio.Extractor.isSome_ingest? _ _ hm] at hsome
  exact Option.isSome_iff_exists.mp hsome

/-! ## Several audio values -/

namespace Audio.Extractor

/-- An extractor that has heard messages, in order. -/
def ingestAll (x : Extractor α) (ms : List (Osc.Message α)) : Extractor α :=
  ms.foldl (fun x m => x.ingest m.address m.args) x

/-- Audio values that come before a reset do not count. -/
theorem reset_ingestAll (x : Extractor α) (ms : List (Osc.Message α))
    (hms : ∀ m ∈ ms, isValueAddress m.address) : (x.ingestAll ms).reset = x.reset := by
  induction ms generalizing x with
  | nil => rfl
  | cons m ms ih =>
      have hm : isValueAddress m.address := hms m (List.mem_cons_self ..)
      refine (ih _ fun n hn => hms n (List.mem_cons_of_mem m hn)).trans ?_
      show (x.ingest m.address m.args).reset = x.reset
      unfold ingest
      rw [ingest?_eq x m.args hm]
      rcases writes? m.address m.args with _ | ws
      · rfl
      · exact reset_record x ws

end Audio.Extractor

/-! ## The inbox -/

namespace Osc.Inbox

/-- The audio values that wait can be used, and are filed under their addresses. -/
def Filed (i : Inbox α) : Prop :=
  ∀ f ∈ i.audio, f.1 = f.2.address ∧ Audio.isValueAddress f.2.address ∧ f.2.IsUsable

theorem filed_empty : (empty : Inbox α).Filed := by simp [Filed, empty]

theorem Filed.push {i : Inbox α} (h : i.Filed) {m : Message α} (hm : m.IsUsable) :
    (i.push m).Filed := by
  intro f hf
  unfold Inbox.push at hf
  split at hf
  · next hvalue =>
      rcases List.mem_append.mp hf with hf | hf
      · exact h f (List.mem_filter.mp hf).1
      · obtain rfl := List.mem_singleton.mp hf
        exact ⟨rfl, hvalue, hm⟩
  · unfold pushCommand at hf
    dsimp only at hf
    split at hf
    · simp at hf
    · exact h f hf

end Osc.Inbox

namespace Audio.Extractor

/-- To pass over the values of an address makes a difference only under the names that they
write. -/
theorem alikeBut_erase (address : String) (t : Keyed (Osc.Message α))
    (ht : ∀ f ∈ t, f.1 = f.2.address ∧ isValueAddress f.2.address ∧ f.2.IsUsable)
    {x y : Extractor α} (h : AlikeBut (writtenNames address) x y) :
    AlikeBut (writtenNames address) (x.ingestAll (Keyed.values (Keyed.erase address t)))
      (y.ingestAll (Keyed.values t)) := by
  induction t generalizing x y with
  | nil => exact h
  | cons f t ih =>
      obtain ⟨hf, hvalue, husable⟩ := ht f (List.mem_cons_self ..)
      obtain ⟨ws, hws⟩ := husable.writes hvalue
      have ih := fun {x y : Extractor α} => @ih (fun g hg => ht g (List.mem_cons_of_mem f hg)) x y
      by_cases haddress : f.1 = address
      · have herase : Keyed.erase address (f :: t) = Keyed.erase address t := by
          simp [Keyed.erase, haddress]
        have hnames : ws.map (·.1) = writtenNames address := by
          rw [names_of_writes hws, ← hf, haddress]
        rw [herase]
        refine ih (h.trans ?_)
        show AlikeBut _ y (y.ingest f.2.address f.2.args)
        rw [ingest_of_writes y hvalue hws, ← hnames]
        exact alikeBut_record y ws
      · have herase : Keyed.erase address (f :: t) = f :: Keyed.erase address t := by
          simp [Keyed.erase, haddress]
        rw [herase]
        refine ih ?_
        show AlikeBut _ (x.ingest f.2.address f.2.args) (y.ingest f.2.address f.2.args)
        rw [ingest_of_writes x hvalue hws, ingest_of_writes y hvalue hws]
        exact h.record ws

end Audio.Extractor

/-! ## To wait makes no difference -/

namespace Engine

/-- Take in what has waited: commands in order, then audio values. -/
def takeIn (e : Engine α) (i : Osc.Inbox α) : Engine α :=
  i.drain.audio.foldl hear (i.drain.commands.foldl (fun e m => (e.handle m).1) e)

/-- Apply a message at once: an audio value is heard, any other message is carried out. -/
def deliver (e : Engine α) (m : Osc.Message α) : Engine α :=
  if Audio.isValueAddress m.address then e.hear m else (e.handle m).1

theorem drain_eq_takeIn (e : Engine α) :
    e.drain = takeIn { e with inbox := .empty } e.inbox :=
  rfl

/-- Hearing changes the extractor only. -/
theorem foldl_hear (e : Engine α) (ms : List (Osc.Message α)) :
    ms.foldl hear e = e.attune (e.session.extractor.ingestAll ms) e.inbox := by
  induction ms generalizing e with
  | nil => rfl
  | cons m ms ih => exact ih (e.hear m)

/-- Deaf events change nothing that is about hearing. -/
theorem hearing_step (e : Engine α) (ev : Event α) (hev : ev.isDeaf) :
    (e.step ev).session.extractor = e.session.extractor ∧ (e.step ev).inbox = e.inbox := by
  have hself := step_attune e e.session.extractor e.inbox hev
  rw [attune_self] at hself
  rw [hself]
  exact ⟨rfl, rfl⟩

/-- Commands are carried out first, then the audio values are heard. -/
theorem takeIn_eq (e : Engine α) (i : Osc.Inbox α) :
    e.takeIn i = (Keyed.values i.audio).foldl hear (e.takeIn { i with audio := [] }) :=
  rfl

/-- An audio value makes those of its address forgotten. -/
theorem takeIn_push_of_value (e : Engine α) (i : Osc.Inbox α) {m : Osc.Message α}
    (hvalue : Audio.isValueAddress m.address) :
    e.takeIn (i.push m) =
      (e.takeIn { i with audio := Keyed.erase m.address i.audio }).hear m := by
  simp [takeIn, Osc.Inbox.push, hvalue, Osc.Inbox.pushAudio, Osc.Inbox.drain, Keyed.values]

/-- Before a reset audio values do not count. -/
theorem takeIn_push_of_reset (e : Engine α) (i : Osc.Inbox α) {m : Osc.Message α}
    (hreset : m.address = Audio.Address.reset) :
    e.takeIn (i.push m) = ((e.takeIn { i with audio := [] }).handle m).1 := by
  simp [takeIn, Osc.Inbox.push, Osc.Inbox.pushCommand, Osc.Inbox.drain, hreset, Keyed.values]

/-- Any other command is carried out before the audio values are heard. -/
theorem takeIn_push_of_command (e : Engine α) (i : Osc.Inbox α) {m : Osc.Message α}
    (hvalue : ¬ Audio.isValueAddress m.address) (hreset : m.address ≠ Audio.Address.reset) :
    e.takeIn (i.push m) = (Keyed.values i.audio).foldl hear
      ((e.takeIn { i with audio := [] }).handle m).1 := by
  simp [takeIn, Osc.Inbox.push, hvalue, Osc.Inbox.pushCommand, Osc.Inbox.drain, hreset,
    Keyed.values]

/-- To wait makes no difference for an audio value: what it overwrites need not be heard. -/
theorem alike_hear_erase (e : Engine α) {i : Osc.Inbox α} (hi : i.Filed) {m : Osc.Message α}
    (hm : m.IsUsable) (hvalue : Audio.isValueAddress m.address) :
    ((e.takeIn { i with audio := Keyed.erase m.address i.audio }).hear m).Alike
      ((e.takeIn i).hear m) := by
  obtain ⟨ws, hws⟩ := hm.writes hvalue
  rw [takeIn_eq, takeIn_eq e i, foldl_hear, foldl_hear]
  refine ⟨_, rfl, ?_⟩
  have hbut := Audio.Extractor.alikeBut_erase m.address i.audio hi
    (.refl _ (e.takeIn { i with audio := [] }).session.extractor)
  rw [← Audio.names_of_writes hws] at hbut
  have hover := hbut.overwritten
  rw [← Audio.Extractor.ingest_of_writes _ hvalue hws,
    ← Audio.Extractor.ingest_of_writes _ hvalue hws] at hover
  exact hover

/-- To wait makes no difference for a reset, after which no audio value from before counts. -/
theorem alike_handle_reset (c : Engine α) {ms : List (Osc.Message α)}
    (hms : ∀ n ∈ ms, Audio.isValueAddress n.address) {m : Osc.Message α}
    (hreset : m.address = Audio.Address.reset) :
    (c.handle m).1.Alike ((ms.foldl hear c).handle m).1 := by
  rw [foldl_hear, handle_of_reset _ hreset, handle_of_reset _ hreset]
  refine ⟨c.session.extractor.reset, ?_, .refl _⟩
  have hforgotten := Audio.Extractor.reset_ingestAll c.session.extractor ms hms
  simp only [obey, attune, mapSession, note, emit, hforgotten]

/-- Any other command has nothing to do with hearing, before or after it. -/
theorem foldl_hear_handle (c : Engine α) (ms : List (Osc.Message α)) {m : Osc.Message α}
    (hreset : m.address ≠ Audio.Address.reset) :
    ms.foldl hear (c.handle m).1 = ((ms.foldl hear c).handle m).1 := by
  have hdeaf : (Event.control m).isDeaf := by simpa [Event.isDeaf] using hreset
  obtain ⟨hextractor, hinbox⟩ := hearing_step c _ hdeaf
  rw [foldl_hear, foldl_hear, handle_attune _ _ _ hreset]
  rw [show (c.handle m).1.session.extractor = c.session.extractor from hextractor,
    show (c.handle m).1.inbox = c.inbox from hinbox]

/-- To wait makes no difference for one message. -/
theorem alike_takeIn_push (e : Engine α) {i : Osc.Inbox α} (hi : i.Filed) {m : Osc.Message α}
    (hm : m.IsUsable) : (e.takeIn (i.push m)).Alike ((e.takeIn i).deliver m) := by
  by_cases hvalue : Audio.isValueAddress m.address
  · rw [deliver, if_pos hvalue, takeIn_push_of_value e i hvalue]
    exact alike_hear_erase e hi hm hvalue
  · rw [deliver, if_neg hvalue, takeIn_eq e i]
    by_cases hreset : m.address = Audio.Address.reset
    · have hfiled : ∀ n ∈ Keyed.values i.audio, Audio.isValueAddress n.address := by
        intro n hn
        obtain ⟨f, hf, rfl⟩ := List.mem_map.mp hn
        exact (hi f hf).2.1
      rw [takeIn_push_of_reset e i hreset]
      exact alike_handle_reset _ hfiled hreset
    · rw [takeIn_push_of_command e i hvalue hreset, foldl_hear_handle _ _ hreset]
      exact .refl _

/-- To wait makes no difference for any number of messages. -/
theorem alike_takeIn (e : Engine α) (ms : List (Osc.Message α)) (hms : ∀ m ∈ ms, m.IsUsable) :
    (e.takeIn (ms.foldl Osc.Inbox.push .empty)).Alike (ms.foldl deliver e) := by
  have hall : (ms.foldl Osc.Inbox.push (.empty : Osc.Inbox α)).Filed ∧
      (e.takeIn (ms.foldl Osc.Inbox.push .empty)).Alike (ms.foldl deliver e) := by
    induction ms using List.reverseRecOn with
    | nil => exact ⟨Osc.Inbox.filed_empty, .refl e⟩
    | append_singleton ms m ih =>
        have hm : m.IsUsable := hms m (by simp)
        obtain ⟨hfiled, halike⟩ := ih fun n hn => hms n (List.mem_append_left _ hn)
        simp only [List.foldl_append, List.foldl_cons, List.foldl_nil]
        refine ⟨hfiled.push hm, (alike_takeIn_push e hfiled hm).trans ?_⟩
        unfold deliver
        split
        · exact halike.hear m
        · exact halike.handle m
  exact hall.2

/-- Carrying out a message leaves those that wait alone. -/
theorem inbox_handle (e : Engine α) (m : Osc.Message α) : (e.handle m).1.inbox = e.inbox := by
  by_cases hm : m.address = Audio.Address.reset
  · rw [handle_of_reset e hm]
    rfl
  · exact (hearing_step e (.control m) (by simpa [Event.isDeaf] using hm)).2

omit [Scalar α] in
/-- What leaves the messages that wait alone does so any number of times. -/
theorem inbox_foldl {f : Engine α → Osc.Message α → Engine α}
    (hf : ∀ (e : Engine α) m, (f e m).inbox = e.inbox) (e : Engine α)
    (ms : List (Osc.Message α)) : (ms.foldl f e).inbox = e.inbox := by
  induction ms generalizing e with
  | nil => rfl
  | cons m ms ih => exact (ih _).trans (hf e m)

theorem inbox_deliver (e : Engine α) (m : Osc.Message α) : (e.deliver m).inbox = e.inbox := by
  unfold deliver
  split
  · rfl
  · exact inbox_handle e m

/-- After a tick has taken in the messages that wait, none waits. -/
theorem inbox_drain (e : Engine α) : e.drain.inbox = .empty :=
  (inbox_foldl (f := hear) (fun _ _ => rfl) _ _).trans (inbox_foldl inbox_handle _ _)

theorem inbox_prepare (e : Engine α) (dt : α) : (e.prepare dt).1.inbox = .empty := by
  refine Eq.trans ?_ (inbox_drain e)
  show (e.drain.mapSession _).beginReload.inbox = e.drain.inbox
  unfold beginReload
  split <;> rfl

theorem inbox_conclude (e : Engine α) (dt : α) (values : Option (UniformValues α)) :
    (e.conclude dt values).inbox = e.inbox := by
  cases values <;> rfl

/-- Where no message waits nothing is taken in. -/
theorem drain_of_empty (e : Engine α) (h : e.inbox = .empty) : e.drain = e := by
  rw [drain_eq_takeIn, h]
  show ({ e with inbox := .empty } : Engine α) = e
  rw [← h]

end Engine

/-! ## Runs -/

namespace Performance

/-- The messages that wait after an event, if some waited before. -/
def wait (ms : List (Osc.Message α)) : Engine.Event α → List (Osc.Message α)
  | .receive m => ms ++ [m]
  | .tick _ | .brokenTick _ => []
  | _ => ms

/-- The messages that have come since the last tick, in order. -/
def waiting (xs : List (Engine.Event α)) : List (Osc.Message α) := xs.foldl wait []

/-- In a run messages wait as they have come. -/
theorem inbox_run (shaderRoot : String) (xs : List (Engine.Event α)) :
    (run shaderRoot xs).engine.inbox = (waiting xs).foldl Osc.Inbox.push .empty := by
  induction xs using List.reverseRecOn with
  | nil => rfl
  | append_singleton xs x ih =>
      have hwaiting : waiting (xs ++ [x]) = wait (waiting xs) x := by simp [waiting]
      rw [run_concat, hwaiting]
      show ((run shaderRoot xs).engine.step x).inbox = _
      cases x with
      | tick dt =>
          exact (Engine.inbox_conclude _ dt _).trans (Engine.inbox_prepare _ dt)
      | brokenTick dt => exact Engine.inbox_prepare _ dt
      | receive m =>
          show (run shaderRoot xs).engine.inbox.push m = _
          simp [wait, ih]
      | control m => exact (Engine.inbox_handle _ m).trans ih
      | _ => exact ((Engine.hearing_step _ _ rfl).2).trans ih

/-- Performances whose engines are alike and that have asked for the same stay so, whatever
happens. -/
theorem alike_foldl {p q : Performance α} (h : p.engine.Alike q.engine)
    (hasked : p.asked = q.asked) (ys : List (Engine.Event α)) :
    (ys.foldl step p).engine.Alike (ys.foldl step q).engine ∧
      (ys.foldl step p).asked = (ys.foldl step q).asked := by
  induction ys generalizing p q with
  | nil => exact ⟨h, hasked⟩
  | cons y ys ih =>
      obtain ⟨x, hx, hheard⟩ := h.step y
      refine ih (p := p.step y) (q := q.step y) ⟨x, ?_, hheard⟩ ?_
      · simp only [step, hx]
        rfl
      · simp only [step, hx, hasked]
        rfl

/-- A tick is as if the messages that wait were applied one by one, in the order in which they
have come, before it: no raw value, no frame from then on, no binding and no control differs,
nor whether the feed is stale, nor anything that is asked for. -/
theorem drain_eq_delivery (shaderRoot : String) (xs : List (Engine.Event α))
    (hms : ∀ m ∈ waiting xs, m.IsUsable) :
    let p := run shaderRoot xs
    let p' : Performance α :=
      ⟨(waiting xs).foldl Engine.deliver { p.engine with inbox := .empty }, p.asked⟩
    p.engine.drain.Agrees p'.engine ∧
      ∀ dt ys, ((.tick dt :: ys).foldl step p).engine.Agrees
          ((.tick dt :: ys).foldl step p').engine ∧
        ((.tick dt :: ys).foldl step p).asked = ((.tick dt :: ys).foldl step p').asked := by
  intro p p'
  have hdrain : p.engine.drain.Alike p'.engine := by
    rw [Engine.drain_eq_takeIn, inbox_run]
    exact Engine.alike_takeIn _ _ hms
  refine ⟨hdrain.agrees, fun dt ys => ?_⟩
  have hempty : p'.engine.inbox = .empty := Engine.inbox_foldl Engine.inbox_deliver _ _
  have hafter : p.engine.drain.Alike p'.engine.drain := by
    rwa [Engine.drain_of_empty p'.engine hempty]
  have htick := hafter.tick_of_drain dt
  obtain ⟨x, hx, hheard⟩ := htick.1
  have hlater := alike_foldl (p := p.step (.tick dt)) (q := p'.step (.tick dt))
    ⟨x, ?_, hheard⟩ ?_ ys
  · exact ⟨hlater.1.agrees, hlater.2⟩
  · show (p'.engine.tick dt).1.dispatched = _
    rw [hx]
    rfl
  · show p.asked ++ (p.engine.tick dt).1.outbox = p.asked ++ (p'.engine.tick dt).1.outbox
    rw [hx]
    rfl

/-- Levels that come together, a reset among them, and one that comes again by itself. -/
theorem drain_eq_delivery_around_reset :
    let all (on : Bool) : Engine.Event Float :=
      .receive ⟨Audio.Address.levels, List.replicate 8 (.bool on)⟩
    let bass (on : Bool) : Engine.Event Float := .receive ⟨Audio.Address.bass, [.bool on]⟩
    let xs := [bass true, all true, .receive ⟨Audio.Address.reset, []⟩, all false, bass true,
      all true]
    let p := run "shaders" xs
    (∀ m ∈ waiting xs, m.IsUsable) ∧
      p.engine.drain.Agrees
        ((waiting xs).foldl Engine.deliver { p.engine with inbox := .empty }) := by
  intro all bass xs p
  have hms : ∀ m ∈ waiting xs, m.IsUsable := by
    intro m hm
    simp only [waiting, xs, all, bass, List.foldl, wait, List.nil_append, List.cons_append,
      List.mem_cons, List.not_mem_nil, or_false] at hm
    rcases hm with rfl | rfl | rfl | rfl | rfl | rfl
    all_goals intro hvalue
    case inr.inr.inl => simp at hvalue
    all_goals rfl
  exact ⟨hms, (drain_eq_delivery "shaders" xs hms).1⟩

end Performance

end LiveVisuals
