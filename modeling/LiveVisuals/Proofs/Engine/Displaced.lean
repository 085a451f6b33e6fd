import LiveVisuals.Proofs.Engine.Delivery
import LiveVisuals.Proofs.Scalar.Exact

/-!
# Values that cannot be used

An audio value that cannot be used is rejected when a tick hears it. Until then it waits like any
other, and so it takes the place of the value of its address that waited before it. If that one
could be used, it is lost. In all other cases a rejected value might as well not have come: where
none waited that could be used, or where another message to the same address, or a reset, comes
before the next tick and would have discarded the value in any case.

Main definitions:

- {lit}`Osc.Inbox.audible`: an inbox with the values only that can be used.
- {lit}`Osc.Inbox.discard`: an inbox without the values of an address.
- {lit}`Osc.Message.Displaces`: a message takes the place of a value that can be used.
- {lit}`Engine.renews`: before the next tick, what waits under an address is discarded.
- {lit}`Engine.HearsLike`: engines at which the same values wait, as far as they can be used.

Main results:

- Theorem {lit}`Osc.Message.not_isUsable_iff`: which values are rejected.
- Theorems {lit}`Osc.Inbox.audible_push`, {lit}`Osc.Inbox.audible_push_of_renewal`: to push a
  message does the same to inboxes with the same audible values.
- Theorem {lit}`Osc.Inbox.audible_push_of_not_isUsable`: all that a rejected value does is to
  discard what waits at its address.
- Theorem {lit}`Engine.HearsLike.step`: engines that hear alike go on alike.
- Theorem {lit}`Performance.rejected_value_spares`: when a rejected value changes nothing.
- Theorem {lit}`Performance.rejected_value_displaces`: when it does.
-/

namespace LiveVisuals

variable {α : Type} [Scalar α]

/-! ## Rejected values -/

instance (m : Osc.Message α) : Decidable m.IsUsable :=
  inferInstanceAs (Decidable (_ = true → _ = true))

/-- Items are not all read if and only if one of them cannot be read. -/
theorem mapM_eq_none_iff {β γ : Type} {read : β → Option γ} {items : List β} :
    items.mapM read = none ↔ ∃ item ∈ items, read item = none := by
  induction items with
  | nil => simp
  | cons item items ih =>
      rw [List.mapM_cons]
      simp only [List.mem_cons, exists_eq_or_imp, ← ih]
      cases read item with
      | none => simp
      | some x => cases items.mapM read <;> simp

/-- Items that are all read are read as so many. -/
theorem length_of_mapM {β γ : Type} {read : β → Option γ} {items : List β} {xs : List γ}
    (h : items.mapM read = some xs) : xs.length = items.length := by
  induction items generalizing xs with
  | nil =>
      rw [List.mapM_nil] at h
      cases h
      rfl
  | cons item items ih =>
      simp only [List.mapM_cons, Option.bind_eq_bind, Option.bind_eq_some_iff] at h
      obtain ⟨x, -, rest, hrest, hxs⟩ := h
      cases hxs
      exact congrArg Nat.succ (ih hrest)

/-- Rejected are values without a usable number in front, and levels of which fewer than eight come
or any cannot be used. -/
theorem Osc.Message.not_isUsable_iff {m : Osc.Message α} :
    ¬m.IsUsable ↔ Audio.isValueAddress m.address = true ∧
      if m.address = Audio.Address.levels then
        m.args.length < 8 ∨ ∃ arg ∈ m.args, Audio.usable? arg = none
      else m.args.head?.bind Audio.usable? = none := by
  rw [IsUsable, Classical.not_imp]
  refine and_congr_right fun hvalue => ?_
  rw [Audio.Extractor.isSome_ingest? _ _ hvalue, Option.not_isSome_iff_eq_none, Audio.writes?]
  split
  · rw [← mapM_eq_none_iff]
    cases hread : m.args.mapM Audio.usable? with
    | none => simp
    | some xs =>
        rw [← length_of_mapM hread]
        rcases xs with _ | ⟨_, _ | ⟨_, _ | ⟨_, _ | ⟨_, _ | ⟨_, _ | ⟨_, _ | ⟨_, _ | _⟩⟩⟩⟩⟩⟩⟩ <;> simp
  · rw [Option.map_eq_none_iff]

/-- Nobody hears a rejected value. -/
theorem Engine.hear_of_not_isUsable (e : Engine α) {m : Osc.Message α} (h : ¬m.IsUsable) :
    e.hear m = e := by
  rw [Osc.Message.IsUsable, Classical.not_imp] at h
  obtain ⟨hvalue, hnone⟩ := h
  rw [Audio.Extractor.isSome_ingest? _ _ hvalue, Option.not_isSome_iff_eq_none] at hnone
  have hsame : e.session.extractor.ingest m.address m.args = e.session.extractor := by
    simp [Audio.Extractor.ingest, Audio.Extractor.ingest?_eq _ m.args hvalue, hnone]
  rw [hear, mapSession, hsame]

/-! ## What waits and can be used -/

namespace Osc

namespace Inbox

/-- An inbox with the values only that can be used, those of one address perhaps excepted. -/
def audible (but : Option String) (i : Inbox α) : Inbox α :=
  { i with audio := i.audio.filter fun f => f.2.IsUsable ∧ but ≠ some f.1 }

/-- Removing a name before and after a selection is the same as removing it afterwards. -/
theorem filter_erase_filter {β : Type} (p : String × β → Bool) (key : String) (t : Keyed β) :
    (Keyed.erase key (t.filter p)).filter p = (Keyed.erase key t).filter p := by
  simp only [Keyed.erase, List.filter_filter]
  refine List.filter_congr fun f _ => ?_
  cases p f <;> simp

/-- To push a message does the same to inboxes with the same audible values. -/
theorem audible_push (but : Option String) (i : Inbox α) (m : Message α) :
    ((i.audible but).push m).audible but = (i.push m).audible but := by
  unfold push
  split
  · simp only [audible, pushAudio, List.filter_append, filter_erase_filter]
  · simp only [audible, pushCommand]
    split
    · rfl
    · simp

/-- A message to an address, or a reset, discards what waits there. -/
theorem audible_push_of_renewal {address : String} (haddress : Audio.isValueAddress address = true)
    (i : Inbox α) {m : Message α} (h : m.address = address ∨ m.address = Audio.Address.reset) :
    ((i.audible (some address)).push m).audible none = (i.push m).audible none := by
  rcases h with rfl | hreset
  · simp only [push, haddress, if_true, pushAudio, audible, List.filter_append, Keyed.erase,
      List.filter_filter]
    congr 2
    refine List.filter_congr fun f _ => ?_
    by_cases hf : f.1 = m.address
    · simp [hf]
    · simp [hf, Ne.symm hf]
  · simp [push, hreset, pushCommand, audible]

/-- An inbox without the values of an address. -/
def discard (address : String) (i : Inbox α) : Inbox α :=
  { i with audio := Keyed.erase address i.audio }

/-- A rejected value does nothing but discard what waits at its address. -/
theorem audible_push_of_not_isUsable (i : Inbox α) {m : Message α} (hm : ¬m.IsUsable) :
    (i.push m).audible none = (i.discard m.address).audible none := by
  have hvalue : Audio.isValueAddress m.address = true := (Message.not_isUsable_iff.mp hm).1
  simp [push, hvalue, pushAudio, audible, discard, hm]

/-- A value that is not audible changes nothing where none waits that is. -/
theorem audible_push_of_value {but : Option String} {i : Inbox α} {m : Message α}
    (hvalue : Audio.isValueAddress m.address = true) (hm : ¬(m.IsUsable ∧ but ≠ some m.address))
    (hi : ∀ f ∈ i.audio, f.1 = m.address → ¬(f.2.IsUsable ∧ but ≠ some f.1)) :
    (i.push m).audible but = i.audible but := by
  have hnone : [(m.address, m)].filter (fun f => f.2.IsUsable ∧ but ≠ some f.1) = [] := by
    simpa using hm
  simp only [push, hvalue, if_true, pushAudio, audible, List.filter_append, Keyed.erase,
    List.filter_filter, hnone, List.append_nil]
  congr 1
  refine List.filter_congr fun f hf => ?_
  by_cases haddress : f.1 = m.address
  · simpa [haddress] using hi f hf haddress
  · simp [haddress]

omit [Scalar α] in
/-- A value that waits has come, and since then no other to its address, and no reset. -/
theorem exists_of_mem_audio {ms : List (Message α)} {f : String × Message α}
    (h : f ∈ (ms.foldl push .empty).audio) :
    f.1 = f.2.address ∧ Audio.isValueAddress f.1 = true ∧ ∃ ks ls, ms = ks ++ f.2 :: ls ∧
      ∀ l ∈ ls, l.address ≠ f.1 ∧ l.address ≠ Audio.Address.reset := by
  induction ms using List.reverseRecOn with
  | nil => cases h
  | append_singleton ms m ih =>
      simp only [List.foldl_append, List.foldl_cons, List.foldl_nil, push] at h
      -- one that waited before goes on to wait if nothing discards it
      have hold (hf : f ∈ (ms.foldl push .empty).audio) (haddress : m.address ≠ f.1)
          (hreset : m.address ≠ Audio.Address.reset) :
          f.1 = f.2.address ∧ Audio.isValueAddress f.1 = true ∧ ∃ ks ls,
            ms ++ [m] = ks ++ f.2 :: ls ∧
              ∀ l ∈ ls, l.address ≠ f.1 ∧ l.address ≠ Audio.Address.reset := by
        obtain ⟨hfiled, hvalue, ks, ls, rfl, hls⟩ := ih hf
        refine ⟨hfiled, hvalue, ks, ls ++ [m], by simp, fun l hl => ?_⟩
        rcases List.mem_append.mp hl with hl | hl
        · exact hls l hl
        · rw [List.mem_singleton.mp hl]
          exact ⟨haddress, hreset⟩
      split at h
      · next hvalue =>
          rcases List.mem_append.mp h with h | h
          · obtain ⟨hf, hne⟩ := List.mem_filter.mp h
            refine hold hf (Ne.symm (of_decide_eq_true hne)) fun hreset => ?_
            rw [hreset, Audio.isValueAddress_reset] at hvalue
            cases hvalue
          · obtain rfl := List.mem_singleton.mp h
            exact ⟨rfl, hvalue, ms, [], rfl, by simp⟩
      · next hvalue =>
          simp only [pushCommand] at h
          split at h
          · cases h
          · next hreset =>
              refine hold h (fun heq => hvalue ?_) hreset
              rw [heq]
              exact (ih h).2.1

end Inbox

/-- A message that comes after some others takes the place of a value that can be used. -/
def Message.Displaces (m : Message α) (ms : List (Message α)) : Prop :=
  ∃ ks n ls, ms = ks ++ n :: ls ∧ n.address = m.address ∧ n.IsUsable ∧
    ∀ l ∈ ls, l.address ≠ m.address ∧ l.address ≠ Audio.Address.reset

end Osc

/-! ## Engines -/

namespace Engine

/-- Only what can be used is taken in. -/
theorem takeIn_audible (e : Engine α) (i : Osc.Inbox α) :
    e.takeIn (i.audible none) = e.takeIn i := by
  have hhear (t : Keyed (Osc.Message α)) (e : Engine α) :
      (Keyed.values (t.filter fun f => f.2.IsUsable ∧ none ≠ some f.1)).foldl hear e =
        (Keyed.values t).foldl hear e := by
    induction t generalizing e with
    | nil => rfl
    | cons f t ih =>
        by_cases hf : f.2.IsUsable
        · rw [List.filter_cons_of_pos (by simpa using hf)]
          exact ih _
        · rw [List.filter_cons_of_neg (by simpa using hf)]
          refine (ih e).trans ?_
          exact congrArg (fun e => (Keyed.values t).foldl hear e) (e.hear_of_not_isUsable hf).symm
  exact hhear i.audio _

/-- Engines that are the same but for messages that wait. These are the same as far as they can be
used, those of one address perhaps excepted. -/
def HearsLike (but : Option String) (e e' : Engine α) : Prop :=
  ∃ i, e' = { e with inbox := i } ∧ i.audible but = e.inbox.audible but

namespace HearsLike

variable {but : Option String} {e e' : Engine α}

theorem refl (but : Option String) (e : Engine α) : HearsLike but e e := ⟨e.inbox, rfl, rfl⟩

theorem agrees (h : HearsLike but e e') : e.Agrees e' := by
  obtain ⟨i, rfl, -⟩ := h
  exact ⟨fun _ => rfl, rfl, rfl, rfl, rfl⟩

theorem outbox (h : HearsLike but e e') : e'.outbox = e.outbox := by
  obtain ⟨i, rfl, -⟩ := h
  rfl

theorem dispatched (h : HearsLike but e e') : HearsLike but e.dispatched e'.dispatched := by
  obtain ⟨i, rfl, hi⟩ := h
  exact ⟨i, rfl, hi⟩

theorem receive (h : HearsLike but e e') (m : Osc.Message α) :
    HearsLike but (e.receive m) (e'.receive m) := by
  obtain ⟨i, rfl, hi⟩ := h
  refine ⟨i.push m, rfl, ?_⟩
  rw [← Osc.Inbox.audible_push, hi, Osc.Inbox.audible_push]
  rfl

/-- What discards the values of an address makes up for what differs there. -/
theorem receive_of_renewal {address : String} (h : HearsLike (some address) e e')
    (haddress : Audio.isValueAddress address = true) {m : Osc.Message α}
    (hm : m.address = address ∨ m.address = Audio.Address.reset) :
    HearsLike none (e.receive m) (e'.receive m) := by
  obtain ⟨i, rfl, hi⟩ := h
  refine ⟨i.push m, rfl, ?_⟩
  rw [← Osc.Inbox.audible_push_of_renewal haddress i hm, hi,
    Osc.Inbox.audible_push_of_renewal haddress _ hm]
  rfl

/-- Deaf events leave the messages that wait alone. -/
theorem step_of_isDeaf (h : HearsLike but e e') {x : Event α} (hx : x.isDeaf) :
    HearsLike but (e.step x) (e'.step x) := by
  obtain ⟨i, rfl, hi⟩ := h
  have hother := step_attune e e.session.extractor i hx
  obtain ⟨hextractor, hinbox⟩ := hearing_step e x hx
  refine ⟨i, hother.trans ?_, hinbox ▸ hi⟩
  rw [attune, ← hextractor]

theorem handle (h : HearsLike but e e') (m : Osc.Message α) :
    HearsLike but (e.handle m).1 (e'.handle m).1 := by
  by_cases hm : m.address = Audio.Address.reset
  · obtain ⟨i, rfl, hi⟩ := h
    rw [handle_of_reset e hm, handle_of_reset _ hm]
    exact ⟨i, rfl, hi⟩
  · exact h.step_of_isDeaf (x := .control m) (by simpa [Event.isDeaf] using hm)

/-- Engines that hear alike take in the same. -/
theorem drain_eq (h : HearsLike none e e') : e'.drain = e.drain := by
  obtain ⟨i, rfl, hi⟩ := h
  rw [drain_eq_takeIn, drain_eq_takeIn, ← takeIn_audible, hi, takeIn_audible]

theorem prepare_eq (h : HearsLike none e e') (dt : α) : e'.prepare dt = e.prepare dt := by
  unfold prepare
  rw [h.drain_eq]

/-- Engines that hear alike go on alike. -/
theorem step (h : HearsLike none e e') (x : Event α) : HearsLike none (e.step x) (e'.step x) := by
  cases x with
  | tick dt =>
      have htick : e'.tick dt = e.tick dt := by rw [tick, tick, h.prepare_eq]
      simp only [Engine.step, htick]
      exact refl none _
  | brokenTick dt =>
      simp only [Engine.step, h.prepare_eq]
      exact refl none _
  | receive m => exact h.receive m
  | control m => exact h.handle m
  | _ => exact h.step_of_isDeaf rfl

end HearsLike

/-- Whether, before a tick comes, another message comes to an address, or a reset does. -/
def renews (address : String) : List (Event α) → Bool
  | [] => true
  | .receive m :: xs =>
      m.address == address || m.address == Audio.Address.reset || renews address xs
  | .tick _ :: _ | .brokenTick _ :: _ => false
  | _ :: xs => renews address xs

end Engine

/-! ## Runs -/

namespace Performance

/-- Performances whose engines hear alike and that have asked for the same. -/
def HearsLike (but : Option String) (p p' : Performance α) : Prop :=
  p.engine.HearsLike but p'.engine ∧ p'.asked = p.asked

namespace HearsLike

variable {but : Option String} {p p' : Performance α}

/-- What engines keep from event to event performances keep. -/
theorem of_step {but' : Option String} (h : p.HearsLike but p') {x : Engine.Event α}
    (hstep : (p.engine.step x).HearsLike but' (p'.engine.step x)) :
    (p.step x).HearsLike but' (p'.step x) := by
  refine ⟨hstep.dispatched, ?_⟩
  rw [step, step, hstep.outbox, h.2]

/-- Performances that hear alike go on alike. -/
theorem foldl (h : p.HearsLike none p') (xs : List (Engine.Event α)) :
    (xs.foldl step p).HearsLike none (xs.foldl step p') := by
  induction xs generalizing p p' with
  | nil => exact h
  | cons x xs ih => exact ih (h.of_step (h.1.step x))

/-- What waits under one address makes no difference if it is discarded before a tick comes. -/
theorem foldl_of_renews {address : String} (haddress : Audio.isValueAddress address = true)
    (h : p.HearsLike (some address) p') {xs : List (Engine.Event α)}
    (hxs : Engine.renews address xs = true) :
    ∃ but, (xs.foldl step p).HearsLike but (xs.foldl step p') := by
  induction xs generalizing p p' with
  | nil => exact ⟨some address, h⟩
  | cons x xs ih =>
      cases x with
      | receive m =>
          by_cases hm : m.address = address ∨ m.address = Audio.Address.reset
          · have hsame := h.of_step (x := .receive m) (h.1.receive_of_renewal haddress hm)
            exact ⟨none, hsame.foldl xs⟩
          · rw [not_or] at hm
            refine ih (h.of_step (x := .receive m) (h.1.receive m)) ?_
            simpa [Engine.renews, hm.1, hm.2] using hxs
      | tick dt => cases hxs
      | brokenTick dt => cases hxs
      | control m => exact ih (h.of_step (x := .control m) (h.1.handle m)) hxs
      | _ => exact ih (h.of_step (h.1.step_of_isDeaf rfl)) hxs

end HearsLike

/-- Between ticks a message only joins those that wait. -/
theorem step_receive (shaderRoot : String) (us : List (Engine.Event α)) (m : Osc.Message α) :
    (run shaderRoot us).step (.receive m) =
      ⟨(run shaderRoot us).engine.receive m, (run shaderRoot us).asked⟩ := by
  simp [step, Engine.step, Engine.receive, Engine.dispatched]

/-- A rejected value is not noticed if it displaces none that can be used, or if what waits at its
address is discarded before a tick comes. -/
theorem hearsLike_insert (shaderRoot : String) (us vs : List (Engine.Event α)) {m : Osc.Message α}
    (hm : ¬m.IsUsable)
    (hspared : ¬m.Displaces (waiting us) ∨ Engine.renews m.address vs = true) :
    ∃ but, (run shaderRoot (us ++ vs)).HearsLike but (run shaderRoot (us ++ .receive m :: vs)) := by
  have hvalue : Audio.isValueAddress m.address = true := (Osc.Message.not_isUsable_iff.mp hm).1
  have hinsert : run shaderRoot (us ++ .receive m :: vs) =
      vs.foldl step ((run shaderRoot us).step (.receive m)) := by
    simp [run]
  have hwithout : run shaderRoot (us ++ vs) = vs.foldl step (run shaderRoot us) := by simp [run]
  rw [hinsert, hwithout, step_receive]
  rcases hspared with hnew | hrenews
  · have hlike : (run shaderRoot us).HearsLike none
        ⟨(run shaderRoot us).engine.receive m, (run shaderRoot us).asked⟩ := by
      refine ⟨⟨_, rfl, Osc.Inbox.audible_push_of_value hvalue (fun h => hm h.1) ?_⟩, rfl⟩
      intro f hf haddress husable
      rw [inbox_run] at hf
      obtain ⟨hfiled, -, ks, ls, hms, hls⟩ := Osc.Inbox.exists_of_mem_audio hf
      rw [haddress] at hls
      exact hnew ⟨ks, f.2, ls, hms, hfiled.symm.trans haddress, husable.1, hls⟩
    exact ⟨none, hlike.foldl vs⟩
  · have hlike : (run shaderRoot us).HearsLike (some m.address)
        ⟨(run shaderRoot us).engine.receive m, (run shaderRoot us).asked⟩ :=
      ⟨⟨_, rfl, Osc.Inbox.audible_push_of_value hvalue (fun h => h.2 rfl)
        fun f _ haddress h => h.2 (haddress ▸ rfl)⟩, rfl⟩
    exact hlike.foldl_of_renews hvalue hrenews

/-- A performance at which no value to an address waits. -/
def discard (address : String) (p : Performance α) : Performance α :=
  { p with engine := { p.engine with inbox := p.engine.inbox.discard address } }

/-- A rejected value does nothing but discard what waits at its address. -/
theorem hearsLike_discard (shaderRoot : String) (us vs : List (Engine.Event α)) {m : Osc.Message α}
    (hm : ¬m.IsUsable) : (vs.foldl step ((run shaderRoot us).discard m.address)).HearsLike none
      (run shaderRoot (us ++ .receive m :: vs)) := by
  have hinsert : run shaderRoot (us ++ .receive m :: vs) =
      vs.foldl step ((run shaderRoot us).step (.receive m)) := by
    simp [run]
  have hlike : ((run shaderRoot us).discard m.address).HearsLike none
      ⟨(run shaderRoot us).engine.receive m, (run shaderRoot us).asked⟩ :=
    ⟨⟨_, rfl, (run shaderRoot us).engine.inbox.audible_push_of_not_isUsable hm⟩, rfl⟩
  rw [hinsert, step_receive]
  exact hlike.foldl vs

/-- A rejected value has no effect of its own. Audio values are rejected if no usable number stands
in front, and levels if fewer than eight come or any cannot be used. A rejected value that comes at
any point of a run changes no frame from then on, no raw value, no binding and no control, nor
anything that is asked for, if no value to its address waits that can be used, or if before the next
tick another message comes to its address, or a reset. In any case the run goes on as though no
value to its address waited when it came. -/
theorem rejected_value_spares :
    (∀ m : Osc.Message α, ¬m.IsUsable ↔ Audio.isValueAddress m.address = true ∧
      if m.address = Audio.Address.levels then
        m.args.length < 8 ∨ ∃ arg ∈ m.args, Audio.usable? arg = none
      else m.args.head?.bind Audio.usable? = none) ∧
    ∀ (shaderRoot : String) (us vs : List (Engine.Event α)) (m : Osc.Message α), ¬m.IsUsable →
      let without := run shaderRoot (us ++ vs)
      let inserted := run shaderRoot (us ++ .receive m :: vs)
      let discarded := vs.foldl step ((run shaderRoot us).discard m.address)
      (¬m.Displaces (waiting us) ∨ Engine.renews m.address vs = true →
        without.engine.Agrees inserted.engine ∧ inserted.asked = without.asked) ∧
      discarded.engine.Agrees inserted.engine ∧ inserted.asked = discarded.asked := by
  refine ⟨fun m => Osc.Message.not_isUsable_iff, ?_⟩
  intro shaderRoot us vs m hm without inserted discarded
  constructor
  · intro hspared
    obtain ⟨but, hlike, hasked⟩ := hearsLike_insert shaderRoot us vs hm hspared
    exact ⟨hlike.agrees, hasked⟩
  · obtain ⟨hlike, hasked⟩ := hearsLike_discard shaderRoot us vs hm
    exact ⟨hlike.agrees, hasked⟩

/-- Levels of which only two come leave the bass alone that waits, and a bass that is no number
leaves the one alone that comes after it. -/
theorem rejected_value_spares_of_noise :
    let short : Osc.Message (Exact ℚ) := ⟨Audio.Address.levels, [.bool true, .bool true]⟩
    let loud : Osc.Message (Exact ℚ) := ⟨Audio.Address.bass, [.str "loud"]⟩
    let bass (x : Exact ℚ) : Engine.Event (Exact ℚ) := .receive ⟨Audio.Address.bass, [.num x]⟩
    let us := [bass 1.0]
    let vs := [bass 0.5, .tick 0.05]
    ¬short.IsUsable ∧ ¬short.Displaces (waiting us) ∧
      (run "shaders" (us ++ vs)).engine.Agrees (run "shaders" (us ++ .receive short :: vs)).engine ∧
      ¬loud.IsUsable ∧ Engine.renews loud.address vs = true ∧
      (run "shaders" (us ++ vs)).engine.Agrees
        (run "shaders" (us ++ .receive loud :: vs)).engine := by
  intro short loud bass us vs
  have hshort : ¬short.IsUsable := by decide +kernel
  have hloud : ¬loud.IsUsable := by decide +kernel
  have hnew : ¬short.Displaces (waiting us) := by
    rintro ⟨ks, n, ls, hms, haddress, -⟩
    have hn : n ∈ waiting us := hms ▸ List.mem_append_right ks List.mem_cons_self
    obtain rfl := List.mem_singleton.mp hn
    exact absurd haddress (by decide)
  have hspares := (rejected_value_spares (α := Exact ℚ)).2 "shaders" us vs
  exact ⟨hshort, hnew, ((hspares short hshort).1 (.inl hnew)).1, hloud, rfl,
    ((hspares loud hloud).1 (.inr rfl)).1⟩

/-- A bass that is no number displaces the one that waits: the next frame is that of silence. -/
theorem rejected_value_displaces :
    let loud : Osc.Message (Exact ℚ) := ⟨Audio.Address.bass, [.str "loud"]⟩
    let bass : Engine.Event (Exact ℚ) := .receive ⟨Audio.Address.bass, [.num 1.0]⟩
    ¬loud.IsUsable ∧
      (run "shaders" [bass, .tick 0.05]).engine.session.frame.bass = .number 0.2 ∧
      (run "shaders" [bass, .tick 0.05]).engine.session.frame.stale = false ∧
      (run "shaders" [bass, .receive loud, .tick 0.05]).engine.session.frame.bass = .number 0 ∧
      (run "shaders" [bass, .receive loud, .tick 0.05]).engine.session.frame.stale = true := by
  decide +kernel

end Performance

end LiveVisuals
