import LiveVisuals.Proofs.Binding.Edit
import LiveVisuals.Proofs.Engine.Flight

/-!
# Commands change what they name

The address of a message names one part of an engine, in some cases together with the first
argument. A message that is carried out changes this part and no other, and a message that cannot
be carried out leaves a warning on the console at most.

Main definitions:

- {lit}`Part`: the parts that messages name, with {lit}`Part.named?` the one that a message names.
- {lit}`Part.Confined`: how an engine may differ from what it was before.
- {lit}`Command.Aims`: what a command that is understood aims at.

Main results:

- Theorem {lit}`Command.aims_of_message`: a message is understood as a command that aims at what it
  names.
- Theorem {lit}`Engine.confined_of_aims`: a command changes nothing but what it aims at.
- Theorem {lit}`Engine.noteAll_of_refused`: a command without effect changes nothing.
- Theorem {lit}`Engine.confined_handle`: a message changes no more than it names.
-/

namespace LiveVisuals

variable {α : Type}

namespace Keyed

variable {β : Type}

/-- A put leaves the other entries, in order. -/
@[simp] theorem erase_put (key : String) (value : β) (t : Keyed β) :
    erase key (put key value t) = erase key t := by
  induction t with
  | nil => simp [put, erase]
  | cons e t ih =>
      obtain ⟨k, v⟩ := e
      by_cases hk : k = key
      · simp [put, erase, hk]
      · simpa [put, erase, hk] using ih

/-- Removing a name twice is the same as once. -/
@[simp] theorem erase_erase (key : String) (t : Keyed β) :
    erase key (erase key t) = erase key t := by
  simp [erase]

/-- Removing a name that is not there changes nothing. -/
theorem erase_of_not_has {key : String} {t : Keyed β} (h : has key t = false) :
    erase key t = t := by
  apply List.filter_eq_self.mpr
  intro e he
  have hne : e.1 ≠ key := by
    rintro rfl
    have hmem : e.1 ∈ keys t := List.mem_map_of_mem he
    obtain ⟨value, hvalue⟩ := mem_keys_iff.mp hmem
    simp [has, hvalue] at h
  exact decide_eq_true hne

end Keyed

/-! ## Parts -/

/-- The parts of an engine that messages name. -/
inductive Part where
  | extractor
  /-- The binding of a uniform. -/
  | binding (uniform : String)
  /-- All bindings. -/
  | bindings
  | styleBias
  | kickThreshold
  | beatBoostGain
  | toggle (name : String)
  /-- A new activation in the background. -/
  | activation (name : String)
deriving DecidableEq, Repr

namespace Part

/-- The part that a message names. -/
def named? (m : Osc.Message α) : Option Part :=
  match m.address with
  | "/audio/reset" => some extractor
  | "/binding/add" | "/binding/remove" => (argText? m.args[0]?).map binding
  | "/binding/clear" => some bindings
  | "/control/style_bias" => some styleBias
  | "/control/kick_threshold" => some kickThreshold
  | "/control/beat_boost" => some beatBoostGain
  | "/shader/load" => (argText? m.args[0]?).map activation
  | address => (Command.toggleName? address).map toggle

variable [Scalar α]

/-- An engine has become another one that differs from it at most in a part, by notices on the
console, and for a toggle or an activation by the effect that goes with it. -/
def Confined (e e' : Engine α) : Part → Prop
  | extractor =>
      ∃ x ns, e' = (e.mapSession fun s => { s with extractor := x }).noteAll ns
  | binding uniform =>
      ∃ entries,
        Keyed.erase uniform entries = Keyed.erase uniform e.session.bindings.entries ∧
          e' = e.mapSession fun s => { s with bindings := ⟨entries⟩ }
  | bindings => ∃ t, e' = e.mapSession fun s => { s with bindings := t }
  | styleBias =>
      ∃ x, e' = e.mapSession fun s => { s with controls := { s.controls with styleBias := x } }
  | kickThreshold =>
      ∃ x, e' = e.mapSession fun s => { s with controls := { s.controls with kickThreshold := x } }
  | beatBoostGain =>
      ∃ x, e' = e.mapSession fun s => { s with controls := { s.controls with beatBoostGain := x } }
  | toggle name =>
      ∃ toggles enabled,
        Keyed.erase name toggles = Keyed.erase name e.session.controls.toggles ∧
          e' = (e.mapSession fun s =>
            { s with controls := { s.controls with toggles := toggles } }).emit
              (.toggle name enabled)
  | activation name =>
      ∃ (ns : List Notice) (stage : Stage α) (generation : Nat) (x : Effect α),
        (generation = e.generation ∨ generation = e.generation + 1) ∧
          (x = .resume e.issued ∨ ∃ path, x = .readSource e.issued path) ∧
            e' = { e with
              generation := generation
              issued := e.issued + 1
              activations := e.activations ++ [⟨e.issued, name, .background, stage⟩]
              outbox := e.outbox ++ ns.map .notice ++ [x] }

end Part

/-! ## Commands -/

namespace Command

variable [Scalar α]

/-- What a command aims at. Knobs are turned one at a time, to finite positions. -/
inductive Aims : Command α → Part → Prop where
  | resetAudio : Aims .resetAudio .extractor
  | addBinding (spec : BindingSpec α) : Aims (.addBinding spec) (.binding spec.uniform)
  | removeBinding (uniform : String) : Aims (.removeBinding uniform) (.binding uniform)
  | clearBindings : Aims .clearBindings .bindings
  | styleBias {x : α} (hx : Scalar.isFinite x = true) :
      Aims (.setControls { ControlUpdate.none with styleBias := some x }) .styleBias
  | kickThreshold {x : α} (hx : Scalar.isFinite x = true) :
      Aims (.setControls { ControlUpdate.none with kickThreshold := some x }) .kickThreshold
  | beatBoostGain {x : α} (hx : Scalar.isFinite x = true) :
      Aims (.setControls { ControlUpdate.none with beatBoostGain := some x }) .beatBoostGain
  | loadShader (name : String) (energy valence : Option α) :
      Aims (.loadShader name energy valence) (.activation name)
  | setToggle (name : String) (enabled : Bool) : Aims (.setToggle name enabled) (.toggle name)

/-- The uniform of a binding that is asked for is the first argument. -/
theorem argText?_of_ofArguments? {args : List (Json α)} {spec : BindingSpec α}
    (h : BindingSpec.ofArguments? args = some spec) : argText? args[0]? = some spec.uniform := by
  simp only [BindingSpec.ofArguments?, Option.bind_eq_bind, Option.bind_eq_some_iff] at h
  obtain ⟨uniform, huniform, feature, -, hspec⟩ := h
  cases hspec
  exact huniform

/-- A message is understood as a command that aims at what the message names, unless it asks for a
binding without uniform or feature. -/
theorem aims_of_message {m : Osc.Message α} {c : Command α} (h : ofMessage? m = some c) :
    c = .incompleteBinding ∨ ∃ part, Part.named? m = some part ∧ c.Aims part := by
  unfold ofMessage? at h
  unfold Part.named?
  generalize m.address = address at h ⊢
  split at h
  · cases h
    exact .inr ⟨_, rfl, .resetAudio⟩
  · cases h
    unfold ofBinding
    cases hargs : BindingSpec.ofArguments? m.args with
    | none => exact .inl rfl
    | some spec =>
        have huniform := argText?_of_ofArguments? hargs
        exact .inr ⟨_, congrArg (Option.map Part.binding) huniform, .addBinding spec⟩
  · obtain ⟨uniform, huniform, rfl⟩ := Option.map_eq_some_iff.mp h
    exact .inr ⟨_, congrArg (Option.map Part.binding) huniform, .removeBinding uniform⟩
  · cases h
    exact .inr ⟨_, rfl, .clearBindings⟩
  · obtain ⟨x, hx, rfl⟩ := Option.map_eq_some_iff.mp h
    exact .inr ⟨_, rfl, .styleBias (isFinite_of_argNumber? hx)⟩
  · obtain ⟨x, hx, rfl⟩ := Option.map_eq_some_iff.mp h
    exact .inr ⟨_, rfl, .kickThreshold (isFinite_of_argNumber? hx)⟩
  · obtain ⟨x, hx, rfl⟩ := Option.map_eq_some_iff.mp h
    exact .inr ⟨_, rfl, .beatBoostGain (isFinite_of_argNumber? hx)⟩
  · obtain ⟨name, hname, rfl⟩ := Option.map_eq_some_iff.mp h
    exact .inr ⟨_, congrArg (Option.map Part.activation) hname, .loadShader name _ _⟩
  · obtain ⟨name, hname, rfl⟩ := Option.map_eq_some_iff.mp h
    refine .inr ⟨.toggle name, ?_, .setToggle name _⟩
    simp_all

end Command

/-- A toggle is noted without touching the others, and the knobs stay where they are. -/
theorem ControlState.toggle_eq (c : ControlState α) (name : String) (enabled : Bool) :
    ∃ toggles, Keyed.erase name toggles = Keyed.erase name c.toggles ∧
      c.toggle name enabled = { c with toggles := toggles } := by
  unfold toggle
  split
  · exact ⟨c.toggles, rfl, rfl⟩
  · exact ⟨_, Keyed.erase_put name enabled c.toggles, rfl⟩

namespace Engine

variable [Scalar α]

omit [Scalar α] in
/-- An activation adds itself to those on their way, and asks for what it needs first. -/
theorem activate_eq (e : Engine α) (purpose : Purpose) (name : String) :
    ∃ stage generation x,
      (generation = e.generation ∨ generation = e.generation + 1) ∧
        (x = .resume e.issued ∨ ∃ path, x = .readSource e.issued path) ∧
          e.activate purpose name = { e with
            generation := generation
            issued := e.issued + 1
            activations := e.activations ++ [⟨e.issued, name, purpose, stage⟩]
            outbox := e.outbox ++ [x] } := by
  unfold activate
  split
  · exact ⟨.lost, e.generation, .resume e.issued, .inl rfl, .inl rfl, rfl⟩
  · next d _ =>
      exact ⟨.reading ⟨e.generation + 1, d⟩, e.generation + 1, .readSource e.issued d.path,
        .inr rfl, .inr ⟨d.path, rfl⟩, rfl⟩

/-- A command changes nothing but what it aims at. -/
theorem confined_of_aims (e : Engine α) {c : Command α} {part : Part} (h : c.Aims part) :
    part.Confined e (e.obey c).1 := by
  cases h with
  | resetAudio => exact ⟨_, [_], rfl⟩
  | addBinding spec => exact ⟨_, Keyed.erase_put _ _ _, rfl⟩
  | removeBinding uniform => exact ⟨_, Keyed.erase_erase _ _, rfl⟩
  | clearBindings | styleBias | kickThreshold | beatBoostGain => exact ⟨_, rfl⟩
  | loadShader name energy valence =>
      let ns := Command.hintNotices name energy valence
      obtain ⟨stage, generation, x, hgeneration, hx, heq⟩ :=
        activate_eq (e.noteAll ns) .background name
      rw [noteAll_eq] at hgeneration hx heq
      refine ⟨ns, stage, generation, x, hgeneration, hx, ?_⟩
      rw [obey, noteAll_eq]
      exact heq
  | setToggle name enabled =>
      obtain ⟨toggles, hothers, heq⟩ := e.session.controls.toggle_eq name enabled
      refine ⟨toggles, enabled, hothers, ?_⟩
      simp only [obey, setToggle, mapSession, heq]

/-- A command that had nothing to do leaves an engine as it was, with notices on the console at
most. -/
theorem noteAll_of_refused {e : Engine α} {c : Command α} (h : (e.obey c).2 = false) :
    ∃ ns, (e.obey c).1 = e.noteAll ns := by
  cases c with
  | incompleteBinding => exact ⟨[_], rfl⟩
  | removeBinding uniform =>
      refine ⟨[], ?_⟩
      have hsame : e.session.bindings.remove uniform = e.session.bindings := by
        rw [BindingTable.remove, Keyed.erase_of_not_has h]
      simp [obey, removeBinding, mapSession, hsame, noteAll]
  | resetAudio | addBinding _ | clearBindings | setControls _ | loadShader _ _ _ | setToggle _ _ =>
      cases h

/-- A message that is carried out changes no more than it names, and one that is not leaves an
engine as it was, with notices on the console at most. -/
theorem confined_handle (e : Engine α) (m : Osc.Message α) :
    ((e.handle m).2 = false → ∃ ns, (e.handle m).1 = e.noteAll ns) ∧
      ((e.handle m).2 = true →
        ∃ part, Part.named? m = some part ∧ part.Confined e (e.handle m).1) := by
  unfold handle
  split
  · next c hc =>
      refine ⟨noteAll_of_refused, fun hdone => ?_⟩
      rcases Command.aims_of_message hc with rfl | ⟨part, hnamed, haims⟩
      · cases hdone
      · exact ⟨part, hnamed, confined_of_aims e haims⟩
  · exact ⟨fun _ => ⟨[], rfl⟩, fun h => by cases h⟩

end Engine

end LiveVisuals
