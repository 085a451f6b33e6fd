import LiveVisuals.Proofs.Binding.Settled
import LiveVisuals.Proofs.Engine.Change
import LiveVisuals.Proofs.Engine.Command
import LiveVisuals.Proofs.Scalar.Floating
import LiveVisuals.Proofs.Schema.Accepted
import LiveVisuals.Service.Tool

/-!
# Knobs stay in range

Knobs are turned by messages and by tool calls. Neither of them turns a knob to an undefined
position, and what they ask for is clamped. So in every run the style bias is from -1 to 1 and the
gain of the boost is not negative, in floating point as it is computed.

Main definitions:

- {lit}`Audio.Controls.InRange`: knobs in their ranges.
- {lit}`Engine.Event.Offered`: what may happen, where knobs are turned by tool calls.

Main results:

- Theorem {lit}`ControlState.inRange_update`: turning knobs to defined positions keeps them in
  range.
- Theorem {lit}`ControlUpdate.defined_of_call`: a tool call turns knobs to defined positions.
- Theorem {lit}`Performance.messages_change_what_they_name`: a message changes no more than it
  names, and knobs stay in range in every run.
-/

namespace LiveVisuals

open Scalar

/-! ## Positions -/

/-- Knobs are turned to defined positions, if at all. -/
structure ControlUpdate.Defined {α : Type} [Scalar α] (u : ControlUpdate α) : Prop where
  styleBias : ∀ x ∈ u.styleBias, isUndefined x = false
  kickThreshold : ∀ x ∈ u.kickThreshold, isUndefined x = false
  beatBoostGain : ∀ x ∈ u.beatBoostGain, isUndefined x = false

/-- A tool call turns knobs to defined positions. -/
theorem ControlUpdate.defined_of_call {α : Type} [Scalar α] {v : Option (Json α)}
    {u : ControlUpdate α} (h : Tool.schema .audioConfig v = .accepted (.configure u)) :
    u.Defined := by
  have hknob {conditions : List (Condition α)} {v : Option (Json α)} {x : α}
      (h : Schema.optional (.satisfying .number conditions) v = .accepted (some x)) :
      isUndefined x = false :=
    Schema.defined_of_number
      (Schema.satisfying_eq_accepted.mp (Schema.accepted_of_optional h)).1
  rw [Tool.schema, Schema.object_eq_accepted] at h
  obtain ⟨fs, -, h⟩ := h
  simp only [Tool.controlsSchema, Checked.seq_eq_accepted, Checked.map_eq_accepted, Schema.field,
    Checked.under_eq_accepted] at h
  obtain ⟨_, ⟨_, gain, ⟨_, threshold, ⟨bias, hbias, rfl⟩, hthreshold, rfl⟩, hgain, rfl⟩, hu⟩ := h
  cases hu
  refine ⟨?_, ?_, ?_⟩
  · rintro x rfl
    exact hknob hbias
  · rintro x rfl
    exact hknob hthreshold
  · rintro x rfl
    exact hknob hgain

/-- A message turns knobs to defined positions. -/
theorem Command.Aims.defined {u : ControlUpdate Float} {part : Part}
    (h : (Command.setControls u).Aims part) : u.Defined := by
  cases h with
  | styleBias hx | kickThreshold hx | beatBoostGain hx =>
      have hdefined := isUndefined_of_isFinite hx
      constructor <;> simp [ControlUpdate.none, hdefined]

/-- Knobs in their ranges: the style bias is finite and from -1 to 1, the gain of the boost is not
negative, and all positions are defined. -/
structure Audio.Controls.InRange (c : Audio.Controls Float) : Prop where
  finite : isFinite c.styleBias = true
  lowest : -1.0 ≤ c.styleBias
  highest : c.styleBias ≤ 1.0
  gain : 0.0 ≤ c.beatBoostGain
  defined : ∀ x ∈ [c.styleBias, c.kickThreshold, c.beatBoostGain], isUndefined x = false

/-- Knobs that nobody has touched are in range. -/
theorem Audio.Controls.inRange_default :
    (Audio.Controls.default : Audio.Controls Float).InRange where
  finite := by decide
  lowest := by decide
  highest := by decide
  gain := by decide
  defined := by decide

/-- Turning knobs to defined positions keeps them in range. -/
theorem ControlState.inRange_update {c : ControlState Float} (h : c.toControls.InRange)
    {u : ControlUpdate Float} (hu : u.Defined) : (c.update u).toControls.InRange := by
  have hbias : isFinite (c.update u).styleBias = true ∧
      -1.0 ≤ (c.update u).styleBias ∧ (c.update u).styleBias ≤ 1.0 := by
    simp only [update]
    cases hx : u.styleBias with
    | none => exact ⟨h.finite, h.lowest, h.highest⟩
    | some x =>
        have hleast : isUndefined (-1.0 : Float) = false := by decide
        have hmost : isUndefined (1.0 : Float) = false := by decide
        obtain ⟨hlow, hhigh⟩ := Floating.clamp_mem (hu.styleBias x hx) hleast hmost (by decide)
        exact ⟨Floating.isFinite_of_between (by decide) (by decide) hlow hhigh, hlow, hhigh⟩
  have hthreshold : isUndefined (c.update u).kickThreshold = false := by
    simp only [update]
    cases hx : u.kickThreshold with
    | none => exact h.defined _ (by simp)
    | some x => exact hu.kickThreshold x hx
  have hgain : isUndefined (c.update u).beatBoostGain = false ∧
      0.0 ≤ (c.update u).beatBoostGain := by
    simp only [update]
    cases hx : u.beatBoostGain with
    | none => exact ⟨h.defined _ (by simp), h.gain⟩
    | some x =>
        have hzero : isUndefined (0.0 : Float) = false := by decide
        obtain ⟨hdefined, -, habove⟩ := Floating.greater_spec (hu.beatBoostGain x hx) hzero
        exact ⟨hdefined, habove⟩
  refine ⟨hbias.1, hbias.2.1, hbias.2.2, hgain.2, ?_⟩
  simp only [List.forall_mem_cons, List.not_mem_nil, false_implies, implies_true, and_true]
  exact ⟨isUndefined_of_isFinite hbias.1, hthreshold, hgain.1⟩

/-! ## Changes -/

/-- A change that turns knobs turns them to defined positions. -/
def Session.Change.Defined : Session.Change Float → Prop
  | .turn u => u.Defined
  | _ => True

/-- A message brings about changes to defined positions only. -/
theorem Command.defined_of_changesOf (m : Osc.Message Float) : ∀ c ∈ changesOf m, c.Defined := by
  intro c hc
  obtain ⟨command, hcommand, hchange⟩ := Option.bind_eq_some_iff.mp (Option.mem_toList.mp hc)
  cases command with
  | setControls u =>
      cases hchange
      rcases aims_of_message hcommand with heq | ⟨part, -, haims⟩
      · cases heq
      · exact haims.defined
  | _ => cases hchange <;> trivial

/-- A session whose knobs are in range. -/
def Session.InRange (s : Session Float) : Prop := s.controls.toControls.InRange

namespace Session.InRange

theorem initial : (Session.initial : Session Float).InRange := Audio.Controls.inRange_default

/-- Changes to defined positions keep knobs in range. -/
theorem change {s : Session Float} (h : s.InRange) {c : Session.Change Float} (hc : c.Defined) :
    (s.change c).InRange := by
  cases c with
  | turn u => exact ControlState.inRange_update h hc
  | toggle name enabled =>
      obtain ⟨toggles, -, heq⟩ := s.controls.toggle_eq name enabled
      rw [Session.change, heq]
      exact h
  | resize width height =>
      rcases s.resize_cases width height with hs | hs <;> rwa [Session.change, hs]
  | resolve => rcases s.resolve_cases with hs | hs <;> rwa [Session.change, hs]
  | _ => exact h

/-- Some changes keep knobs in range. -/
theorem changes {s : Session Float} (h : s.InRange) {cs : List (Session.Change Float)}
    (hcs : ∀ c ∈ cs, c.Defined) : (cs.foldl Session.change s).InRange :=
  Session.changes_keep (fun _ _ hc hs => hs.change hc) h hcs

end Session.InRange

namespace Engine

/-- What may happen. Messages are free to say what they like; other than by messages, knobs are
turned by tool calls. -/
def Event.Offered : Event Float → Prop
  | .setControls u => ∃ args, Tool.schema .audioConfig args = .accepted (.configure u)
  | _ => True

theorem defined_of_dueChanges (e : Engine Float) (dt : Float) : ∀ c ∈ e.dueChanges dt, c.Defined :=
  forall_dueChanges.mpr
    ⟨fun m _ => Command.defined_of_changesOf m, fun _ _ => trivial, trivial, trivial⟩

/-- What may happen brings about changes to defined positions only. -/
theorem defined_of_changes (e : Engine Float) {x : Event Float} (hx : x.Offered) :
    ∀ c ∈ e.changes x, c.Defined := by
  cases x with
  | tick dt | brokenTick dt =>
      refine List.forall_mem_append.mpr ⟨e.defined_of_dueChanges dt, ?_⟩
      simp [Session.Change.Defined]
  | control m => exact Command.defined_of_changesOf m
  | setControls u =>
      obtain ⟨args, hargs⟩ := hx
      exact List.forall_mem_singleton.mpr (ControlUpdate.defined_of_call hargs)
  | arrive t came =>
      intro c hc
      obtain ⟨saved, a, q, p, -, -, -, rfl⟩ := install_of_brought? (Option.mem_toList.mp hc)
      trivial
  | poll s =>
      simp only [changes]
      split <;> simp [Session.Change.Defined]
  | _ => simp [changes, Session.Change.Defined]

end Engine

/-! ## Runs -/

namespace Performance

open Engine

/-- Messages change no more than they name, and knobs stay in range. Whatever state an engine is
in and whatever a message says: if it is refused, nothing has changed but for notices on the
console, and if it is carried out, nothing but the part that it names. And in every run in which
knobs are turned by messages and tool calls, between events as well as while messages are being
carried out, the style bias is finite and from -1 to 1, the gain of the boost is not negative, and
no knob has an undefined position. -/
theorem messages_change_what_they_name (shaderRoot : String) (xs : List (Event Float))
    (hxs : ∀ x ∈ xs, x.Offered) :
    (∀ (e : Engine Float) (m : Osc.Message Float),
      ((e.handle m).2 = false → ∃ ns, (e.handle m).1 = e.noteAll ns) ∧
        ((e.handle m).2 = true →
          ∃ part, Part.named? m = some part ∧ part.Confined e (e.handle m).1)) ∧
      ∀ ms : List (Osc.Message Float),
        (ms.foldl (fun e m => (e.handle m).1)
          (run shaderRoot xs).engine).session.InRange := by
  refine ⟨confined_handle, fun ms => ?_⟩
  rw [(brings_foldl brings_handle _ ms).session]
  apply Session.InRange.changes
  · exact session_run .initial (fun _ _ hc hs => hs.change hc) shaderRoot xs
      fun ys x hys => defined_of_changes _ (hxs x (hys.subset (by simp)))
  · exact List.forall_mem_flatMap.mpr fun m _ => Command.defined_of_changesOf m

/-- A tool call that turns two knobs. -/
def turned : ControlUpdate Float := ⟨some (-0.5), none, some 3.0⟩

/-- A tool call, and then a message that turns the style bias too far. -/
def overturned : List (Event Float) :=
  [.setControls turned, .receive ⟨"/control/style_bias", [.num 7.0]⟩, .tick 0.1]

/-- A gain that is no number. -/
def loud : Osc.Message Float := ⟨"/control/beat_boost", [.str "loud"]⟩

/-- A toggle that is switched off. -/
def strobe : Osc.Message Float := ⟨"/control/toggle/strobe", [.num 0.0]⟩

/-- The style bias that was turned too far ends up at 1. A gain that is no number is refused then,
and a toggle is set and nothing else. -/
theorem messages_after_overturned :
    (∀ x ∈ overturned, x.Offered) ∧
      let e := (run "/shaders" overturned).engine
      ((e.handle loud).2 = false ∧ ∃ ns, (e.handle loud).1 = e.noteAll ns) ∧
        ((e.handle strobe).2 = true ∧ (Part.toggle "strobe").Confined e (e.handle strobe).1) ∧
          e.session.controls.styleBias = 1.0 ∧ e.session.InRange := by
  have hoffered : ∀ x ∈ overturned, x.Offered := by
    have hcall : Tool.schema .audioConfig
        (some (.obj [("styleBias", .num (-0.5)), ("beatBoostGain", .num 3.0)])) =
          .accepted (.configure turned) := rfl
    simp only [overturned, List.forall_mem_cons, List.not_mem_nil, false_implies, implies_true]
    exact ⟨⟨_, hcall⟩, trivial, trivial, trivial⟩
  have hrefused : ((run "/shaders" overturned).engine.handle loud).2 = false := by decide
  have hdone : ((run "/shaders" overturned).engine.handle strobe).2 = true := by decide
  have hstrobe : Part.named? strobe = some (.toggle "strobe") := by decide
  have hbias : (run "/shaders" overturned).engine.session.controls.styleBias = 1.0 := by rfl
  obtain ⟨hconfined, hrange⟩ := messages_change_what_they_name "/shaders" overturned hoffered
  obtain ⟨part, hnamed, hpart⟩ := (hconfined _ strobe).2 hdone
  obtain rfl := Option.some.inj (hstrobe.symm.trans hnamed)
  exact ⟨hoffered, ⟨hrefused, (hconfined _ loud).1 hrefused⟩, ⟨hdone, hpart⟩, hbias, hrange []⟩

end Performance

end LiveVisuals
