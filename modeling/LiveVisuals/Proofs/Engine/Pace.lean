import LiveVisuals.Proofs.Audio.Bounded
import LiveVisuals.Proofs.Engine.Change

/-!
# The pace of audio time

Audio time passes at the speed of the frame, and only as ticks do. As long as the knobs are
turned to finite positions, the extractor of an engine is always bounded, whatever messages come
in and whatever else goes on. So the speed is always between the floor and the ceiling, and the
time of a run between those shares of the time that its ticks stand for.

Main definitions:

- {lit}`Session.Steady`: a session with a bounded extractor and knobs of finite positions.
- {lit}`Engine.Event.Steady`: what may happen, which leaves out ticks of infinite time and knobs
  of infinite positions.
- {lit}`Performance.elapsed`: the time that the ticks of a run stand for.

Main results:

- Theorem {lit}`Session.Steady.change`: changes keep a session steady.
- Theorem {lit}`Engine.exists_pace`: how much audio time an event lets pass.
- Theorem {lit}`Performance.pace_of_run`: speed and audio time stay bounded in every run.
-/

namespace LiveVisuals

open Exact

/-! ## Audio time -/

section

variable {α : Type}

/-- Whether a change lets a tick pass. -/
def Session.Change.isPass : Session.Change α → Bool
  | .pass .. => true
  | _ => false

variable [Scalar α]

/-- Only a tick that passes lets audio time pass. -/
theorem Session.time_change (s : Session α) {c : Session.Change α} (hc : c.isPass = false) :
    (s.change c).time = s.time := by
  cases c with
  | resize width height => rcases s.resize_cases width height with hs | hs <;> rw [change, hs]
  | resolve => rcases s.resolve_cases with hs | hs <;> rw [change, hs]
  | pass dt values => cases hc
  | _ => rfl

/-- No tick passes for a message. -/
theorem Command.isPass_of_changesOf (m : Osc.Message α) :
    ∀ c ∈ changesOf m, c.isPass = false := by
  intro c hc
  obtain ⟨command, -, hcommand⟩ := Option.bind_eq_some_iff.mp (Option.mem_toList.mp hc)
  cases command <;> cases hcommand <;> rfl

namespace Engine

/-- Audio time stays where it is while no tick passes. -/
theorem time_of_changes {s : Session α} {cs : List (Session.Change α)}
    (hcs : ∀ c ∈ cs, c.isPass = false) : (cs.foldl Session.change s).time = s.time := by
  have hchange (s' : Session α) (c : Session.Change α) (hc : c.isPass = false)
      (h : s'.time = s.time) : (s'.change c).time = s.time := (s'.time_change hc).trans h
  exact Session.changes_keep (P := fun s' => s'.time = s.time) hchange rfl hcs

theorem isPass_of_dueChanges (e : Engine α) (dt : α) :
    ∀ c ∈ e.dueChanges dt, c.isPass = false :=
  forall_dueChanges.mpr
    ⟨fun m _ => Command.isPass_of_changesOf m, fun _ _ => rfl, rfl, rfl⟩

/-- The time that an event stands for. -/
def Event.lapse : Event α → α
  | .tick dt => Scalar.greater dt 0.0
  | _ => 0.0

/-- A tick lets its time pass at the speed of its frame. -/
theorem time_tick (e : Engine α) (dt : α) :
    (e.step (.tick dt)).session.time =
      e.session.time + Scalar.greater dt 0.0 * (e.due dt).frame.speed := by
  have hdue : (e.due dt).time = e.session.time := by
    rw [due, (brings_due e dt).session]
    exact time_of_changes (isPass_of_dueChanges e dt)
  have hresolve : (e.due dt).resolve.1.time = (e.due dt).time ∧
      (e.due dt).resolve.1.frame = (e.due dt).frame := by
    rcases (e.due dt).resolve_cases with hs | hs
    · rw [hs]
      exact ⟨rfl, rfl⟩
    · rw [hs]
      exact ⟨rfl, rfl⟩
  rw [(changes_step e (.tick dt)).1, changes, List.foldl_append, ← (brings_due e dt).session]
  change (e.due dt).resolve.1.time + _ * (e.due dt).resolve.1.frame.speed = _
  rw [hresolve.1, hresolve.2, hdue]

/-- Other events let no audio time pass. -/
theorem time_step (e : Engine α) {x : Event α} (hx : ∀ dt, x ≠ .tick dt) :
    (e.step x).session.time = e.session.time := by
  rw [(changes_step e x).1]
  refine time_of_changes ?_
  cases x with
  | tick dt => exact absurd rfl (hx dt)
  | brokenTick dt =>
      refine List.forall_mem_append.mpr ⟨isPass_of_dueChanges e dt, ?_⟩
      simp [Session.Change.isPass]
  | control m => exact Command.isPass_of_changesOf m
  | arrive t came =>
      intro c hc
      obtain ⟨saved, a, q, p, -, -, -, rfl⟩ := install_of_brought? (Option.mem_toList.mp hc)
      rfl
  | poll s =>
      simp only [changes]
      split <;> simp [Session.Change.isPass]
  | _ => simp [changes, Session.Change.isPass]

end Engine

/-- The time that the ticks of a run stand for. -/
def Performance.elapsed (xs : List (Engine.Event α)) : α :=
  xs.foldl (fun total x => total + x.lapse) 0.0

end

/-! ## Steady sessions -/

section

variable {K : Type} [Field K] [LinearOrder K] [FloorRing K] [Base K]

/-- Turning knobs to finite positions leaves them at finite positions. -/
theorem ControlState.steady_update {c : ControlState (Exact K)} (h : c.toControls.Steady)
    {u : ControlUpdate (Exact K)} (hu : u.Steady) : (c.update u).toControls.Steady where
  styleBias := by
    simp only [update]
    cases hx : u.styleBias with
    | none => exact h.styleBias
    | some x =>
        obtain ⟨a, rfl⟩ := isFinite_iff.mp (hu.styleBias x hx)
        simp
  beatBoostGain := by
    simp only [update]
    cases hx : u.beatBoostGain with
    | none => exact h.beatBoostGain
    | some x =>
        obtain ⟨a, rfl⟩ := isFinite_iff.mp (hu.beatBoostGain x hx)
        simp

/-- A change that turns knobs turns them to finite positions. -/
def Session.Change.Steady : Session.Change (Exact K) → Prop
  | .turn u => u.Steady
  | _ => True

/-- A message turns knobs to finite positions. -/
theorem Command.steady_of_changesOf (m : Osc.Message (Exact K)) :
    ∀ c ∈ changesOf m, c.Steady := by
  intro c hc
  obtain ⟨command, hcommand, hchange⟩ := Option.bind_eq_some_iff.mp (Option.mem_toList.mp hc)
  cases command with
  | setControls u =>
      cases hchange
      exact (usable_of_message hcommand).2 u rfl
  | _ => cases hchange <;> trivial

namespace Engine

/-- What may happen: ticks stand for finite times, and knobs are turned to finite positions. -/
def Event.Steady : Event (Exact K) → Prop
  | .tick dt => Scalar.isFinite dt = true
  | .setControls u => u.Steady
  | _ => True

theorem steady_of_dueChanges (e : Engine (Exact K)) (dt : Exact K) :
    ∀ c ∈ e.dueChanges dt, c.Steady :=
  forall_dueChanges.mpr
    ⟨fun m _ => Command.steady_of_changesOf m, fun _ _ => trivial, trivial, trivial⟩

/-- What may happen brings steady changes about. -/
theorem steady_of_changes (e : Engine (Exact K)) {x : Event (Exact K)} (hx : x.Steady) :
    ∀ c ∈ e.changes x, c.Steady := by
  cases x with
  | tick dt | brokenTick dt =>
      refine List.forall_mem_append.mpr ⟨e.steady_of_dueChanges dt, ?_⟩
      simp [Session.Change.Steady]
  | control m => exact Command.steady_of_changesOf m
  | setControls u => exact List.forall_mem_singleton.mpr hx
  | arrive t came =>
      intro c hc
      obtain ⟨saved, a, q, p, -, -, -, rfl⟩ := install_of_brought? (Option.mem_toList.mp hc)
      trivial
  | poll s =>
      simp only [changes]
      split <;> simp [Session.Change.Steady]
  | _ => simp [changes, Session.Change.Steady]

end Engine

variable [IsStrictOrderedRing K]

/-- A session whose extractor is bounded and whose knobs have finite positions. -/
structure Session.Steady (s : Session (Exact K)) : Prop where
  extractor : s.extractor.Bounded
  controls : s.controls.toControls.Steady

namespace Session.Steady

theorem initial : (Session.initial : Session (Exact K)).Steady := ⟨.initial, rfl, rfl⟩

/-- Changes keep a session steady. -/
theorem change {s : Session (Exact K)} (h : s.Steady) {c : Session.Change (Exact K)}
    (hc : c.Steady) : (s.change c).Steady := by
  cases c with
  | forget => exact ⟨.reset _, h.controls⟩
  | hear m => exact ⟨h.extractor.ingest _ _, h.controls⟩
  | turn u => exact ⟨h.extractor, ControlState.steady_update h.controls hc⟩
  | toggle name enabled =>
      refine ⟨h.extractor, ?_⟩
      simp only [Session.change, ControlState.toggle]
      split <;> exact h.controls
  | frame dt => exact ⟨h.extractor.tick dt h.controls, h.controls⟩
  | resize width height =>
      rcases s.resize_cases width height with hs | hs
      · rwa [Session.change, hs]
      · rw [Session.change, hs]
        exact ⟨h.extractor, h.controls⟩
  | resolve =>
      rcases s.resolve_cases with hs | hs
      · rwa [Session.change, hs]
      · rw [Session.change, hs]
        exact ⟨h.extractor, h.controls⟩
  | _ => exact ⟨h.extractor, h.controls⟩

/-- Some changes keep a session steady. -/
theorem changes {s : Session (Exact K)} (h : s.Steady) {cs : List (Session.Change (Exact K))}
    (hcs : ∀ c ∈ cs, c.Steady) : (cs.foldl Session.change s).Steady :=
  Session.changes_keep (fun _ _ hc hs => hs.change hc) h hcs

end Session.Steady

namespace Engine

/-- What may happen keeps the session steady. -/
theorem steady_step {e : Engine (Exact K)} (h : e.session.Steady) {x : Event (Exact K)}
    (hx : x.Steady) : (e.step x).session.Steady := by
  rw [(changes_step e x).1]
  exact h.changes (steady_of_changes e hx)

/-- An event lets its time pass at a speed between floor and ceiling. -/
theorem exists_pace {e : Engine (Exact K)} (h : e.session.Steady) {x : Event (Exact K)}
    (hx : x.Steady) :
    ∃ lapse speed : K, x.lapse = number lapse ∧ 0 ≤ lapse ∧ (0.02 ≤ speed ∧ speed ≤ 1.2) ∧
      (e.step x).session.time = e.session.time + number (lapse * speed) := by
  cases x with
  | tick dt =>
      obtain ⟨d, rfl⟩ := isFinite_iff.mp hx
      have hdue : (e.due (number d)).Steady := by
        rw [due, (brings_due e (number d)).session]
        exact h.changes (e.steady_of_dueChanges (number d))
      obtain ⟨speed, hspeed, hlow, hhigh⟩ :=
        exists_number_of_mem hdue.extractor.speed.1 hdue.extractor.speed.2
      refine ⟨max d 0, speed, by simp [Event.lapse], le_max_right d 0, ⟨hlow, hhigh⟩, ?_⟩
      have hframe : (e.due (number d)).frame.speed = number speed := hspeed
      rw [time_tick, hframe, zero_eq, greater_number, number_mul]
  | _ =>
      refine ⟨0, 0.02, zero_eq, le_rfl, by norm_num, ?_⟩
      rw [time_step e (by simp), zero_mul]
      cases e.session.time <;> simp

end Engine

namespace Performance

/-- The time of a run is finite and between the least and the greatest share of the time that
its ticks stand for. -/
theorem exists_elapsed (shaderRoot : String) {xs : List (Engine.Event (Exact K))}
    (hxs : ∀ x ∈ xs, x.Steady) :
    (run shaderRoot xs).engine.session.Steady ∧
      ∃ total time : K, elapsed xs = number total ∧
        (run shaderRoot xs).engine.session.time = number time ∧
        0.02 * total ≤ time ∧ time ≤ 1.2 * total := by
  induction xs using List.reverseRecOn with
  | nil => exact ⟨.initial, 0, 0, zero_eq, zero_eq, by simp, by simp⟩
  | append_singleton xs x ih =>
      rw [List.forall_mem_append] at hxs
      have hx := hxs.2 x (List.mem_singleton_self x)
      obtain ⟨hsteady, total, time, htotal, htime, hlow, hhigh⟩ := ih hxs.1
      obtain ⟨lapse, speed, hlapse, hnonneg, hspeed, hpass⟩ := Engine.exists_pace hsteady hx
      rw [run_concat]
      refine ⟨Engine.steady_step hsteady hx, total + lapse, time + lapse * speed, ?_, ?_, ?_, ?_⟩
      · rw [elapsed, List.foldl_append, ← elapsed, htotal]
        change number total + x.lapse = _
        rw [hlapse, number_add]
      · change ((run shaderRoot xs).engine.step x).session.time = _
        rw [hpass, htime, number_add]
      · have hleast : lapse * 0.02 ≤ lapse * speed := mul_le_mul_of_nonneg_left hspeed.1 hnonneg
        linarith
      · have hmost : lapse * speed ≤ lapse * 1.2 := mul_le_mul_of_nonneg_left hspeed.2 hnonneg
        linarith

/-- Audio time never runs backward. -/
theorem time_le (shaderRoot : String) {xs ys : List (Engine.Event (Exact K))}
    (hxs : ∀ x ∈ xs ++ ys, x.Steady) :
    (run shaderRoot xs).engine.session.time ≤ (run shaderRoot (xs ++ ys)).engine.session.time := by
  induction ys using List.reverseRecOn with
  | nil =>
      obtain ⟨-, total, time, -, htime, -⟩ := exists_elapsed shaderRoot hxs
      rw [List.append_nil] at htime ⊢
      rw [htime]
      exact le_refl time
  | append_singleton ys y ih =>
      rw [← List.append_assoc] at hxs ⊢
      obtain ⟨hbefore, hy⟩ := List.forall_mem_append.mp hxs
      obtain ⟨hsteady, total, time, -, htime, -⟩ := exists_elapsed shaderRoot hbefore
      obtain ⟨lapse, speed, -, hnonneg, hspeed, hpass⟩ :=
        Engine.exists_pace hsteady (hy y (List.mem_singleton_self y))
      refine Exact.le_trans (ih hbefore) ?_
      rw [run_concat]
      change _ ≤ ((run shaderRoot (xs ++ ys)).engine.step y).session.time
      rw [hpass, htime, number_add, number_le_number]
      have hfloor : (0 : K) ≤ 0.02 := by norm_num
      exact le_add_of_nonneg_right (mul_nonneg hnonneg (hfloor.trans hspeed.1))

/-- Speed and audio time stay bounded. In every run whose ticks stand for finite times and whose
knobs are turned to finite positions, whatever messages come in and whatever else goes on, the
speed is between the floor and the ceiling, and so is the ramp, with a boost that is not
negative; a stale frame has the speed of the floor. Audio time never runs backward, and it is
between those shares of the time that the ticks stand for. -/
theorem pace_of_run (shaderRoot : String) (xs : List (Engine.Event (Exact K)))
    (hxs : ∀ x ∈ xs, x.Steady) :
    let s := (run shaderRoot xs).engine.session
    ((0.02 : Exact K) ≤ s.frame.speed ∧ s.frame.speed ≤ 1.2) ∧
      ((0.02 : Exact K) ≤ s.extractor.ramp.ramped ∧ s.extractor.ramp.ramped ≤ 1.2) ∧
      (0.0 : Exact K) ≤ s.extractor.ramp.boost ∧
      (s.frame.stale = true → s.frame.speed = 0.02) ∧
      ((0.02 : Exact K) * elapsed xs ≤ s.time ∧ s.time ≤ 1.2 * elapsed xs) ∧
      ∀ ys, ys <+: xs → (run shaderRoot ys).engine.session.time ≤ s.time := by
  obtain ⟨hsteady, total, time, htotal, htime, hlow, hhigh⟩ := exists_elapsed shaderRoot hxs
  refine ⟨hsteady.extractor.speed, hsteady.extractor.ramp.ramped, hsteady.extractor.ramp.boost,
    hsteady.extractor.stale, ?_, ?_⟩
  · rw [htotal, htime]
    exact ⟨hlow, hhigh⟩
  · rintro ys ⟨zs, rfl⟩
    exact time_le shaderRoot hxs

end Performance

end

namespace Performance

/-- A loud passage with the knobs turned far up, a tick that goes back in time, and silence. -/
def loudPassage : List (Engine.Event (Exact ℚ)) :=
  [.receive ⟨Audio.Address.intensity, [.num 40.0]⟩, .receive ⟨Audio.Address.hitsBass, [.num 5.0]⟩,
    .setControls ⟨some 3.0, none, some 1000.0⟩, .tick 0.1, .tick (-1.0), .tick 2.0]

/-- In the loud passage time runs at the ceiling, and in the silence after it at the floor. -/
theorem pace_of_loudPassage :
    (∀ x ∈ loudPassage, x.Steady) ∧
      elapsed loudPassage = .number 2.1 ∧
      (run "/shaders" loudPassage).engine.session.time = .number 0.16 ∧
      (run "/shaders" loudPassage).engine.session.frame.speed = 0.02 ∧
      (0.02 : Exact ℚ) * .number 2.1 ≤ .number 0.16 ∧
      (.number 0.16 : Exact ℚ) ≤ 1.2 * .number 2.1 := by
  have hsteady : ∀ x ∈ loudPassage, x.Steady := by
    simp only [loudPassage, List.forall_mem_cons, List.not_mem_nil, false_implies, implies_true]
    exact ⟨trivial, trivial, ⟨by simp, by simp⟩, rfl, rfl, rfl, trivial⟩
  have htotal : elapsed loudPassage = .number 2.1 := by decide +kernel
  have htime : (run "/shaders" loudPassage).engine.session.time = .number 0.16 := by
    decide +kernel
  have hstale : (run "/shaders" loudPassage).engine.session.frame.stale = true := by
    decide +kernel
  obtain ⟨-, -, -, hfloor, hbounds, -⟩ := pace_of_run "/shaders" loudPassage hsteady
  rw [htotal, htime] at hbounds
  exact ⟨hsteady, htotal, htime, hfloor hstale, hbounds⟩

end Performance

end LiveVisuals
