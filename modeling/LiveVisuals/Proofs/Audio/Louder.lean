import LiveVisuals.Proofs.Audio.Bounded

/-!
# Louder is never slower

The ramp goes up at one rate and down at another, so that two ramps can be on their way up and down
in the same tick. Still the one that is ahead and heads for more stays ahead: if it goes down, it
does not pass its goal, and if the other goes up, that does not pass its own. What the ramps head
for, and what boost is called for, follows the drive. Hence of two runs with the same knobs and the
same stale ticks, the one that is driven at least as hard at each tick is at least as fast at each
tick.

Main definitions:

- {lit}`Audio.SpeedRamp.Tick`, {lit}`Audio.SpeedRamp.tick`: the course of a ramp.
- {lit}`Audio.SpeedRamp.speeds`: the speeds that some ticks return.
- {lit}`Audio.Drive.NoStronger`, {lit}`Audio.SpeedRamp.Tick.NoLouder`: a drive, and a tick, in
  which nothing is stronger than in another.
- {lit}`Audio.SpeedRamp.Behind`: a ramp that is nowhere ahead of another.

Main results:

- Theorem {lit}`Audio.SpeedRamp.target_le_target`: a stronger drive leads to no lower goal.
- Theorem {lit}`Audio.SpeedRamp.approach_le_approach`: on the way to their goals ramps do not
  overtake each other.
- Theorem {lit}`Audio.SpeedRamp.Behind.tick`: a ramp stays behind.
- Theorem {lit}`Audio.SpeedRamp.louder_never_slower`: what holds of two runs.
-/

namespace LiveVisuals.Audio

open Exact

namespace SpeedRamp

variable {α : Type}

/-- A tick as the ramp sees it: the feed is live, with what drives the speed and the knobs that
bear on it, or it is stale. -/
inductive Tick (α : Type) where
  | live (d : Drive α) (styleBias boostGain : α)
  | stale

variable [Scalar α]

/-- A ramp after a tick. -/
def tick (r : SpeedRamp α) : Tick α → SpeedRamp α
  | .live d styleBias boostGain => r.update d styleBias boostGain
  | .stale => r.idle

/-- The speed that a tick returns: that of the new ramp, or the floor if the feed is stale. -/
def returned (r : SpeedRamp α) : Tick α → α
  | .live d styleBias boostGain => (r.update d styleBias boostGain).speed
  | .stale => speedFloor

/-- The speeds that some ticks return, in order. -/
def speeds (r : SpeedRamp α) : List (Tick α) → List α
  | [] => []
  | x :: xs => r.returned x :: (r.tick x).speeds xs

end SpeedRamp

variable {K : Type} [Field K] [LinearOrder K]

/-- Nothing that the ramp listens to is stronger than in another drive. -/
structure Drive.NoStronger (d d' : Drive (Exact K)) : Prop where
  energyFast : d.energyFast ≤ d'.energyFast
  presenceBass : d.presenceBass ≤ d'.presenceBass
  kickEnv : d.kickEnv ≤ d'.kickEnv
  beatPhase : d.beatPhase ≤ d'.beatPhase

variable [FloorRing K] [Base K]

/-- The numbers of a finite drive. -/
theorem Drive.IsFinite.exists_numbers {d : Drive (Exact K)} (h : d.IsFinite) :
    ∃ energy bass kick beat : K, d = ⟨number energy, number bass, number kick, number beat⟩ := by
  obtain ⟨energy, henergy⟩ := isFinite_iff.mp h.energyFast
  obtain ⟨bass, hbass⟩ := isFinite_iff.mp h.presenceBass
  obtain ⟨kick, hkick⟩ := isFinite_iff.mp h.kickEnv
  obtain ⟨beat, hbeat⟩ := isFinite_iff.mp h.beatPhase
  exact ⟨energy, bass, kick, beat, by rw [← henergy, ← hbass, ← hkick, ← hbeat]⟩

namespace SpeedRamp

/-- A tick that is like another one, with the same knobs, but for a drive that is nowhere stronger.
All numbers are finite. -/
inductive Tick.NoLouder : Tick (Exact K) → Tick (Exact K) → Prop
  | live {d d' : Drive (Exact K)} {styleBias boostGain : Exact K} (hd : d.IsFinite)
      (hd' : d'.IsFinite) (hbias : Scalar.isFinite styleBias = true)
      (hgain : Scalar.isFinite boostGain = true) (h : d.NoStronger d') :
      NoLouder (.live d styleBias boostGain) (.live d' styleBias boostGain)
  | stale : NoLouder .stale .stale

/-- A ramp is nowhere ahead of another, and both are within their range. -/
structure Behind (r r' : SpeedRamp (Exact K)) : Prop where
  within : r.Within
  within' : r'.Within
  ramped : r.ramped ≤ r'.ramped
  boost : r.boost ≤ r'.boost

/-! ## What drives the speed -/

/-- The share of bass presence is a number from zero to one. -/
theorem exists_weight {styleBias : Exact K} (hbias : Scalar.isFinite styleBias = true) :
    ∃ w : K, weight styleBias = number w ∧ 0 ≤ w ∧ w ≤ 1 := by
  apply exists_unit
  simp [presenceWeight, biasSpan, hbias]

variable [IsStrictOrderedRing K]

/-- A stronger drive leads to no lower goal. -/
theorem target_le_target {styleBias : Exact K} (hbias : Scalar.isFinite styleBias = true)
    {d d' : Drive (Exact K)} (hd : d.IsFinite) (hd' : d'.IsFinite) (h : d.NoStronger d') :
    target styleBias d ≤ target styleBias d' := by
  obtain ⟨w, hw, hnonneg, hle⟩ := exists_weight hbias
  obtain ⟨energy, bass, kick, beat, rfl⟩ := hd.exists_numbers
  obtain ⟨energy', bass', kick', beat', rfl⟩ := hd'.exists_numbers
  have henergy : energy ≤ energy' := h.energyFast
  have hbass : bass ≤ bass' := h.presenceBass
  have hmix : energy * (1 - w) + bass * w ≤ energy' * (1 - w) + bass' * w :=
    add_le_add (mul_le_mul_of_nonneg_right henergy (sub_nonneg.mpr hle))
      (mul_le_mul_of_nonneg_right hbass hnonneg)
  have hpower : min (max (energy * (1 - w) + bass * w) 0) 1 ≤
      min (max (energy' * (1 - w) + bass' * w) 0) 1 :=
    min_le_min_right 1 (max_le_max_right 0 hmix)
  have hspan : (0 : K) ≤ 1.2 - 0.02 := by norm_num
  have hgoal := add_le_add_right (mul_le_mul_of_nonneg_right hpower hspan) 0.02
  simpa [target, drivePower, hw, speedFloor, speedCeiling] using hgoal

/-- A stronger drive calls for no lesser boost. -/
theorem trigger_le_trigger {gain : Exact K} (hgain : Scalar.isFinite gain = true)
    {d d' : Drive (Exact K)} (hd : d.IsFinite) (hd' : d'.IsFinite) (h : d.NoStronger d') :
    trigger gain d ≤ trigger gain d' := by
  obtain ⟨g, rfl⟩ := isFinite_iff.mp hgain
  obtain ⟨energy, bass, kick, beat, rfl⟩ := hd.exists_numbers
  obtain ⟨energy', bass', kick', beat', rfl⟩ := hd'.exists_numbers
  have hkick : kick ≤ kick' := h.kickEnv
  have hbeat : beat ≤ beat' := h.beatPhase
  have hamount : (0 : K) ≤ 0.15 := by norm_num
  have hcall : max kick beat * 0.15 * max g 0 ≤ max kick' beat' * 0.15 * max g 0 :=
    mul_le_mul_of_nonneg_right
      (mul_le_mul_of_nonneg_right (max_le_max hkick hbeat) hamount) (le_max_right g 0)
  simpa [trigger, boostAmount] using hcall

/-! ## The way to a goal -/

/-- On the way to their goals ramps do not overtake each other. -/
theorem approach_le_approach {goal goal' ramped ramped' : K} (hgoal : goal ≤ goal')
    (hramped : ramped ≤ ramped') :
    approach (number goal) (number ramped) ≤ approach (number goal') (number ramped') := by
  have happroach (goal ramped : K) : approach (number goal) (number ramped) =
      number (ramped + (goal - ramped) * if ramped < goal then 0.008 else 0.025) := by
    by_cases hup : ramped < goal <;> simp [approach, hup, rampUp, rampDown]
  rw [happroach, happroach, number_le_number]
  by_cases hup : ramped < goal
  · rw [if_pos hup]
    by_cases hup' : ramped' < goal'
    · rw [if_pos hup']
      linarith
    · -- the one behind goes up to its goal at most, the one ahead goes down to its own at most
      rw [if_neg hup']
      linarith
  · rw [if_neg hup]
    by_cases hup' : ramped' < goal'
    · rw [if_pos hup']
      linarith
    · rw [if_neg hup']
      linarith

/-! ## Two ramps -/

theorem Behind.rest : Behind (rest : SpeedRamp (Exact K)) .rest where
  within := within_rest
  within' := within_rest
  ramped := le_refl (0.02 : K)
  boost := le_refl (0.0 : K)

variable {r r' : SpeedRamp (Exact K)} {x y : Tick (Exact K)}

/-- A ramp stays behind if the other one is driven at least as hard. -/
theorem Behind.tick (h : r.Behind r') (hxy : x.NoLouder y) : (r.tick x).Behind (r'.tick y) := by
  obtain ⟨ramped, boost, rfl, hmem, hboost⟩ := h.within.exists_numbers
  obtain ⟨ramped', boost', rfl, hmem', hboost'⟩ := h.within'.exists_numbers
  have hramped : ramped ≤ ramped' := h.ramped
  have hleft : boost * 0.92 ≤ boost' * 0.92 :=
    mul_le_mul_of_nonneg_right h.boost (by norm_num)
  cases hxy with
  | @live d d' styleBias boostGain hd hd' hbias hgain hdrive =>
      refine ⟨h.within.update hd hbias hgain, h.within'.update hd' hbias hgain, ?_, ?_⟩
      · have hgoal := target_le_target hbias hd hd' hdrive
        obtain ⟨goal, heq, -⟩ := exists_target hbias hd
        obtain ⟨goal', heq', -⟩ := exists_target hbias hd'
        rw [heq, heq', number_le_number] at hgoal
        change approach (target styleBias d) (number ramped) ≤
          approach (target styleBias d') (number ramped')
        rw [heq, heq']
        exact approach_le_approach hgoal hramped
      · have hcall := trigger_le_trigger hgain hd hd' hdrive
        obtain ⟨call, heq⟩ := isFinite_iff.mp (isFinite_trigger hgain hd)
        obtain ⟨call', heq'⟩ := isFinite_iff.mp (isFinite_trigger hgain hd')
        rw [heq, heq', number_le_number] at hcall
        have hboosts := max_le_max hleft hcall
        simpa only [SpeedRamp.tick, update, boostDecay, heq, heq', ofScientific_eq, number_mul,
          greater_number, number_le_number] using hboosts
  | stale =>
      refine ⟨h.within.idle, h.within'.idle, ?_, ?_⟩
      · have hsettle : ramped + (0.02 - ramped) * 0.025 ≤ ramped' + (0.02 - ramped') * 0.025 := by
          linarith
        simpa [SpeedRamp.tick, idle, speedFloor, rampDown] using hsettle
      · simpa [SpeedRamp.tick, idle, boostDecay] using hleft

/-- The ramp behind is not faster. -/
theorem Behind.speed_le_speed (h : r.Behind r') : r.speed ≤ r'.speed := by
  obtain ⟨ramped, boost, rfl, -⟩ := h.within.exists_numbers
  obtain ⟨ramped', boost', rfl, -⟩ := h.within'.exists_numbers
  have hsum : ramped + boost ≤ ramped' + boost' := add_le_add h.ramped h.boost
  have hclamp := min_le_min_right 1.2 (max_le_max_right 0.02 hsum)
  simpa [speed, speedFloor, speedCeiling] using hclamp

/-- What a tick returns for the ramp behind is not faster. -/
theorem Behind.returned_le_returned (h : r.Behind r') (hxy : x.NoLouder y) :
    r.returned x ≤ r'.returned y := by
  have hnext := (h.tick hxy).speed_le_speed
  cases hxy with
  | live => exact hnext
  | stale => exact le_refl (0.02 : K)

/-- From ramps one of which is behind, ticks that are no louder return speeds that are no faster. -/
theorem Behind.speeds (h : r.Behind r') {xs ys : List (Tick (Exact K))}
    (hxs : List.Forall₂ Tick.NoLouder xs ys) :
    List.Forall₂ (· ≤ ·) (r.speeds xs) (r'.speeds ys) := by
  induction hxs generalizing r r' with
  | nil => exact .nil
  | cons hxy _ ih => exact .cons (h.returned_le_returned hxy) (ih (h.tick hxy))

/-- Louder never means slower. Take two runs of fresh ramps through as many ticks, stale at the same
ticks and with the same knobs, such that nothing in the first run is ever stronger than in the
second. Then at each tick the speed that the first run returns is at most that of the second. -/
theorem louder_never_slower {xs ys : List (Tick (Exact K))}
    (h : List.Forall₂ Tick.NoLouder xs ys) :
    List.Forall₂ (· ≤ ·) ((rest : SpeedRamp (Exact K)).speeds xs) (SpeedRamp.rest.speeds ys) :=
  Behind.rest.speeds h

/-- After a bar without and a bar with music both runs hear the same faint note, toward which one
ramp goes up and the other one down. -/
theorem louder_never_slower_of_crossing :
    let silence : Drive (Exact ℚ) := ⟨0.0, 0.0, 0.0, 0.0⟩
    let music : Drive (Exact ℚ) := ⟨1.0, 1.0, 1.0, 0.0⟩
    let faint : Drive (Exact ℚ) := ⟨0.005, 0.005, 0.0, 0.0⟩
    let start (d : Drive (Exact ℚ)) : Tick (Exact ℚ) := .live d 0.0 1.0
    let xs : List (Tick (Exact ℚ)) := [start silence, start faint, .stale]
    let ys : List (Tick (Exact ℚ)) := [start music, start faint, .stale]
    (SpeedRamp.rest.tick (start silence)).ramped < target 0.0 faint ∧
      target 0.0 faint < (SpeedRamp.rest.tick (start music)).ramped ∧
      List.Forall₂ Tick.NoLouder xs ys ∧
      List.Forall₂ (· ≤ ·) ((rest : SpeedRamp (Exact ℚ)).speeds xs) (SpeedRamp.rest.speeds ys) := by
  intro silence music faint start xs ys
  have hfinite : silence.IsFinite ∧ music.IsFinite ∧ faint.IsFinite :=
    ⟨⟨rfl, rfl, rfl, rfl⟩, ⟨rfl, rfl, rfl, rfl⟩, ⟨rfl, rfl, rfl, rfl⟩⟩
  have hsilence : silence.NoStronger music := by
    constructor <;> decide +kernel
  have hfaint : faint.NoStronger faint := by
    constructor <;> decide +kernel
  have hxs : List.Forall₂ Tick.NoLouder xs ys :=
    .cons (.live hfinite.1 hfinite.2.1 rfl rfl hsilence)
      (.cons (.live hfinite.2.2 hfinite.2.2 rfl rfl hfaint) (.cons .stale .nil))
  exact ⟨by decide +kernel, by decide +kernel, hxs, louder_never_slower hxs⟩

end SpeedRamp

end LiveVisuals.Audio
