import LiveVisuals.Proofs.Audio.Ingest
import LiveVisuals.Proofs.Binding.Edit
import LiveVisuals.Proofs.Scalar.Exact

/-!
# Features stay finite and speed stays bounded

Only finite values are recorded, and each tick makes features out of recorded values and earlier
features by finitely many operations. So in exact arithmetic features are always finite, however
large and of whichever sign. What drives the speed is held between zero and one before it gets
there, and the ramp only ever moves a share of the way toward a speed between the floor and the
ceiling.

Main definitions:

- {lit}`Audio.Controls.Steady`: knobs that have finite positions.
- {lit}`Audio.SpeedRamp.Within`: a ramp between the floor and the ceiling.
- {lit}`Audio.Extractor.Bounded`: an extractor with finite features and a bounded speed.

Main results:

- Theorem {lit}`Audio.SpeedRamp.exists_target`: the ramp heads for a speed between floor and
  ceiling, whatever drives it.
- Theorems {lit}`Audio.SpeedRamp.Within.update`, {lit}`Audio.SpeedRamp.Within.idle`: the ramp
  stays between them.
- Theorems {lit}`Audio.Extractor.Bounded.ingest`, {lit}`Audio.Extractor.Bounded.tick`: an extractor
  stays bounded, whatever it hears.
-/

namespace LiveVisuals

/-- What holds of values that are put and of those that were there holds of all. -/
theorem Keyed.forall_mem_putAll {β : Type} {P : String × β → Prop} {ws : List (String × β)}
    {t : Keyed β} (hws : ∀ w ∈ ws, P w) (ht : ∀ w ∈ t, P w) : ∀ w ∈ putAll ws t, P w := by
  induction ws generalizing t with
  | nil => exact ht
  | cons w ws ih =>
      rw [List.forall_mem_cons] at hws
      refine ih hws.2 fun v hv => ?_
      rcases mem_put hv with rfl | hv
      · exact hws.1
      · exact ht v hv

namespace Audio

open Exact

variable {K : Type} [Field K] [LinearOrder K]

/-- Some share of the way between two numbers of an interval lies in the interval. -/
theorem mem_of_share [IsStrictOrderedRing K] {low high x y share : K}
    (hx : low ≤ x ∧ x ≤ high) (hy : low ≤ y ∧ y ≤ high) (hshare : 0 ≤ share ∧ share ≤ 1) :
    low ≤ x + (y - x) * share ∧ x + (y - x) * share ≤ high := by
  have hmix : x + (y - x) * share = x * (1 - share) + y * share := by ring
  have hrest : 0 ≤ 1 - share := sub_nonneg.mpr hshare.2
  have hall (z : K) : z * (1 - share) + z * share = z := by ring
  rw [hmix]
  constructor
  · calc low = low * (1 - share) + low * share := (hall low).symm
      _ ≤ x * (1 - share) + y * share :=
        add_le_add (mul_le_mul_of_nonneg_right hx.1 hrest)
          (mul_le_mul_of_nonneg_right hy.1 hshare.1)
  · calc x * (1 - share) + y * share ≤ high * (1 - share) + high * share :=
        add_le_add (mul_le_mul_of_nonneg_right hx.2 hrest)
          (mul_le_mul_of_nonneg_right hy.2 hshare.1)
      _ = high := hall high

variable [FloorRing K] [Base K]

/-! ## Features -/

/-- Smoothing finite values gives a finite one. -/
theorem isFinite_smooth {current target factor : Exact K}
    (hcurrent : Scalar.isFinite current = true) (htarget : Scalar.isFinite target = true)
    (hfactor : Scalar.isFinite factor = true) :
    Scalar.isFinite (smooth current target factor) = true := by
  simp [smooth, hcurrent, htarget, hfactor]

/-- What is left of a finite feature after a stale tick is finite. -/
theorem isFinite_decayed {x : Exact K} (hx : Scalar.isFinite x = true) :
    Scalar.isFinite (x * Tuning.staleDecay) = true := by
  simp [Tuning.staleDecay, hx]

/-- The beat of the bar is a number. -/
theorem isFinite_beatCounter (beatTime : Exact K) :
    Scalar.isFinite (beatCounter beatTime) = true := by
  unfold beatCounter
  split <;> rfl

/-- What can be used is finite. -/
theorem isFinite_of_usable? {arg : Json (Exact K)} {x : Exact K} (h : usable? arg = some x) :
    Scalar.isFinite x = true := by
  cases arg with
  | num y => exact Scalar.isFinite_of_finite? h
  | bool b =>
      cases h
      exact isFinite_ofBool b
  | _ => cases h

/-- Only finite values are written. -/
theorem isFinite_of_writes? {address : String} {args : List (Json (Exact K))}
    {ws : List (String × Exact K)} (h : writes? address args = some ws) :
    ∀ w ∈ ws, Scalar.isFinite w.2 = true := by
  unfold writes? at h
  split at h
  · split at h
    · next hxs =>
        have hfinite := (Scalar.isFinite_of_mapM isFinite_of_usable? hxs).2
        simp only [List.forall_mem_cons] at hfinite
        obtain ⟨hsub, hbass, hlowMid, hmid, hhighMid, hpresence, hair, hloudness, -⟩ := hfinite
        cases h
        simp only [List.forall_mem_cons, List.not_mem_nil, false_implies, implies_true, and_true]
        exact ⟨isFinite_greater hsub hbass, hlowMid, hmid,
          isFinite_greater (isFinite_greater hhighMid hpresence) hair, hloudness⟩
    · cases h
  · obtain ⟨x, hx, rfl⟩ := Option.map_eq_some_iff.mp h
    obtain ⟨arg, -, harg⟩ := Option.bind_eq_some_iff.mp hx
    simpa using isFinite_of_usable? harg

/-- Knobs that the speed depends on have finite positions. -/
structure Controls.Steady (c : Controls (Exact K)) : Prop where
  styleBias : Scalar.isFinite c.styleBias = true
  beatBoostGain : Scalar.isFinite c.beatBoostGain = true

/-- What the ramp listens to is finite. -/
structure Drive.IsFinite (d : Drive (Exact K)) : Prop where
  energyFast : Scalar.isFinite d.energyFast = true
  presenceBass : Scalar.isFinite d.presenceBass = true
  kickEnv : Scalar.isFinite d.kickEnv = true
  beatPhase : Scalar.isFinite d.beatPhase = true

/-! ## The speed ramp -/

namespace SpeedRamp

/-- A ramp between the floor and the ceiling, with a boost that is not negative. -/
structure Within (r : SpeedRamp (Exact K)) : Prop where
  ramped : (0.02 : Exact K) ≤ r.ramped ∧ r.ramped ≤ 1.2
  boost : (0.0 : Exact K) ≤ r.boost
  finite : Scalar.isFinite r.boost = true

/-- The numbers of a ramp. -/
theorem Within.exists_numbers {r : SpeedRamp (Exact K)} (h : r.Within) :
    ∃ ramped boost : K, r = ⟨number ramped, number boost⟩ ∧
      (0.02 ≤ ramped ∧ ramped ≤ 1.2) ∧ 0 ≤ boost := by
  obtain ⟨ramped, hramped, hlow, hhigh⟩ := exists_number_of_mem h.ramped.1 h.ramped.2
  obtain ⟨boost, hboost⟩ := isFinite_iff.mp h.finite
  have hnonneg := h.boost
  rw [hboost, zero_eq] at hnonneg
  exact ⟨ramped, boost, by rw [← hramped, ← hboost], ⟨hlow, hhigh⟩, hnonneg⟩

/-- What is held between zero and one is a number between them. -/
theorem exists_unit {x : Exact K} (hx : Scalar.isFinite x = true) :
    ∃ y : K, Scalar.clamp x 0.0 1.0 = number y ∧ 0 ≤ y ∧ y ≤ 1 := by
  obtain ⟨a, rfl⟩ := isFinite_iff.mp hx
  refine ⟨min (max a 0) 1, by simp, ?_, min_le_right _ _⟩
  exact le_min (le_max_right a 0) zero_le_one

/-- The boost that is called for is finite. -/
theorem isFinite_trigger {gain : Exact K} (hgain : Scalar.isFinite gain = true)
    {d : Drive (Exact K)} (hd : d.IsFinite) : Scalar.isFinite (trigger gain d) = true := by
  simp [trigger, boostAmount, isFinite_greater hd.kickEnv hd.beatPhase,
    isFinite_greater hgain (isFinite_number 0)]

variable [IsStrictOrderedRing K]

theorem within_rest : (rest : SpeedRamp (Exact K)).Within where
  ramped := by
    constructor
    · exact le_refl (0.02 : K)
    · change (0.02 : K) ≤ 1.2
      norm_num
  boost := le_refl (0.0 : K)
  finite := rfl

/-- The ramp heads for a speed between floor and ceiling, whatever drives it. -/
theorem exists_target {styleBias : Exact K} (hbias : Scalar.isFinite styleBias = true)
    {d : Drive (Exact K)} (hd : d.IsFinite) :
    ∃ goal : K, target styleBias d = number goal ∧ 0.02 ≤ goal ∧ goal ≤ 1.2 := by
  have hweight : Scalar.isFinite (weight styleBias) = true := by
    have hsum : Scalar.isFinite (presenceWeight + styleBias * biasSpan) = true := by
      simp [presenceWeight, biasSpan, hbias]
    obtain ⟨w, hw, -⟩ := exists_unit hsum
    rw [weight, hw, isFinite_number]
  have hmix : Scalar.isFinite (d.energyFast * (1.0 - weight styleBias) +
      d.presenceBass * weight styleBias) = true := by
    simp [hd.energyFast, hd.presenceBass, hweight]
  obtain ⟨power, hpower, hnonneg, hle⟩ := exists_unit hmix
  refine ⟨0.02 + power * (1.2 - 0.02), ?_, ?_, ?_⟩
  · have hdrive : drivePower styleBias d = number power := hpower
    simp [target, hdrive, speedFloor, speedCeiling]
  · norm_num
    linarith
  · norm_num
    linarith

/-- Moving toward a speed between floor and ceiling stays between them. -/
theorem exists_approach {goal ramped : K} (hgoal : 0.02 ≤ goal ∧ goal ≤ 1.2)
    (hramped : 0.02 ≤ ramped ∧ ramped ≤ 1.2) :
    ∃ next : K, approach (number goal) (number ramped) = number next ∧
      0.02 ≤ next ∧ next ≤ 1.2 := by
  have hmove (rate : K) (hrate : 0 ≤ rate ∧ rate ≤ 1) :
      0.02 ≤ ramped + (goal - ramped) * rate ∧ ramped + (goal - ramped) * rate ≤ 1.2 :=
    mem_of_share hramped hgoal hrate
  by_cases hup : ramped < goal
  · exact ⟨_, by simp [approach, hup, rampUp], hmove 0.008 (by norm_num)⟩
  · exact ⟨_, by simp [approach, hup, rampDown], hmove 0.025 (by norm_num)⟩

/-- A live tick keeps the ramp between floor and ceiling. -/
theorem Within.update {r : SpeedRamp (Exact K)} (h : r.Within) {d : Drive (Exact K)}
    (hd : d.IsFinite) {styleBias gain : Exact K} (hbias : Scalar.isFinite styleBias = true)
    (hgain : Scalar.isFinite gain = true) : (r.update d styleBias gain).Within := by
  obtain ⟨ramped, boost, rfl, hramped, hboost⟩ := h.exists_numbers
  obtain ⟨goal, hgoal, hmem⟩ := exists_target hbias hd
  obtain ⟨next, hnext, hlow, hhigh⟩ := exists_approach hmem hramped
  obtain ⟨called, hcalled⟩ := isFinite_iff.mp (isFinite_trigger hgain hd)
  have hupdate : SpeedRamp.update ⟨number ramped, number boost⟩ d styleBias gain =
      ⟨number next, number (max (boost * 0.92) called)⟩ := by
    simp [SpeedRamp.update, hgoal, hnext, hcalled, boostDecay]
  rw [hupdate]
  refine ⟨⟨hlow, hhigh⟩, ?_, rfl⟩
  -- what the call may lack is made up for by what is left of the last boost
  have hleft : 0 ≤ boost * 0.92 := mul_nonneg hboost (by norm_num)
  simpa using Or.inl hleft

/-- A stale tick keeps the ramp between floor and ceiling. -/
theorem Within.idle {r : SpeedRamp (Exact K)} (h : r.Within) : r.idle.Within := by
  obtain ⟨ramped, boost, rfl, hramped, hboost⟩ := h.exists_numbers
  have hfloor : (0.02 : K) ≤ 0.02 ∧ (0.02 : K) ≤ 1.2 := by norm_num
  have hrate : 0 ≤ (0.025 : K) ∧ (0.025 : K) ≤ 1 := by norm_num
  have hmove := mem_of_share hramped hfloor hrate
  have hleft : 0 ≤ boost * 0.92 := mul_nonneg hboost (by norm_num)
  have hidle : SpeedRamp.idle ⟨number ramped, number boost⟩ =
      ⟨number (ramped + (0.02 - ramped) * 0.025), number (boost * 0.92)⟩ := by
    simp [SpeedRamp.idle, speedFloor, rampDown, boostDecay]
  rw [hidle]
  exact ⟨hmove, by simpa using hleft, rfl⟩

/-- The speed of a ramp is between floor and ceiling. -/
theorem Within.speed {r : SpeedRamp (Exact K)} (h : r.Within) :
    (0.02 : Exact K) ≤ r.speed ∧ r.speed ≤ 1.2 := by
  obtain ⟨ramped, boost, rfl, hramped, hboost⟩ := h.exists_numbers
  have hclamp : SpeedRamp.speed ⟨number ramped, number boost⟩ =
      number (min (max (ramped + boost) 0.02) 1.2) := by
    simp [SpeedRamp.speed, speedFloor, speedCeiling]
  rw [hclamp]
  constructor
  · exact le_min (le_max_right _ _) (by norm_num)
  · exact min_le_right _ _

end SpeedRamp

/-! ## Extractors -/

namespace Extractor

/-- An extractor with finite raw values and features, a ramp between floor and ceiling, and a
speed that is between them too, and at the floor when the feed is stale. -/
structure Bounded (e : Extractor (Exact K)) : Prop where
  raw : ∀ w ∈ e.raw, Scalar.isFinite w.2 = true
  features : ∀ f, Scalar.isFinite (e.frame.read f) = true
  ramp : e.ramp.Within
  speed : (0.02 : Exact K) ≤ e.frame.speed ∧ e.frame.speed ≤ 1.2
  stale : e.frame.stale = true → e.frame.speed = 0.02

namespace Bounded

variable {e : Extractor (Exact K)}

/-- Recording finite values keeps an extractor bounded. -/
theorem record (h : e.Bounded) {ws : List (String × Exact K)}
    (hws : ∀ w ∈ ws, Scalar.isFinite w.2 = true) : (e.record ws).Bounded :=
  ⟨Keyed.forall_mem_putAll hws h.raw, h.features, h.ramp, h.speed, h.stale⟩

theorem advance (h : e.Bounded) (dt : Exact K) : (e.advance dt).Bounded :=
  ⟨h.raw, h.features, h.ramp, h.speed, h.stale⟩

/-- The latest raw value of an address is finite. -/
theorem rawValue (h : e.Bounded) (address : String) :
    Scalar.isFinite (e.rawValue address) = true := by
  rw [Extractor.rawValue]
  cases hraw : Keyed.get? address e.raw with
  | none => rfl
  | some x => exact h.raw _ (Keyed.mem_of_get? hraw)

theorem intensity (h : e.Bounded) : Scalar.isFinite e.intensity = true := by
  rw [Extractor.intensity]
  cases hraw : Keyed.get? Address.intensity e.raw with
  | none => exact h.rawValue Address.level
  | some x => exact h.raw _ (Keyed.mem_of_get? hraw)

/-- The features of a live tick are finite. -/
theorem liveFrame (h : e.Bounded) (controls : Controls (Exact K)) (f : Feature) :
    Scalar.isFinite ((e.liveFrame controls).read f) = true := by
  have hfactor : Scalar.isFinite (Tuning.energyFastSmoothing : Exact K) = true := rfl
  have hfast := isFinite_smooth (h.features .energyFast) h.intensity hfactor
  have hf := h.features f
  cases f with
  | energyFast => exact hfast
  | energySlow => exact isFinite_smooth hf hfast rfl
  | kickPulse => exact isFinite_ofBool _
  | beatPhase =>
      simp only [Frame.read, Extractor.liveFrame]
      split
      · rfl
      · exact (isFinite_mul _ _).trans (Bool.and_eq_true_iff.mpr ⟨hf, rfl⟩)
  | beat4 => exact isFinite_beatCounter _
  | speed => exact hf
  | _ => exact isFinite_smooth hf (h.rawValue _) rfl

/-- The features of a stale tick are finite. -/
theorem fade (h : e.Bounded) (f : Feature) :
    Scalar.isFinite ((Extractor.fade e.frame).read f) = true := by
  have hf := h.features f
  cases f with
  | kickPulse => rfl
  | beat4 => exact hf
  | speed => exact hf
  | _ => exact isFinite_decayed hf

variable [IsStrictOrderedRing K]

theorem initial : (Extractor.initial : Extractor (Exact K)).Bounded where
  raw := by simp [Extractor.initial]
  features := fun f => by cases f <;> rfl
  ramp := SpeedRamp.within_rest
  speed := SpeedRamp.within_rest.ramped
  stale := fun _ => rfl

/-- A reset leads back to silence. -/
theorem reset (e : Extractor (Exact K)) : e.reset.Bounded :=
  ⟨initial.raw, initial.features, initial.ramp, initial.speed, initial.stale⟩

/-- An extractor stays bounded, whatever it hears. -/
theorem ingest (h : e.Bounded) (address : String) (args : List (Json (Exact K))) :
    (e.ingest address args).Bounded := by
  rcases e.ingest_cases address args with hsame | ⟨-, hreset⟩ | ⟨ws, hws, hrecord⟩
  · rwa [hsame]
  · rw [hreset]
    exact reset e
  · rw [hrecord]
    exact h.record (isFinite_of_writes? hws)

/-- A stale tick puts the speed at the floor. -/
theorem tickStale (h : e.Bounded) : e.tickStale.Bounded where
  raw := h.raw
  features := fun f => by
    have hf := h.fade f
    cases f with
    | beat4 => exact isFinite_beatCounter _
    | speed => rfl
    | _ => exact hf
  ramp := h.ramp.idle
  speed := SpeedRamp.within_rest.ramped
  stale := fun _ => rfl

/-- The speed after a live tick is that of the ramp. -/
theorem tickLive (h : e.Bounded) {controls : Controls (Exact K)} (hcontrols : controls.Steady) :
    (e.tickLive controls).Bounded := by
  have hdrive : (e.liveFrame controls).drive.IsFinite :=
    ⟨h.liveFrame controls .energyFast, h.liveFrame controls .presenceBass,
      h.liveFrame controls .kickEnv, h.liveFrame controls .beatPhase⟩
  have hramp := h.ramp.update hdrive hcontrols.styleBias hcontrols.beatBoostGain
  obtain ⟨speed, hspeed, -⟩ := exists_number_of_mem hramp.speed.1 hramp.speed.2
  refine ⟨h.raw, fun f => ?_, hramp, hramp.speed, fun hstale => by cases hstale⟩
  have hf := h.liveFrame controls f
  cases f with
  | speed => exact (congrArg Scalar.isFinite hspeed).trans rfl
  | _ => exact hf

/-- An extractor stays bounded from tick to tick. -/
theorem tick (h : e.Bounded) (dt : Exact K) {controls : Controls (Exact K)}
    (hcontrols : controls.Steady) : (e.tick dt controls).Bounded := by
  rw [Extractor.tick]
  split
  · exact (h.advance dt).tickStale
  · exact (h.advance dt).tickLive hcontrols

end Bounded

end Extractor

end Audio

end LiveVisuals
