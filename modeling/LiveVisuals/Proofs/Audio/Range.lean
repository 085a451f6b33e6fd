import LiveVisuals.Proofs.Audio.Bounded
import LiveVisuals.Proofs.Audio.Cooldown
import LiveVisuals.Proofs.Scalar.Comparison

/-!
# Features stay in the range of what was received

Smoothing goes some share of the way from a feature to a value, and fading some share of the way
from a feature to zero. So in exact arithmetic a feature that follows received values stays in
every interval that contains these values and zero, however ticks and messages alternate. The
phase of the beat goes its own way: it jumps to one and falls from there. The beat of the bar
depends on the latest beat time only.

Main definitions:

- {lit}`Audio.Feature.follows`: features that follow received values.
- {lit}`Audio.Extractor.Act.values`: the values of a message that is recorded.
- {lit}`Audio.Extractor.latestBeatTime`: the beat time that was received last.
- {lit}`Audio.Extractor.InRange`: an extractor with raw values and features in an interval.
- {lit}`Audio.Extractor.Beating`: what holds of beats and kicks whatever is received.

Main results:

- Theorem {lit}`Audio.smooth_mem`: smoothing does not lead out of an interval.
- Theorems {lit}`Audio.Extractor.InRange.act`, {lit}`Audio.Extractor.Beating.act`: what acts
  preserve.
- Theorem {lit}`Audio.Extractor.get?_beatTime_run`: the raw beat time is the latest one.
- Theorem {lit}`Audio.Extractor.features_stay_in_range`: what holds of every run.
-/

namespace LiveVisuals.Audio

/-- Whether a feature follows received values. -/
def Feature.follows : Feature → Bool
  | .kickPulse | .beatPhase | .beat4 | .speed => false
  | _ => true

namespace Extractor

section

variable {α : Type} [Scalar α]

/-- The values of a message that is recorded; other acts have none. All levels come in one message,
and what goes beyond them is passed over. -/
def Act.values : Act α → List α
  | .ingest address args =>
      if isValueAddress address && (writes? address args).isSome then
        (args.take (if address = Address.levels then 8 else 1)).filterMap usable?
      else []
  | .tick .. | .reset => []

/-- The beat time that is the latest one after an act; a reset makes it forgotten. -/
def beatTimeAfter (latest : Option α) : Act α → Option α
  | .ingest address args =>
      if address = Address.reset then none
      else if address = Address.beatTime then (args.head?.bind usable?).or latest
      else latest
  | .tick .. => latest
  | .reset => none

/-- The beat time that was received last since the start or the last reset. -/
def latestBeatTime (xs : List (Act α)) : Option α := xs.foldl beatTimeAfter none

/-! ## The latest beat time -/

/-- An act leaves behind the latest beat time. -/
theorem get?_beatTime_act (e : Extractor α) (x : Act α) :
    Keyed.get? Address.beatTime (e.act x).raw =
      beatTimeAfter (Keyed.get? Address.beatTime e.raw) x := by
  cases x with
  | ingest address args =>
      simp only [act, beatTimeAfter]
      by_cases hreset : address = Address.reset
      · rw [if_pos hreset, hreset, ingest_reset]
        rfl
      rw [if_neg hreset]
      by_cases hbeat : address = Address.beatTime
      · have hvalue : isValueAddress Address.beatTime = true := by decide
        have hlevels : Address.beatTime ≠ Address.levels := by decide
        rw [if_pos hbeat, hbeat, ingest, ingest?_eq e args hvalue, writes?, if_neg hlevels]
        cases args.head?.bind usable? with
        | none => rfl
        | some x => exact Keyed.get?_put_self _ _ _
      · rw [if_neg hbeat]
        rcases e.ingest_cases address args with hsame | ⟨hreset', -⟩ | ⟨ws, hws, hrecord⟩
        · rw [hsame]
        · exact absurd hreset' hreset
        · rw [hrecord]
          refine Keyed.get?_putAll_of_not_mem ws e.raw ?_
          rw [names_of_writes hws, writtenNames]
          split
          · decide
          · exact fun hmem => hbeat (List.mem_singleton.mp hmem).symm
  | tick dt controls =>
      simp only [act, tick]
      split <;> rfl
  | reset => rfl

/-- The raw beat time is the latest one. -/
theorem get?_beatTime_run (xs : List (Act α)) :
    Keyed.get? Address.beatTime (run xs).raw = latestBeatTime xs := by
  induction xs using List.reverseRecOn with
  | nil => rfl
  | append_singleton xs x ih =>
      rw [run] at ih ⊢
      rw [List.foldl_concat, get?_beatTime_act, ih, latestBeatTime, latestBeatTime,
        List.foldl_concat]

/-- The beat of the bar after a tick is that of the latest beat time. -/
theorem beat4_tick (e : Extractor α) (dt : α) (controls : Controls α) :
    (e.tick dt controls).frame.beat4 = beatCounter (e.rawValue Address.beatTime) := by
  rw [tick]
  split <;> rfl

end

end Extractor

open Exact

variable {K : Type} [Field K] [LinearOrder K] [FloorRing K] [Base K]

/-- The interval between two numbers. -/
def Between (low high : K) (x : Exact K) : Prop := number low ≤ x ∧ x ≤ number high

instance (low high : K) (x : Exact K) : Decidable (Between low high x) :=
  inferInstanceAs (Decidable (_ ∧ _))

/-- The greater of two values of an interval lies in it. -/
theorem Between.greater {low high : K} {x y : Exact K} (hx : Between low high x)
    (hy : Between low high y) : Between low high (Scalar.greater x y) := by
  obtain ⟨a, rfl, hlow, hhigh⟩ := exists_number_of_mem hx.1 hx.2
  obtain ⟨b, rfl, -, hhigh'⟩ := exists_number_of_mem hy.1 hy.2
  rw [greater_number]
  exact ⟨le_max_of_le_left hlow, max_le hhigh hhigh'⟩

/-- Items that can all be read are read as far as one likes. -/
theorem filterMap_take_of_mapM {α β : Type} {read : α → Option β} {items : List α} {xs : List β}
    (h : items.mapM read = some xs) (n : Nat) : (items.take n).filterMap read = xs.take n := by
  induction items generalizing xs n with
  | nil =>
      rw [List.mapM_nil] at h
      cases h
      simp
  | cons item items ih =>
      simp only [List.mapM_cons, Option.bind_eq_bind, Option.bind_eq_some_iff] at h
      obtain ⟨x, hx, rest, hrest, hxs⟩ := h
      cases hxs
      cases n with
      | zero => rfl
      | succ n =>
          rw [List.take_succ_cons, List.take_succ_cons, List.filterMap_cons_some hx, ih hrest]

/-- A message whose values lie in an interval writes values of it. -/
theorem between_of_writes? {low high : K} {address : String} {args : List (Json (Exact K))}
    {ws : List (String × Exact K)} (h : writes? address args = some ws)
    (hvalues : ∀ x ∈ (args.take (if address = Address.levels then 8 else 1)).filterMap usable?,
      Between low high x) : ∀ w ∈ ws, Between low high w.2 := by
  unfold writes? at h
  split at h
  · next hlevels =>
      rw [if_pos hlevels] at hvalues
      split at h
      · next hxs =>
          rw [filterMap_take_of_mapM hxs 8] at hvalues
          simp only [List.take_succ_cons, List.take_zero, List.forall_mem_cons] at hvalues
          obtain ⟨hsub, hbass, hlowMid, hmid, hhighMid, hpresence, hair, hloudness, -⟩ := hvalues
          cases h
          simp only [List.forall_mem_cons, List.not_mem_nil, false_implies, implies_true, and_true]
          exact ⟨hsub.greater hbass, hlowMid, hmid, (hhighMid.greater hpresence).greater hair,
            hloudness⟩
      · cases h
  · next hlevels =>
      rw [if_neg hlevels] at hvalues
      obtain ⟨x, hx, rfl⟩ := Option.map_eq_some_iff.mp h
      obtain ⟨arg, harg, hused⟩ := Option.bind_eq_some_iff.mp hx
      obtain ⟨rest, rfl⟩ := List.head?_eq_some_iff.mp harg
      refine List.forall_mem_singleton.mpr (hvalues x ?_)
      simp [hused]

/-- The beat of the bar is what remains of the rounded beat time. -/
theorem beatCounter_number [IsStrictOrderedRing K] (x : K) :
    beatCounter (number x) = number ((⌊x + 1 / 2⌋ % 4 : ℤ) : K) := by
  rw [beatCounter, if_pos (isFinite_number x), roundInt_number, ofInt_eq]
  rfl

/-! ## Features -/

section

variable [IsStrictOrderedRing K] {low high : K}

/-- Smoothing does not lead out of an interval. -/
theorem smooth_mem {current target : Exact K} {factor : K} (hcurrent : Between low high current)
    (htarget : Between low high target) (hfactor : 0 ≤ factor ∧ factor ≤ 1) :
    Between low high (smooth current target (number factor)) := by
  obtain ⟨x, rfl, hx⟩ := exists_number_of_mem hcurrent.1 hcurrent.2
  obtain ⟨y, rfl, hy⟩ := exists_number_of_mem htarget.1 htarget.2
  have hshare : 0 ≤ 1 - factor ∧ 1 - factor ≤ 1 :=
    ⟨sub_nonneg.mpr hfactor.2, sub_le_self 1 hfactor.1⟩
  have hmove : smooth (number x) (number y) (number factor) =
      number (x + (y - x) * (1 - factor)) := by
    simp [smooth]
  rw [hmove]
  exact mem_of_share hx hy hshare

/-- Fading does not lead out of an interval that contains zero. -/
theorem decayed_mem (hzero : low ≤ 0 ∧ 0 ≤ high) {x : Exact K} {factor : K}
    (hx : Between low high x) (hfactor : 0 ≤ factor ∧ factor ≤ 1) :
    Between low high (x * number factor) := by
  have hfade : x * number factor = smooth x (number 0) (number factor) := by
    obtain ⟨a, rfl, -⟩ := exists_number_of_mem hx.1 hx.2
    simp only [smooth, one_eq, number_mul, number_sub, number_add]
    exact congrArg number (by ring)
  rw [hfade]
  exact smooth_mem hx hzero hfactor

namespace Extractor

/-- An extractor whose raw values, and whose features that follow them, lie in an interval. -/
structure InRange (low high : K) (e : Extractor (Exact K)) : Prop where
  raw : ∀ w ∈ e.raw, Between low high w.2
  features : ∀ f : Feature, f.follows → Between low high (e.frame.read f)

namespace InRange

variable {e : Extractor (Exact K)} (hzero : low ≤ 0 ∧ 0 ≤ high)

include hzero

omit [IsStrictOrderedRing K] in
theorem initial : InRange low high (Extractor.initial : Extractor (Exact K)) where
  raw := by simp [Extractor.initial]
  features := by
    intro f hf
    have hsilent : (0.0 : Exact K) = number 0 := zero_eq
    cases f with
    | kickPulse | beatPhase | beat4 | speed => cases hf
    | _ => exact (congrArg (Between low high) hsilent).mpr hzero

omit [IsStrictOrderedRing K] in
/-- The latest raw value of an address lies in the interval; it is zero if there is none. -/
theorem rawValue (h : InRange low high e) (address : String) :
    Between low high (e.rawValue address) := by
  rw [Extractor.rawValue]
  cases hraw : Keyed.get? address e.raw with
  | none =>
      rw [Option.getD_none, zero_eq]
      exact hzero
  | some x => exact h.raw _ (Keyed.mem_of_get? hraw)

omit [IsStrictOrderedRing K] in
theorem intensity (h : InRange low high e) : Between low high e.intensity := by
  rw [Extractor.intensity]
  cases hraw : Keyed.get? Address.intensity e.raw with
  | none => exact h.rawValue hzero Address.level
  | some x => exact h.raw _ (Keyed.mem_of_get? hraw)

/-- The features of a live tick lie in the interval. -/
theorem liveFrame (h : InRange low high e) (controls : Controls (Exact K)) {f : Feature}
    (hf : f.follows) : Between low high ((e.liveFrame controls).read f) := by
  have hold := h.features f hf
  have hfast : Between low high (smooth e.frame.energyFast e.intensity Tuning.energyFastSmoothing) :=
    smooth_mem (h.features .energyFast rfl) (h.intensity hzero) (by norm_num)
  cases f with
  | kickPulse | beatPhase | beat4 | speed => cases hf
  | energyFast => exact hfast
  | energySlow => exact smooth_mem hold hfast (by norm_num)
  | _ => exact smooth_mem hold (h.rawValue hzero _) (by norm_num)

/-- The features of a stale tick lie in the interval. -/
theorem fade (h : InRange low high e) {f : Feature} (hf : f.follows) :
    Between low high ((Extractor.fade e.frame).read f) := by
  have hold := h.features f hf
  cases f with
  | kickPulse | beatPhase | beat4 | speed => cases hf
  | _ => exact decayed_mem hzero hold (by norm_num)

theorem tick (h : InRange low high e) (dt : Exact K) (controls : Controls (Exact K)) :
    InRange low high (e.tick dt controls) := by
  have hadvance : InRange low high (e.advance dt) := ⟨h.raw, h.features⟩
  rw [Extractor.tick]
  split
  · refine ⟨h.raw, fun f hf => ?_⟩
    have hfade := hadvance.fade hzero hf
    cases f with
    | kickPulse | beatPhase | beat4 | speed => cases hf
    | _ => exact hfade
  · refine ⟨h.raw, fun f hf => ?_⟩
    have hlive := hadvance.liveFrame hzero controls hf
    cases f with
    | kickPulse | beatPhase | beat4 | speed => cases hf
    | _ => exact hlive

/-- An act keeps an extractor in range if the values that it brings are. -/
theorem act (h : InRange low high e) {x : Act (Exact K)}
    (hx : ∀ v ∈ x.values, Between low high v) : InRange low high (e.act x) := by
  have hreset : InRange low high e.reset := ⟨(initial hzero).raw, (initial hzero).features⟩
  cases x with
  | ingest address args =>
      by_cases hvalue : isValueAddress address
      · cases hws : writes? address args with
        | none =>
            have hsame : e.ingest address args = e := by
              simp [Extractor.ingest, ingest?_eq e args hvalue, hws]
            rwa [Extractor.act, hsame]
        | some ws =>
            rw [Act.values, hvalue, hws] at hx
            rw [Extractor.act, ingest_of_writes e hvalue hws]
            exact ⟨Keyed.forall_mem_putAll (between_of_writes? hws hx) h.raw, h.features⟩
      · rcases ingest?_of_not_value hvalue args with rfl | hnone
        · exact hreset
        · rwa [Extractor.act, Extractor.ingest, hnone]
  | tick dt controls => exact h.tick hzero dt controls
  | reset => exact hreset

/-- An extractor stays in range if all values that it receives are. -/
theorem run {xs : List (Act (Exact K))}
    (hxs : ∀ x ∈ xs, ∀ v ∈ x.values, Between low high v) : InRange low high (Extractor.run xs) :=
  List.foldlRecOn xs Extractor.act (initial hzero) fun _ h x hx => h.act hzero (hxs x hx)

end InRange

/-! ## Beats and kicks -/

/-- What holds of beats and kicks whatever is received: the phase of the beat lies between zero
and one, and a stale frame has no kick pulse. -/
structure Beating (e : Extractor (Exact K)) : Prop where
  phase : Between 0 1 e.frame.beatPhase
  pulse : e.frame.stale = true → e.frame.kickPulse = false

namespace Beating

variable {e : Extractor (Exact K)}

omit [IsStrictOrderedRing K] in
theorem initial : (Extractor.initial : Extractor (Exact K)).Beating where
  phase := by
    change Between 0 1 (0.0 : Exact K)
    rw [zero_eq]
    exact ⟨le_rfl, zero_le_one⟩
  pulse := fun _ => rfl

/-- The phase of the beat jumps to one or falls. -/
theorem tick (h : e.Beating) (dt : Exact K) (controls : Controls (Exact K)) :
    (e.tick dt controls).Beating := by
  have hunit : (0 : K) ≤ 0 ∧ (0 : K) ≤ 1 := ⟨le_rfl, zero_le_one⟩
  rw [Extractor.tick]
  split
  · exact ⟨decayed_mem hunit h.phase (by norm_num), fun _ => rfl⟩
  · refine ⟨?_, fun hstale => Bool.noConfusion hstale⟩
    simp only [tickLive, Extractor.liveFrame]
    split
    · rw [one_eq]
      exact ⟨zero_le_one, le_rfl⟩
    · exact decayed_mem hunit h.phase (by norm_num)

theorem act (h : e.Beating) (x : Act (Exact K)) : (e.act x).Beating := by
  cases x with
  | ingest address args =>
      rcases e.ingest_cases address args with hsame | ⟨-, hreset⟩ | ⟨ws, -, hrecord⟩
      · rwa [Extractor.act, hsame]
      · rw [Extractor.act, hreset]
        exact ⟨initial.phase, initial.pulse⟩
      · rw [Extractor.act, hrecord]
        exact ⟨h.phase, h.pulse⟩
  | tick dt controls => exact h.tick dt controls
  | reset => exact ⟨initial.phase, initial.pulse⟩

theorem run (xs : List (Act (Exact K))) : (Extractor.run xs).Beating :=
  List.foldlRecOn xs Extractor.act initial fun _ h x _ => h.act x

end Beating

omit [IsStrictOrderedRing K] in
/-- A beat time is a number, like all that is recorded. -/
theorem exists_beatTimeAfter {latest : Option (Exact K)} {x : Act (Exact K)} {t : Exact K}
    (hlatest : latest = some t → ∃ a, t = number a) (h : beatTimeAfter latest x = some t) :
    ∃ a, t = number a := by
  cases x with
  | ingest address args =>
      simp only [beatTimeAfter] at h
      split at h
      · cases h
      · split at h
        · rcases Option.or_eq_some_iff.mp h with hused | ⟨-, hold⟩
          · obtain ⟨arg, -, harg⟩ := Option.bind_eq_some_iff.mp hused
            exact isFinite_iff.mp (isFinite_of_usable? harg)
          · exact hlatest hold
        · exact hlatest h
  | tick dt controls => exact hlatest h
  | reset => cases h

omit [IsStrictOrderedRing K] in
/-- The latest beat time is a number. -/
theorem exists_latestBeatTime {xs : List (Act (Exact K))} {t : Exact K}
    (h : latestBeatTime xs = some t) : ∃ a, t = number a := by
  induction xs using List.reverseRecOn generalizing t with
  | nil => cases h
  | append_singleton xs x ih =>
      rw [latestBeatTime, List.foldl_concat] at h
      exact exists_beatTimeAfter ih h

/-- Features stay in the range of what was received. If all values that are recorded in a run lie
in an interval that contains zero, so do the features that follow them. Whatever is received, the
phase of the beat lies between zero and one, there is no kick pulse in a stale frame, and the beat
of the bar after a tick is what remains of the latest beat time, rounded with halves going up, when
it is divided by four; without a beat time since the start or the last reset it is zero. -/
theorem features_stay_in_range :
    (∀ {low high : K}, low ≤ 0 → 0 ≤ high → ∀ xs : List (Act (Exact K)),
      (∀ x ∈ xs, ∀ v ∈ x.values, Between low high v) →
        ∀ f : Feature, f.follows → Between low high ((run xs).frame.read f)) ∧
    (∀ xs : List (Act (Exact K)), Between 0 1 (run xs).frame.beatPhase ∧
      ((run xs).frame.stale = true → (run xs).frame.kickPulse = false)) ∧
    ∀ (us : List (Act (Exact K))) (dt : Exact K) (controls : Controls (Exact K)),
      (∀ t, latestBeatTime us = some t → ∃ x : K, t = number x ∧
        ((run us).tick dt controls).frame.beat4 = number ((⌊x + 1 / 2⌋ % 4 : ℤ) : K)) ∧
      (latestBeatTime us = none → ((run us).tick dt controls).frame.beat4 = number 0) := by
  refine ⟨fun hlow hhigh xs hxs => (InRange.run ⟨hlow, hhigh⟩ hxs).features,
    fun xs => ⟨(Beating.run xs).phase, (Beating.run xs).pulse⟩, fun us dt controls => ?_⟩
  have hbeat := beat4_tick (run us) dt controls
  rw [rawValue, get?_beatTime_run] at hbeat
  constructor
  · intro t ht
    obtain ⟨x, rfl⟩ := exists_latestBeatTime ht
    refine ⟨x, rfl, ?_⟩
    rw [hbeat, ht, Option.getD_some, beatCounter_number]
  · intro hnone
    rw [hbeat, hnone, Option.getD_none, zero_eq, beatCounter_number]
    norm_num

/-- A bar that begins before the first beat, heard in one message and once more after a reset. -/
def upbeat : List (Act (Exact ℚ)) :=
  [.ingest Address.levels
      [.num 0.5, .num 0.25, .num (-0.5), .num 0.125, .num 0.0, .num 0.75, .num 0.25, .bool true],
    .ingest Address.beatTime [.num 1.0], .tick 0.2 .default, .reset,
    .ingest Address.mid [.num (-0.5)], .ingest Address.beatTime [.num (-2.5)], .tick 0.2 .default]

/-- Of the values from the second bar on the lower ones are below zero, and so are the features
that follow them; half past the third beat ahead of the first is rounded to the second. -/
theorem features_stay_in_range_of_upbeat :
    (∀ x ∈ upbeat, ∀ v ∈ x.values, Between (-2.5) 1 v) ∧
      Between (-2.5) 1 (run upbeat).frame.mid ∧ (run upbeat).frame.mid = number (-0.1) ∧
      latestBeatTime upbeat = some (number (-2.5)) ∧
      ((run upbeat).tick 2.0 .default).frame.beat4 = number 2 ∧
      ((run upbeat).tick 2.0 .default).frame.stale = true ∧
      ((run upbeat).tick 2.0 .default).frame.kickPulse = false := by
  have hvalues : ∀ x ∈ upbeat, ∀ v ∈ x.values, Between (-2.5) 1 v := by decide +kernel
  have hlatest : latestBeatTime upbeat = some (number (-2.5)) := by decide +kernel
  have hstale : ((run upbeat).tick 2.0 .default).frame.stale = true := by decide +kernel
  obtain ⟨hrange, hbeating, hbeat⟩ := features_stay_in_range (K := ℚ)
  refine ⟨hvalues, hrange (by norm_num) zero_le_one upbeat hvalues .mid rfl, by decide +kernel,
    hlatest, ?_, hstale, ?_⟩
  · obtain ⟨x, hx, hbeat4⟩ := (hbeat upbeat 2.0 .default).1 _ hlatest
    cases hx
    rw [hbeat4]
    decide +kernel
  · have hrun : run (upbeat ++ [.tick 2.0 .default]) = (run upbeat).tick 2.0 .default := by
      rw [run, List.foldl_concat]
      rfl
    rw [← hrun] at hstale ⊢
    exact (hbeating _).2 hstale

end Extractor

end

end LiveVisuals.Audio
