import LiveVisuals.Osc.Inbox
import LiveVisuals.Proofs.Audio.Bounded

/-!
# Silence stays silent

A message is silent if the values that it carries are zero, as far as they can be used. An
extractor that has heard nothing, or nothing but silent messages, reads zero for everything, and
so do all features but two: the speed never falls below its floor, and with the threshold below
zero even silence kicks. Ticks do not change that, however much time they stand for and however
the knobs are turned, and stale ticks do not either.

Main definitions:

- {lit}`Osc.Message.isSilent`: a message carries no value other than zero.
- {lit}`Audio.Frame.Quiet`: a frame whose features are zero, speed and kick pulse aside.
- {lit}`Audio.Extractor.Quiet`: an extractor that has only heard zeros, with such a frame.

Main results:

- Theorem {lit}`Audio.Frame.Quiet.readNamed`: the readings of a quiet frame are zero.
- Theorems {lit}`Audio.Extractor.Quiet.ingest`, {lit}`Audio.Extractor.Quiet.tick`: a quiet
  extractor stays quiet.
-/

namespace LiveVisuals

section

variable {α : Type}

/-- The arguments of an audio message that count: eight for all levels, and one otherwise. -/
def Osc.Message.counted (m : Osc.Message α) : List (Json α) :=
  m.args.take (if m.address = Audio.Address.levels then 8 else 1)

/-- Whether a message carries no value other than zero. Arguments that cannot be used carry no
value. -/
def Osc.Message.isSilent [Scalar α] (m : Osc.Message α) : Bool :=
  m.counted.all fun arg => (Audio.usable? arg).all (· == 0.0)

/-- Whether a feature is zero as long as nothing is heard. -/
def Audio.Feature.fallsSilent : Feature → Bool
  | .speed | .kickPulse => false
  | _ => true

end

namespace Audio

open Exact

variable {K : Type} [Field K] [LinearOrder K] [FloorRing K] [Base K]

/-! ## Silent messages -/

omit [Base K] in
/-- What equals zero is zero. -/
theorem eq_zero_of_beq {x : Exact K} (h : (x == 0.0) = true) : x = number 0 := by
  rw [zero_eq] at h
  cases x with
  | number a => exact congrArg number (of_decide_eq_true h)
  | infinite n => cases h
  | undefined => cases h

/-- Where the first few arguments carry no value other than zero, the first few values are
zero. -/
theorem eq_zero_of_mapM {args : List (Json (Exact K))} {xs : List (Exact K)}
    (h : args.mapM usable? = some xs) {n : Nat}
    (hsilent : (args.take n).all fun arg => (usable? arg).all (· == 0.0)) :
    ∀ x ∈ xs.take n, x = number 0 := by
  induction args generalizing xs n with
  | nil =>
      rw [List.mapM_nil] at h
      cases h
      simp
  | cons arg args ih =>
      simp only [List.mapM_cons, Option.bind_eq_bind, Option.bind_eq_some_iff] at h
      obtain ⟨x, hx, rest, hrest, hxs⟩ := h
      cases hxs
      cases n with
      | zero => simp
      | succ n =>
          rw [List.take_succ_cons, List.all_cons, Bool.and_eq_true, hx, Option.all_some] at hsilent
          rw [List.take_succ_cons, List.forall_mem_cons]
          exact ⟨eq_zero_of_beq hsilent.1, ih hrest hsilent.2⟩

/-- A silent message writes zeros. -/
theorem eq_zero_of_writes? {m : Osc.Message (Exact K)} (hm : m.isSilent)
    {ws : List (String × Exact K)} (h : writes? m.address m.args = some ws) :
    ∀ w ∈ ws, w.2 = number 0 := by
  unfold Osc.Message.isSilent Osc.Message.counted at hm
  unfold writes? at h
  split at h
  · next hlevels =>
      rw [if_pos hlevels] at hm
      split at h
      · next hxs =>
          have hzero := eq_zero_of_mapM hxs hm
          simp only [List.take_succ_cons, List.take_zero, List.forall_mem_cons] at hzero
          obtain ⟨hsub, hbass, hlowMid, hmid, hhighMid, hpresence, hair, hloudness, -⟩ := hzero
          cases h
          simp [hsub, hbass, hlowMid, hmid, hhighMid, hpresence, hair, hloudness]
      · cases h
  · next hlevels =>
      rw [if_neg hlevels] at hm
      obtain ⟨x, hx, rfl⟩ := Option.map_eq_some_iff.mp h
      obtain ⟨arg, harg, hused⟩ := Option.bind_eq_some_iff.mp hx
      obtain ⟨rest, hargs⟩ := List.head?_eq_some_iff.mp harg
      rw [hargs, List.take_succ_cons, List.all_cons, Bool.and_eq_true, hused,
        Option.all_some] at hm
      exact List.forall_mem_singleton.mpr (eq_zero_of_beq hm.1)

/-! ## Quiet frames -/

/-- A frame whose features are zero, apart from those that do not fall silent. -/
def Frame.Quiet (f : Frame (Exact K)) : Prop :=
  ∀ x : Feature, x.fallsSilent → f.read x = number 0

theorem Frame.quiet_silent : (Frame.silent : Frame (Exact K)).Quiet := by
  intro x hx
  cases x with
  | speed | kickPulse => cases hx
  | _ => exact zero_eq

/-- A feature is known by its name. -/
theorem Feature.ofName?_name (x : Feature) : Feature.ofName? x.name = some x := by
  cases x <;> decide

/-- The readings of a quiet frame are zero. -/
theorem Frame.Quiet.readNamed {f : Frame (Exact K)} (h : f.Quiet) {x : Feature}
    (hx : x.fallsSilent) : f.readNamed x.name = number 0 := by
  simp [Frame.readNamed, Feature.ofName?_name, h x hx]

/-- Zero smoothed toward zero is zero. -/
theorem smooth_zero {factor : Exact K} (hfactor : Scalar.isFinite factor = true) :
    smooth (number 0) (number 0) factor = number 0 := by
  obtain ⟨a, rfl⟩ := isFinite_iff.mp hfactor
  simp [smooth]

/-- Before the first beat it is the first beat of the bar. -/
theorem beatCounter_zero [IsStrictOrderedRing K] : beatCounter (number 0 : Exact K) = number 0 := by
  have hround : Scalar.roundInt (number 0 : Exact K) = 0 := by
    simpa using roundInt_intCast (K := K) 0
  have hfirst : Int.emod 0 4 = 0 := rfl
  simp [beatCounter, hround, hfirst]

/-- A stale tick keeps a frame quiet. -/
theorem Frame.Quiet.fade {f : Frame (Exact K)} (h : f.Quiet) : (Extractor.fade f).Quiet := by
  intro x hx
  have hf := h x hx
  have hdecayed : (number 0 : Exact K) * Tuning.staleDecay = number 0 := by
    simp [Tuning.staleDecay]
  cases x with
  | speed | kickPulse => cases hx
  | beat4 => exact hf
  | _ => exact (congrArg (· * Tuning.staleDecay) hf).trans hdecayed

/-! ## Quiet extractors -/

namespace Extractor

/-- An extractor that has only heard zeros, if anything, with a quiet frame. -/
structure Quiet (e : Extractor (Exact K)) : Prop where
  raw : ∀ w ∈ e.raw, w.2 = number 0
  frame : e.frame.Quiet

namespace Quiet

variable {e : Extractor (Exact K)}

theorem initial : (Extractor.initial : Extractor (Exact K)).Quiet where
  raw := by simp [Extractor.initial]
  frame := Frame.quiet_silent

/-- A reset leads back to silence. -/
theorem reset (e : Extractor (Exact K)) : e.reset.Quiet := ⟨initial.raw, initial.frame⟩

/-- A silent message keeps an extractor quiet. -/
theorem ingest (h : e.Quiet) {m : Osc.Message (Exact K)} (hm : m.isSilent) :
    (e.ingest m.address m.args).Quiet := by
  rcases e.ingest_cases m.address m.args with hsame | ⟨-, hreset⟩ | ⟨ws, hws, hrecord⟩
  · rwa [hsame]
  · rw [hreset]
    exact reset e
  · rw [hrecord]
    exact ⟨Keyed.forall_mem_putAll (eq_zero_of_writes? hm hws) h.raw, h.frame⟩

theorem advance (h : e.Quiet) (dt : Exact K) : (e.advance dt).Quiet := ⟨h.raw, h.frame⟩

/-- The latest raw value of an address is zero. -/
theorem rawValue (h : e.Quiet) (address : String) : e.rawValue address = number 0 := by
  rw [Extractor.rawValue]
  cases hraw : Keyed.get? address e.raw with
  | none => exact zero_eq
  | some x => exact h.raw _ (Keyed.mem_of_get? hraw)

theorem intensity (h : e.Quiet) : e.intensity = number 0 := by
  rw [Extractor.intensity]
  cases hraw : Keyed.get? Address.intensity e.raw with
  | none => exact h.rawValue Address.level
  | some x => exact h.raw _ (Keyed.mem_of_get? hraw)

variable [IsStrictOrderedRing K]

/-- No beat comes on in silence. -/
theorem beatRises (h : e.Quiet) : e.beatRises = false := by
  have hbelow : ¬(0.75 : K) ≤ 0 := by norm_num
  simp [Extractor.beatRises, h.rawValue, Tuning.beatOnThreshold, hbelow]

/-- A live tick keeps the frame quiet. -/
theorem liveFrame (h : e.Quiet) (controls : Controls (Exact K)) :
    (e.liveFrame controls).Quiet := by
  intro x hx
  have hf := h.frame x hx
  have hsmooth {old target factor : Exact K} (hold : old = number 0) (htarget : target = number 0)
      (hfactor : Scalar.isFinite factor = true) : smooth old target factor = number 0 := by
    rw [hold, htarget, smooth_zero hfactor]
  have hfast : smooth e.frame.energyFast e.intensity Tuning.energyFastSmoothing = number 0 :=
    hsmooth (h.frame .energyFast rfl) h.intensity rfl
  cases x with
  | speed | kickPulse => cases hx
  | energyFast => exact hfast
  | energySlow => exact hsmooth hf hfast rfl
  | beatPhase =>
      have hphase : e.frame.beatPhase = number 0 := hf
      simp [Frame.read, Extractor.liveFrame, h.beatRises, hphase, Tuning.beatPhaseDecay]
  | beat4 => exact (congrArg beatCounter (h.rawValue Address.beatTime)).trans beatCounter_zero
  | _ => exact hsmooth hf (h.rawValue _) rfl

theorem tickStale (h : e.Quiet) : e.tickStale.Quiet := by
  refine ⟨h.raw, fun x hx => ?_⟩
  have hf := h.frame.fade x hx
  cases x with
  | speed | kickPulse => cases hx
  | beat4 => exact (congrArg beatCounter (h.rawValue Address.beatTime)).trans beatCounter_zero
  | _ => exact hf

theorem tickLive (h : e.Quiet) (controls : Controls (Exact K)) : (e.tickLive controls).Quiet := by
  refine ⟨h.raw, fun x hx => ?_⟩
  have hf := h.liveFrame controls x hx
  cases x with
  | speed => cases hx
  | _ => exact hf

/-- A quiet extractor stays quiet from tick to tick, whatever time passes and wherever the knobs
stand. -/
theorem tick (h : e.Quiet) (dt : Exact K) (controls : Controls (Exact K)) :
    (e.tick dt controls).Quiet := by
  rw [Extractor.tick]
  split
  · exact (h.advance dt).tickStale
  · exact (h.advance dt).tickLive controls

end Quiet

end Extractor

end Audio

end LiveVisuals
