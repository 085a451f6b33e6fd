import LiveVisuals.Audio.FeatureName
import LiveVisuals.Proofs.Audio.Cooldown

/-!
# A feed is as stale as its history

An extractor remembers of all that it has heard one time only, that of the latest message which it
recorded since its last reset. Its clock never runs backward, so this is enough to tell whether any
message was recorded within the timeout: a message that is rejected leaves the time as it is, and a
reset makes it forgotten. As long as the feed is stale each tick takes the same share of every
feature away, whatever comes in between and is not heard in time.

Main definitions:

- {lit}`Audio.Extractor.hears`: an act by which something is heard.
- {lit}`Audio.Extractor.HeardWithin`: something was heard since the last reset, not too long ago.
- {lit}`Audio.Extractor.frames`: the frames that the ticks among some acts return.
- {lit}`Audio.Feature.fades`: features that fade while the feed is stale.

Main results:

- Theorem {lit}`Audio.Extractor.lastMessageAt_act`: what an act does to the time of the latest
  message.
- Theorem {lit}`Audio.Extractor.exists_hearing`: that time is the clock value of a message.
- Theorem {lit}`Audio.Extractor.HeardSince.run`: later messages only make it later.
- Theorem {lit}`Audio.Extractor.read_frames`: what stale ticks leave of a feature.
- Theorem {lit}`Audio.Extractor.staleness_follows_history`: when ticks are stale, and what stale
  ticks do.
-/

namespace LiveVisuals

namespace Exact

variable {K : Type} [Field K] [LinearOrder K] [IsStrictOrderedRing K]

/-- Of two defined values one is more than some way above the other, or at most that way. -/
theorem lt_sub_iff_not_le_add (gap : K) {x y : Exact K} (hx : x ≠ undefined)
    (hy : y ≠ undefined) : number gap < x - y ↔ ¬x ≤ y + number gap := by
  cases x with
  | number a =>
      cases y with
      | number b => simp [lt_sub_iff_add_lt, add_comm]
      | infinite n => cases n <;> simp
      | undefined => exact absurd rfl hy
  | infinite m =>
      cases y with
      | number b => cases m <;> simp
      | infinite n => cases m <;> cases n <;> simp
      | undefined => exact absurd rfl hy
  | undefined => exact absurd rfl hx

/-- A later time stays later after the same while. -/
theorem add_number_le_add_number {x y : Exact K} (h : x ≤ y) (c : K) :
    x + number c ≤ y + number c := by
  cases x <;> cases y <;> simp_all

/-- Two shares that are taken one after the other. -/
theorem mul_number_mul_number (x : Exact K) {a b : K} (ha : 0 < a)
    (hb : 0 < b) : x * number a * number b = x * number (a * b) := by
  cases x with
  | number c => simp [mul_assoc]
  | infinite m =>
      rw [infinite_mul_of_pos m ha, infinite_mul_of_pos m hb, infinite_mul_of_pos m (mul_pos ha hb)]
  | undefined => rfl

end Exact

namespace Audio

/-- Whether a feature fades while the feed is stale. -/
def Feature.fades : Feature → Bool
  | .kickPulse | .beat4 | .speed => false
  | _ => true

/-- Sixteen features fade. -/
example : Feature.all.countP Feature.fades = 16 := by decide

namespace Extractor

variable {α : Type}

section

variable [Scalar α]

/-- Whether an act has an extractor hear something: a message that is recorded and no reset. -/
def hears (e : Extractor α) : Act α → Bool
  | .ingest address args => address != Address.reset && (e.ingest? address args).isSome
  | .tick .. | .reset => false

/-- Since the last reset something was heard, and that at most some milliseconds before a time. -/
def HeardWithin (ms : α) (us : List (Act α)) (now : α) : Prop :=
  ∃ vs x ws, us = vs ++ x :: ws ∧ (run vs).hears x = true ∧ (∀ w ∈ ws, w.isReset = false) ∧
    now ≤ (run vs).clockMs + ms

/-- The frames that the ticks among some acts return, in order. -/
def frames (e : Extractor α) : List (Act α) → List (Frame α)
  | [] => []
  | .tick dt controls :: xs => (e.tick dt controls).frame :: frames (e.tick dt controls) xs
  | x :: xs => frames (e.act x) xs

/-! ## The latest message -/

/-- What an act does to the time of the latest message. -/
theorem lastMessageAt_act (e : Extractor α) (x : Act α) :
    (e.act x).lastMessageAt =
      if x.isReset then none else if e.hears x then some e.clockMs else e.lastMessageAt := by
  cases x with
  | ingest address args =>
      by_cases hreset : address = Address.reset
      · simp [hreset, act, ingest_reset, Act.isReset, reset, initial]
      · by_cases hvalue : isValueAddress address
        · cases hws : writes? address args with
          | none => simp [act, ingest, ingest?_eq e args hvalue, hws, Act.isReset, hreset, hears]
          | some ws =>
              simp [act, ingest, ingest?_eq e args hvalue, hws, Act.isReset, hreset, hears, record]
        · have hnone := (ingest?_of_not_value hvalue args).resolve_left hreset e
          simp [act, ingest, hnone, Act.isReset, hreset, hears]
  | tick dt controls =>
      simp only [act, tick, Act.isReset, hears, Bool.false_eq_true, if_false]
      split <;> rfl
  | reset => rfl

/-- The time of the latest message is the clock value at which something was heard, with no reset
since. -/
theorem exists_hearing {us : List (Act α)} {t : α} (h : (run us).lastMessageAt = some t) :
    ∃ vs x ws, us = vs ++ x :: ws ∧ (run vs).hears x = true ∧ (∀ w ∈ ws, w.isReset = false) ∧
      t = (run vs).clockMs := by
  induction us using List.reverseRecOn with
  | nil => cases h
  | append_singleton us x ih =>
      rw [run, List.foldl_concat, lastMessageAt_act] at h
      split at h
      · cases h
      · next hreset =>
          split at h
          · next hhears =>
              cases h
              exact ⟨us, x, [], rfl, hhears, by simp, rfl⟩
          · obtain ⟨vs, y, ws, rfl, hhears, hws, ht⟩ := ih h
            refine ⟨vs, y, ws ++ [x], by simp, hhears, fun w hw => ?_, ht⟩
            rcases List.mem_append.mp hw with hw | hw
            · exact hws w hw
            · rw [List.mem_singleton.mp hw]
              exact Bool.eq_false_of_not_eq_true hreset

/-- The frame of a tick is stale if and only if the feed is, when the clock has moved. -/
theorem stale_tick (e : Extractor α) (dt : α) (controls : Controls α) :
    (e.tick dt controls).frame.stale = (e.advance dt).isStale := by
  rw [tick]
  cases hstale : (e.advance dt).isStale <;> rfl

/-- Apart from a reset, only ticks change the frame. -/
theorem frame_ingest (e : Extractor α) {address : String} (h : address ≠ Address.reset)
    (args : List (Json α)) : (e.ingest address args).frame = e.frame := by
  rcases e.ingest_cases address args with hsame | ⟨hreset, -⟩ | ⟨ws, -, hrecord⟩
  · rw [hsame]
  · exact absurd hreset h
  · rw [hrecord]
    rfl

/-- A stale tick takes a share of each feature that fades, has no kick pulse, and puts the speed at
the floor. -/
theorem read_tick_of_stale {e : Extractor α} {dt : α} {controls : Controls α}
    (h : (e.tick dt controls).frame.stale = true) :
    (∀ f : Feature, f.fades →
      (e.tick dt controls).frame.read f = e.frame.read f * Tuning.staleDecay) ∧
    (e.tick dt controls).frame.kickPulse = false ∧ (e.tick dt controls).frame.speed = 0.02 := by
  rw [stale_tick] at h
  rw [tick]
  simp only [h, if_true]
  refine ⟨fun f hf => ?_, rfl, rfl⟩
  cases f with
  | kickPulse | beat4 | speed => cases hf
  | _ => rfl

end

/-! ## Exact time -/

section

open Exact

variable {K : Type} [Field K] [LinearOrder K] [IsStrictOrderedRing K] [FloorRing K] [Base K]

/-- The clock never runs backward. -/
theorem le_clockMs_act {e : Extractor (Exact K)} (h : e.clockMs ≠ undefined) (x : Act (Exact K)) :
    (e.act x).clockMs = undefined ∨ e.clockMs ≤ (e.act x).clockMs := by
  rcases clockMs_act e x with hclock | hclock
  · exact .inl hclock
  · rw [hclock]
    exact le_add_of_nonneg h (lapse_nonneg x)

omit [IsStrictOrderedRing K] in
/-- A clock that shows something has always done so. -/
theorem clockMs_ne_undefined {e : Extractor (Exact K)} {xs : List (Act (Exact K))}
    (h : (xs.foldl act e).clockMs ≠ undefined) : e.clockMs ≠ undefined := by
  induction xs generalizing e with
  | nil => exact h
  | cons x xs ih => exact fun hclock => ih h (clockMs_act_of_undefined hclock x)

/-- The latest message did not come before some time, as long as the clock shows any. -/
def HeardSince (since : Exact K) (e : Extractor (Exact K)) : Prop :=
  e.clockMs = undefined ∨
    since ≤ e.clockMs ∧ ∃ t, e.lastMessageAt = some t ∧ since ≤ t

/-- Acts other than a reset leave the latest message, or bring a later one. -/
theorem HeardSince.act {since : Exact K} {e : Extractor (Exact K)} (h : HeardSince since e)
    {x : Act (Exact K)} (hx : x.isReset = false) : HeardSince since (e.act x) := by
  rcases h with hclock | ⟨hle, t, ht, hsince⟩
  · exact .inl (clockMs_act_of_undefined hclock x)
  · have hdefined : e.clockMs ≠ undefined := by
      intro hclock
      rw [hclock] at hle
      exact not_le_undefined hle
    rcases le_clockMs_act hdefined x with hlost | hlater
    · exact .inl hlost
    · refine .inr ⟨Exact.le_trans hle hlater, ?_⟩
      rw [lastMessageAt_act, hx]
      by_cases hhears : e.hears x = true
      · exact ⟨e.clockMs, by simp [hhears], hle⟩
      · exact ⟨t, by simp [hhears, ht], hsince⟩

/-- Without a reset, later messages only make the time of the latest one later. -/
theorem HeardSince.run {since : Exact K} {e : Extractor (Exact K)} (h : HeardSince since e)
    {xs : List (Act (Exact K))} (hxs : ∀ x ∈ xs, x.isReset = false) :
    HeardSince since (xs.foldl Extractor.act e) :=
  List.foldlRecOn xs Extractor.act h fun _ h x hx => h.act (hxs x hx)

/-- An extractor that hears something has heard since the time that its clock shows. -/
theorem heardSince_of_hears {e : Extractor (Exact K)} {x : Act (Exact K)} (h : e.hears x = true) :
    HeardSince e.clockMs (e.act x) := by
  by_cases hclock : e.clockMs = undefined
  · exact .inl (clockMs_act_of_undefined hclock x)
  · have hreset : x.isReset = false := by
      cases x with
      | ingest address args => simpa [hears, Act.isReset] using (Bool.and_eq_true_iff.mp h).1
      | _ => cases h
    rcases le_clockMs_act hclock x with hlost | hlater
    · exact .inl hlost
    · refine .inr ⟨hlater, e.clockMs, ?_, Exact.le_self_iff.mpr hclock⟩
      rw [lastMessageAt_act, hreset, h]
      rfl

/-- A feed is not stale if and only if its latest message is recent. -/
theorem isStale_eq_false_iff {e : Extractor (Exact K)} (hclock : e.clockMs ≠ undefined)
    (hlast : ∀ t, e.lastMessageAt = some t → t ≠ undefined) :
    e.isStale = false ↔ ∃ t, e.lastMessageAt = some t ∧ e.clockMs ≤ t + number 1500.0 := by
  cases hheard : e.lastMessageAt with
  | none =>
      have hdefined : Scalar.isUndefined e.clockMs = false := by
        cases hshown : e.clockMs with
        | undefined => exact absurd hshown hclock
        | _ => simp
      simp [isStale, hheard, hdefined]
  | some t =>
      have hfar := lt_sub_iff_not_le_add 1500.0 hclock (hlast t hheard)
      have htimeout : (Tuning.staleTimeoutMs : Exact K) = number 1500.0 := rfl
      simp [isStale, hheard, htimeout, hfar]

/-- A tick is live if and only if something was heard within the timeout. -/
theorem stale_tick_eq_false_iff (us : List (Act (Exact K))) (dt : Exact K)
    (controls : Controls (Exact K))
    (hclock : ((run us).tick dt controls).clockMs ≠ undefined) :
    ((run us).tick dt controls).frame.stale = false ↔
      HeardWithin 1500.0 us ((run us).tick dt controls).clockMs := by
  have hmoved : ((run us).tick dt controls).clockMs = ((run us).advance dt).clockMs := by
    rw [tick]
    split <;> rfl
  have hkept : ((run us).advance dt).lastMessageAt = (run us).lastMessageAt := rfl
  rw [hmoved] at hclock ⊢
  have hbefore : (run us).clockMs ≠ undefined := fun h =>
    hclock (hmoved ▸ clockMs_act_of_undefined h (.tick dt controls))
  have hdefined {vs ws : List (Act (Exact K))} {x : Act (Exact K)} (hus : us = vs ++ x :: ws) :
      (run vs).clockMs ≠ undefined := by
    rw [hus, run, List.foldl_append] at hbefore
    exact clockMs_ne_undefined hbefore
  have hlast : ∀ t, ((run us).advance dt).lastMessageAt = some t → t ≠ undefined := by
    intro t ht
    obtain ⟨vs, x, ws, hus, -, -, rfl⟩ := exists_hearing (hkept ▸ ht)
    exact hdefined hus
  rw [stale_tick, isStale_eq_false_iff hclock hlast, hkept]
  constructor
  · rintro ⟨t, ht, hle⟩
    obtain ⟨vs, x, ws, hus, hhears, hws, rfl⟩ := exists_hearing ht
    exact ⟨vs, x, ws, hus, hhears, hws, hle⟩
  · rintro ⟨vs, x, ws, hus, hhears, hws, hle⟩
    have hsince := (heardSince_of_hears hhears).run hws
    have hrun : ws.foldl act ((run vs).act x) = run us := by
      rw [hus, run, run, List.foldl_append]
      rfl
    rw [hrun] at hsince
    obtain ⟨-, t, ht, hlater⟩ := hsince.resolve_left hbefore
    exact ⟨t, ht, Exact.le_trans hle (add_number_le_add_number hlater _)⟩

/-- What stale ticks leave of a feature, whatever comes between them other than a reset. -/
theorem read_frames {e : Extractor (Exact K)} {xs : List (Act (Exact K))}
    (hxs : ∀ x ∈ xs, x.isReset = false) (hstale : ∀ f ∈ e.frames xs, f.stale = true) {k : Nat}
    {frame : Frame (Exact K)} (hk : (e.frames xs)[k]? = some frame) {f : Feature} (hf : f.fades) :
    frame.read f = e.frame.read f * number (0.9 ^ (k + 1)) := by
  induction xs generalizing e k with
  | nil => cases hk
  | cons x xs ih =>
      have hrest := fun x hx => hxs x (List.mem_cons_of_mem _ hx)
      cases x with
      | ingest address args =>
          have haddress : address ≠ Address.reset := by
            simpa [Act.isReset] using hxs _ List.mem_cons_self
          rw [← e.frame_ingest haddress args]
          exact ih hrest hstale hk
      | reset => exact absurd (hxs _ List.mem_cons_self) Bool.noConfusion
      | tick dt controls =>
          obtain ⟨hfirst, hlater⟩ := List.forall_mem_cons.mp hstale
          have hdecay := (read_tick_of_stale hfirst).1 f hf
          have hshare : (Tuning.staleDecay : Exact K) = number 0.9 := rfl
          have hpos : (0 : K) < 0.9 := by norm_num
          cases k with
          | zero =>
              obtain rfl : (e.tick dt controls).frame = frame := Option.some.inj hk
              rw [hdecay, hshare, zero_add, pow_one]
          | succ k =>
              rw [ih hrest hlater hk, hdecay, hshare, mul_number_mul_number _ hpos (pow_pos hpos _),
                ← pow_succ']

omit [IsStrictOrderedRing K] in
/-- Each stale tick among some acts has no kick pulse, and its speed is the floor. -/
theorem pulse_speed_of_mem_frames {e : Extractor (Exact K)} {xs : List (Act (Exact K))}
    {frame : Frame (Exact K)} (hframe : frame ∈ e.frames xs) (hstale : frame.stale = true) :
    frame.kickPulse = false ∧ frame.speed = 0.02 := by
  induction xs generalizing e with
  | nil => cases hframe
  | cons x xs ih =>
      cases x with
      | tick dt controls =>
          rcases List.mem_cons.mp hframe with rfl | hframe
          · exact (read_tick_of_stale hstale).2
          · exact ih hframe
      | _ => exact ih hframe

/-- Staleness follows the history of the feed. A tick after which the clock shows a time has a live
frame if and only if some message was recorded since the start or the last reset when the clock
showed at most 1500 milliseconds less; messages that are rejected do not count, and resets do not
either. While all ticks are stale and nothing is reset, the frame of the one that follows {lit}`k`
others has {lit}`0.9 ^ (k + 1)` of what each of the fading features was before, no kick pulse, and
the least speed. -/
theorem staleness_follows_history :
    (∀ (us : List (Act (Exact K))) (dt : Exact K) (controls : Controls (Exact K)),
      ((run us).tick dt controls).clockMs ≠ undefined →
        (((run us).tick dt controls).frame.stale = false ↔
          HeardWithin 1500.0 us ((run us).tick dt controls).clockMs)) ∧
    ∀ us xs : List (Act (Exact K)), (∀ x ∈ xs, x.isReset = false) →
      (∀ frame ∈ (run us).frames xs, frame.stale = true) →
        ∀ k frame, ((run us).frames xs)[k]? = some frame →
          (∀ f : Feature, f.fades →
            frame.read f = (run us).frame.read f * number (0.9 ^ (k + 1))) ∧
          frame.kickPulse = false ∧ frame.speed = 0.02 := by
  refine ⟨stale_tick_eq_false_iff, fun us xs hxs hstale k frame hk => ⟨fun f hf => ?_, ?_⟩⟩
  · exact read_frames hxs hstale hk hf
  · have hmem := List.mem_of_getElem? hk
    exact pulse_speed_of_mem_frames hmem (hstale frame hmem)

end

/-- A feed that is heard once, and then not in time. -/
def fadeOut : List (Act (Exact ℚ)) :=
  [.reset, .ingest Address.bass [.num 1.0], .tick 0.5 .default,
    .ingest Address.bass [.str "loud"], .tick 1.0 .default]

/-- Silence that lasts: a message that is rejected, and one that comes in time to be too old. -/
def silence : List (Act (Exact ℚ)) :=
  [.tick 0.1 .default, .ingest Address.levels [.num 1.0], .ingest Address.mid [.num 1.0],
    .tick 1.6 .default, .tick 0.1 .default]

open Exact in
/-- At the end of the timeout the feed is live, and right after it is stale; the third stale tick
leaves 729 thousandths of the bass, and the message before the second is not heard in time. -/
theorem staleness_follows_history_of_fadeOut :
    HeardWithin 1500.0 fadeOut (number 1500) ∧ ¬HeardWithin 1500.0 fadeOut (number 1501) ∧
      (∀ x ∈ silence, x.isReset = false) ∧
      (∀ frame ∈ (run fadeOut).frames silence, frame.stale = true) ∧
      ∃ frame : Frame (Exact ℚ), ((run fadeOut).frames silence)[2]? = some frame ∧
        frame.bass = (run fadeOut).frame.bass * number (0.9 ^ 3) ∧ frame.bass = number 0.26244 ∧
        frame.kickPulse = false ∧ frame.speed = 0.02 := by
  obtain ⟨hlive, hfading⟩ := staleness_follows_history (K := ℚ)
  have hend : ((run fadeOut).tick 0.0 .default).clockMs = number 1500 := by decide +kernel
  have hafter : ((run fadeOut).tick 0.001 .default).clockMs = number 1501 := by decide +kernel
  have hreset : ∀ x ∈ silence, x.isReset = false := by decide +kernel
  have hstale : ∀ frame ∈ (run fadeOut).frames silence, frame.stale = true := by decide +kernel
  have hthird : (((run fadeOut).frames silence)[2]?).isSome = true := by decide +kernel
  obtain ⟨frame, hframe⟩ := Option.isSome_iff_exists.mp hthird
  obtain ⟨hfeatures, hpulse, hspeed⟩ := hfading fadeOut silence hreset hstale 2 frame hframe
  have hbass : frame.bass = (run fadeOut).frame.bass * number (0.9 ^ 3) := hfeatures .bass rfl
  have hbefore : (run fadeOut).frame.bass = number 0.36 := by decide +kernel
  refine ⟨?_, ?_, hreset, hstale, frame, hframe, hbass, ?_, hpulse, hspeed⟩
  · have hiff := hlive fadeOut 0.0 .default (by rw [hend]; nofun)
    rw [hend] at hiff
    exact hiff.mp (by decide +kernel)
  · have hiff := hlive fadeOut 0.001 .default (by rw [hafter]; nofun)
    rw [hafter] at hiff
    have htick : ((run fadeOut).tick 0.001 .default).frame.stale = true := by decide +kernel
    rw [← hiff, htick]
    exact Bool.noConfusion
  · rw [hbass, hbefore, number_mul]
    norm_num

end Extractor

end Audio

end LiveVisuals
