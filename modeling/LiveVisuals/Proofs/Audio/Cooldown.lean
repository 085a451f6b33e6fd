import LiveVisuals.Proofs.Audio.Ingest
import LiveVisuals.Proofs.Scalar.Exact

/-!
# Kick pulses keep their distance

A kick pulse begins a cooldown, and so do the start and a reset. The clock of an extractor never
runs backward, and no pulse comes before the clock is past the end of the cooldown. So pulses
are more than a cooldown apart, whatever is heard between them, however long ticks take and
whichever thresholds they are given, and some time holds no more pulses than cooldowns. A tick
that takes no defined time leaves a clock that shows nothing, and there are no pulses from then
on.

Main definitions:

- {lit}`Audio.Extractor.Act`, {lit}`Audio.Extractor.run`: what can happen to an extractor.
- {lit}`Audio.Extractor.CoolingSince`: the last cooldown did not begin before some time.
- {lit}`Audio.Extractor.Pulse`: what is true of a tick with a kick pulse.

Main results:

- Theorem {lit}`Audio.Extractor.timing_act`: what an act does to the clock and to the cooldown.
- Theorem {lit}`Audio.Extractor.CoolingSince.run`: a cooldown is only followed by later ones.
- Theorem {lit}`Audio.Extractor.kicks_cool_down`: pulses keep their distance from each other, from
  the start and from resets, and there are at most as many as cooldowns fit into the run.
-/

namespace LiveVisuals.Audio.Extractor

variable {α : Type}

/-- What can happen to an extractor. -/
inductive Act (α : Type) where
  | ingest (address : String) (args : List (Json α))
  | tick (dt : α) (controls : Controls α)
  | reset

/-- Whether an act is a reset, asked for directly or by a message. -/
def Act.isReset : Act α → Bool
  | .ingest address _ => address == Address.reset
  | .tick .. => false
  | .reset => true

section

variable [Scalar α]

/-- An extractor after an act. -/
def act (e : Extractor α) : Act α → Extractor α
  | .ingest address args => e.ingest address args
  | .tick dt controls => e.tick dt controls
  | .reset => e.reset

/-- An extractor from its start, after some acts. -/
def run (xs : List (Act α)) : Extractor α := xs.foldl act initial

/-- Whether an act is a tick that reports a kick pulse. -/
def pulses (e : Extractor α) : Act α → Bool
  | .tick dt controls => (e.tick dt controls).frame.kickPulse
  | _ => false

/-- The number of kick pulses that some acts bring about. -/
def pulseCount (e : Extractor α) : List (Act α) → Nat
  | [] => 0
  | x :: xs => (if e.pulses x then 1 else 0) + pulseCount (e.act x) xs

/-- The milliseconds that a tick lets pass, if it lets any pass. -/
def Act.lapse : Act α → α
  | .tick dt _ => if (0.0 : α) < dt then dt * 1000.0 else 0.0
  | _ => 0.0

/-- The milliseconds that pass in all. -/
def lapses (xs : List (Act α)) : α := xs.foldr (fun x total => x.lapse + total) 0.0

/-- What is true of a tick with a kick pulse, after some acts. -/
structure Pulse (us : List (Act α)) (dt : α) (controls : Controls α) : Prop where
  /-- The feed is not stale. -/
  live : ((run us).tick dt controls).frame.stale = false ∧ ((run us).advance dt).isStale = false
  /-- The latest raw hit exceeds the threshold. -/
  hit : controls.kickThreshold < (run us).rawValue Address.hitsBass
  start : (140.0 : α) < ((run us).tick dt controls).clockMs - (initial : Extractor α).clockMs
  pulse : ∀ vs dt' controls' ws, us = vs ++ .tick dt' controls' :: ws →
    ((run vs).tick dt' controls').frame.kickPulse = true →
      (140.0 : α) < ((run us).tick dt controls).clockMs - ((run vs).tick dt' controls').clockMs
  reset : ∀ vs x ws, us = vs ++ x :: ws → x.isReset = true →
    (140.0 : α) < ((run us).tick dt controls).clockMs - (run vs).clockMs

/-! ## Acts and time -/

/-- What an act does to the clock and to the cooldown: only ticks move the clock, and a cooldown
that begins does so at the time that the clock shows then. -/
theorem timing_act (e : Extractor α) (x : Act α) :
    ((e.act x).clockMs = e.clockMs ∧ x.lapse = 0.0 ∨
      ∃ dt controls, x = .tick dt controls ∧ (e.act x).clockMs = (e.advance dt).clockMs) ∧
    ((e.act x).lastKickAt = e.lastKickAt ∨ (e.act x).lastKickAt = (e.act x).clockMs) := by
  cases x with
  | ingest address args =>
      rcases e.ingest_cases address args with h | ⟨-, h⟩ | ⟨ws, -, h⟩
      · rw [act, h]
        exact ⟨.inl ⟨rfl, rfl⟩, .inl rfl⟩
      · rw [act, h]
        exact ⟨.inl ⟨rfl, rfl⟩, .inr rfl⟩
      · rw [act, h]
        exact ⟨.inl ⟨rfl, rfl⟩, .inl rfl⟩
  | tick dt controls =>
      simp only [act, tick]
      split
      · exact ⟨.inr ⟨dt, controls, rfl, rfl⟩, .inl rfl⟩
      · refine ⟨.inr ⟨dt, controls, rfl, rfl⟩, ?_⟩
        simp only [tickLive]
        split
        · exact .inr rfl
        · exact .inl rfl
  | reset => exact ⟨.inl ⟨rfl, rfl⟩, .inr rfl⟩

/-- A tick that reports a kick pulse is one of a live feed, with a hit, after the cooldown, and
begins a new one. -/
theorem kick_of_pulse {e : Extractor α} {dt : α} {controls : Controls α}
    (h : (e.tick dt controls).frame.kickPulse = true) :
    ((e.tick dt controls).frame.stale = false ∧ (e.advance dt).isStale = false) ∧
      controls.kickThreshold < e.rawValue Address.hitsBass ∧
      Tuning.kickCooldownMs < (e.tick dt controls).clockMs - e.lastKickAt ∧
      (e.tick dt controls).lastKickAt = (e.tick dt controls).clockMs := by
  rw [tick] at h ⊢
  by_cases hstale : (e.advance dt).isStale = true
  · simp only [hstale, if_true] at h
    cases h
  · simp only [hstale] at h ⊢
    have hkicks : (e.advance dt).kicks controls = true := h
    obtain ⟨hhit, hcooled⟩ := Bool.and_eq_true_iff.mp hkicks
    exact ⟨⟨rfl, trivial⟩, of_decide_eq_true hhit, of_decide_eq_true hcooled, if_pos h⟩

/-- An act that brings about a kick pulse comes after the cooldown and begins a new one. -/
theorem kick_of_pulses {e : Extractor α} {x : Act α} (h : e.pulses x = true) :
    Tuning.kickCooldownMs < (e.act x).clockMs - e.lastKickAt ∧
      (e.act x).lastKickAt = (e.act x).clockMs := by
  cases x with
  | tick dt controls => exact (kick_of_pulse h).2.2
  | _ => cases h

end

/-! ## Exact time -/

section

open Exact

variable {K : Type} [LinearOrder K]

/-- The last cooldown did not begin before some time, as long as the clock shows any. -/
def CoolingSince (since : Exact K) (e : Extractor (Exact K)) : Prop :=
  e.clockMs = undefined ∨ since ≤ e.lastKickAt ∧ e.lastKickAt ≤ e.clockMs

/-- When a cooldown begins, the last one begins right then. -/
theorem coolingSince_of_begin {e : Extractor (Exact K)} (h : e.lastKickAt = e.clockMs) :
    CoolingSince e.clockMs e := by
  by_cases hclock : e.clockMs = undefined
  · exact .inl hclock
  · rw [CoolingSince, h]
    exact .inr ⟨Exact.le_self_iff.mpr hclock, Exact.le_self_iff.mpr hclock⟩

variable [Field K] [IsStrictOrderedRing K] [FloorRing K] [Base K]

/-- No tick lets negative time pass. -/
theorem lapse_nonneg (x : Act (Exact K)) : number 0 ≤ x.lapse := by
  cases x with
  | tick dt controls =>
      have hthousand : (0 : K) < 1000.0 := by norm_num
      rw [Act.lapse]
      cases dt with
      | number d =>
          by_cases hd : 0 < d
          · simp [hd, hthousand.le]
          · simp [hd]
      | infinite n => cases n <;> simp [infinite_mul_of_pos _ hthousand]
      | undefined => simp
  | _ => simp [Act.lapse]

omit [IsStrictOrderedRing K] in
/-- An act moves the clock by the time that it lets pass, or leaves it without anything to
show. -/
theorem clockMs_act (e : Extractor (Exact K)) (x : Act (Exact K)) :
    (e.act x).clockMs = undefined ∨ (e.act x).clockMs = e.clockMs + x.lapse := by
  rcases (timing_act e x).1 with ⟨hclock, hlapse⟩ | ⟨dt, controls, rfl, hclock⟩
  · right
    rw [hclock, hlapse]
    cases e.clockMs <;> simp
  · rw [hclock, advance, Act.lapse]
    cases dt with
    | number d =>
        right
        by_cases hd : 0 < d
        · simp [hd, hd.le]
        · simp [hd, not_lt.mp hd]
    | infinite n =>
        right
        cases n <;> simp [Scalar.greater]
    | undefined =>
        left
        simp [Scalar.greater]

omit [IsStrictOrderedRing K] in
/-- A clock that shows nothing goes on to do so. -/
theorem clockMs_act_of_undefined {e : Extractor (Exact K)} (h : e.clockMs = undefined)
    (x : Act (Exact K)) : (e.act x).clockMs = undefined := by
  rcases clockMs_act e x with hclock | hclock
  · exact hclock
  · rw [hclock, h, undefined_add]

omit [IsStrictOrderedRing K] in
/-- There is no pulse while the clock shows nothing. -/
theorem pulses_of_undefined {e : Extractor (Exact K)} {x : Act (Exact K)}
    (h : (e.act x).clockMs = undefined) : e.pulses x = false := by
  rw [Bool.eq_false_iff]
  intro hpulse
  obtain ⟨hcooled, -⟩ := kick_of_pulses hpulse
  rw [h] at hcooled
  exact hcooled

namespace CoolingSince

variable {since : Exact K} {e : Extractor (Exact K)}

/-- A cooldown is only followed by later ones. -/
theorem act (h : CoolingSince since e) (x : Act (Exact K)) : CoolingSince since (e.act x) := by
  obtain ⟨-, hlast⟩ := timing_act e x
  rcases h with h | ⟨hsince, hle⟩
  · exact .inl (clockMs_act_of_undefined h x)
  · have hdefined : e.clockMs ≠ undefined := by
      intro hclock
      rw [hclock] at hle
      exact not_le_undefined hle
    rcases clockMs_act e x with hclock | hclock
    · exact .inl hclock
    · rcases le_add_of_nonneg hdefined (lapse_nonneg x) with hlost | hgrown
      · exact .inl (hclock.trans hlost)
      · rw [← hclock] at hgrown
        have hlater : e.lastKickAt ≤ (e.act x).clockMs := Exact.le_trans hle hgrown
        refine .inr ?_
        rcases hlast with hlast | hlast
        · rw [hlast]
          exact ⟨hsince, hlater⟩
        · rw [hlast]
          refine ⟨Exact.le_trans hsince hlater, Exact.le_self_iff.mpr ?_⟩
          intro hclock'
          rw [hclock'] at hlater
          exact not_le_undefined hlater

/-- A cooldown is only followed by later ones. -/
theorem run (h : CoolingSince since e) (xs : List (Act (Exact K))) :
    CoolingSince since (xs.foldl Extractor.act e) := by
  induction xs generalizing e with
  | nil => exact h
  | cons x xs ih => exact ih (h.act x)

/-- A kick pulse comes when more than a cooldown has passed. -/
theorem lt_of_pulse (h : CoolingSince since e) {dt : Exact K} {controls : Controls (Exact K)}
    (hpulse : (e.tick dt controls).frame.kickPulse = true) :
    (140.0 : Exact K) < (e.tick dt controls).clockMs - since := by
  rcases h with h | ⟨hsince, -⟩
  · have hnone := pulses_of_undefined (clockMs_act_of_undefined h (.tick dt controls))
    exact absurd (hnone.symm.trans hpulse) Bool.noConfusion
  · exact lt_sub_of_le (kick_of_pulse hpulse).2.2.1 hsince

end CoolingSince

/-! ## Counting pulses -/

omit [IsStrictOrderedRing K] in
/-- There are no pulses any more once the clock shows nothing. -/
theorem pulseCount_of_undefined {e : Extractor (Exact K)} (h : e.clockMs = undefined)
    (xs : List (Act (Exact K))) : e.pulseCount xs = 0 := by
  induction xs generalizing e with
  | nil => rfl
  | cons x xs ih =>
      have hclock := clockMs_act_of_undefined h x
      simp [pulseCount, pulses_of_undefined hclock, ih hclock]

/-- Finitely much time passes in finitely much by finitely much. -/
theorem lapses_cons {x : Act (Exact K)} {xs : List (Act (Exact K))} {total : K}
    (h : lapses (x :: xs) = number total) :
    ∃ now later, x.lapse = number now ∧ lapses xs = number later ∧ 0 ≤ now ∧
      total = now + later := by
  have hsum : x.lapse + lapses xs = number total := h
  have hfinite : (Scalar.isFinite x.lapse && Scalar.isFinite (lapses xs)) = true := by
    rw [← isFinite_add, hsum, isFinite_number]
  obtain ⟨hx, hxs⟩ := Bool.and_eq_true_iff.mp hfinite
  obtain ⟨now, hnow⟩ := isFinite_iff.mp hx
  obtain ⟨later, hlater⟩ := isFinite_iff.mp hxs
  have hnonneg := lapse_nonneg x
  rw [hnow] at hsum hnonneg
  rw [hlater, number_add] at hsum
  exact ⟨now, later, hnow, hlater, hnonneg, (number.inj hsum).symm⟩

/-- Time passes forward. -/
theorem total_nonneg {xs : List (Act (Exact K))} {total : K} (h : lapses xs = number total) :
    0 ≤ total := by
  induction xs generalizing total with
  | nil =>
      have hzero : (number 0 : Exact K) = number total := zero_eq.symm.trans h
      exact (number.inj hzero).le
  | cons x xs ih =>
      obtain ⟨now, later, -, hlater, hnow, rfl⟩ := lapses_cons h
      exact add_nonneg hnow (ih hlater)

/-- An act with a kick pulse uses up a cooldown of the time that has passed since the last one
began, and any act adds the time that it lets pass. -/
theorem exists_left {e : Extractor (Exact K)} {x : Act (Exact K)} {clock last now : K}
    (hlast : e.lastKickAt = number last) (hle : last ≤ clock) (hnonneg : 0 ≤ now)
    (hclock : (e.act x).clockMs = number (clock + now)) :
    ∃ last', (e.act x).lastKickAt = number last' ∧ last' ≤ clock + now ∧
      140 * (if e.pulses x then 1 else 0) + (clock + now - last') ≤ now + (clock - last) := by
  cases hpulse : e.pulses x with
  | false =>
      rcases (timing_act e x).2 with hkept | hbegun
      · exact ⟨last, hkept.trans hlast, by linarith, by simp; linarith⟩
      · exact ⟨clock + now, hbegun.trans hclock, le_rfl, by simp; linarith⟩
  | true =>
      obtain ⟨hcooled, hbegun⟩ := kick_of_pulses hpulse
      rw [hclock, hlast, number_sub] at hcooled
      have hgap : (140.0 : K) < clock + now - last := number_lt_number.mp hcooled
      refine ⟨clock + now, hbegun.trans hclock, le_rfl, ?_⟩
      norm_num at hgap ⊢
      linarith

/-- As many cooldowns as there are pulses fit into the time that passes, together with what has
passed already since the last cooldown began. -/
theorem pulseCount_le {xs : List (Act (Exact K))} {total : K} (htotal : lapses xs = number total)
    {e : Extractor (Exact K)} {clock last : K} (hclock : e.clockMs = number clock)
    (hlast : e.lastKickAt = number last) (hle : last ≤ clock) :
    140 * (e.pulseCount xs : K) ≤ total + (clock - last) := by
  induction xs generalizing e clock last total with
  | nil =>
      have hnonneg := total_nonneg htotal
      simp only [pulseCount, Nat.cast_zero, mul_zero]
      linarith
  | cons x xs ih =>
      obtain ⟨now, later, hnow, hlater, hnonneg, rfl⟩ := lapses_cons htotal
      rw [pulseCount, Nat.cast_add, Nat.cast_ite, Nat.cast_one, Nat.cast_zero]
      rcases clockMs_act e x with hlost | hclock'
      · -- the clock shows nothing any more, so there are no pulses from here on
        have hrest := total_nonneg hlater
        simp only [pulses_of_undefined hlost, pulseCount_of_undefined hlost, Bool.false_eq_true,
          if_false, Nat.cast_zero, add_zero, mul_zero]
        linarith
      · rw [hclock, hnow, number_add] at hclock'
        obtain ⟨last', hlast', hle', hleft⟩ := exists_left hlast hle hnonneg hclock'
        have hrest := ih hlater hclock' hlast' hle'
        linarith

/-- Kick pulses keep their distance. A tick that reports one is not stale, and the latest raw hit
exceeds its threshold; it comes more than 140 milliseconds after the start, after every earlier
pulse and after every earlier reset. If the time that passes in a run is finite, there are no
more pulses than times of 140 milliseconds in it. -/
theorem kicks_cool_down :
    (∀ (us : List (Act (Exact K))) (dt : Exact K) (controls : Controls (Exact K)),
      ((run us).tick dt controls).frame.kickPulse = true → Pulse us dt controls) ∧
    ∀ (xs : List (Act (Exact K))) (total : K), lapses xs = number total →
      (pulseCount initial xs : Int) ≤ ⌊total / 140⌋ := by
  constructor
  · intro us dt controls hpulse
    obtain ⟨hlive, hhit, -, -⟩ := kick_of_pulse hpulse
    have hlater {vs ws : List (Act (Exact K))} {x : Act (Exact K)} (hus : us = vs ++ x :: ws)
        (hbegin : ((run vs).act x).lastKickAt = ((run vs).act x).clockMs) :
        (140.0 : Exact K) < ((run us).tick dt controls).clockMs - ((run vs).act x).clockMs := by
      have hcooling := (coolingSince_of_begin hbegin).run ws
      have hrun : run us = ws.foldl act ((run vs).act x) := by
        rw [hus, run, List.foldl_append]
        rfl
      rw [← hrun] at hcooling
      exact hcooling.lt_of_pulse hpulse
    refine ⟨hlive, hhit, ?_, ?_, ?_⟩
    · exact ((coolingSince_of_begin (e := initial) rfl).run us).lt_of_pulse hpulse
    · intro vs dt' controls' ws hus hearlier
      exact hlater hus (kick_of_pulse hearlier).2.2.2
    · intro vs x ws hus hreset
      have hact : (run vs).act x = (run vs).reset := by
        cases x with
        | ingest address args =>
            obtain rfl : address = Address.reset := by simpa [Act.isReset] using hreset
            exact ingest_reset _ args
        | tick dt' controls' => cases hreset
        | reset => rfl
      have hgap := hlater hus (hact ▸ rfl)
      rwa [hact] at hgap
  · intro xs total htotal
    have hstart : (initial : Extractor (Exact K)).clockMs = number 0 := zero_eq
    have hcooling : (initial : Extractor (Exact K)).lastKickAt = number 0 := zero_eq
    have hle := pulseCount_le htotal hstart hcooling le_rfl
    rw [Int.le_floor, le_div_iff₀ (by norm_num), Int.cast_natCast]
    linarith

end

/-- Hits that are heard before and after a reset; the second tick comes too soon for a pulse. -/
def beats : List (Act (Exact ℚ)) :=
  [.ingest Address.hitsBass [.num 1.0], .tick 0.15 .default, .tick 0.1 .default,
    .ingest Address.reset [], .ingest Address.hitsBass [.num 1.0]]

/-- Of three ticks two have a pulse, and the time that passes holds no more. -/
theorem kicks_cool_down_of_beats :
    ((run beats).tick 0.145 .default).frame.kickPulse = true ∧ Pulse beats 0.145 .default ∧
      lapses (beats ++ [.tick 0.145 .default]) = .number 395 ∧
      pulseCount initial (beats ++ [.tick 0.145 .default]) = 2 ∧ (2 : Int) ≤ ⌊(395 : ℚ) / 140⌋ := by
  have hpulse : ((run beats).tick 0.145 .default).frame.kickPulse = true := by decide +kernel
  have htotal : lapses (beats ++ [.tick 0.145 .default]) = .number 395 := by decide +kernel
  have hcount : pulseCount initial (beats ++ [.tick 0.145 .default]) = 2 := by decide +kernel
  obtain ⟨hpulses, hcounts⟩ := kicks_cool_down (K := ℚ)
  refine ⟨hpulse, hpulses beats 0.145 .default hpulse, htotal, hcount, ?_⟩
  have hle := hcounts _ 395 htotal
  rwa [hcount] at hle

end LiveVisuals.Audio.Extractor
