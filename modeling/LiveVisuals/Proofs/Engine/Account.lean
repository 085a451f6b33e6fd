import Mathlib.Data.List.Nodup
import LiveVisuals.Proofs.Engine.Flight

/-!
# The account of activations

Everything that an engine has asked for tells, in order, which activations have found their
shader and how those that are no longer on their way have ended. This account and the flight
fit together after every move.

Main definitions:

- {lit}`Effect.starts`, {lit}`Effect.returns`, {lit}`Effect.installs`: what the effects tell.
- {lit}`Effect.StartedAs`: the number of an activation among those that have found their shader.
- {lit}`Flight.Accounted`: a flight and the effects so far fit together.

Main results:

- Theorem {lit}`Flight.Accounted.move`: every move keeps the account.
- Theorem {lit}`Performance.accounted`: after every run the account holds.
-/

namespace LiveVisuals

variable {α : Type}

/-! ## What effects tell -/

namespace Effect

/-- The activation that has found its shader. -/
def start? : Effect α → Option Ticket
  | .readSource t _ => some t
  | _ => none

/-- The end of an activation. -/
def finish? : Effect α → Option (Finish α)
  | .finished f => some f
  | _ => none

/-- The activations that have found their shader, in order. -/
def starts (log : List (Effect α)) : List Ticket := log.filterMap start?

/-- The ends of activations, in order. -/
def returns (log : List (Effect α)) : List (Finish α) := log.filterMap finish?

/-- The shaders that activations have brought back, in order. -/
def installs (log : List (Effect α)) : List (ActiveShader α) :=
  (returns log).filterMap (·.outcome.shader?)

@[simp] theorem starts_append (log log' : List (Effect α)) :
    starts (log ++ log') = starts log ++ starts log' := by
  simp [starts]

@[simp] theorem returns_append (log log' : List (Effect α)) :
    returns (log ++ log') = returns log ++ returns log' := by
  simp [returns]

@[simp] theorem installs_append (log log' : List (Effect α)) :
    installs (log ++ log') = installs log ++ installs log' := by
  simp [installs]

@[simp] theorem starts_readSource (t : Ticket) (path : String) :
    starts [(.readSource t path : Effect α)] = [t] :=
  rfl

@[simp] theorem starts_finished (r : Finish α) : starts [.finished r] = [] :=
  rfl

@[simp] theorem returns_finished (r : Finish α) : returns [.finished r] = [r] :=
  rfl

@[simp] theorem installs_finished (r : Finish α) :
    installs [.finished r] = r.outcome.shader?.toList := by
  cases h : r.outcome.shader? <;> simp [installs, h]

/-- Effects among which there is no start and no end, and no asking for a compile or for saved
bindings. -/
def Quiet (xs : List (Effect α)) : Prop :=
  ∀ x ∈ xs, x.start? = none ∧ x.finish? = none ∧ (∀ t n, x ≠ .loadPreset t n) ∧
    ∀ t req, x ≠ .compile t req

theorem Quiet.starts {xs : List (Effect α)} (h : Quiet xs) : starts xs = [] := by
  simp only [Effect.starts, List.filterMap_eq_nil_iff]
  exact fun x hx => (h x hx).1

theorem Quiet.returns {xs : List (Effect α)} (h : Quiet xs) : returns xs = [] := by
  simp only [Effect.returns, List.filterMap_eq_nil_iff]
  exact fun x hx => (h x hx).2.1

theorem Quiet.installs {xs : List (Effect α)} (h : Quiet xs) : installs xs = [] := by
  simp [Effect.installs, h.returns]

theorem Quiet.loadPreset {xs : List (Effect α)} (h : Quiet xs) (t : Ticket) (n : String) :
    .loadPreset t n ∉ xs :=
  fun hx => (h _ hx).2.2.1 t n rfl

theorem Quiet.compile {xs : List (Effect α)} (h : Quiet xs) (t : Ticket) (req : CompileRequest) :
    .compile t req ∉ xs :=
  fun hx => (h _ hx).2.2.2 t req rfl

/-- Effects that have nothing to do with activations are quiet. -/
theorem quiet_of_isAside {xs : List (Effect α)} (h : ∀ x ∈ xs, x.isAside) : Quiet xs := by
  intro x hx
  have hx := h x hx
  cases x <;> simp_all [isAside, start?, finish?]

/-- Notices are quiet. -/
theorem quiet_of_isNotice {xs : List (Effect α)} (h : ∀ x ∈ xs, x.isNotice) : Quiet xs := by
  intro x hx
  have hx := h x hx
  cases x <;> simp_all [isNotice, start?, finish?]

/-- What is asked for before an activation ends is quiet. -/
theorem quiet_of_ends {xs : List (Effect α)} {o : Outcome α}
    (h : ∀ x ∈ xs,
      x.isNotice ∨ ∃ s, o = .installed s ∧ x = .scheduleCapture s.descriptor.name) :
    Quiet xs := by
  intro x hx
  rcases h x hx with hx | ⟨s, -, rfl⟩
  · cases x <;> simp_all [isNotice, start?, finish?]
  · simp [start?, finish?]

/-- An activation is the one of this number, counted from one, that has found its shader. -/
def StartedAs (log : List (Effect α)) (t : Ticket) (n : Nat) : Prop :=
  ∃ k, n = k + 1 ∧ (starts log)[k]? = some t

theorem StartedAs.le {log : List (Effect α)} {t : Ticket} {n : Nat} (h : StartedAs log t n) :
    n ≤ (starts log).length := by
  obtain ⟨k, rfl, hk⟩ := h
  exact (List.getElem?_eq_some_iff.mp hk).1

/-- A number is that of one activation. -/
theorem StartedAs.unique {log : List (Effect α)} {t u : Ticket} {n : Nat}
    (ht : StartedAs log t n) (hu : StartedAs log u n) : t = u := by
  obtain ⟨k, rfl, hk⟩ := ht
  obtain ⟨j, hj, hj'⟩ := hu
  obtain rfl : k = j := by omega
  exact Option.some.inj (hk.symm.trans hj')

/-- Numbers stay. -/
theorem StartedAs.mono {log : List (Effect α)} {t : Ticket} {n : Nat} (h : StartedAs log t n)
    (xs : List (Effect α)) : StartedAs (log ++ xs) t n := by
  obtain ⟨k, rfl, hk⟩ := h
  refine ⟨k, rfl, ?_⟩
  rw [starts_append, List.getElem?_append_left (List.getElem?_eq_some_iff.mp hk).1]
  exact hk

/-- After an activation that is not the latest to find its shader comes another. -/
theorem StartedAs.followed {log : List (Effect α)} {t : Ticket} {n : Nat}
    (h : StartedAs log t n) (hn : n ≠ (starts log).length) :
    ∃ u, [t, u].Sublist (starts log) := by
  obtain ⟨k, rfl, hk⟩ := h
  obtain ⟨hk', rfl⟩ := List.getElem?_eq_some_iff.mp hk
  have hlt : k + 1 < (starts log).length := by omega
  refine ⟨(starts log)[k + 1], ?_⟩
  have hdrop : (starts log).drop k =
      (starts log)[k] :: (starts log)[k + 1] :: (starts log).drop (k + 2) := by
    rw [List.drop_eq_getElem_cons hk', List.drop_eq_getElem_cons hlt]
  have hhead : [(starts log)[k], (starts log)[k + 1]].Sublist ((starts log).drop k) := by
    rw [hdrop]
    exact ((List.nil_sublist _).cons_cons _).cons_cons _
  exact hhead.trans (List.drop_sublist k _)

end Effect

/-! ## What is known about an activation -/

open Effect in
/-- What the effects so far tell about an activation at a stage. -/
def Stage.Fits [Scalar α] (log : List (Effect α)) (t : Ticket) : Stage α → Prop
  | .restoring q p =>
      StartedAs log t q.generation ∧
        .compile t (Engine.compileRequest q.descriptor p) ∈ log
  | .compiling q p =>
      StartedAs log t q.generation ∧
        .compile t (Engine.compileRequest q.descriptor p) ∈ log ∧ ∀ n, .loadPreset t n ∉ log
  | .reading q | .recording q _ => StartedAs log t q.generation ∧ ∀ n, .loadPreset t n ∉ log
  | .lost => ∀ n, .loadPreset t n ∉ log

open Effect in
/-- What the effects so far tell about an activation that has ended. -/
def Outcome.Fits [Scalar α] (log : List (Effect α)) (t : Ticket) : Outcome α → Prop
  | .installed a =>
      StartedAs log t a.generation ∧
        .compile t (Engine.compileRequest a.descriptor a.transpiled) ∈ log
  | .superseded => ∃ u, [t, u].Sublist (starts log)
  | .notFound | .unreadable _ | .uncompilable _ => ∀ n, .loadPreset t n ∉ log

section Fits

variable [Scalar α] {log xs : List (Effect α)} {t : Ticket}

open Effect

theorem Stage.Fits.mono {s : Stage α} (h : s.Fits log t) (hxs : ∀ n, .loadPreset t n ∉ xs) :
    s.Fits (log ++ xs) t := by
  cases s with
  | lost => simpa [Stage.Fits, hxs] using h
  | reading q => exact ⟨h.1.mono xs, by simpa [hxs] using h.2⟩
  | compiling q p => exact ⟨h.1.mono xs, List.mem_append_left xs h.2.1, by simpa [hxs] using h.2.2⟩
  | recording q f => exact ⟨h.1.mono xs, by simpa [hxs] using h.2⟩
  | restoring q p => exact ⟨h.1.mono xs, List.mem_append_left xs h.2⟩

theorem Outcome.Fits.mono {o : Outcome α} (h : o.Fits log t) (hxs : ∀ n, .loadPreset t n ∉ xs) :
    o.Fits (log ++ xs) t := by
  cases o with
  | installed a => exact ⟨h.1.mono xs, List.mem_append_left xs h.2⟩
  | superseded =>
      obtain ⟨u, hu⟩ := h
      exact ⟨u, by simpa using hu.trans (List.sublist_append_left _ _)⟩
  | notFound => simpa [Outcome.Fits, hxs] using h
  | unreadable e => simpa [Outcome.Fits, hxs] using h
  | uncompilable f => simpa [Outcome.Fits, hxs] using h

/-- An activation that has found its shader has a number. -/
theorem Stage.Fits.startedAs {s : Stage α} {q : Quest} (h : s.Fits log t)
    (hq : s.quest? = some q) : StartedAs log t q.generation := by
  cases s with
  | lost => simp [Stage.quest?] at hq
  | reading => exact Option.some.inj hq ▸ h.1
  | compiling => exact Option.some.inj hq ▸ h.1
  | recording => exact Option.some.inj hq ▸ h.1
  | restoring => exact Option.some.inj hq ▸ h.1

end Fits

/-! ## The account -/

namespace Flight

open Effect

/-- A flight and the effects so far fit together. -/
structure Accounted [Scalar α] (f : Flight α) (log : List (Effect α)) : Prop where
  /-- Every activation is on its way or has ended, once. -/
  tickets : (f.activations.map (·.ticket) ++ (returns log).map (·.ticket)).Perm
    (List.range f.issued)
  numbered : (starts log).length = f.generation
  ordered : (starts log).Pairwise (· < ·)
  started_lt : ∀ t ∈ starts log, t < f.issued
  preset_lt : ∀ t n, .loadPreset t n ∈ log → t < f.issued
  stages : ∀ a ∈ f.activations, a.stage.Fits log a.ticket
  outcomes : ∀ r ∈ returns log, r.outcome.Fits log r.ticket
  /-- Shaders were brought back in the order in which they were found. -/
  increasing : ((installs log).map (·.generation)).Pairwise (· < ·)
  active : f.active = (installs log).getLast?

theorem tickets_begin (f : Flight α) (purpose : Purpose) (name : String) (stage : Stage α) :
    (f.begin purpose name stage).activations.map (·.ticket) =
      f.activations.map (·.ticket) ++ [f.issued] := by
  simp [begin]

theorem tickets_moveTo (f : Flight α) (t : Ticket) (stage : Stage α) :
    (f.moveTo t stage).activations.map (·.ticket) = f.activations.map (·.ticket) := by
  simp only [moveTo, List.map_map]
  refine List.map_congr_left fun a _ => ?_
  simp only [Function.comp_apply]
  split <;> rfl

theorem tickets_land (f : Flight α) (t : Ticket) (o : Outcome α)
    (h : (f.activations.map (·.ticket)).Nodup) :
    (f.land t o).activations.map (·.ticket) = (f.activations.map (·.ticket)).erase t := by
  rw [h.erase_eq_filter, List.filter_map]
  rfl

namespace Accounted

variable [Scalar α] {f : Flight α} {log : List (Effect α)}

theorem start : Accounted (⟨0, 0, [], none⟩ : Flight α) [] := by
  constructor <;> simp [starts, returns, installs]

theorem nodup (h : f.Accounted log) :
    (f.activations.map (·.ticket) ++ (returns log).map (·.ticket)).Nodup :=
  h.tickets.nodup_iff.mpr List.nodup_range

theorem ticket_lt (h : f.Accounted log) {a : Activation α} (ha : a ∈ f.activations) :
    a.ticket < f.issued := by
  refine List.mem_range.mp (h.tickets.mem_iff.mp ?_)
  exact List.mem_append_left _ (List.mem_map_of_mem ha)

/-- Activations are told apart by their tickets. -/
theorem eq_of_ticket (h : f.Accounted log) {a b : Activation α} (ha : a ∈ f.activations)
    (hb : b ∈ f.activations) (hab : a.ticket = b.ticket) : a = b :=
  List.inj_on_of_nodup_map (List.nodup_append.mp h.nodup).1 ha hb hab

/-- What is on its way has not ended. -/
theorem ticket_ne_return (h : f.Accounted log) {a : Activation α} (ha : a ∈ f.activations)
    {r : Finish α} (hr : r ∈ returns log) : a.ticket ≠ r.ticket :=
  (List.nodup_append.mp h.nodup).2.2 _ (List.mem_map_of_mem ha) _ (List.mem_map_of_mem hr)

/-- An installed shader was brought back by an activation of its number. -/
theorem exists_return (h : f.Accounted log) {b : ActiveShader α} (hb : b ∈ installs log) :
    ∃ r ∈ returns log, r.outcome = .installed b ∧ StartedAs log r.ticket b.generation := by
  obtain ⟨r, hr, hrb⟩ := List.mem_filterMap.mp hb
  have houtcome : r.outcome = .installed b := by
    cases ho : r.outcome <;> simp_all [Outcome.shader?]
  have hfits := h.outcomes r hr
  rw [houtcome] at hfits
  exact ⟨r, hr, houtcome, hfits.1⟩

/-- Presets are asked for by activations that have been started. -/
theorem lt_of_loadPreset (h : f.Accounted log) {xs : List (Effect α)} {t : Ticket} {n : String}
    (hn : .loadPreset t n ∈ log ++ xs) (hxs : .loadPreset t n ∉ xs) : t < f.issued :=
  h.preset_lt t n ((List.mem_append.mp hn).resolve_right hxs)

/-- Effects that tell nothing about activations do not matter. -/
theorem quiet (h : f.Accounted log) {xs : List (Effect α)} (hxs : Quiet xs) :
    f.Accounted (log ++ xs) where
  tickets := by simpa [hxs.returns] using h.tickets
  numbered := by simpa [hxs.starts] using h.numbered
  ordered := by simpa [hxs.starts] using h.ordered
  started_lt := by simpa [hxs.starts] using h.started_lt
  preset_lt t n hn := h.lt_of_loadPreset hn (hxs.loadPreset t n)
  stages a ha := (h.stages a ha).mono (hxs.loadPreset _)
  outcomes r hr := by
    rw [returns_append, hxs.returns, List.append_nil] at hr
    exact (h.outcomes r hr).mono (hxs.loadPreset _)
  increasing := by simpa [hxs.installs] using h.increasing
  active := by simpa [hxs.installs] using h.active

/-- The account is kept when an activation is started. -/
theorem begin (h : f.Accounted log) {x : Effect α} {stage : Stage α} {n : Nat}
    (purpose : Purpose) (name : String)
    (hx : (x = .resume f.issued ∧ n = f.generation) ∨
      ∃ path, x = .readSource f.issued path ∧ n = f.generation + 1)
    (hstage : stage.Fits (log ++ [x]) f.issued) :
    Accounted { f.begin purpose name stage with generation := n } (log ++ [x]) := by
  have hreturns : returns [x] = [] := by
    rcases hx with ⟨rfl, -⟩ | ⟨path, rfl, -⟩ <;> rfl
  have hpreset (t : Ticket) (n : String) : .loadPreset t n ∉ [x] := by
    rcases hx with ⟨rfl, -⟩ | ⟨path, rfl, -⟩ <;> simp
  have hstarts : (starts [x] = [] ∧ n = f.generation) ∨
      (starts [x] = [f.issued] ∧ n = f.generation + 1) := by
    rcases hx with ⟨rfl, rfl⟩ | ⟨path, rfl, rfl⟩
    · exact .inl ⟨rfl, rfl⟩
    · exact .inr ⟨rfl, rfl⟩
  have hnew : ∀ t ∈ starts [x], t = f.issued := by
    rcases hstarts with ⟨hs, -⟩ | ⟨hs, -⟩ <;> simp [hs]
  constructor
  case tickets =>
    change (((f.begin purpose name stage).activations.map (·.ticket)) ++ _).Perm
      (List.range (f.issued + 1))
    rw [tickets_begin, returns_append, hreturns, List.append_nil, List.range_succ,
      List.append_assoc]
    refine (List.Perm.append_left _ List.perm_append_comm).trans ?_
    rw [← List.append_assoc]
    exact h.tickets.append_right _
  case numbered =>
    rcases hstarts with ⟨hs, rfl⟩ | ⟨hs, rfl⟩ <;> simp [hs, h.numbered]
  case ordered =>
    rw [starts_append, List.pairwise_append]
    refine ⟨h.ordered, ?_, fun t ht u hu => hnew u hu ▸ h.started_lt t ht⟩
    rcases hstarts with ⟨hs, -⟩ | ⟨hs, -⟩ <;> simp [hs]
  case started_lt =>
    intro t ht
    rcases List.mem_append.mp (starts_append log [x] ▸ ht) with ht | ht
    · exact Nat.lt_succ_of_lt (h.started_lt t ht)
    · exact hnew t ht ▸ Nat.lt_succ_self _
  case preset_lt =>
    exact fun t m hm => Nat.lt_succ_of_lt (h.lt_of_loadPreset hm (hpreset t m))
  case stages =>
    intro a ha
    rcases List.mem_append.mp ha with ha | ha
    · exact (h.stages a ha).mono (hpreset _)
    · rw [List.mem_singleton.mp ha]
      exact hstage
  case outcomes =>
    intro r hr
    rw [returns_append, hreturns, List.append_nil] at hr
    exact (h.outcomes r hr).mono (hpreset _)
  case increasing => simpa [installs, hreturns] using h.increasing
  case active => simpa [installs, hreturns, Flight.begin] using h.active

/-- What an activation asks for when it gets further is neither a start nor an end. -/
theorem quiet_of_advance {newest : Nat} {t : Ticket} {s stage : Stage α}
    {came : Engine.Arrival α} {x : Effect α} (hadv : s.Advance newest t came stage x) :
    starts [x] = [] ∧ returns [x] = [] ∧ ∀ u n, t ≠ u → .loadPreset u n ∉ [x] := by
  cases hadv with
  | read q raw => exact ⟨rfl, rfl, fun u n _ => by simp⟩
  | compiled q p now hq => exact ⟨rfl, rfl, fun u n hu => by simp [Ne.symm hu]⟩
  | failed q p now log => exact ⟨rfl, rfl, fun u n _ => by simp⟩

/-- What an activation waits for next follows from the stage that it was at. -/
theorem fits_of_advance (h : f.Accounted log) {a : Activation α} {came : Engine.Arrival α}
    {stage : Stage α} {x : Effect α} (ha : a ∈ f.activations)
    (hadv : a.stage.Advance f.generation a.ticket came stage x) :
    stage.Fits (log ++ [x]) a.ticket := by
  have hfits := h.stages a ha
  generalize a.stage = s at hfits hadv
  cases hadv with
  | read q raw =>
      refine ⟨hfits.1.mono _, by simp, fun n => ?_⟩
      simpa using hfits.2 n
  | compiled q p now hq => exact ⟨hfits.1.mono _, List.mem_append_left _ hfits.2.1⟩
  | failed q p now log =>
      refine ⟨hfits.1.mono _, fun n => ?_⟩
      simpa using hfits.2.2 n

/-- The account is kept when an activation gets further. -/
theorem advance (h : f.Accounted log) {a : Activation α} {came : Engine.Arrival α}
    {stage : Stage α} {x : Effect α} (ha : a ∈ f.activations)
    (hadv : a.stage.Advance f.generation a.ticket came stage x) :
    (f.moveTo a.ticket stage).Accounted (log ++ [x]) := by
  obtain ⟨hstarts, hreturns, hpreset⟩ := quiet_of_advance hadv
  constructor
  case tickets =>
    rw [tickets_moveTo, returns_append, hreturns, List.append_nil]
    exact h.tickets
  case numbered => simpa [hstarts, moveTo] using h.numbered
  case ordered => simpa [hstarts] using h.ordered
  case started_lt => simpa [hstarts, moveTo] using h.started_lt
  case preset_lt =>
    intro t n hn
    by_cases ht : a.ticket = t
    · exact ht ▸ h.ticket_lt ha
    · exact h.lt_of_loadPreset hn (hpreset t n ht)
  case stages =>
    intro b hb
    obtain ⟨c, hc, rfl⟩ := List.mem_map.mp hb
    split
    · next hca => exact hca ▸ h.fits_of_advance ha hadv
    · next hca => exact (h.stages c hc).mono fun n => hpreset _ n (Ne.symm hca)
  case outcomes =>
    intro r hr
    rw [returns_append, hreturns, List.append_nil] at hr
    exact (h.outcomes r hr).mono fun n => hpreset _ n (h.ticket_ne_return ha hr)
  case increasing => simpa [installs, hreturns] using h.increasing
  case active => simpa [installs, hreturns, moveTo] using h.active

/-- How an activation can end follows from the stage that it was at. -/
theorem fits_of_ends (h : f.Accounted log) {a : Activation α} {came : Engine.Arrival α}
    {o : Outcome α} (ha : a ∈ f.activations) (hends : a.stage.Ends f.generation came o) :
    o.Fits log a.ticket := by
  have hfits := h.stages a ha
  generalize a.stage = s at hfits hends
  cases hends with
  | notFound => exact hfits
  | unreadable q problem => exact hfits.2
  | overtaken q p now hq => exact hfits.1.followed (h.numbered ▸ hq)
  | uncompilable q failure written => exact hfits.2
  | outdated q p saved hq => exact hfits.1.followed (h.numbered ▸ hq)
  | installed q p saved hq => exact hfits

/-- What an activation installs is newer than everything that was installed before. -/
theorem lt_of_ends (h : f.Accounted log) {a : Activation α} {came : Engine.Arrival α}
    {s b : ActiveShader α} (ha : a ∈ f.activations)
    (hends : a.stage.Ends f.generation came (.installed s)) (hb : b ∈ installs log) :
    b.generation < s.generation := by
  obtain ⟨r, hr, -, hstarted⟩ := h.exists_return hb
  have hs : s.generation = f.generation := by
    generalize a.stage = stage at hends
    cases hends
    assumption
  have hle : b.generation ≤ f.generation := h.numbered ▸ hstarted.le
  refine Nat.lt_of_le_of_ne (hs ▸ hle) fun hbs => ?_
  have hsame : r.ticket = a.ticket :=
    hstarted.unique (hbs ▸ (h.fits_of_ends ha hends).1)
  exact h.ticket_ne_return ha hr hsame.symm

/-- The account is kept when an activation ends. -/
theorem finish (h : f.Accounted log) {a : Activation α} {came : Engine.Arrival α}
    {o : Outcome α} (bindings : List (Binding α)) (ha : a ∈ f.activations)
    (hends : a.stage.Ends f.generation came o) :
    (f.land a.ticket o).Accounted
      (log ++ [.finished ⟨a.ticket, a.requested, o, bindings⟩]) := by
  have hpreset (r : Finish α) (t : Ticket) (n : String) :
      .loadPreset t n ∉ [Effect.finished r] := by simp
  constructor
  case tickets =>
    have hmem : a.ticket ∈ f.activations.map (·.ticket) := List.mem_map_of_mem ha
    rw [tickets_land f _ o (List.nodup_append.mp h.nodup).1, returns_append, returns_finished,
      List.map_append, List.map_singleton]
    refine List.Perm.trans ?_ h.tickets
    refine (List.Perm.append_left _ List.perm_append_comm).trans ?_
    rw [← List.append_assoc]
    refine List.Perm.append_right _ ?_
    exact List.perm_append_comm.trans (List.perm_cons_erase hmem).symm
  case numbered => simpa [land] using h.numbered
  case ordered => simpa using h.ordered
  case started_lt => simpa [land] using h.started_lt
  case preset_lt => exact fun t n hn => h.lt_of_loadPreset hn (hpreset _ t n)
  case stages =>
    exact fun b hb => (h.stages b (List.mem_of_mem_filter hb)).mono (hpreset _ _)
  case outcomes =>
    intro x hx
    rw [returns_append, returns_finished] at hx
    rcases List.mem_append.mp hx with hx | hx
    · exact (h.outcomes x hx).mono (hpreset _ _)
    · rw [List.mem_singleton.mp hx]
      exact (h.fits_of_ends ha hends).mono (hpreset _ _)
  case increasing =>
    rw [installs_append, installs_finished, List.map_append, List.pairwise_append]
    refine ⟨h.increasing, ?_, ?_⟩
    · cases o <;> simp [Outcome.shader?]
    · cases o with
      | installed s =>
          simp only [Outcome.shader?, Option.toList_some, List.map_cons, List.map_nil,
            List.mem_map, List.mem_singleton, forall_eq, forall_exists_index, and_imp,
            forall_apply_eq_imp_iff₂]
          exact fun b hb => h.lt_of_ends ha hends hb
      | _ => simp [Outcome.shader?]
  case active =>
    rw [installs_append, installs_finished]
    cases o <;> simp [land, Outcome.shader?, h.active]

/-- Every move keeps the account. -/
theorem move (h : f.Accounted log) {l : Option (Ticket × Engine.Arrival α)}
    {xs : List (Effect α)} {g : Flight α} (m : f.Move l xs g) : g.Accounted (log ++ xs) := by
  cases m with
  | aside hxs => exact h.quiet (quiet_of_isAside hxs)
  | ignored => simpa using h
  | missed purpose name =>
      refine h.begin purpose name (.inl ⟨rfl, rfl⟩) fun n hn => ?_
      exact Nat.lt_irrefl _ (h.lt_of_loadPreset hn (by simp))
  | begun purpose name d =>
      refine h.begin purpose name (.inr ⟨_, rfl, rfl⟩) ⟨⟨f.generation, rfl, ?_⟩, fun n hn => ?_⟩
      · simp [← h.numbered]
      · exact Nat.lt_irrefl _ (h.lt_of_loadPreset hn (by simp))
  | advanced ha hadv hns =>
      rw [← List.append_assoc]
      exact (h.quiet (quiet_of_isNotice hns)).advance ha hadv
  | ended bindings ha hends hns =>
      rw [← List.append_assoc]
      exact (h.quiet (quiet_of_ends hns)).finish bindings ha hends

/-- What an activation waits for gets it further or ends it. -/
theorem move_of_awaits (h : f.Accounted log) {t : Ticket} {came : Engine.Arrival α}
    {xs : List (Effect α)} {g : Flight α} (m : f.Move (some (t, came)) xs g) {a : Activation α}
    (ha : f.find? t = some a) (hawaits : a.stage.awaits came) :
    (∃ stage x ns, a.stage.Advance f.generation t came stage x ∧ g = f.moveTo t stage ∧
      xs = ns ++ [x] ∧ Quiet ns) ∨
      ∃ o bindings ns, a.stage.Ends f.generation came o ∧ g = f.land t o ∧
        xs = ns ++ [.finished ⟨t, a.requested, o, bindings⟩] ∧ Quiet ns := by
  have hat : a.ticket = t := by simpa using List.find?_some ha
  have hmem : a ∈ f.activations := List.mem_of_find?_eq_some ha
  generalize hl : some (t, came) = l at m
  cases m with
  | aside => cases hl
  | missed => cases hl
  | begun => cases hl
  | ignored hignored =>
      cases hl
      simp [hignored a ha] at hawaits
  | @advanced b _ stage x ns hb hadv hns =>
      cases hl
      obtain rfl := h.eq_of_ticket hmem hb hat
      exact .inl ⟨stage, x, ns, hadv, rfl, rfl, quiet_of_isNotice hns⟩
  | @ended b _ o ns bindings hb hends hns =>
      cases hl
      obtain rfl := h.eq_of_ticket hmem hb hat
      exact .inr ⟨o, bindings, ns, hends, rfl, rfl, quiet_of_ends hns⟩

end Accounted

end Flight

namespace Performance

variable [Scalar α]

/-- After every run the account holds. -/
theorem accounted (shaderRoot : String) (xs : List (Engine.Event α)) :
    (run shaderRoot xs).engine.flight.Accounted (run shaderRoot xs).asked :=
  run_induction (P := fun f log => f.Accounted log) shaderRoot [] xs .start
    fun _ _ _ _ _ m h => h.move m

end Performance

end LiveVisuals
