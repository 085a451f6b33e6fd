import LiveVisuals.Proofs.Engine.Newest
import LiveVisuals.Proofs.Engine.Stages
import LiveVisuals.Proofs.Rig.Traffic

/-!
# Activations and the traffic of their compiles

The render host keeps the program of the compile that has succeeded last; an engine keeps the
shader that was installed last. Both follow from what the activations have come to, and what ties
them together is an invariant of the flight and the traffic. A program that was replaced can
still belong to an activation on its way, and the one in use to an activation that is outdated.

Main definitions:

- {lit}`Flight.Expects`: the activations that wait for compiles are those that are told how one
  has ended.
- {lit}`Flight.Passed`, {lit}`Flight.Backs`: what an activation has come to.
- {lit}`Flight.Coherent`: the invariant.

Main results:

- Theorems {lit}`Flight.Coherent.carry`, {lit}`Flight.Coherent.announce`,
  {lit}`Flight.Coherent.resolve`, {lit}`Flight.Coherent.giveUp` and
  {lit}`Flight.Coherent.deliver`: the invariant is kept.
- Theorem {lit}`Flight.Coherent.program_of_quiet`: the program in use when no activation is on
  its way.
-/

namespace LiveVisuals

variable {α : Type}

theorem Traffic.caller?_of_cancelled {tr : Traffic} {id : String} {y : Ticket × CompileOutcome}
    (hy : tr.cancelled id = some y) :
    tr.caller? id = some y.1 ∧ y.2 = .error (Host.cancelText id) := by
  obtain ⟨t, ht, rfl⟩ := Option.map_eq_some_iff.mp hy
  exact ⟨ht, rfl⟩

namespace Flight

open Effect (returns installs)

/-! ## Compiles that activations wait for -/

/-- Every compile is that of an activation that waits for it, from its announcement until it is
told how the compile has ended. -/
structure Expects (f : Flight α) (tr : Traffic) : Prop where
  /-- Nobody has asked under an id that is still to be given out. -/
  fresh : ∀ h : Host, tr.host.issued ≤ h.issued → Keyed.get? h.nextId tr.compiles = none
  distinct : (Keyed.keys tr.host.pending).Nodup
  /-- A compile without an outcome is that of an activation that waits for it. -/
  pending : ∀ id req, Keyed.get? id tr.host.pending = some req → ∃ t q p,
    tr.caller? id = some t ∧ f.At t (.compiling q p) ∧
      req = Engine.compileRequest q.descriptor p
  /-- The end of a compile is on its way to an activation that waits for it. -/
  settled : ∀ t o, (t, o) ∈ tr.settled → ∃ q p, f.At t (.compiling q p)
  /-- An activation waits for one compile. -/
  single : ∀ id id' t, id ∈ Keyed.keys tr.host.pending → id' ∈ Keyed.keys tr.host.pending →
    tr.caller? id = some t → tr.caller? id' = some t → id = id'
  /-- A compile without an outcome has no end that is on its way. -/
  apart : ∀ id t, id ∈ Keyed.keys tr.host.pending → tr.caller? id = some t →
    t ∉ tr.settled.map (·.1)
  once : (tr.settled.map (·.1)).Nodup

namespace Expects

variable {f g : Flight α} {tr : Traffic}

theorem start (f : Flight α) : f.Expects ⟨.initial, [], []⟩ where
  fresh _ _ := rfl
  distinct := List.nodup_nil
  pending _ _ hid := by cases hid
  settled _ _ ht := by cases ht
  single _ _ _ hid := by cases hid
  apart _ _ hid := by cases hid
  once := List.nodup_nil

/-- A compile that has no outcome is that of an activation that waits for it. -/
theorem of_mem_keys (h : f.Expects tr) {id : String} (hid : id ∈ Keyed.keys tr.host.pending)
    {t : Ticket} (ht : tr.caller? id = some t) : ∃ q p, f.At t (.compiling q p) := by
  obtain ⟨req, hreq⟩ := Keyed.mem_keys_iff.mp hid
  obtain ⟨u, q, p, hu, hat, -⟩ := h.pending id req hreq
  obtain rfl : u = t := Option.some.inj (hu.symm.trans ht)
  exact ⟨q, p, hat⟩

/-- Nothing is different for compiles if the activations that wait for them still do. -/
theorem mono (h : f.Expects tr)
    (hg : ∀ t q p, f.At t (.compiling q p) → g.At t (.compiling q p)) : g.Expects tr where
  fresh := h.fresh
  distinct := h.distinct
  pending id req hid := by
    obtain ⟨t, q, p, ht, hat, hreq⟩ := h.pending id req hid
    exact ⟨t, q, p, ht, hg t q p hat, hreq⟩
  settled t o ht := by
    obtain ⟨q, p, hat⟩ := h.settled t o ht
    exact ⟨q, p, hg t q p hat⟩
  single := h.single
  apart := h.apart
  once := h.once

/-! ### A compile is announced -/

/-- Who asked under an id that was given out is not changed by the next compile. -/
theorem caller?_announce (h : f.Expects tr) {id : String} {u : Ticket}
    (hid : tr.caller? id = some u) (t : Ticket) (req : CompileRequest) :
    (tr.announce t req).caller? id = some u := by
  rw [Traffic.caller?_eq_some] at hid ⊢
  have hne : id ≠ tr.host.nextId := by
    intro heq
    rw [heq, h.fresh tr.host (Nat.le_refl _)] at hid
    cases hid
  rw [← hid]
  exact Keyed.get?_put_of_ne _ _ hne

/-- The compiles without an outcome after another was announced. -/
theorem pending_announce (h : f.Expects tr) {id : String} {t : Ticket}
    {req req' : CompileRequest}
    (hid : Keyed.get? id (tr.announce t req).host.pending = some req') :
    (id = tr.host.nextId ∧ req' = req ∧ (tr.announce t req).caller? id = some t) ∨
      (Keyed.get? id tr.host.pending = some req' ∧
        ∃ u, tr.caller? id = some u ∧ (tr.announce t req).caller? id = some u) := by
  by_cases hnew : id = tr.host.nextId
  · subst hnew
    have hput := Keyed.get?_put_self tr.host.nextId req tr.host.pending
    refine .inl ⟨rfl, Option.some.inj (hid.symm.trans hput), ?_⟩
    exact Traffic.caller?_eq_some.mpr (Keyed.get?_put_self _ _ _)
  · have hold := Keyed.get?_put_of_ne req tr.host.pending hnew
    have hid' : Keyed.get? id tr.host.pending = some req' := hold.symm.trans hid
    obtain ⟨u, q, p, hu, -⟩ := h.pending id req' hid'
    exact .inr ⟨hid', u, hu, h.caller?_announce hu t req⟩

/-- Who has asked for a compile without an outcome after another was announced. -/
theorem caller_announce (h : f.Expects tr) {id : String} {t u : Ticket} {req : CompileRequest}
    (hid : id ∈ Keyed.keys (tr.announce t req).host.pending)
    (hu : (tr.announce t req).caller? id = some u) :
    (id = tr.host.nextId ∧ u = t) ∨
      (id ∈ Keyed.keys tr.host.pending ∧ tr.caller? id = some u) := by
  obtain ⟨req', hreq⟩ := Keyed.mem_keys_iff.mp hid
  rcases h.pending_announce hreq with ⟨hnew, -, ht⟩ | ⟨hold, v, hv, hv'⟩
  · exact .inl ⟨hnew, Option.some.inj (hu.symm.trans ht)⟩
  · obtain rfl : u = v := Option.some.inj (hu.symm.trans hv')
    exact .inr ⟨Keyed.mem_keys_iff.mpr ⟨req', hold⟩, hv⟩

/-- A compile is announced for an activation that now waits for it. -/
theorem announce (h : f.Expects tr) {t : Ticket} {q : Quest} {p : Transpiled α}
    (hat : f.At t (.compiling q p)) (hset : t ∉ tr.settled.map (·.1))
    (hpend : ∀ id ∈ Keyed.keys tr.host.pending, tr.caller? id ≠ some t) :
    f.Expects (tr.announce t (Engine.compileRequest q.descriptor p)) where
  fresh host hhost := by
    have hne : host.nextId ≠ tr.host.nextId := by
      intro heq
      have hissued := Host.nextId_injective heq
      have hlt : tr.host.issued + 1 ≤ host.issued := hhost
      omega
    exact (Keyed.get?_put_of_ne _ _ hne).trans (h.fresh host (Nat.le_of_succ_le hhost))
  distinct := Keyed.nodup_keys_put h.distinct tr.host.nextId _
  pending id req hid := by
    rcases h.pending_announce hid with ⟨-, rfl, ht⟩ | ⟨hid, u, hu, hu'⟩
    · exact ⟨t, q, p, ht, hat, rfl⟩
    · obtain ⟨v, q', p', hv, hat', hreq⟩ := h.pending id req hid
      obtain rfl : u = v := Option.some.inj (hu.symm.trans hv)
      exact ⟨u, q', p', hu', hat', hreq⟩
  settled := h.settled
  single id id' u hid hid' hu hu' := by
    rcases h.caller_announce hid hu with ⟨rfl, rfl⟩ | ⟨hid, hu⟩ <;>
      rcases h.caller_announce hid' hu' with ⟨rfl, hut⟩ | ⟨hid', hu'⟩
    · rfl
    · exact absurd hu' (hpend id' hid')
    · exact absurd (hut ▸ hu) (hpend id hid)
    · exact h.single id id' u hid hid' hu hu'
  apart id u hid hu := by
    rcases h.caller_announce hid hu with ⟨-, rfl⟩ | ⟨hid, hu⟩
    · exact hset
    · exact h.apart id u hid hu
  once := h.once

/-! ### Compiles end -/

/-- The compile of an activation has an outcome. -/
theorem resolve (h : f.Expects tr) {id : String} {req : CompileRequest} {t : Ticket}
    (hid : Keyed.get? id tr.host.pending = some req) (ht : tr.caller? id = some t)
    (o : CompileOutcome) : f.Expects (tr.resolve id req t o) := by
  have hkey : id ∈ Keyed.keys tr.host.pending := Keyed.mem_keys_iff.mpr ⟨req, hid⟩
  have hpending : (tr.resolve id req t o).host.pending = Keyed.erase id tr.host.pending := by
    simp [Traffic.resolve]
  have hleft {id' : String} (h' : id' ∈ Keyed.keys (tr.resolve id req t o).host.pending) :
      id' ≠ id ∧ id' ∈ Keyed.keys tr.host.pending := by
    obtain ⟨req', h'⟩ := Keyed.mem_keys_iff.mp (hpending ▸ h')
    obtain ⟨hne, hreq'⟩ := Keyed.get?_of_erase h'
    exact ⟨hne, Keyed.mem_keys_iff.mpr ⟨req', hreq'⟩⟩
  have htickets : (tr.resolve id req t o).settled.map (·.1) = tr.settled.map (·.1) ++ [t] := by
    simp [Traffic.resolve]
  constructor
  case fresh =>
    intro host hhost
    refine h.fresh host ?_
    simpa [Traffic.resolve] using hhost
  case distinct =>
    rw [hpending, Keyed.keys_erase]
    exact h.distinct.filter _
  case pending =>
    exact fun id' req' hid' => h.pending id' req' (Keyed.get?_of_erase (hpending ▸ hid')).2
  case settled =>
    intro u c hu
    rcases List.mem_append.mp hu with hu | hu
    · exact h.settled u c hu
    · cases List.mem_singleton.mp hu
      exact h.of_mem_keys hkey ht
  case single =>
    exact fun id' id'' u hid' hid'' => h.single id' id'' u (hleft hid').2 (hleft hid'').2
  case apart =>
    intro id' u hid' hu hmem
    rcases List.mem_append.mp (htickets ▸ hmem) with hmem | hmem
    · exact h.apart id' u (hleft hid').2 hu hmem
    · obtain rfl := List.mem_singleton.mp hmem
      exact (hleft hid').1 (h.single id' id u (hleft hid').2 hkey hu ht)
  case once =>
    rw [htickets, List.nodup_append]
    refine ⟨h.once, List.nodup_singleton _, ?_⟩
    intro u hu v hv heq
    have hut : u = t := heq.trans (List.mem_singleton.mp hv)
    exact h.apart id t hkey ht (hut ▸ hu)

/-- All compiles without an outcome are given up. -/
theorem giveUp (h : f.Expects tr) : f.Expects tr.giveUp where
  fresh := h.fresh
  distinct := List.nodup_nil
  pending _ _ hid := by cases hid
  settled t o ht := by
    rcases List.mem_append.mp ht with ht | ht
    · exact h.settled t o ht
    · obtain ⟨id, hid, hy⟩ := List.mem_filterMap.mp ht
      exact h.of_mem_keys hid (Traffic.caller?_of_cancelled hy).1
  single _ _ _ hid := by cases hid
  apart _ _ hid := by cases hid
  once := by
    show ((tr.settled ++ (Keyed.keys tr.host.pending).filterMap tr.cancelled).map (·.1)).Nodup
    rw [List.map_append, List.nodup_append]
    refine ⟨h.once, ?_, ?_⟩
    · rw [List.Nodup, List.pairwise_map, List.pairwise_filterMap]
      refine h.distinct.imp_of_mem fun {id id'} hid hid' hne y hy y' hy' heq => ?_
      have hcaller := (Traffic.caller?_of_cancelled hy).1
      have hcaller' := (Traffic.caller?_of_cancelled hy').1
      exact hne (h.single id id' y.1 hid hid' hcaller (heq ▸ hcaller'))
    · intro t ht u hu htu
      obtain ⟨y, hy, rfl⟩ := List.mem_map.mp hu
      obtain ⟨id, hid, hy⟩ := List.mem_filterMap.mp hy
      exact h.apart id y.1 hid (Traffic.caller?_of_cancelled hy).1 (htu ▸ ht)

section Delivery

variable {t : Ticket} {o : CompileOutcome} {ys zs : List (Ticket × CompileOutcome)}

/-- What is on its way besides the end of a compile is about other activations. -/
theorem ne_of_mem_rest (h : f.Expects tr) (hset : tr.settled = ys ++ (t, o) :: zs) {u : Ticket}
    {c : CompileOutcome} (hu : (u, c) ∈ ys ++ zs) : u ≠ t := by
  have hperm : tr.settled.Perm ((t, o) :: (ys ++ zs)) := hset ▸ List.perm_middle
  have honce : (((t, o) :: (ys ++ zs)).map (·.1)).Nodup := (hperm.map _).nodup_iff.mp h.once
  rintro rfl
  exact (List.nodup_cons.mp honce).1 (List.mem_map.mpr ⟨_, hu, rfl⟩)

/-- The end of a compile is brought to the activation that has waited for it. -/
theorem deliver (h : f.Expects tr) (hset : tr.settled = ys ++ (t, o) :: zs)
    (hother : ∀ u s, u ≠ t → f.At u s → g.At u s) :
    g.Expects { tr with settled := ys ++ zs } := by
  have hmem : t ∈ tr.settled.map (·.1) := by simp [hset]
  have hsub : (ys ++ zs).Sublist tr.settled := by
    rw [hset]
    exact (List.Sublist.refl ys).append (List.sublist_cons_self _ zs)
  constructor
  case fresh => exact h.fresh
  case distinct => exact h.distinct
  case pending =>
    intro id req hid
    obtain ⟨u, q, p, hu, hat, hreq⟩ := h.pending id req hid
    refine ⟨u, q, p, hu, hother u _ ?_ hat, hreq⟩
    rintro rfl
    exact h.apart id u (Keyed.mem_keys_iff.mpr ⟨req, hid⟩) hu hmem
  case settled =>
    intro u c hu
    obtain ⟨q, p, hat⟩ := h.settled u c (hsub.subset hu)
    exact ⟨q, p, hother u _ (h.ne_of_mem_rest hset hu) hat⟩
  case single => exact h.single
  case apart => exact fun id u hid hu hmap => h.apart id u hid hu ((hsub.map _).subset hmap)
  case once => exact h.once.sublist (hsub.map _)

end Delivery

end Expects

/-! ## The invariant -/

/-- The compile of an activation with this number has succeeded, and it has not been found
outdated. -/
def Passed (f : Flight α) (log : List (Effect α)) (tr : Traffic) (t : Ticket) (n : Nat) : Prop :=
  f.Adopted log t n ∨
    ∃ q p, f.At t (.compiling q p) ∧ q.generation = n ∧ (t, .ok ()) ∈ tr.settled

/-- What has become of an activation after this was compiled for it. -/
def Backs (f : Flight α) (log : List (Effect α)) (tr : Traffic) (t : Ticket)
    (req : CompileRequest) : Prop :=
  (∃ q p, f.At t (.compiling q p) ∧ (t, .ok ()) ∈ tr.settled ∧
      req = Engine.compileRequest q.descriptor p) ∨
    (∃ q p, f.At t (.restoring q p) ∧ req = Engine.compileRequest q.descriptor p) ∨
    ∃ r ∈ returns log, r.ticket = t ∧ (r.outcome = .superseded ∨
      ∃ b, r.outcome = .installed b ∧ req = Engine.compileRequest b.descriptor b.transpiled)

section

variable {f : Flight α} {log : List (Effect α)} {tr tr' : Traffic} {t : Ticket}

theorem Passed.mono {n : Nat} (h : f.Passed log tr t n)
    (hset : ∀ u, (u, .ok ()) ∈ tr.settled → (u, .ok ()) ∈ tr'.settled) :
    f.Passed log tr' t n := by
  refine h.imp_right ?_
  rintro ⟨q, p, hat, hn, ht⟩
  exact ⟨q, p, hat, hn, hset t ht⟩

theorem Backs.mono {req : CompileRequest} (h : f.Backs log tr t req)
    (hset : ∀ u, (u, .ok ()) ∈ tr.settled → (u, .ok ()) ∈ tr'.settled) :
    f.Backs log tr' t req := by
  refine h.imp_left ?_
  rintro ⟨q, p, hat, ht, hreq⟩
  exact ⟨q, p, hat, hset t ht, hreq⟩

end

variable [Scalar α]

/-- The flight and the traffic fit together. -/
structure Coherent (f : Flight α) (log : List (Effect α)) (tr : Traffic) : Prop where
  account : f.Accounted log
  expects : f.Expects tr
  /-- The program in use was compiled for an activation that has not failed. -/
  program : ∀ x, tr.host.program = some x → ∃ t, tr.caller? x.id = some t ∧
    f.Backs log tr t x.request
  /-- If the activation of the program in use was found to be the newest, no other that was
  compiled is newer. -/
  newest : ∀ x t n, tr.host.program = some x → tr.caller? x.id = some t → f.Adopted log t n →
    ∀ u m, f.Passed log tr u m → m ≤ n
  replayed : ∀ u m, f.Passed log tr u m → tr.host.program ≠ none

variable {f g : Flight α} {log log' : List (Effect α)} {tr : Traffic}

/-- The number of an activation that was compiled is at most that of the newest. -/
theorem Accounted.le_of_passed (h : f.Accounted log) {t : Ticket} {n : Nat}
    (ht : f.Passed log tr t n) : n ≤ f.generation := by
  rcases ht with ht | ⟨q, p, hat, rfl, -⟩
  · exact h.le_of_adopted ht
  · exact h.le_of_at hat rfl

namespace Coherent

/-- Before anything has happened the flight and the traffic fit together. -/
theorem start : Coherent (⟨0, 0, [], none⟩ : Flight α) [] ⟨.initial, [], []⟩ := by
  refine ⟨.start, .start _, ?_, ?_, ?_⟩
  · intro x hx
    cases hx
  · intro x t n hx
    cases hx
  · rintro t n ((⟨q, p, ⟨a, ha, -⟩, -⟩ | ⟨r, hr, -⟩) | ⟨q, p, -, -, ht⟩)
    · cases ha
    · cases hr
    · cases ht

/-- Moves that are not about compiles keep the invariant. -/
theorem carry (h : f.Coherent log tr) (hg : g.Accounted log') (hc : f.Carries log g log') :
    g.Coherent log' tr := by
  have hpassed {u : Ticket} {m : Nat} (hp : g.Passed log' tr u m) : f.Passed log tr u m := by
    rcases hp with hp | ⟨q, p, hat, rfl, hset⟩
    · exact .inl (hc.adopted u m hp)
    · obtain ⟨q', p', hat'⟩ := h.expects.settled u _ hset
      cases hg.at_unique hat (hc.compiling u q' p' hat')
      exact .inr ⟨q, p, hat', rfl, hset⟩
  refine ⟨hg, h.expects.mono hc.compiling, ?_, ?_, ?_⟩
  · intro x hx
    obtain ⟨t, ht, hbacks⟩ := h.program x hx
    refine ⟨t, ht, ?_⟩
    rcases hbacks with ⟨q, p, hat, hset, hreq⟩ | ⟨q, p, hat, hreq⟩ | ⟨r, hr, hrt, hout⟩
    · exact .inl ⟨q, p, hc.compiling t q p hat, hset, hreq⟩
    · rcases hc.restoring t q p hat with hat | ⟨r, hr, hrt, hout⟩
      · exact .inr (.inl ⟨q, p, hat, hreq⟩)
      · exact .inr (.inr ⟨r, hr, hrt, hout.imp_right fun hb => ⟨_, hb, hreq⟩⟩)
    · exact .inr (.inr ⟨r, hc.returned r hr, hrt, hout⟩)
  · intro x t n hx ht hn u m hm
    exact h.newest x t n hx ht (hc.adopted t n hn) u m (hpassed hm)
  · intro u m hm
    exact h.replayed u m (hpassed hm)

/-- A compile is announced for an activation that now waits for it. -/
theorem announce (h : f.Coherent log tr) {t : Ticket} {q : Quest} {p : Transpiled α}
    (hat : f.At t (.compiling q p)) (hset : t ∉ tr.settled.map (·.1))
    (hpend : ∀ id ∈ Keyed.keys tr.host.pending, tr.caller? id ≠ some t) :
    f.Coherent log (tr.announce t (Engine.compileRequest q.descriptor p)) := by
  refine ⟨h.account, h.expects.announce hat hset hpend, ?_, ?_, h.replayed⟩
  · intro x hx
    obtain ⟨u, hu, hbacks⟩ := h.program x hx
    exact ⟨u, h.expects.caller?_announce hu t _, hbacks⟩
  · intro x u n hx hu
    obtain ⟨v, hv, -⟩ := h.program x hx
    have hv' := h.expects.caller?_announce hv t (Engine.compileRequest q.descriptor p)
    obtain rfl : u = v := Option.some.inj (hu.symm.trans hv')
    exact h.newest x u n hx hv

/-- The compile of an activation has an outcome. If it has succeeded its program is in use. -/
theorem resolve (h : f.Coherent log tr) {id : String} {req : CompileRequest} {t : Ticket}
    (hid : Keyed.get? id tr.host.pending = some req) (ht : tr.caller? id = some t)
    (o : CompileOutcome) : f.Coherent log (tr.resolve id req t o) := by
  obtain ⟨u, q, p, hu, hat, hreq⟩ := h.expects.pending id req hid
  obtain rfl : u = t := Option.some.inj (hu.symm.trans ht)
  have hexpects := h.expects.resolve hid ht o
  cases o with
  | ok =>
      refine ⟨h.account, hexpects, ?_, ?_, fun _ _ _ => Option.some_ne_none _⟩
      · intro x hx
        obtain rfl := Option.some.inj hx
        exact ⟨u, hu, .inl ⟨q, p, hat, by simp [Traffic.resolve], hreq⟩⟩
      · -- the program is new, and its activation has still to be told
        intro x v n hx hv hn
        obtain rfl := Option.some.inj hx
        obtain rfl : u = v := Option.some.inj (hu.symm.trans hv)
        exact absurd hn (h.account.not_adopted hat)
  | error text =>
      have hold {v : Ticket} {m : Nat} (hm : f.Passed log (tr.resolve id req u (.error text)) v m) :
          f.Passed log tr v m := by
        refine hm.mono fun w hw => ?_
        simpa [Traffic.resolve] using hw
      refine ⟨h.account, hexpects, ?_, ?_, fun v m hm => h.replayed v m (hold hm)⟩
      · intro x hx
        obtain ⟨v, hv, hbacks⟩ := h.program x hx
        exact ⟨v, hv, hbacks.mono fun w hw => List.mem_append_left _ hw⟩
      · intro x v n hx hv hn w m hm
        exact h.newest x v n hx hv hn w m (hold hm)

/-- All compiles without an outcome are given up. -/
theorem giveUp (h : f.Coherent log tr) : f.Coherent log tr.giveUp := by
  have hok (t : Ticket) : (t, .ok ()) ∈ tr.giveUp.settled ↔ (t, .ok ()) ∈ tr.settled := by
    refine ⟨fun ht => ?_, List.mem_append_left _⟩
    rcases List.mem_append.mp ht with ht | ht
    · exact ht
    · obtain ⟨id, -, hid⟩ := List.mem_filterMap.mp ht
      cases (Traffic.caller?_of_cancelled hid).2
  have hold {t : Ticket} {n : Nat} (ht : f.Passed log tr.giveUp t n) : f.Passed log tr t n :=
    ht.mono fun u hu => (hok u).mp hu
  refine ⟨h.account, h.expects.giveUp, ?_, ?_, fun t n ht => h.replayed t n (hold ht)⟩
  · intro x hx
    obtain ⟨t, ht, hbacks⟩ := h.program x hx
    exact ⟨t, ht, hbacks.mono fun u hu => (hok u).mpr hu⟩
  · intro x t n hx ht hn u m hm
    exact h.newest x t n hx ht hn u m (hold hm)

section Delivery

variable {t : Ticket} {o : CompileOutcome} {ys zs : List (Ticket × CompileOutcome)} {q : Quest}
  {p : Transpiled α}

/-- What has become of an activation that a program was compiled for, once the end of a compile
was delivered. -/
theorem backs_deliver (h : f.Coherent log tr) (hset : tr.settled = ys ++ (t, o) :: zs)
    (hat : f.At t (.compiling q p)) (hd : f.Delivers log t q p o g log') {u : Ticket}
    {req : CompileRequest} (hu : f.Backs log tr u req) :
    g.Backs log' { tr with settled := ys ++ zs } u req := by
  have hmem : (t, o) ∈ tr.settled := by simp [hset]
  rcases hu with ⟨q', p', hat', hok, hreq⟩ | ⟨q', p', hat', hreq⟩ | ⟨r, hr, hru, hout⟩
  · by_cases hut : u = t
    · subst hut
      cases h.account.at_unique hat hat'
      cases List.inj_on_of_nodup_map h.expects.once hok hmem rfl
      rcases hd.succeeded rfl with hat' | ⟨r, hr, hru, hout⟩
      · exact .inr (.inl ⟨q, p, hat', hreq⟩)
      · exact .inr (.inr ⟨r, hr, hru, .inl hout⟩)
    · have hleft : (u, .ok ()) ∈ ys ++ zs := by
        rw [hset] at hok
        simpa [hut] using hok
      exact .inl ⟨q', p', hd.other u _ hut hat', hleft, hreq⟩
  · refine .inr (.inl ⟨q', p', hd.other u _ ?_ hat', hreq⟩)
    rintro rfl
    cases h.account.at_unique hat hat'
  · exact .inr (.inr ⟨r, hd.returned r hr, hru, hout⟩)

/-- What was compiled once the end of a compile was delivered had been compiled before. -/
theorem passed_of_deliver (h : f.Coherent log tr) (hset : tr.settled = ys ++ (t, o) :: zs)
    (hat : f.At t (.compiling q p)) (hd : f.Delivers log t q p o g log') {u : Ticket} {m : Nat}
    (hu : g.Passed log' { tr with settled := ys ++ zs } u m) : f.Passed log tr u m := by
  rcases hu with hu | ⟨q', p', hat', hm, hu⟩
  · rcases hd.adopted u m hu with hu | ⟨rfl, rfl, -, rfl⟩
    · exact .inl hu
    · exact .inr ⟨q, p, hat, rfl, by simp [hset]⟩
  · have hold := hd.back u _ (h.expects.ne_of_mem_rest hset hu) hat'
    refine .inr ⟨q', p', hold, hm, ?_⟩
    rw [hset]
    exact ((List.Sublist.refl ys).append (List.sublist_cons_self _ zs)).subset hu

/-- The end of a compile is brought to the activation that has waited for it. -/
theorem deliver (h : f.Coherent log tr) (hset : tr.settled = ys ++ (t, o) :: zs)
    (hat : f.At t (.compiling q p)) (hg : g.Accounted log')
    (hd : f.Delivers log t q p o g log') : g.Coherent log' { tr with settled := ys ++ zs } := by
  refine ⟨hg, h.expects.deliver hset hd.other, ?_, ?_, ?_⟩
  · intro x hx
    obtain ⟨u, hu, hbacks⟩ := h.program x hx
    exact ⟨u, hu, h.backs_deliver hset hat hd hbacks⟩
  · intro x u n hx hu hn v m hm
    have hold := h.passed_of_deliver hset hat hd hm
    rcases hd.adopted u n hn with hn | ⟨-, -, rfl, -⟩
    · exact h.newest x u n hx hu hn v m hold
    · -- it has only now been found to be the newest of all, not of those compiled only
      exact h.account.le_of_passed hold
  · intro u m hm
    exact h.replayed u m (h.passed_of_deliver hset hat hd hm)

end Delivery

/-! ## When no activation is on its way -/

/-- When no activation is on its way and there is an active shader, a program is in use. Its
activation has installed the active shader, or was outdated when its compile had succeeded. -/
theorem program_of_quiet (h : f.Coherent log tr) (hquiet : f.activations = [])
    {b : ActiveShader α} (hb : f.active = some b) :
    ∃ x t, tr.host.program = some x ∧ tr.caller? x.id = some t ∧
      ∃ r ∈ returns log, r.ticket = t ∧ (r.outcome = .superseded ∨ r.outcome = .installed b ∧
        x.request = Engine.compileRequest b.descriptor b.transpiled) := by
  have hnone {t : Ticket} {s : Stage α} (hs : f.At t s) : False := by
    obtain ⟨a, ha, -⟩ := hs
    rw [hquiet] at ha
    cases ha
  have hmem : b ∈ installs log := List.mem_of_getLast? (h.account.active.symm.trans hb)
  obtain ⟨s, hs, hsb, -⟩ := h.account.exists_return hmem
  have hpassed : f.Passed log tr s.ticket b.generation := .inl (.inr ⟨s, hs, rfl, b, hsb, rfl⟩)
  obtain ⟨x, hx⟩ := Option.ne_none_iff_exists'.mp (h.replayed _ _ hpassed)
  obtain ⟨t, ht, hbacks⟩ := h.program x hx
  refine ⟨x, t, hx, ht, ?_⟩
  rcases hbacks with ⟨q, p, hat, -⟩ | ⟨q, p, hat, -⟩ | ⟨r, hr, hrt, hout | ⟨c, hc, hreq⟩⟩
  · exact (hnone hat).elim
  · exact (hnone hat).elim
  · exact ⟨r, hr, hrt, .inl hout⟩
  · -- The shader of this activation was installed, and none that was compiled is newer: not even
    -- the active one, which is the newest of all that were installed.
    have hle : b.generation ≤ c.generation :=
      h.newest x t c.generation hx ht (.inr ⟨r, hr, hrt, c, hc, rfl⟩) _ _ hpassed
    have hc' : c ∈ installs log := List.mem_filterMap.mpr ⟨r, hr, by simp [hc, Outcome.shader?]⟩
    obtain ⟨d, -, hd, heq | hlt⟩ := h.account.active_of_installed hc'
    · obtain rfl : b = c := Option.some.inj (hb.symm.trans (heq ▸ hd))
      exact ⟨r, hr, hrt, .inr ⟨hc, hreq⟩⟩
    · obtain rfl : b = d := Option.some.inj (hb.symm.trans hd)
      omega

end Coherent

end Flight

end LiveVisuals
