import LiveVisuals.Proofs.Engine.Account

/-!
# The newest activation wins

Activations overlap in any way, and what they wait for comes in any order. What is installed is
ever newer, an activation gives up only for one that has found its shader later, and when
everything has ended the latest one that could be compiled is active.

Main definitions:

- {lit}`Stage.remaining`: how often something has to come for an activation until it ends.
- {lit}`Performance.returns`: the activations that end with an event.
- {lit}`Performance.Receives`: something that an activation waited for has come.

Main results:

- Theorems {lit}`Performance.returns_arrive` and {lit}`Performance.returns_of_no_arrival`: which
  activations can end with an event.
- Theorem {lit}`Performance.returns_or_remaining_lt`: what is waited for brings an activation
  nearer to its end.
- Theorem {lit}`Performance.newest_wins`: the newest activation wins.
-/

namespace LiveVisuals

variable {α : Type}

/-! ## What is left of an activation -/

namespace Stage

/-- How often something has to come for an activation until it ends, at most. -/
def remaining : Stage α → Nat
  | .reading _ => 3
  | .compiling .. => 2
  | .lost | .recording .. | .restoring .. => 1

/-- An activation that gets further has less before it. -/
theorem Advance.remaining_lt [Scalar α] {newest : Nat} {t : Ticket} {s s' : Stage α}
    {came : Engine.Arrival α} {x : Effect α} (h : s.Advance newest t came s' x) :
    s'.remaining < s.remaining := by
  cases h <;> simp [remaining]

end Stage

/-! ## Chains without arrival -/

namespace Flight

open Effect

variable [Scalar α] {f g : Flight α} {xs : List (Effect α)}

/-- A move without arrival ends no activation. -/
theorem Move.of_none (m : f.Move none xs g) : returns xs = [] ∧ g.active = f.active := by
  generalize hl : none = l at m
  cases m with
  | aside hxs =>
      exact ⟨(quiet_of_isAside hxs).returns, rfl⟩
  | ignored => cases hl
  | missed => exact ⟨rfl, rfl⟩
  | begun => exact ⟨rfl, rfl⟩
  | advanced => cases hl
  | ended => cases hl

/-- With what comes for an activation that one ends, or none does. -/
theorem Move.of_some {t : Ticket} {came : Engine.Arrival α} (m : f.Move (some (t, came)) xs g) :
    (returns xs = [] ∧ g.active = f.active) ∨
      ∃ a o bindings, a ∈ f.activations ∧ a.ticket = t ∧ a.stage.Ends f.generation came o ∧
        returns xs = [⟨t, a.requested, o, bindings⟩] ∧ g.active = o.shader?.or f.active := by
  generalize hl : some (t, came) = l at m
  cases m with
  | aside => cases hl
  | missed => cases hl
  | begun => cases hl
  | ignored => exact .inl ⟨rfl, rfl⟩
  | advanced ha hadv hns =>
      obtain ⟨-, hx, -⟩ := Accounted.quiet_of_advance hadv
      have hquiet := quiet_of_isNotice hns
      exact .inl ⟨by simp [hquiet.returns, hx], rfl⟩
  | @ended a _ o ns bindings ha hends hns =>
      cases hl
      have hquiet := quiet_of_ends hns
      exact .inr ⟨a, o, bindings, ha, rfl, hends, by simp [hquiet.returns], rfl⟩

/-- Without arrival no activation ends. -/
theorem Moves.of_none (ms : f.Moves none xs g) : returns xs = [] ∧ g.active = f.active := by
  generalize hl : none = l at ms
  induction ms with
  | refl => exact ⟨rfl, rfl⟩
  | tail _ m ih =>
      subst hl
      obtain ⟨hreturns, hactive⟩ := ih rfl
      obtain ⟨hreturns', hactive'⟩ := m.of_none
      exact ⟨by simp [hreturns, hreturns'], hactive'.trans hactive⟩

end Flight

/-! ## The latest activation -/

namespace Flight.Accounted

open Effect

variable [Scalar α] {f : Flight α} {log : List (Effect α)}

/-- No activation finds its shader after the latest one. -/
theorem not_followed (h : f.Accounted log) {u v : Ticket} (hu : (starts log).getLast? = some u) :
    ¬ [u, v].Sublist (starts log) := by
  intro hsub
  have huv : u < v := by simpa using h.ordered.sublist hsub
  obtain ⟨earlier, hlog⟩ := List.getLast?_eq_some_iff.mp hu
  have hv : v ∈ earlier ++ [u] := hlog ▸ hsub.subset (by simp)
  have hordered := h.ordered
  rw [hlog, List.pairwise_append] at hordered
  rcases List.mem_append.mp hv with hv | hv
  · exact Nat.lt_asymm huv (hordered.2.2 v hv u (by simp))
  · exact Nat.lt_irrefl u (List.mem_singleton.mp hv ▸ huv)

/-- A shader that was installed is active, or a newer one is. -/
theorem active_of_installed (h : f.Accounted log) {b : ActiveShader α} (hb : b ∈ installs log) :
    ∃ c ∈ installs log, f.active = some c ∧ (c = b ∨ b.generation < c.generation) := by
  obtain ⟨earlier, c, hlog⟩ := List.eq_nil_or_concat (installs log) |>.resolve_left
    (List.ne_nil_of_mem hb)
  rw [List.concat_eq_append] at hlog
  have hincreasing := h.increasing
  rw [hlog, List.map_append, List.pairwise_append] at hincreasing
  refine ⟨c, hlog ▸ by simp, by rw [h.active, hlog, List.getLast?_concat], ?_⟩
  rw [hlog] at hb
  rcases List.mem_append.mp hb with hearlier | hc
  · exact .inr (hincreasing.2.2 _ (List.mem_map_of_mem hearlier) c.generation (by simp))
  · exact .inl (List.mem_singleton.mp hc).symm

/-- If the latest activation to find its shader has installed it, that is the active one. -/
theorem active_of_latest (h : f.Accounted log) {u : Ticket} {r : Finish α} {b : ActiveShader α}
    (hu : (starts log).getLast? = some u) (hr : r ∈ returns log) (hru : r.ticket = u)
    (hb : r.outcome = .installed b) : f.active = some b := by
  have hstarted : StartedAs log u b.generation := by
    have hfits := h.outcomes r hr
    rw [hb, hru] at hfits
    exact hfits.1
  have hlast : b.generation = (starts log).length := by
    by_contra hne
    obtain ⟨v, hv⟩ := hstarted.followed hne
    exact h.not_followed hu hv
  have hmem : b ∈ installs log :=
    List.mem_filterMap.mpr ⟨r, hr, by simp [hb, Outcome.shader?]⟩
  obtain ⟨c, hc, hactive, rfl | hlt⟩ := h.active_of_installed hmem
  · exact hactive
  · obtain ⟨s, -, -, hs⟩ := h.exists_return hc
    have hle := hs.le
    omega

/-- An activation that is no longer on its way has ended. -/
theorem exists_return_of_ended (h : f.Accounted log) {t : Ticket} (ht : t < f.issued)
    (hended : ∀ a ∈ f.activations, a.ticket ≠ t) : ∃ r ∈ returns log, r.ticket = t := by
  have hmem := h.tickets.mem_iff.mpr (List.mem_range.mpr ht)
  rcases List.mem_append.mp hmem with hmem | hmem
  · obtain ⟨a, ha, hat⟩ := List.mem_map.mp hmem
    exact absurd hat (hended a ha)
  · exact List.mem_map.mp hmem

end Flight.Accounted

namespace Performance

open Effect

variable [Scalar α]

/-- The activations that end with an event. -/
def returns (p : Performance α) (x : Engine.Event α) : List (Finish α) :=
  Effect.returns (p.engine.step x).outbox

/-- In a run something has come that an activation waited for. -/
def Receives (shaderRoot : String) (xs : List (Engine.Event α)) (t : Ticket)
    (came : Engine.Arrival α) : Prop :=
  ∃ ys zs a, xs = ys ++ .arrive t came :: zs ∧
    (run shaderRoot ys).engine.activation? t = some a ∧ a.stage.awaits came

/-- Without arrival no activation ends. -/
theorem returns_of_no_arrival (p : Performance α) (x : Engine.Event α)
    (hout : p.engine.outbox = []) (hx : x.arrival? = none) :
    p.returns x = [] ∧ (p.step x).engine.session.active = p.engine.session.active := by
  obtain ⟨xs, hxs, ms⟩ := Engine.goes_step p.engine x
  rw [hout, List.nil_append] at hxs
  rw [hx] at ms
  rw [returns, hxs]
  exact ms.of_none

/-- What comes for an activation ends that one, or none. -/
theorem returns_arrive (p : Performance α) (t : Ticket) (came : Engine.Arrival α)
    (hout : p.engine.outbox = []) :
    (p.returns (.arrive t came) = [] ∧
      (p.step (.arrive t came)).engine.session.active = p.engine.session.active) ∨
      ∃ a o bindings, a ∈ p.engine.activations ∧ a.ticket = t ∧
        a.stage.Ends p.engine.generation came o ∧
        p.returns (.arrive t came) = [⟨t, a.requested, o, bindings⟩] ∧
        (p.step (.arrive t came)).engine.session.active =
          o.shader?.or p.engine.session.active := by
  obtain ⟨xs, hxs, m⟩ := Engine.makes_arrive p.engine t came
  rw [hout, List.nil_append] at hxs
  rw [returns, show p.engine.step (.arrive t came) = p.engine.arrive t came from rfl, hxs]
  exact m.of_some

/-- An activation is brought to its end by what comes for it. -/
theorem ends_of_returns {shaderRoot : String} {xs : List (Engine.Event α)}
    {x : Engine.Event α} {r : Finish α} (hr : r ∈ (run shaderRoot xs).returns x) :
    ∃ a ∈ (run shaderRoot xs).engine.activations, ∃ came,
      x = .arrive r.ticket came ∧ a.ticket = r.ticket ∧
      a.stage.Ends (run shaderRoot xs).engine.generation came r.outcome ∧
      (run shaderRoot (xs ++ [x])).engine.session.active =
        r.outcome.shader?.or (run shaderRoot xs).engine.session.active := by
  have hout := outbox_run shaderRoot xs
  cases hx : x.arrival? with
  | none =>
      rw [(returns_of_no_arrival _ x hout hx).1] at hr
      simp at hr
  | some l =>
      obtain ⟨t, came, rfl⟩ := Engine.Event.arrival?_eq_some hx
      rcases returns_arrive _ t came hout with ⟨hnil, -⟩ | ⟨a, o, bs, ha, hat, hends, hret, hact⟩
      · rw [hnil] at hr
        simp at hr
      · rw [hret, List.mem_singleton] at hr
        subst hr
        rw [run_concat]
        exact ⟨a, ha, came, rfl, hat, hends, hact⟩

/-- What an activation waits for ends it, or leaves less before it. -/
theorem returns_or_remaining_lt (shaderRoot : String) (xs : List (Engine.Event α)) {t : Ticket}
    {came : Engine.Arrival α} {a : Activation α}
    (ha : (run shaderRoot xs).engine.activation? t = some a) (hawaits : a.stage.awaits came) :
    (∃ r ∈ (run shaderRoot xs).returns (.arrive t came), r.ticket = t) ∨
      ∃ b ∈ (run shaderRoot (xs ++ [.arrive t came])).engine.activations,
        b.ticket = t ∧ b.stage.remaining < a.stage.remaining := by
  obtain ⟨hmem, hat⟩ := Engine.mem_of_activation? ha
  obtain ⟨es, hes, m⟩ := Engine.makes_arrive (run shaderRoot xs).engine t came
  rw [outbox_run, List.nil_append] at hes
  rcases (accounted shaderRoot xs).move_of_awaits m ha hawaits with
    ⟨stage, x, ns, hadv, hg, -, -⟩ | ⟨o, bs, ns, -, -, hns, hquiet⟩
  · refine .inr ⟨{ a with stage := stage }, ?_, hat, hadv.remaining_lt⟩
    have hstep : (run shaderRoot (xs ++ [.arrive t came])).engine.flight =
        (run shaderRoot xs).engine.flight.moveTo t stage := by rw [run_concat]; exact hg
    have hactivations : (run shaderRoot (xs ++ [.arrive t came])).engine.activations =
        ((run shaderRoot xs).engine.flight.moveTo t stage).activations :=
      congrArg Flight.activations hstep
    rw [hactivations]
    exact List.mem_map.mpr ⟨a, hmem, by simp [hat]⟩
  · refine .inl ⟨⟨t, a.requested, o, bs⟩, ?_, rfl⟩
    have hreturns : (run shaderRoot xs).returns (.arrive t came) = Effect.returns es :=
      congrArg Effect.returns hes
    simp [hreturns, hns]

/-- What was asked for stays asked for. -/
theorem mem_asked_of_prefix {shaderRoot : String} {ys zs : List (Engine.Event α)}
    {x : Effect α} (h : x ∈ (run shaderRoot ys).asked) :
    x ∈ (run shaderRoot (ys ++ zs)).asked :=
  (asked_prefix_run shaderRoot ys zs).subset h

/-- When the compile of the newest activation succeeds, its saved bindings are asked for. -/
theorem mem_asked_of_compiled {shaderRoot : String} {ys : List (Engine.Event α)} {t : Ticket}
    {a : Activation α} {q : Quest} {p : Transpiled α} (now : Timestamp)
    (ha : (run shaderRoot ys).engine.activation? t = some a) (hs : a.stage = .compiling q p)
    (hq : q.generation = (run shaderRoot ys).engine.generation) :
    .loadPreset t q.descriptor.name ∈
      (run shaderRoot (ys ++ [.arrive t (.program now (.ok ()))])).asked := by
  have hnew : (run shaderRoot ys).engine.isOutdated q = false := by
    simp [Engine.isOutdated, hq]
  simp [step, Engine.step, Engine.arrive, Engine.compiled, ha, hs, hnew, Engine.emit]

/-- The latest activation to find its shader, once compiled, asks for its saved bindings. -/
theorem loadPreset_of_receives {shaderRoot : String} {xs : List (Engine.Event α)} {u : Ticket}
    {now : Timestamp} (hlast : (starts (run shaderRoot xs).asked).getLast? = some u)
    (h : Receives shaderRoot xs u (.program now (.ok ()))) :
    ∃ n, .loadPreset u n ∈ (run shaderRoot xs).asked := by
  obtain ⟨ys, zs, a, rfl, ha, hawaits⟩ := h
  have hys := accounted shaderRoot ys
  obtain ⟨hmem, rfl⟩ := Engine.mem_of_activation? ha
  obtain ⟨q, p, hs⟩ : ∃ q p, a.stage = .compiling q p := by
    cases hs : a.stage <;> simp_all [Stage.awaits]
  have hfits := hys.stages a hmem
  rw [hs] at hfits
  -- had another one found its shader before the compile was done, this would not be the latest
  have hq : q.generation = (starts (run shaderRoot ys).asked).length := by
    by_contra hne
    obtain ⟨v, hv⟩ := hfits.1.followed hne
    refine (accounted shaderRoot _).not_followed hlast (hv.trans ?_)
    exact (asked_prefix_run shaderRoot ys _).sublist.filterMap _
  have hask := mem_asked_of_compiled now ha hs (hq.trans hys.numbered)
  refine ⟨q.descriptor.name, ?_⟩
  rw [List.append_cons]
  exact mem_asked_of_prefix hask

/-! ## The newest activation wins -/

/-- The active shader is only ever replaced by a newer one. -/
theorem active_of_prefix (shaderRoot : String) (ys zs : List (Engine.Event α))
    {b : ActiveShader α} (hb : (run shaderRoot ys).engine.session.active = some b) :
    ∃ c, (run shaderRoot (ys ++ zs)).engine.session.active = some c ∧
      (c = b ∨ b.generation < c.generation) := by
  have hmem : b ∈ installs (run shaderRoot ys).asked :=
    List.mem_of_getLast? ((accounted shaderRoot ys).active.symm.trans hb)
  obtain ⟨later, hlater⟩ := asked_prefix_run shaderRoot ys zs
  have hmem' : b ∈ installs (run shaderRoot (ys ++ zs)).asked := by
    rw [← hlater, installs_append]
    exact List.mem_append_left _ hmem
  obtain ⟨c, -, hc⟩ := (accounted shaderRoot (ys ++ zs)).active_of_installed hmem'
  exact ⟨c, hc⟩

/-- An activation brings a shader back exactly if what has come for it makes that shader the
active one. -/
theorem installed_iff (shaderRoot : String) (xs : List (Engine.Event α)) (x : Engine.Event α)
    (t : Ticket) (b : ActiveShader α) :
    (∃ r ∈ (run shaderRoot xs).returns x, r.ticket = t ∧ r.outcome = .installed b) ↔
      (∃ came, x = .arrive t came) ∧
        (run shaderRoot xs).engine.session.active ≠ some b ∧
        (run shaderRoot (xs ++ [x])).engine.session.active = some b := by
  constructor
  · rintro ⟨r, hr, rfl, ho⟩
    obtain ⟨a, ha, came, hx, -, hends, hact⟩ := ends_of_returns hr
    rw [ho] at hends hact
    refine ⟨⟨came, hx⟩, fun hold => ?_, hact⟩
    have hacc := accounted shaderRoot xs
    have hmem : b ∈ installs (run shaderRoot xs).asked :=
      List.mem_of_getLast? (hacc.active.symm.trans hold)
    exact Nat.lt_irrefl _ (hacc.lt_of_ends ha hends hmem)
  · rintro ⟨⟨came, rfl⟩, hne, hact⟩
    rw [run_concat] at hact
    rcases returns_arrive _ t came (outbox_run shaderRoot xs) with
      ⟨-, hsame⟩ | ⟨a, o, bs, -, -, -, hret, hact'⟩
    · exact absurd (hsame.symm.trans hact) hne
    · refine ⟨_, by rw [hret]; exact List.mem_singleton_self _, rfl, ?_⟩
      rw [hact'] at hact
      cases o with
      | installed s =>
          obtain rfl : s = b := by simpa [Outcome.shader?] using hact
          rfl
      | _ => exact absurd (by simpa [Outcome.shader?] using hact) hne

/-- An activation gives up only after another has found its shader. -/
theorem followed_of_superseded (shaderRoot : String) (xs : List (Engine.Event α))
    (x : Engine.Event α) (r : Finish α) (hr : r ∈ (run shaderRoot xs).returns x)
    (ho : r.outcome = .superseded) :
    ∃ u, [r.ticket, u].Sublist (starts (run shaderRoot xs).asked) := by
  obtain ⟨a, ha, came, -, hat, hends, -⟩ := ends_of_returns hr
  rw [ho] at hends
  exact hat ▸ (accounted shaderRoot xs).fits_of_ends ha hends

/-- The latest activation to find its shader has installed it when it has ended, if it was
compiled, and that is the active shader. -/
theorem latest_ended (shaderRoot : String) (xs : List (Engine.Event α)) (u : Ticket)
    (now : Timestamp) (hlast : (starts (run shaderRoot xs).asked).getLast? = some u)
    (hcompiled : Receives shaderRoot xs u (.program now (.ok ())))
    (hended : ∀ a ∈ (run shaderRoot xs).engine.activations, a.ticket ≠ u) :
    ∃ r b, r ∈ Effect.returns (run shaderRoot xs).asked ∧ r.ticket = u ∧
      r.outcome = .installed b ∧
      .compile u (Engine.compileRequest b.descriptor b.transpiled) ∈
        (run shaderRoot xs).asked ∧
      (run shaderRoot xs).engine.session.active = some b := by
  have hacc := accounted shaderRoot xs
  obtain ⟨n, hn⟩ := loadPreset_of_receives hlast hcompiled
  have hlt := hacc.started_lt u (List.mem_of_getLast? hlast)
  obtain ⟨r, hr, hru⟩ := hacc.exists_return_of_ended hlt hended
  have hfits := hacc.outcomes r hr
  cases ho : r.outcome with
  | installed b =>
      rw [ho, hru] at hfits
      exact ⟨r, b, hr, hru, ho, hfits.2, hacc.active_of_latest hlast hr hru ho⟩
  | superseded =>
      rw [ho, hru] at hfits
      obtain ⟨v, hv⟩ := hfits
      exact absurd hv (hacc.not_followed hlast)
  | notFound =>
      rw [ho, hru] at hfits
      exact absurd hn (hfits n)
  | unreadable e =>
      rw [ho, hru] at hfits
      exact absurd hn (hfits n)
  | uncompilable f =>
      rw [ho, hru] at hfits
      exact absurd hn (hfits n)

/-- When no activation is on its way, the latest one to find its shader has installed it if it
was compiled, and that is the active shader. -/
theorem latest_installed (shaderRoot : String) (xs : List (Engine.Event α)) (u : Ticket)
    (now : Timestamp) (hlast : (starts (run shaderRoot xs).asked).getLast? = some u)
    (hcompiled : Receives shaderRoot xs u (.program now (.ok ())))
    (hsettled : (run shaderRoot xs).engine.activations = []) :
    ∃ r b, r ∈ Effect.returns (run shaderRoot xs).asked ∧ r.ticket = u ∧
      r.outcome = .installed b ∧
      .compile u (Engine.compileRequest b.descriptor b.transpiled) ∈
        (run shaderRoot xs).asked ∧
      (run shaderRoot xs).engine.session.active = some b :=
  latest_ended shaderRoot xs u now hlast hcompiled (by simp [hsettled])

/-- The newest activation wins, whatever comes for the others and in whatever order: what is
installed is ever newer and the active shader is what was installed last, an activation brings
a shader back exactly if it has installed it, it gives up only for one that has found its shader
while it was on its way, and the latest one to find its shader is active in the end if its
compile has succeeded. The end is reached when all that is waited for has come: it ends the
activation that waits for it, or leaves less before it. -/
theorem newest_wins (shaderRoot : String) (xs : List (Engine.Event α)) :
    (((installs (run shaderRoot xs).asked).map (·.generation)).Pairwise (· < ·) ∧
      (run shaderRoot xs).engine.session.active =
        (installs (run shaderRoot xs).asked).getLast? ∧
      ∀ ys zs b, xs = ys ++ zs → (run shaderRoot ys).engine.session.active = some b →
        ∃ c, (run shaderRoot xs).engine.session.active = some c ∧
          (c = b ∨ b.generation < c.generation)) ∧
    (∀ x t b,
      (∃ r ∈ (run shaderRoot xs).returns x, r.ticket = t ∧ r.outcome = .installed b) ↔
        (∃ came, x = .arrive t came) ∧
          (run shaderRoot xs).engine.session.active ≠ some b ∧
          (run shaderRoot (xs ++ [x])).engine.session.active = some b) ∧
    (∀ x, ∀ r ∈ (run shaderRoot xs).returns x, r.outcome = .superseded →
      ∃ u, [r.ticket, u].Sublist (starts (run shaderRoot xs).asked)) ∧
    (∀ u now, (starts (run shaderRoot xs).asked).getLast? = some u →
      Receives shaderRoot xs u (.program now (.ok ())) →
      (run shaderRoot xs).engine.activations = [] →
        ∃ r b, r ∈ Effect.returns (run shaderRoot xs).asked ∧ r.ticket = u ∧
          r.outcome = .installed b ∧
          .compile u (Engine.compileRequest b.descriptor b.transpiled) ∈
            (run shaderRoot xs).asked ∧
          (run shaderRoot xs).engine.session.active = some b) ∧
    (∀ t a came, (run shaderRoot xs).engine.activation? t = some a → a.stage.awaits came →
      (∃ r ∈ (run shaderRoot xs).returns (.arrive t came), r.ticket = t) ∨
        ∃ b ∈ (run shaderRoot (xs ++ [.arrive t came])).engine.activations,
          b.ticket = t ∧ b.stage.remaining < a.stage.remaining) := by
  have hacc := accounted shaderRoot xs
  refine ⟨⟨hacc.increasing, hacc.active, ?_⟩, ?_, ?_, ?_, ?_⟩
  · rintro ys zs b rfl hb
    exact active_of_prefix shaderRoot ys zs hb
  · exact installed_iff shaderRoot xs
  · exact followed_of_superseded shaderRoot xs
  · exact latest_installed shaderRoot xs
  · exact fun t a came ha hawaits => returns_or_remaining_lt shaderRoot xs ha hawaits

/-- A shader of the directory. -/
def glslShader (name : String) : Descriptor :=
  ⟨name, s!"shaders/{name}.glsl", s!"{name}.glsl", .glsl⟩

/-- A scan that finds two shaders. -/
def twoShaders : Scan := ⟨[glslShader "a", glslShader "b"], .missing⟩

/-- What an activation waits for comes, and all is well. -/
def completing (t : Ticket) : List (Engine.Event Float) :=
  [.arrive t (.source (.ok "")), .arrive t (.program ⟨0⟩ (.ok ())), .arrive t (.preset (.ok none))]

/-- Two shaders are asked for. -/
def requestingBoth : List (Engine.Event Float) :=
  [.rescan twoShaders, .activate .request "a", .activate .request "b"]

/-- What the second waits for comes first, and then what the first waits for. -/
def overlapping : List (Engine.Event Float) := requestingBoth ++ completing 1 ++ completing 0

/-- The second of two that overlap wins though all has come for it first, and at the start both
have something before them. -/
theorem newest_wins_overlapping :
    ((starts (run "shaders" overlapping).asked).getLast? = some 1 ∧
      Receives "shaders" overlapping 1 (.program ⟨0⟩ (.ok ())) ∧
      (run "shaders" overlapping).engine.activations = [] ∧
      ∃ r b, r ∈ Effect.returns (run "shaders" overlapping).asked ∧ r.ticket = 1 ∧
        r.outcome = .installed b ∧
        .compile 1 (Engine.compileRequest b.descriptor b.transpiled) ∈
          (run "shaders" overlapping).asked ∧
        (run "shaders" overlapping).engine.session.active = some b) ∧
    ∃ a, (run "shaders" requestingBoth).engine.activation? 0 = some a ∧
      a.stage.awaits (.source (.ok "")) ∧
      ((∃ r ∈ (run "shaders" requestingBoth).returns (.arrive 0 (.source (.ok ""))),
          r.ticket = 0) ∨
        ∃ b ∈ (run "shaders" (requestingBoth ++
            [.arrive 0 (.source (.ok ""))])).engine.activations,
          b.ticket = 0 ∧ b.stage.remaining < a.stage.remaining) := by
  have hlast : (starts (run "shaders" overlapping).asked).getLast? = some 1 := rfl
  have hcompiled : Receives "shaders" overlapping 1 (.program ⟨0⟩ (.ok ())) :=
    ⟨requestingBoth ++ [.arrive 1 (.source (.ok ""))],
      .arrive 1 (.preset (.ok none)) :: completing 0, _, rfl, rfl, rfl⟩
  have hsettled : (run "shaders" overlapping).engine.activations = [] := rfl
  obtain ⟨-, -, -, hwins, -⟩ := newest_wins "shaders" overlapping
  obtain ⟨-, -, -, -, hprogress⟩ := newest_wins "shaders" requestingBoth
  exact ⟨⟨hlast, hcompiled, hsettled, hwins 1 ⟨0⟩ hlast hcompiled hsettled⟩, _, rfl, rfl,
    hprogress 0 _ _ rfl rfl⟩

end Performance

end LiveVisuals
