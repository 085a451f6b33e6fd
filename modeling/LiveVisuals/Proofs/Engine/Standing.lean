import LiveVisuals.Proofs.Engine.Primitive
import LiveVisuals.Proofs.Rig.Rejection

/-!
# A request stands

After the last request that finds its shader only reloads have activations find theirs. A reload
activates the active shader anew, so once the shader that was asked for is active, everything that
can become active goes by its address, and the request stands.

All of this rests on the shader being active already when a reload starts. A reload of another
shader that starts while the request is on its way is newer than the request, and makes it give
up for a shader that nobody has asked for.

Main definitions:

- {lit}`Flight.Stands`: from some number on all activations are for shaders of one address.
- {lit}`Performance.Finds`: an event has an activation find its shader.
- {lit}`Performance.Newest`: the newest activation to have found its shader is on its way.
- {lit}`Performance.Spares`: a reload is not one of another shader while a request is on its way.

Main results:

- Theorem {lit}`Performance.stands_step`: what stands goes on to stand.
- Theorem {lit}`Performance.active_of_newest`: in the end the shader of the last request is active.
- Theorem {lit}`Performance.reload_overtakes`: a reload of another shader can overtake a request.
-/

namespace LiveVisuals

variable {α : Type}

/-- Whether an event is that the scan of a reload has ended. -/
def Engine.Event.isReload : Engine.Event α → Bool
  | .scanned _ => true
  | _ => false

/-! ## Flights -/

namespace Flight

/-- From a number on all activations that have found their shader are for shaders of one address,
and so is the active one if it is of them; it goes by that address unless the activation of this
number is still the newest. -/
structure Stands (d : Descriptor) (number : Nat) (f : Flight α) : Prop where
  reached : number ≤ f.generation
  coming : ∀ a ∈ f.activations, ∀ q, a.stage.quest? = some q → number ≤ q.generation →
    q.descriptor.Alike d
  installed : ∀ b, f.active = some b → number ≤ b.generation → b.descriptor.Alike d
  standing : (∃ b, f.active = some b ∧ b.descriptor.Alike d) ∨ f.generation = number

variable [Scalar α] {f g : Flight α} {l : Option (Ticket × Engine.Arrival α)}
  {xs : List (Effect α)} {d : Descriptor} {number : Nat}

/-- An activation that gets further is for the same shader. -/
theorem quest_of_advance {newest : Nat} {t : Ticket} {s stage : Stage α}
    {came : Engine.Arrival α} {x : Effect α} (h : s.Advance newest t came stage x) :
    stage.quest? = s.quest? := by
  cases h <;> rfl

/-- The number of the newest activation never goes back. -/
theorem Move.generation_le (m : f.Move l xs g) : f.generation ≤ g.generation := by
  cases m with
  | begun => exact Nat.le_succ _
  | _ => exact Nat.le_refl _

theorem Moves.generation_le (ms : f.Moves l xs g) : f.generation ≤ g.generation := by
  induction ms with
  | refl => exact Nat.le_refl _
  | tail _ m ih => exact Nat.le_trans ih m.generation_le

namespace Stands

/-- What stands goes on to stand in moves that make no activation newer. -/
theorem move (h : f.Stands d number) (m : f.Move l xs g) (hsame : g.generation = f.generation) :
    g.Stands d number := by
  cases m with
  | aside => exact h
  | ignored => exact h
  | missed purpose name =>
      refine ⟨h.reached, fun a ha q hq => ?_, h.installed, h.standing⟩
      rcases List.mem_append.mp ha with ha | ha
      · exact h.coming a ha q hq
      · rw [List.mem_singleton.mp ha] at hq
        cases hq
  | begun => exact absurd hsame (Nat.succ_ne_self _)
  | @advanced a _ stage _ _ ha hadv _ =>
      refine ⟨h.reached, fun c hc q hq => ?_, h.installed, h.standing⟩
      obtain ⟨c', hc', rfl⟩ := List.mem_map.mp hc
      split at hq
      · have hquest : a.stage.quest? = some q := (quest_of_advance hadv).symm.trans hq
        exact h.coming a ha q hquest
      · exact h.coming c' hc' q hq
  | @ended a _ o _ _ ha hends _ =>
      have hcoming : ∀ c ∈ (f.land a.ticket o).activations, ∀ q, c.stage.quest? = some q →
          number ≤ q.generation → q.descriptor.Alike d :=
        fun c hc => h.coming c (List.mem_of_mem_filter hc)
      have hquest := h.coming a ha
      generalize a.stage = s at hends hquest
      cases hends with
      | installed q p saved hq =>
          have halike : q.descriptor.Alike d := hquest q rfl (hq ▸ h.reached)
          refine ⟨h.reached, hcoming, fun b hb _ => ?_, .inl ⟨_, rfl, halike⟩⟩
          cases hb
          exact halike
      | _ => exact ⟨h.reached, hcoming, h.installed, h.standing⟩

theorem moves (h : f.Stands d number) (ms : f.Moves l xs g)
    (hsame : g.generation = f.generation) : g.Stands d number := by
  induction ms with
  | refl => exact h
  | @tail g _ _ _ _ ms m ih =>
      have hle := ms.generation_le
      have hle' := m.generation_le
      have hg : g.generation = f.generation := by omega
      exact (ih hg).move m (hsame.trans hg.symm)

omit [Scalar α] in
/-- If the active shader goes by the address already, another of that address can be on its way. -/
theorem begin (h : f.Stands d number) {b : ActiveShader α} (hb : f.active = some b)
    (halike : b.descriptor.Alike d) {d' : Descriptor} (halike' : d'.Alike d) (purpose : Purpose)
    (name : String) :
    Stands d number { f.begin purpose name (.reading ⟨f.generation + 1, d'⟩) with
      generation := f.generation + 1 } := by
  refine ⟨Nat.le_succ_of_le h.reached, fun a ha q hq hle => ?_, h.installed, .inl ⟨b, hb, halike⟩⟩
  rcases List.mem_append.mp ha with ha | ha
  · exact h.coming a ha q hq hle
  · rw [List.mem_singleton.mp ha] at hq
    cases hq
    exact halike'

end Stands

end Flight

/-! ## Performances -/

namespace Performance

open Effect

variable [Scalar α]

/-- An event has an activation find its shader. -/
def Finds (p : Performance α) (x : Engine.Event α) : Prop :=
  p.engine.generation < (p.step x).engine.generation

/-- The newest activation to have found its shader is on its way. -/
def Newest (p : Performance α) (t : Ticket) (q : Quest) : Prop :=
  q.generation = p.engine.generation ∧
    ∃ a ∈ p.engine.activations, a.ticket = t ∧ a.stage.quest? = some q

/-- Something holds of every event from a performance on. -/
def Throughout (P : Performance α → Engine.Event α → Prop) :
    Performance α → List (Engine.Event α) → Prop
  | _, [] => True
  | p, x :: xs => P p x ∧ Throughout P (p.step x) xs

/-- Only a reload has an activation find its shader. -/
def OnlyReloads (p : Performance α) (x : Engine.Event α) : Prop := p.Finds x → x.isReload

/-- A reload goes by the address of the active shader, and is not one of another shader while an
activation is on its way. -/
def Spares (t : Ticket) (q : Quest) (p : Performance α) (x : Engine.Event α) : Prop :=
  x.isReload → p.Finds x → ∀ b ∈ p.engine.session.active,
    b.descriptor.Addressable ∧ ((p.engine.activation? t).isSome → b.descriptor.Alike q.descriptor)

instance (p : Performance α) (x : Engine.Event α) : Decidable (p.Finds x) :=
  inferInstanceAs (Decidable (_ < _))

instance (p : Performance α) (x : Engine.Event α) : Decidable (p.OnlyReloads x) :=
  inferInstanceAs (Decidable (_ → _))

instance (t : Ticket) (q : Quest) (p : Performance α) (x : Engine.Event α) :
    Decidable (Spares t q p x) :=
  inferInstanceAs (Decidable (_ → _ → ∀ b ∈ p.engine.session.active, _))

instance decidableThroughout (P : Performance α → Engine.Event α → Prop)
    [∀ p x, Decidable (P p x)] : ∀ p xs, Decidable (Throughout P p xs)
  | _, [] => inferInstanceAs (Decidable True)
  | p, x :: xs =>
      have := decidableThroughout P (p.step x) xs
      inferInstanceAs (Decidable (_ ∧ _))

/-- What an event makes of the flight. -/
theorem flight_step (p : Performance α) (x : Engine.Event α) :
    (p.step x).engine.flight = (p.engine.step x).flight :=
  rfl

theorem not_finds {p : Performance α} {x : Engine.Event α}
    (h : (p.engine.step x).generation = p.engine.generation) : ¬ p.Finds x :=
  Nat.not_lt_of_le (Nat.le_of_eq h)

/-- An activation that has ended is not on its way later. -/
theorem not_awaited_of_ended {shaderRoot : String} {ys : List (Engine.Event α)} {t : Ticket}
    (hstarted : t ∈ starts (run shaderRoot ys).asked)
    (hended : ∀ a ∈ (run shaderRoot ys).engine.activations, a.ticket ≠ t)
    (zs : List (Engine.Event α)) :
    ∀ a ∈ (run shaderRoot (ys ++ zs)).engine.activations, a.ticket ≠ t := by
  intro a ha hat
  have hacc := accounted shaderRoot ys
  obtain ⟨r, hr, hrt⟩ := hacc.exists_return_of_ended (hacc.started_lt t hstarted) hended
  have hlater : r ∈ Effect.returns (run shaderRoot (ys ++ zs)).asked := by
    obtain ⟨later, hlater⟩ := asked_prefix_run shaderRoot ys zs
    rw [← hlater, returns_append]
    exact List.mem_append_left _ hr
  exact (accounted shaderRoot (ys ++ zs)).ticket_ne_return ha hlater (hat.trans hrt.symm)

/-- What an activation has received in a run it has received before it ended. -/
theorem receives_of_ended {shaderRoot : String} {ys zs : List (Engine.Event α)} {t : Ticket}
    {came : Engine.Arrival α} (hstarted : t ∈ starts (run shaderRoot ys).asked)
    (hended : ∀ a ∈ (run shaderRoot ys).engine.activations, a.ticket ≠ t)
    (h : Receives shaderRoot (ys ++ zs) t came) : Receives shaderRoot ys t came := by
  obtain ⟨vs, ws, a, hsplit, ha, hawaits⟩ := h
  obtain ⟨hmem, hat⟩ := Engine.mem_of_activation? ha
  rcases List.append_eq_append_iff.mp hsplit with ⟨us, rfl, -⟩ | ⟨us, rfl, hus⟩
  · exact absurd hat (not_awaited_of_ended hstarted hended us a hmem)
  · cases us with
    | nil =>
        rw [List.append_nil] at hended
        exact absurd hat (hended a hmem)
    | cons u us =>
        obtain ⟨rfl, -⟩ := List.cons_eq_cons.mp hus
        exact ⟨vs, us, a, rfl, ha, hawaits⟩

/-- An activation that was the latest to find its shader, and that has ended, has installed it if
its compile succeeds in the run. -/
theorem active_of_ended {shaderRoot : String} {ys zs : List (Engine.Event α)} {t : Ticket}
    {number : Nat} {now : Timestamp} (hstarted : StartedAs (run shaderRoot ys).asked t number)
    (hnumber : (run shaderRoot ys).engine.generation = number)
    (hcompiled : Receives shaderRoot (ys ++ zs) t (.program now (.ok ())))
    (hended : ∀ a ∈ (run shaderRoot ys).engine.activations, a.ticket ≠ t) :
    ∃ b, (run shaderRoot ys).engine.session.active = some b ∧ b.generation = number := by
  have hacc := accounted shaderRoot ys
  have hlength : (starts (run shaderRoot ys).asked).length = number :=
    hacc.numbered.trans hnumber
  have hlast : (starts (run shaderRoot ys).asked).getLast? = some t := by
    obtain ⟨k, rfl, hk⟩ := hstarted
    rw [List.getLast?_eq_getElem?, hlength]
    exact hk
  have hbefore := receives_of_ended (List.mem_of_getLast? hlast) hended hcompiled
  obtain ⟨r, b, hr, hrt, ho, -, hb⟩ := latest_ended shaderRoot ys t now hlast hbefore hended
  have hfits := hacc.outcomes r hr
  rw [ho, hrt] at hfits
  refine ⟨b, hb, ?_⟩
  by_contra hne
  obtain ⟨v, hv⟩ := hfits.1.followed (hlength ▸ hne)
  exact hacc.not_followed hlast hv

/-- When a reload starts, the shader that is active then goes by the address of the one that was
asked for. -/
theorem alike_of_reload {shaderRoot : String} {ys zs : List (Engine.Event α)} {t : Ticket}
    {q : Quest} {now : Timestamp} {b : ActiveShader α}
    (h : (run shaderRoot ys).engine.flight.Stands q.descriptor q.generation)
    (hstarted : StartedAs (run shaderRoot ys).asked t q.generation)
    (hcompiled : Receives shaderRoot (ys ++ zs) t (.program now (.ok ())))
    (hb : (run shaderRoot ys).engine.session.active = some b)
    (hcoming : ((run shaderRoot ys).engine.activation? t).isSome →
      b.descriptor.Alike q.descriptor) : b.descriptor.Alike q.descriptor := by
  cases hactivation : (run shaderRoot ys).engine.activation? t with
  | some a => exact hcoming (by rw [hactivation]; rfl)
  | none =>
      have hended : ∀ a ∈ (run shaderRoot ys).engine.activations, a.ticket ≠ t := by
        intro a ha hat
        exact absurd (by simpa using hat) (List.find?_eq_none.mp hactivation a ha)
      rcases h.standing with ⟨c, hc, halike⟩ | hnumber
      · obtain rfl : c = b := Option.some.inj (hc.symm.trans hb)
        exact halike
      · obtain ⟨c, hc, hgeneration⟩ := active_of_ended hstarted hnumber hcompiled hended
        obtain rfl : c = b := Option.some.inj (hc.symm.trans hb)
        exact h.installed c hb (Nat.le_of_eq hgeneration.symm)

/-- A reload that has an activation find its shader has found one that goes by the address of the
active shader. -/
theorem flight_of_reload {p : Performance α} {x : Engine.Event α} (hreload : x.isReload)
    (hfinds : p.Finds x)
    (haddress : ∀ b, p.engine.session.active = some b → b.descriptor.Addressable) :
    ∃ b d, p.engine.session.active = some b ∧ d.Alike b.descriptor ∧
      (p.step x).engine.flight =
        { p.engine.flight.begin .reload b.descriptor.address
            (.reading ⟨p.engine.generation + 1, d⟩) with
          generation := p.engine.generation + 1 } := by
  cases x with
  | scanned s =>
      cases s with
      | error problem => exact absurd hfinds (Nat.lt_irrefl _)
      | ok s =>
          rcases Engine.step_of_scan p.engine (x := .scanned (.ok s)) rfl with
            hstep | ⟨-, b, hb, hstep⟩
          · exact absurd hfinds (not_finds (by rw [hstep]; rfl))
          · cases hget : (p.engine.takeScan s).registry.get? b.descriptor.address with
            | none =>
                have hsame := (Engine.activate_of_unknown _ .reload hget).1
                exact absurd hfinds (not_finds (by rw [hstep, hsame]; rfl))
            | some d =>
                have hfits : (ShaderQuery.ofName b.descriptor.address).fits d :=
                  List.find?_some hget
                refine ⟨b, d, hb, (haddress b hb).fits_iff.mp hfits, ?_⟩
                rw [flight_step, hstep]
                exact (Engine.activate_of_known _ .reload hget).1
  | _ => cases hreload

/-- What stands goes on to stand. -/
theorem stands_step {shaderRoot : String} {ys zs : List (Engine.Event α)} {x : Engine.Event α}
    {t : Ticket} {q : Quest} {now : Timestamp}
    (h : (run shaderRoot ys).engine.flight.Stands q.descriptor q.generation)
    (hstarted : StartedAs (run shaderRoot ys).asked t q.generation)
    (hlast : (run shaderRoot ys).OnlyReloads x) (hspares : Spares t q (run shaderRoot ys) x)
    (hcompiled : Receives shaderRoot (ys ++ x :: zs) t (.program now (.ok ()))) :
    (run shaderRoot (ys ++ [x])).engine.flight.Stands q.descriptor q.generation := by
  rw [run_concat]
  by_cases hfinds : (run shaderRoot ys).Finds x
  · have hreload := hlast hfinds
    have hspared := hspares hreload hfinds
    obtain ⟨b, d, hb, hd, hflight⟩ :=
      flight_of_reload hreload hfinds fun b hb => (hspared b hb).1
    have halike := alike_of_reload h hstarted hcompiled hb (hspared b hb).2
    rw [hflight]
    exact h.begin hb halike (hd.trans halike) .reload b.descriptor.address
  · obtain ⟨_, _, ms⟩ := Engine.goes_step (run shaderRoot ys).engine x
    have hle := ms.generation_le
    rw [flight_step]
    exact h.moves ms (Nat.le_antisymm (Nat.le_of_not_lt hfinds) hle)

/-- The newest activation stands as soon as it has found its shader. -/
theorem stands_of_newest {shaderRoot : String} {ys : List (Engine.Event α)} {t : Ticket}
    {q : Quest} (h : (run shaderRoot ys).Newest t q) :
    StartedAs (run shaderRoot ys).asked t q.generation ∧
      (run shaderRoot ys).engine.flight.Stands q.descriptor q.generation := by
  obtain ⟨hnumber, a, ha, rfl, hquest⟩ := h
  have hacc := accounted shaderRoot ys
  have hstarted := (hacc.stages a ha).startedAs hquest
  -- no activation but this one has found its shader as late
  have hsame : ∀ u number, StartedAs (run shaderRoot ys).asked u number →
      q.generation ≤ number → u = a.ticket := by
    intro u number hu hle
    have hnumbered : (starts (run shaderRoot ys).asked).length = q.generation :=
      hacc.numbered.trans hnumber.symm
    have hle' : number ≤ q.generation := hnumbered ▸ hu.le
    obtain rfl : number = q.generation := Nat.le_antisymm hle' hle
    exact hu.unique hstarted
  refine ⟨hstarted, Nat.le_of_eq hnumber, fun c hc q' hq' hle => ?_, fun b hb hle => ?_,
    .inr hnumber.symm⟩
  · have hticket := hsame _ _ ((hacc.stages c hc).startedAs hq') hle
    obtain rfl := hacc.eq_of_ticket hc ha hticket
    obtain rfl : q' = q := Option.some.inj (hq'.symm.trans hquest)
    exact ⟨rfl, rfl⟩
  · have hmem : b ∈ installs (run shaderRoot ys).asked :=
      List.mem_of_getLast? (hacc.active.symm.trans hb)
    obtain ⟨r, hr, -, hstarted'⟩ := hacc.exists_return hmem
    have hticket := hsame _ _ hstarted' hle
    exact absurd hticket.symm (hacc.ticket_ne_return ha hr)

/-- What stands goes on to stand until the end of a run. -/
theorem stands_run {shaderRoot : String} {ys zs : List (Engine.Event α)} {t : Ticket} {q : Quest}
    {now : Timestamp} (hstarted : StartedAs (run shaderRoot ys).asked t q.generation)
    (h : (run shaderRoot ys).engine.flight.Stands q.descriptor q.generation)
    (hlast : (run shaderRoot ys).Throughout OnlyReloads zs)
    (hspares : (run shaderRoot ys).Throughout (Spares t q) zs)
    (hcompiled : Receives shaderRoot (ys ++ zs) t (.program now (.ok ()))) :
    StartedAs (run shaderRoot (ys ++ zs)).asked t q.generation ∧
      (run shaderRoot (ys ++ zs)).engine.flight.Stands q.descriptor q.generation := by
  induction zs generalizing ys with
  | nil =>
      rw [List.append_nil]
      exact ⟨hstarted, h⟩
  | cons x zs ih =>
      have hstep := stands_step h hstarted hlast.1 hspares.1 hcompiled
      have hstarted' : StartedAs (run shaderRoot (ys ++ [x])).asked t q.generation := by
        obtain ⟨later, hlater⟩ := asked_prefix_run shaderRoot ys [x]
        exact hlater ▸ hstarted.mono later
      have hlast' := hlast.2
      have hspares' := hspares.2
      rw [← run_concat] at hlast' hspares'
      rw [List.append_cons] at hcompiled ⊢
      exact ih hstarted' hstep hlast' hspares' hcompiled

/-- The last request that finds its shader stands: if its compile succeeds and after it only
reloads have activations find their shader, none of them that of another shader while the request
is on its way, then in the end the active shader goes by the address of the one that was asked
for. -/
theorem active_of_newest (shaderRoot : String) (ys zs : List (Engine.Event α)) (t : Ticket)
    (q : Quest) (now : Timestamp) (hnewest : (run shaderRoot ys).Newest t q)
    (hlast : (run shaderRoot ys).Throughout OnlyReloads zs)
    (hspares : (run shaderRoot ys).Throughout (Spares t q) zs)
    (hcompiled : Receives shaderRoot (ys ++ zs) t (.program now (.ok ())))
    (hsettled : (run shaderRoot (ys ++ zs)).engine.activations = []) :
    ∃ b, (run shaderRoot (ys ++ zs)).engine.session.active = some b ∧
      b.descriptor.Alike q.descriptor := by
  obtain ⟨hstarted, h⟩ := stands_of_newest hnewest
  obtain ⟨hstarted', h'⟩ := stands_run hstarted h hlast hspares hcompiled
  rcases h'.standing with hstanding | hnumber
  · exact hstanding
  · have hended : ∀ a ∈ (run shaderRoot (ys ++ zs)).engine.activations, a.ticket ≠ t := by
      simp [hsettled]
    have hcompiled' : Receives shaderRoot (ys ++ zs ++ []) t (.program now (.ok ())) := by
      rwa [List.append_nil]
    obtain ⟨b, hb, hgeneration⟩ := active_of_ended hstarted' hnumber hcompiled' hended
    exact ⟨b, hb, h'.installed b hb (Nat.le_of_eq hgeneration.symm)⟩

/-! ## A reload after a request, and one that overtakes it -/

/-- A reload starts. -/
def reloading : List (Engine.Event Float) := [.markReload, .tick 0.25, .scanned (.ok twoShaders)]

/-- While one shader is active another is asked for. -/
def requesting : List (Engine.Event Float) :=
  .rescan twoShaders :: .activate .request "a" :: completing 0 ++ [.activate .request "b"]

/-- What is asked for. -/
def requested : Quest := ⟨2, glslShader "b"⟩

theorem newest_requesting : (run "shaders" requesting).Newest 1 requested :=
  ⟨rfl, _, List.mem_singleton_self _, rfl, rfl⟩

/-- A reload that comes after a request has been met leaves its shader active. -/
theorem active_of_later_reload :
    let zs := completing 1 ++ reloading ++ completing 2
    (run "shaders" requesting).Newest 1 requested ∧
      (run "shaders" requesting).Throughout OnlyReloads zs ∧
      (run "shaders" requesting).Throughout (Spares 1 requested) zs ∧
      Receives "shaders" (requesting ++ zs) 1 (.program ⟨0⟩ (.ok ())) ∧
      (run "shaders" (requesting ++ zs)).engine.activations = [] ∧
      ∃ b, (run "shaders" (requesting ++ zs)).engine.session.active = some b ∧
        b.descriptor.Alike requested.descriptor := by
  intro zs
  have hlast : (run "shaders" requesting).Throughout OnlyReloads zs := by
    decide +kernel
  have hspares : (run "shaders" requesting).Throughout (Spares 1 requested) zs := by
    decide +kernel
  have hcompiled : Receives "shaders" (requesting ++ zs) 1 (.program ⟨0⟩ (.ok ())) :=
    ⟨requesting ++ [.arrive 1 (.source (.ok ""))],
      .arrive 1 (.preset (.ok none)) :: reloading ++ completing 2, _, rfl, rfl, rfl⟩
  exact ⟨newest_requesting, hlast, hspares, hcompiled, rfl,
    active_of_newest "shaders" requesting zs 1 requested ⟨0⟩ newest_requesting hlast hspares
      hcompiled rfl⟩

/-- A reload that starts while the request is on its way overtakes it: the compile of the shader
that was asked for succeeds and no other one is asked for, but the shader that was active before
is active in the end. -/
theorem reload_overtakes :
    let zs := .arrive 1 (.source (.ok "")) :: reloading ++
      .arrive 1 (.program ⟨0⟩ (.ok ())) :: completing 2
    (run "shaders" requesting).Newest 1 requested ∧
      (run "shaders" requesting).Throughout OnlyReloads zs ∧
      Receives "shaders" (requesting ++ zs) 1 (.program ⟨0⟩ (.ok ())) ∧
      (run "shaders" (requesting ++ zs)).engine.activations = [] ∧
      ∃ b, (run "shaders" (requesting ++ zs)).engine.session.active = some b ∧
        ¬ b.descriptor.Alike requested.descriptor := by
  intro zs
  have hlast : (run "shaders" requesting).Throughout OnlyReloads zs := by
    decide +kernel
  have hcompiled : Receives "shaders" (requesting ++ zs) 1 (.program ⟨0⟩ (.ok ())) :=
    ⟨requesting ++ .arrive 1 (.source (.ok "")) :: reloading, completing 2, _, rfl, rfl, rfl⟩
  exact ⟨newest_requesting, hlast, hcompiled, rfl, _, rfl, by decide +kernel⟩

end Performance

end LiveVisuals
