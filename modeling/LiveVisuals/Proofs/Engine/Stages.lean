import LiveVisuals.Proofs.Engine.Account

/-!
# Stages of activations

A move touches one activation at most. An activation that waits for its compile is touched only
by the end of this compile, which gets it further or finds it outdated, and a compile is asked for
only when a source has been read.

Main definitions:

- {lit}`Flight.At`: an activation is at a stage.
- {lit}`Flight.Adopted`: the shader of an activation is going to be installed or has been.
- {lit}`Flight.Carries`, {lit}`Flight.Delivers`: what the two kinds of moves do.

Main results:

- Theorem {lit}`Flight.Move.carries`: moves other than the end of a compile.
- Theorem {lit}`Flight.Move.delivers`: the end of a compile.
- Theorem {lit}`Flight.Move.asks`: what asks for a compile.
-/

namespace LiveVisuals

variable {α : Type}

/-! ## Ends -/

namespace Stage.Ends

variable {n : Nat} {s : Stage α} {came : Engine.Arrival α} {o : Outcome α}

/-- An activation that waits for its compile ends with that only. -/
theorem ne_compiling (h : s.Ends n came o) (hcame : ∀ now c, came ≠ .program now c) (q : Quest)
    (p : Transpiled α) : s ≠ .compiling q p := by
  rintro rfl
  cases h with
  | overtaken _ _ now => exact hcame now _ rfl

/-- An activation whose shader is going to be installed ends with that, or is outdated. -/
theorem of_restoring {q : Quest} {p : Transpiled α} (h : Stage.Ends n (.restoring q p) came o) :
    o = .superseded ∨ o = .installed ⟨q.descriptor, p, q.generation⟩ := by
  cases h with
  | outdated => exact .inl rfl
  | installed => exact .inr rfl

/-- A shader that is installed was going to be. -/
theorem of_installed {b : ActiveShader α} (h : s.Ends n came (.installed b)) :
    ∃ q p, s = .restoring q p ∧ b = ⟨q.descriptor, p, q.generation⟩ := by
  cases h with
  | installed q p => exact ⟨q, p, rfl, rfl⟩

end Stage.Ends

namespace Flight

open Effect (returns)

/-! ## Stages -/

/-- An activation is at a stage. -/
def At (f : Flight α) (t : Ticket) (s : Stage α) : Prop :=
  ∃ a ∈ f.activations, a.ticket = t ∧ a.stage = s

/-- The shader of an activation with this number is going to be installed or has been. -/
def Adopted (f : Flight α) (log : List (Effect α)) (t : Ticket) (n : Nat) : Prop :=
  (∃ q p, f.At t (.restoring q p) ∧ q.generation = n) ∨
    ∃ r ∈ returns log, r.ticket = t ∧ ∃ b, r.outcome = .installed b ∧ b.generation = n

section

variable {f g : Flight α} {log log' xs : List (Effect α)} {t u : Ticket} {s s' : Stage α}
  {n : Nat} {o : Outcome α} {r : Finish α}

/-- Other activations stay at their stages when one gets further. -/
theorem At.moveTo (h : f.At t s) (htu : t ≠ u) (s' : Stage α) : (f.moveTo u s').At t s := by
  obtain ⟨a, ha, rfl, rfl⟩ := h
  exact ⟨a, List.mem_map.mpr ⟨a, ha, by simp [htu]⟩, rfl, rfl⟩

/-- An activation that gets further is at its next stage. -/
theorem At.moveTo_self (h : f.At t s) (s' : Stage α) : (f.moveTo t s').At t s' := by
  obtain ⟨a, ha, rfl, -⟩ := h
  exact ⟨{ a with stage := s' }, List.mem_map.mpr ⟨a, ha, by simp⟩, rfl, rfl⟩

/-- When an activation gets further, each is at its next stage or where it was. -/
theorem at_of_moveTo (h : (f.moveTo u s').At t s) : t = u ∧ s = s' ∨ f.At t s := by
  obtain ⟨a, ha, rfl, rfl⟩ := h
  obtain ⟨b, hb, rfl⟩ := List.mem_map.mp ha
  by_cases hbu : b.ticket = u
  · exact .inl (by simp [hbu])
  · exact .inr ⟨b, hb, by simp [hbu], by simp [hbu]⟩

/-- Other activations stay at their stages when one ends. -/
theorem At.land (h : f.At t s) (htu : t ≠ u) (o : Outcome α) : (f.land u o).At t s := by
  obtain ⟨a, ha, rfl, rfl⟩ := h
  exact ⟨a, List.mem_filter.mpr ⟨ha, by simpa using htu⟩, rfl, rfl⟩

/-- What is on its way when an activation has ended was there before. -/
theorem at_of_land (h : (f.land u o).At t s) : f.At t s := by
  obtain ⟨a, ha, hat, hs⟩ := h
  exact ⟨a, List.mem_of_mem_filter ha, hat, hs⟩

/-- A shader whose installation is new belongs to the activation that has got further. -/
theorem adopted_of_moveTo (hxs : returns xs = []) (h : (f.moveTo u s').Adopted (log ++ xs) t n) :
    f.Adopted log t n ∨ t = u ∧ ∃ q p, s' = .restoring q p ∧ q.generation = n := by
  rcases h with ⟨q, p, hat, hn⟩ | hr
  · rcases at_of_moveTo hat with ⟨htu, hs⟩ | hat
    · exact .inr ⟨htu, q, p, hs.symm, hn⟩
    · exact .inl (.inl ⟨q, p, hat, hn⟩)
  · exact .inl (.inr (by simpa [hxs] using hr))

/-- A shader whose installation is new belongs to the activation that has ended. -/
theorem adopted_of_land (hlog : returns log' = returns log ++ [r])
    (h : (f.land u o).Adopted log' t n) :
    f.Adopted log t n ∨ r.ticket = t ∧ ∃ b, r.outcome = .installed b ∧ b.generation = n := by
  rcases h with ⟨q, p, hat, hn⟩ | ⟨r', hr', hb⟩
  · exact .inl (.inl ⟨q, p, at_of_land hat, hn⟩)
  · rcases List.mem_append.mp (hlog ▸ hr') with hr' | hr'
    · exact .inl (.inr ⟨r', hr', hb⟩)
    · exact .inr (List.mem_singleton.mp hr' ▸ hb)

end

namespace Accounted

variable [Scalar α] {f : Flight α} {log : List (Effect α)}

/-- An activation is at one stage. -/
theorem at_unique (h : f.Accounted log) {t : Ticket} {s s' : Stage α} (hs : f.At t s)
    (hs' : f.At t s') : s = s' := by
  obtain ⟨a, ha, hat, rfl⟩ := hs
  obtain ⟨b, hb, hbt, rfl⟩ := hs'
  rw [h.eq_of_ticket ha hb (hat.trans hbt.symm)]

/-- An activation on its way is found by its ticket. -/
theorem find?_of_mem (h : f.Accounted log) {a : Activation α} (ha : a ∈ f.activations) :
    f.find? a.ticket = some a := by
  have hsome : (f.find? a.ticket).isSome := List.find?_isSome.mpr ⟨a, ha, by simp⟩
  obtain ⟨b, hb⟩ := Option.isSome_iff_exists.mp hsome
  have hba : b.ticket = a.ticket := by simpa using List.find?_some hb
  rw [hb, h.eq_of_ticket (List.mem_of_find?_eq_some hb) ha hba]

/-- The number of an activation on its way is at most that of the newest. -/
theorem le_of_at (h : f.Accounted log) {t : Ticket} {s : Stage α} {q : Quest} (hat : f.At t s)
    (hq : s.quest? = some q) : q.generation ≤ f.generation := by
  obtain ⟨a, ha, rfl, rfl⟩ := hat
  exact h.numbered ▸ ((h.stages a ha).startedAs hq).le

/-- The number of an activation whose shader is going to be installed, or has been, is at most that
of the newest. -/
theorem le_of_adopted (h : f.Accounted log) {t : Ticket} {n : Nat} (ht : f.Adopted log t n) :
    n ≤ f.generation := by
  rcases ht with ⟨q, p, hat, rfl⟩ | ⟨r, hr, -, b, hb, rfl⟩
  · exact h.le_of_at hat rfl
  · have hfits := h.outcomes r hr
    rw [hb] at hfits
    exact h.numbered ▸ hfits.1.le

/-- An activation that waits for its compile has not come further. -/
theorem not_adopted (h : f.Accounted log) {t : Ticket} {q : Quest} {p : Transpiled α} {n : Nat}
    (hat : f.At t (.compiling q p)) : ¬ f.Adopted log t n := by
  rintro (⟨q', p', hat', -⟩ | ⟨r, hr, rfl, -⟩)
  · cases h.at_unique hat hat'
  · obtain ⟨a, ha, hat, -⟩ := hat
    exact h.ticket_ne_return ha hr hat

end Accounted

/-! ## Moves that are not about compiles -/

/-- A flight gets to another, and no activation that waits for its compile has been touched. -/
structure Carries (f : Flight α) (log : List (Effect α)) (g : Flight α)
    (log' : List (Effect α)) : Prop where
  compiling : ∀ t q p, f.At t (.compiling q p) → g.At t (.compiling q p)
  restoring : ∀ t q p, f.At t (.restoring q p) → g.At t (.restoring q p) ∨
    ∃ r ∈ returns log', r.ticket = t ∧
      (r.outcome = .superseded ∨ r.outcome = .installed ⟨q.descriptor, p, q.generation⟩)
  returned : ∀ r ∈ returns log, r ∈ returns log'
  adopted : ∀ t n, g.Adopted log' t n → f.Adopted log t n

namespace Carries

variable {f g : Flight α} {log log' xs : List (Effect α)}

/-- A flight that has not changed carries everything on. -/
theorem quiet (f : Flight α) (hxs : returns xs = []) : f.Carries log f (log ++ xs) where
  compiling _ _ _ h := h
  restoring _ _ _ h := .inl h
  returned r hr := by simpa [hxs] using hr
  adopted t n h := by simpa [Adopted, hxs] using h

/-- An activation that has only been started touches no other. -/
theorem begin {b : Activation α} (hxs : returns xs = [])
    (hg : g.activations = f.activations ++ [b]) (hb : ∀ q p, b.stage ≠ .restoring q p) :
    f.Carries log g (log ++ xs) := by
  have hold {t : Ticket} {s : Stage α} (h : f.At t s) : g.At t s := by
    obtain ⟨a, ha, hat⟩ := h
    exact ⟨a, hg ▸ List.mem_append_left _ ha, hat⟩
  refine ⟨fun _ _ _ => hold, fun _ _ _ h => .inl (hold h), by simp [hxs], ?_⟩
  rintro t n (⟨q, p, ⟨a, ha, rfl, hs⟩, rfl⟩ | hr)
  · rcases List.mem_append.mp (hg ▸ ha) with ha | ha
    · exact .inl ⟨q, p, ⟨a, ha, rfl, hs⟩, rfl⟩
    · exact absurd hs (List.mem_singleton.mp ha ▸ hb q p)
  · exact .inr (by simpa [hxs] using hr)

variable [Scalar α]

/-- An activation whose source has been read touches no other. -/
theorem read (h : f.Accounted log) {t : Ticket} {q : Quest} (p : Transpiled α)
    (hat : f.At t (.reading q)) (hxs : returns xs = []) :
    f.Carries log (f.moveTo t (.compiling q p)) (log ++ xs) := by
  have hother {u : Ticket} {s : Stage α} (hs : f.At u s) (hq : s ≠ .reading q) : u ≠ t := by
    rintro rfl
    exact hq (h.at_unique hs hat)
  refine ⟨?_, ?_, by simp [hxs], ?_⟩
  · intro u q' p' hs
    exact hs.moveTo (hother hs (by simp)) _
  · intro u q' p' hs
    exact .inl (hs.moveTo (hother hs (by simp)) _)
  · intro u n hu
    rcases adopted_of_moveTo hxs hu with hu | ⟨-, q', p', hs, -⟩
    · exact hu
    · cases hs

/-- An activation that ends, and not with its compile, touches no other. -/
theorem land (h : f.Accounted log) {a : Activation α} {came : Engine.Arrival α} {o : Outcome α}
    {r : Finish α} (ha : a ∈ f.activations) (hends : a.stage.Ends f.generation came o)
    (hcame : ∀ now c, came ≠ .program now c) (hlog : returns log' = returns log ++ [r])
    (hrt : r.ticket = a.ticket) (hro : r.outcome = o) :
    f.Carries log (f.land a.ticket o) log' := by
  have hat : f.At a.ticket a.stage := ⟨a, ha, rfl, rfl⟩
  refine ⟨?_, ?_, ?_, ?_⟩
  · intro t q p hs
    refine hs.land ?_ o
    rintro rfl
    exact hends.ne_compiling hcame q p (h.at_unique hat hs)
  · intro t q p hs
    by_cases ht : t = a.ticket
    · subst ht
      rw [h.at_unique hat hs, ← hro] at hends
      exact .inr ⟨r, by simp [hlog], hrt, hends.of_restoring⟩
    · exact .inl (hs.land ht o)
  · intro r' hr'
    exact hlog ▸ List.mem_append_left _ hr'
  · intro t n ht
    rcases adopted_of_land hlog ht with ht | ⟨rfl, b, hb, rfl⟩
    · exact ht
    · obtain ⟨q, p, hs, rfl⟩ := (hro.symm.trans hb ▸ hends).of_installed
      exact .inl ⟨q, p, hrt ▸ hs ▸ hat, rfl⟩

end Carries

/-! ## The end of a compile -/

/-- A flight gets to another by the end of a compile that an activation has waited for. -/
structure Delivers (f : Flight α) (log : List (Effect α)) (t : Ticket) (q : Quest)
    (p : Transpiled α) (o : Except String Unit) (g : Flight α) (log' : List (Effect α)) : Prop where
  other : ∀ u s, u ≠ t → f.At u s → g.At u s
  back : ∀ u s, u ≠ t → g.At u s → f.At u s
  returned : ∀ r ∈ returns log, r ∈ returns log'
  adopted : ∀ u n, g.Adopted log' u n →
    f.Adopted log u n ∨ (u = t ∧ n = q.generation ∧ n = f.generation ∧ o = .ok ())
  succeeded : o = .ok () → g.At t (.restoring q p) ∨
    ∃ r ∈ returns log', r.ticket = t ∧ r.outcome = .superseded

namespace Delivers

variable {f : Flight α} {log log' xs : List (Effect α)} {t : Ticket} {q : Quest}
  {p : Transpiled α}

/-- The activation is not outdated, and its shader is going to be installed. -/
theorem newest (hat : f.At t (.compiling q p)) (hq : q.generation = f.generation)
    (hxs : returns xs = []) :
    f.Delivers log t q p (.ok ()) (f.moveTo t (.restoring q p)) (log ++ xs) := by
  refine ⟨fun u s hu hs => hs.moveTo hu _, ?_, by simp [hxs], ?_, ?_⟩
  · intro u s hu hs
    exact (at_of_moveTo hs).resolve_left fun heq => hu heq.1
  · intro u n hn
    rcases adopted_of_moveTo hxs hn with hn | ⟨hu, q', p', heq, rfl⟩
    · exact .inl hn
    · cases heq
      exact .inr ⟨hu, rfl, hq, rfl⟩
  · exact fun _ => .inl (hat.moveTo_self _)

/-- The compile has failed, and the failure is going to be written down. -/
theorem failed (failure : CompileFailure) (text : String) (hxs : returns xs = []) :
    f.Delivers log t q p (.error text) (f.moveTo t (.recording q failure)) (log ++ xs) := by
  refine ⟨fun u s hu hs => hs.moveTo hu _, ?_, by simp [hxs], ?_, ?_⟩
  · intro u s hu hs
    exact (at_of_moveTo hs).resolve_left fun heq => hu heq.1
  · intro u n hn
    rcases adopted_of_moveTo hxs hn with hn | ⟨-, q', p', heq, -⟩
    · exact .inl hn
    · cases heq
  · intro hok
    cases hok

/-- The activation is outdated. -/
theorem outdated {r : Finish α} (hlog : returns log' = returns log ++ [r]) (hrt : r.ticket = t)
    (hro : r.outcome = .superseded) :
    f.Delivers log t q p (.ok ()) (f.land t .superseded) log' := by
  refine ⟨fun u s hu hs => hs.land hu _, fun u s _ => at_of_land, ?_, ?_, ?_⟩
  · intro r' hr'
    exact hlog ▸ List.mem_append_left _ hr'
  · intro u n hn
    rcases adopted_of_land hlog hn with hn | ⟨-, b, hb, -⟩
    · exact .inl hn
    · cases hro.symm.trans hb
  · exact fun _ => .inr ⟨r, by simp [hlog], hrt, hro⟩

end Delivers

/-! ## Moves -/

namespace Move

variable [Scalar α] {f g : Flight α} {log xs : List (Effect α)}

/-- Moves other than the end of a compile leave activations alone that wait for one. -/
theorem carries {l : Option (Ticket × Engine.Arrival α)} (m : f.Move l xs g)
    (h : f.Accounted log) (hl : ∀ t now o, l ≠ some (t, .program now o)) :
    f.Carries log g (log ++ xs) := by
  cases m with
  | aside hxs => exact .quiet f (Effect.quiet_of_isAside hxs).returns
  | ignored => exact .quiet f rfl
  | missed purpose name => exact .begin rfl rfl (by simp)
  | begun purpose name d => exact .begin rfl rfl (by simp)
  | @advanced a came stage x ns ha hadv hns =>
      have hquiet := (Effect.quiet_of_isNotice hns).returns
      have hat : f.At a.ticket a.stage := ⟨a, ha, rfl, rfl⟩
      generalize a.stage = s at hadv hat
      cases hadv with
      | read q raw => exact .read h _ hat (by rw [Effect.returns_append, hquiet]; rfl)
      | compiled q p now hq => exact absurd rfl (hl _ _ _)
      | failed q p now text => exact absurd rfl (hl _ _ _)
  | @ended a came o ns bindings ha hends hns =>
      have hquiet := (Effect.quiet_of_ends hns).returns
      have hcame : ∀ now c, came ≠ .program now c := fun now c hc => hl a.ticket now c (hc ▸ rfl)
      have hlog : returns (log ++ (ns ++ [.finished ⟨a.ticket, a.requested, o, bindings⟩])) =
          returns log ++ [⟨a.ticket, a.requested, o, bindings⟩] := by
        simp [hquiet]
      exact .land h ha hends hcame hlog rfl rfl

/-- The end of a compile gets the activation further that has waited for it, or ends it. -/
theorem delivers {t : Ticket} {now : Timestamp} {o : Except String Unit}
    (m : f.Move (some (t, .program now o)) xs g) (h : f.Accounted log) {q : Quest}
    {p : Transpiled α} (hat : f.At t (.compiling q p)) :
    f.Delivers log t q p o g (log ++ xs) := by
  obtain ⟨a, ha, rfl, hs⟩ := hat
  have hat : f.At a.ticket (.compiling q p) := ⟨a, ha, rfl, hs⟩
  have hawaits : a.stage.awaits (.program now o) := by simp [hs, Stage.awaits]
  rcases h.move_of_awaits m (h.find?_of_mem ha) hawaits with
    ⟨stage, x, ns, hadv, rfl, rfl, hquiet⟩ | ⟨o', bindings, ns, hends, rfl, rfl, hquiet⟩
  · have hreturns (x : Effect α) (hx : returns [x] = []) : returns (ns ++ [x]) = [] := by
      rw [Effect.returns_append, hquiet.returns, hx]
      rfl
    rw [hs] at hadv
    cases hadv with
    | compiled _ _ _ hq => exact .newest hat hq (hreturns _ rfl)
    | failed _ _ _ text => exact .failed _ text (hreturns _ rfl)
  · rw [hs] at hends
    cases hends with
    | overtaken =>
        have hlog : returns (log ++ (ns ++
            [.finished ⟨a.ticket, a.requested, .superseded, bindings⟩])) =
              returns log ++ [⟨a.ticket, a.requested, .superseded, bindings⟩] := by
          simp [hquiet.returns]
        exact .outdated hlog rfl rfl

/-- Only an activation whose source has been read asks for a compile, and for one. -/
theorem asks {l : Option (Ticket × Engine.Arrival α)} (m : f.Move l xs g) :
    (∀ t req, .compile t req ∉ xs) ∨
      ∃ t raw q p ns, l = some (t, .source (.ok raw)) ∧ f.At t (.reading q) ∧
        g = f.moveTo t (.compiling q p) ∧
        xs = ns ++ [.compile t (Engine.compileRequest q.descriptor p)] ∧
        ∀ u req, .compile u req ∉ ns := by
  cases m with
  | aside hxs => exact .inl (Effect.quiet_of_isAside hxs).compile
  | ignored => exact .inl (by simp)
  | missed => exact .inl (by simp)
  | begun => exact .inl (by simp)
  | @advanced a came stage x ns ha hadv hns =>
      have hquiet := (Effect.quiet_of_isNotice hns).compile
      have hat : f.At a.ticket a.stage := ⟨a, ha, rfl, rfl⟩
      generalize a.stage = s at hadv hat
      cases hadv with
      | read q raw => exact .inr ⟨a.ticket, raw, q, _, ns, rfl, hat, rfl, rfl, hquiet⟩
      | compiled => exact .inl fun t req => by simpa using hquiet t req
      | failed => exact .inl fun t req => by simpa using hquiet t req
  | @ended a came o ns bindings ha hends hns =>
      have hquiet := (Effect.quiet_of_ends hns).compile
      exact .inl fun t req => by simpa using hquiet t req

end Move

end Flight

end LiveVisuals
