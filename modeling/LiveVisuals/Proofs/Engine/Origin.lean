import LiveVisuals.Proofs.Engine.Site
import LiveVisuals.Proofs.Engine.Stages

/-!
# What a shader was compiled from

The program of an activation is made of what its file held when it was read, and stays with it
until the shader is installed. So every active shader was compiled from some content that its
file had earlier on.

Main definitions:

- {lit}`Flight.Programs`: something holds of all programs of a flight.
- {lit}`Site.CompiledFrom`: the content that a shader was compiled from.

Main results:

- Theorem {lit}`Flight.Move.programs`: what holds of programs when their sources are read goes on
  to hold of them.
- Theorem {lit}`Performance.programs_run`: all programs of a run were made of some content.
- Theorem {lit}`Site.exists_compiledFrom`: an active shader was compiled from some content of its
  file.
-/

namespace LiveVisuals

variable {α : Type}

/-- The program of an activation that has one to install. -/
def Stage.program? : Stage α → Option (Descriptor × Transpiled α)
  | .compiling q p | .restoring q p => some (q.descriptor, p)
  | .lost | .reading _ | .recording .. => none

namespace Flight

/-- Something holds of the programs that activations are to install, and of the active one. -/
def Programs (Q : Descriptor → Transpiled α → Prop) (f : Flight α) : Prop :=
  (∀ a ∈ f.activations, ∀ d p, a.stage.program? = some (d, p) → Q d p) ∧
    ∀ b, f.active = some b → Q b.descriptor b.transpiled

theorem Programs.mono {Q Q' : Descriptor → Transpiled α → Prop} {f : Flight α}
    (h : f.Programs Q) (hQ : ∀ d p, Q d p → Q' d p) : f.Programs Q' :=
  ⟨fun a ha d p hp => hQ d p (h.1 a ha d p hp), fun b hb => hQ _ _ (h.2 b hb)⟩

variable [Scalar α] {Q : Descriptor → Transpiled α → Prop} {f g : Flight α}
  {l : Option (Ticket × Engine.Arrival α)} {xs : List (Effect α)}

omit [Scalar α] in
/-- An activation that starts has no program yet. -/
theorem Programs.begin (h : f.Programs Q) (purpose : Purpose) (name : String) {stage : Stage α}
    (hstage : stage.program? = none) : (f.begin purpose name stage).Programs Q := by
  refine ⟨fun a ha d p hp => ?_, h.2⟩
  rcases List.mem_append.mp ha with ha | ha
  · exact h.1 a ha d p hp
  · rw [List.mem_singleton.mp ha, hstage] at hp
    cases hp

/-- What holds of programs whenever their sources are read goes on to hold of them. -/
theorem Move.programs (m : f.Move l xs g)
    (hread : ∀ a ∈ f.activations, ∀ q raw, a.stage = .reading q →
      l = some (a.ticket, .source (.ok raw)) →
        Q q.descriptor (.ofSource q.descriptor.dialect raw))
    (h : f.Programs Q) : g.Programs Q := by
  cases m with
  | aside => exact h
  | ignored => exact h
  | missed purpose name => exact h.begin purpose name rfl
  | begun purpose name d => exact h.begin purpose name rfl
  | @advanced a came stage _ _ ha hadv _ =>
      have hnext : ∀ d p, stage.program? = some (d, p) → Q d p := by
        intro d p hp
        have hstage := h.1 a ha d p
        have hsource := hread a ha
        generalize a.stage = s at hadv hstage hsource
        cases hadv with
        | read q raw =>
            cases hp
            exact hsource q raw rfl rfl
        | compiled => exact hstage hp
        | failed => cases hp
      refine ⟨fun c hc d p hp => ?_, h.2⟩
      obtain ⟨c', hc', rfl⟩ := List.mem_map.mp hc
      split at hp
      · exact hnext d p hp
      · exact h.1 c' hc' d p hp
  | @ended a came o _ _ ha hends _ =>
      refine ⟨fun c hc => h.1 c (List.mem_of_mem_filter hc), fun b hb => ?_⟩
      have hstage := h.1 a ha
      generalize a.stage = s at hends hstage
      cases hends with
      | installed q p =>
          cases hb
          exact hstage _ _ rfl
      | _ => exact h.2 b hb

/-- Without arrival, what holds of programs goes on to hold of them. -/
theorem Moves.programs (ms : f.Moves none xs g) (h : f.Programs Q) : g.Programs Q := by
  generalize hl : none = l at ms
  induction ms with
  | refl => exact h
  | tail _ m ih =>
      subst hl
      exact m.programs (fun _ _ _ _ _ hl => by cases hl) (ih rfl)

end Flight

/-- All programs of a run were made of some content. -/
theorem Performance.programs_run [Scalar α] (shaderRoot : String)
    (xs : List (Engine.Event α)) : (run shaderRoot xs).engine.flight.Programs
      fun d p => ∃ raw, p = .ofSource d.dialect raw := by
  refine run_induction (P := fun f _ => f.Programs fun d p => ∃ raw, p = .ofSource d.dialect raw)
    shaderRoot [] xs ⟨fun a ha => (by cases ha), fun b hb => (by cases hb)⟩ ?_
  intro f log l es g m h
  exact m.programs (fun a _ q raw _ _ => ⟨raw, rfl⟩) h

namespace Site

variable [Scalar α]

/-- A program was made of some content that was read from its file. -/
def MadeFrom (root : String) (tree : Files.Node) (as : List (Act α)) (d : Descriptor)
    (p : Transpiled α) (raw : String) : Prop :=
  ∃ us t vs, as = us ++ .source t :: vs ∧
    (run root tree us).pathOf? t = some d.path ∧
    (run root tree us).read d.path = .ok raw ∧ p = .ofSource d.dialect raw

/-- A shader was compiled from some content that was read from its file. -/
def CompiledFrom (root : String) (tree : Files.Node) (as : List (Act α)) (b : ActiveShader α)
    (raw : String) : Prop :=
  MadeFrom root tree as b.descriptor b.transpiled raw

variable {root : String} {tree : Files.Node}

theorem MadeFrom.concat {as : List (Act α)} {d : Descriptor} {p : Transpiled α} {raw : String}
    (h : MadeFrom root tree as d p raw) (a : Act α) : MadeFrom root tree (as ++ [a]) d p raw := by
  obtain ⟨us, t, vs, rfl, hrest⟩ := h
  exact ⟨us, t, vs ++ [a], by simp, hrest⟩

/-- The path of what an activation reads. -/
theorem pathOf?_of_reading {as : List (Act α)} {a : Activation α} {q : Quest}
    (ha : a ∈ (run root tree as).engine.activations) (hs : a.stage = .reading q) :
    (run root tree as).pathOf? a.ticket = some q.descriptor.path := by
  have hfind : (run root tree as).engine.activation? a.ticket = some a := by
    obtain ⟨xs, hxs⟩ : ∃ xs, (run root tree as).play = Performance.run root xs := exists_play as
    have hacc := Performance.accounted root xs
    rw [← hxs] at hacc
    exact hacc.find?_of_mem ha
  simp only [pathOf?, hfind, hs]

/-- What comes as the source of an activation is what its file holds. -/
theorem source_of_event {as : List (Act α)} {a : Act α} {t : Ticket} {raw : String} {q : Quest}
    (hevent : (run root tree as).event? a = some (.arrive t (.source (.ok raw))))
    (hpath : (run root tree as).pathOf? t = some q.descriptor.path) :
    MadeFrom root tree (as ++ [a]) q.descriptor (.ofSource q.descriptor.dialect raw) raw := by
  cases a with
  | source u =>
      have hcontent : u = t ∧ (run root tree as).content u = .ok raw := by
        simpa [event?] using hevent
      obtain ⟨rfl, hcontent⟩ := hcontent
      rw [content, hpath] at hcontent
      exact ⟨as, u, [], rfl, hpath, hcontent, rfl⟩
  | other x hx =>
      obtain rfl : x = .arrive t (.source (.ok raw)) := Option.some.inj hevent
      cases hx
  | change => cases hevent
  | poll =>
      obtain ⟨sc, -, hx⟩ := Option.map_eq_some_iff.mp hevent
      cases hx
  | rescan =>
      obtain ⟨sc, -, hx⟩ := Option.map_eq_some_iff.mp hevent
      cases hx
  | reload => cases hevent

/-- All programs of a site were made of some content of their files. -/
theorem programs_run (as : List (Act α)) : (run root tree as).engine.flight.Programs
    fun d p => ∃ raw, MadeFrom root tree as d p raw := by
  induction as using List.reverseRecOn with
  | nil => exact ⟨fun a ha => (by cases ha), fun b hb => (by cases hb)⟩
  | append_singleton as a ih =>
      have hold : (run root tree as).engine.flight.Programs
          fun d p => ∃ raw, MadeFrom root tree (as ++ [a]) d p raw :=
        ih.mono fun d p ⟨raw, h⟩ => ⟨raw, h.concat a⟩
      rw [run_concat]
      cases hevent : (run root tree as).event? a with
      | none => simpa [step, engine, hevent] using hold
      | some x =>
          have hstep : ((run root tree as).step a).engine.flight =
              ((run root tree as).engine.step x).flight := by
            simp [step, engine, hevent, Performance.step, Engine.dispatched, Engine.flight]
          rw [hstep]
          cases hx : x.arrival? with
          | none =>
              obtain ⟨_, _, ms⟩ := Engine.goes_step (run root tree as).engine x
              rw [hx] at ms
              exact ms.programs hold
          | some l =>
              obtain ⟨t, came, rfl⟩ := Engine.Event.arrival?_eq_some hx
              obtain ⟨_, _, m⟩ := Engine.makes_arrive (run root tree as).engine t came
              refine m.programs (fun c hc q raw hs hl => ?_) hold
              cases hl
              exact ⟨raw, source_of_event hevent (pathOf?_of_reading hc hs)⟩

/-- An active shader was compiled from some content of its file. -/
theorem exists_compiledFrom {as : List (Act α)} {b : ActiveShader α}
    (hb : (run root tree as).engine.session.active = some b) :
    ∃ raw, CompiledFrom root tree as b raw :=
  (programs_run as).2 b hb

end Site

end LiveVisuals
