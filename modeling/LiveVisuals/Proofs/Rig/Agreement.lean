import LiveVisuals.Proofs.Rig.Coherence

/-!
# What a browser is sent when it connects

A render host keeps a program as soon as its compile has succeeded, and sends it to each browser
that connects. An engine decides only later whether the shader is installed. So the program is
that of the active shader, unless the compile that has succeeded last was that of an activation
that had been outdated by then: nothing takes such a program back.

Main definitions:

- {lit}`Rig.Step`: what can happen in a rig whose programs are compiled by browsers, in any order.
- {lit}`Rig.Reachable`: what such a rig can come to.
- {lit}`Rig.Sound`: the invariant.

Main results:

- Theorem {lit}`Rig.Reachable.sound`: the invariant holds whatever has happened.
- Theorem {lit}`Rig.Reachable.settle`: doing all work is something that can happen.
- Theorem {lit}`Rig.replay_of_quiet`: which program is sent when no activation is on its way.
- Theorem {lit}`Rig.replay_of_overtaking`: it need not be that of the active shader.
-/

namespace LiveVisuals

variable {α : Type} [Scalar α]

namespace Rig

/-! ## What can happen -/

/-- A rig gets to another with this traffic; nothing else is different that is about
activations. -/
structure Shifts (r r' : Rig α) (tr : Traffic) : Prop where
  renderer : r'.setup.renderer = r.setup.renderer
  engine : r'.engine = r.engine
  finished : r'.finished = r.finished
  traffic : r'.traffic = tr

/-- What can happen in a rig whose programs are compiled by browsers. Whatever an activation waits
for can come at any time and with any content, which allows for more than the rig does; the end
of its compile comes from the render host, in any order. -/
inductive Step : Rig α → Rig α → Prop where
  | event (r : Rig α) {x : Engine.Event α} (hx : ∀ t now o, x ≠ .arrive t (.program now o)) :
      Step r (r.act (·.step x))
  /-- The end of a compile is brought to the activation that has asked for it. -/
  | deliver {r r' : Rig α} {t : Ticket} {o : CompileOutcome}
      {ys zs : List (Ticket × CompileOutcome)} (now : Timestamp)
      (hsettled : r.traffic.settled = ys ++ (t, o) :: zs)
      (h : r.Shifts r' { r.traffic with settled := ys ++ zs }) :
      Step r (r'.act (·.step (.arrive t (.program now o))))
  | reply (r : Rig α) (id : String) (success : Bool) (error : Option String) :
      Step r (r.takeReply id success error).1
  | timeout (r : Rig α) (id : String) : Step r (r.ring (.compileLimit id))
  | dispose (r : Rig α) : Step r (r.actHost r.host.dispose)
  /-- Something happens that is not about activations. -/
  | around {r r' : Rig α} (h : r.Shifts r' r.traffic) : Step r r'

/-- What a rig whose programs are compiled by browsers can come to. -/
inductive Reachable : Rig α → Prop where
  | new {setup : Setup α} (disk : Disk) (receivers : Nat) (h : setup.renderer ≠ .bench) :
      Reachable (Rig.new setup disk receivers)
  | step {r r' : Rig α} (h : Reachable r) (hstep : r.Step r') : Reachable r'

/-! ## The invariant -/

/-- The activations of a rig and the traffic of their compiles fit together. -/
structure Sound (r : Rig α) : Prop where
  renderer : r.setup.renderer ≠ .bench
  outbox : r.engine.outbox = []
  coherent : ∃ log, r.engine.flight.Coherent log r.traffic ∧ Effect.returns log = r.finished

/-- Carrying out what a move asks for keeps the invariant. -/
theorem coherent_of_move {f g : Flight α} {log xs : List (Effect α)}
    {l : Option (Ticket × Engine.Arrival α)} (r : Rig α) (hr : r.setup.renderer ≠ .bench)
    (h : f.Coherent log r.traffic) (m : f.Move l xs g)
    (hl : ∀ t now o, l ≠ some (t, .program now o)) :
    g.Coherent (log ++ xs) (xs.foldl perform r).traffic := by
  have hcarry := h.carry (h.account.move m) (m.carries h.account hl)
  rcases m.asks with hxs | ⟨t, raw, q, p, ns, rfl, hat, rfl, rfl, hns⟩
  · rw [traffic_foldl_perform xs r hxs]
    exact hcarry
  · have htraffic := traffic_foldl_perform ns r hns
    have hrenderer : (ns.foldl perform r).setup.renderer ≠ .bench := by
      rw [(foldl_perform_eq ns r).1]
      exact hr
    have hfresh {u : Ticket} (hu : ∃ q p, f.At u (.compiling q p)) : u ≠ t := by
      rintro rfl
      obtain ⟨q', p', hat'⟩ := hu
      cases h.account.at_unique hat hat'
    have hannounce := hcarry.announce (hat.moveTo_self (.compiling q p)) ?_ ?_
    · rw [List.foldl_append, List.foldl_cons, List.foldl_nil, perform_compile _ hrenderer,
        traffic_hostCompile, htraffic]
      split
      · exact hannounce.resolve (Keyed.get?_put_self _ _ _)
          (Traffic.caller?_eq_some.mpr (Keyed.get?_put_self _ _ _)) _
      · exact hannounce
    · intro hmem
      obtain ⟨⟨u, o⟩, hu, hut⟩ := List.mem_map.mp hmem
      exact hfresh (h.expects.settled u o hu) hut
    · intro id hid hcaller
      exact hfresh (h.expects.of_mem_keys hid hcaller) rfl

/-- Carrying out what a chain of moves asks for keeps the invariant. -/
theorem coherent_of_moves {f g : Flight α} {log xs : List (Effect α)}
    {l : Option (Ticket × Engine.Arrival α)} (r : Rig α) (hr : r.setup.renderer ≠ .bench)
    (h : f.Coherent log r.traffic) (ms : f.Moves l xs g)
    (hl : ∀ t now o, l ≠ some (t, .program now o)) :
    g.Coherent (log ++ xs) (xs.foldl perform r).traffic := by
  induction ms with
  | refl => simpa using h
  | @tail _ _ _ xs ys _ m ih =>
      have hr' : (xs.foldl perform r).setup.renderer ≠ .bench := by
        rw [(foldl_perform_eq xs r).1]
        exact hr
      rw [← List.append_assoc, List.foldl_append]
      exact coherent_of_move _ hr' (ih hl) m hl

/-- A rig that shifts keeps the invariant if it is kept for the traffic. -/
theorem Sound.shifts {r r' : Rig α} {tr : Traffic} (h : r.Sound) (hshifts : r.Shifts r' tr)
    (htr : ∀ log, r.engine.flight.Coherent log r.traffic → r.engine.flight.Coherent log tr) :
    r'.Sound := by
  obtain ⟨log, hlog, hreturns⟩ := h.coherent
  refine ⟨hshifts.renderer ▸ h.renderer, hshifts.engine ▸ h.outbox, log, ?_, ?_⟩
  · rw [hshifts.engine, hshifts.traffic]
    exact htr log hlog
  · rw [hreturns, hshifts.finished]

/-- What happens to the engine keeps the invariant, apart from the end of a compile. -/
theorem Sound.event {r : Rig α} (h : r.Sound) {x : Engine.Event α}
    (hx : ∀ t now o, x ≠ .arrive t (.program now o)) : (r.act (·.step x)).Sound := by
  obtain ⟨log, hlog, hreturns⟩ := h.coherent
  obtain ⟨xs, hxs, ms⟩ := Engine.goes_step r.engine x
  rw [h.outbox, List.nil_append] at hxs
  have hl : ∀ t now o, x.arrival? ≠ some (t, .program now o) := by
    intro t now o heq
    obtain ⟨u, came, rfl⟩ := Engine.Event.arrival?_eq_some heq
    cases heq
    exact hx t now o rfl
  let r₁ : Rig α := { r with engine := (r.engine.step x).dispatched }
  have hact : r.act (·.step x) = xs.foldl perform r₁ := by
    rw [← hxs]
    rfl
  obtain ⟨hsetup, hengine, hfinished⟩ := foldl_perform_eq xs r₁
  rw [hact]
  refine ⟨?_, ?_, log ++ xs, ?_, ?_⟩
  · rw [hsetup]
    exact h.renderer
  · rw [hengine]
    rfl
  · rw [hengine]
    exact coherent_of_moves r₁ h.renderer hlog ms hl
  · rw [hfinished, Effect.returns_append, hreturns]

/-- The end of a compile that is brought to its activation keeps the invariant. -/
theorem Sound.deliver {r r' : Rig α} (h : r.Sound) {t : Ticket} {o : CompileOutcome}
    {ys zs : List (Ticket × CompileOutcome)} (now : Timestamp)
    (hsettled : r.traffic.settled = ys ++ (t, o) :: zs)
    (hshifts : r.Shifts r' { r.traffic with settled := ys ++ zs }) :
    (r'.act (·.step (.arrive t (.program now o)))).Sound := by
  obtain ⟨log, hlog, hreturns⟩ := h.coherent
  obtain ⟨xs, hxs, m⟩ := Engine.makes_arrive r.engine t (.program now o)
  rw [h.outbox, List.nil_append] at hxs
  obtain ⟨q, p, hat⟩ := hlog.expects.settled t o (hsettled ▸ by simp)
  have hquiet : ∀ u req, .compile u req ∉ xs := by
    rcases m.asks with hasks | ⟨u, raw, _, _, _, hl, -⟩
    · exact hasks
    · cases hl
  let r₁ : Rig α := { r' with engine := (r.engine.arrive t (.program now o)).dispatched }
  have hact : r'.act (·.step (.arrive t (.program now o))) = xs.foldl perform r₁ := by
    rw [← hxs, act, hshifts.engine]
    rfl
  obtain ⟨hsetup, hengine, hfinished⟩ := foldl_perform_eq xs r₁
  rw [hact]
  refine ⟨?_, ?_, log ++ xs, ?_, ?_⟩
  · rw [hsetup]
    exact hshifts.renderer ▸ h.renderer
  · rw [hengine]
    rfl
  · have htraffic : r₁.traffic = { r.traffic with settled := ys ++ zs } := hshifts.traffic
    rw [hengine, traffic_foldl_perform xs r₁ hquiet, htraffic]
    exact hlog.deliver hsettled hat (hlog.account.move m) (m.delivers hlog.account hat)
  · have hfinished' : r₁.finished = r.finished := hshifts.finished
    rw [hfinished, Effect.returns_append, hreturns, hfinished']

/-- What the render host does leaves alone what is about activations, apart from its traffic. -/
theorem shifts_actHost (r : Rig α) (step : Host × List (HostEffect α)) :
    r.Shifts (r.actHost step) (r.actHost step).traffic := by
  have hframe := frame_actHost r step
  exact ⟨congrArg Setup.renderer hframe.setup, hframe.engine, hframe.finished, rfl⟩

theorem shifts_takeReply (r : Rig α) (id : String) (success : Bool) (error : Option String) :
    r.Shifts (r.takeReply id success error).1 (r.takeReply id success error).1.traffic := by
  unfold takeReply
  split
  split
  · exact shifts_actHost r _
  · exact ⟨rfl, rfl, rfl, rfl⟩

/-- Every step keeps the invariant. -/
theorem Sound.step {r r' : Rig α} (h : r.Sound) (hstep : r.Step r') : r'.Sound := by
  cases hstep with
  | event hx => exact h.event hx
  | deliver now hsettled hshifts => exact h.deliver now hsettled hshifts
  | reply id success error =>
      cases hid : Keyed.get? id r.traffic.host.pending with
      | none => exact (takeReply_of_not_pending r success error hid).symm ▸ h
      | some req =>
          obtain ⟨_, hlog, -⟩ := h.coherent
          obtain ⟨t, -, -, ht, -⟩ := hlog.expects.pending id req hid
          refine h.shifts (shifts_takeReply r id success error) fun log hlog => ?_
          rw [traffic_takeReply r success error hid ht]
          exact hlog.resolve hid ht _
  | timeout id =>
      cases hid : Keyed.get? id r.traffic.host.pending with
      | none => exact (ring_of_not_pending r hid).symm ▸ h
      | some req =>
          obtain ⟨_, hlog, -⟩ := h.coherent
          obtain ⟨t, -, -, ht, -⟩ := hlog.expects.pending id req hid
          refine h.shifts (shifts_actHost r _) fun log hlog => ?_
          rw [show (r.actHost _).traffic = (r.ring (.compileLimit id)).traffic from rfl,
            traffic_ring r hid ht]
          exact hlog.resolve hid ht _
  | dispose =>
      refine h.shifts (shifts_actHost r _) fun log hlog => ?_
      rw [traffic_dispose]
      exact hlog.giveUp
  | around hshifts => exact h.shifts hshifts fun _ hlog => hlog

/-- Whatever has happened, the invariant holds. -/
theorem Reachable.sound {r : Rig α} (h : Reachable r) : r.Sound := by
  induction h with
  | new disk receivers h => exact ⟨h, rfl, [], .start, rfl⟩
  | step _ hstep ih => exact ih.step hstep

/-! ## Work -/

/-- The comparison of scans asks for nothing, so nothing else happens in a rig. -/
theorem act_poll {r : Rig α} (h : r.engine.outbox = []) (s : Scan) :
    r.act (·.step (.poll s)) = { r with engine := (r.engine.poll s).1 } := by
  have houtbox : (r.engine.poll s).1.outbox = [] := by
    unfold Engine.poll
    simp only
    split <;> exact h
  have hdispatched : (r.engine.poll s).1.dispatched = (r.engine.poll s).1 := by
    rw [Engine.dispatched, ← houtbox]
  show (r.engine.poll s).1.outbox.foldl perform
    { r with engine := (r.engine.poll s).1.dispatched } = _
  rw [houtbox, hdispatched]
  rfl

/-- A look at the shader directory that is over is something that can happen. -/
theorem Reachable.look {r : Rig α} (h : Reachable r) (caller : LookCaller) :
    Reachable (r.work (.look caller)) := by
  have hpoll : Reachable r.poll.1 := by
    unfold poll
    split
    · exact h
    · next s _ =>
      have hstep := h.step (.event r (x := .poll s) (by simp))
      rwa [act_poll h.sound.outbox] at hstep
  refine hpoll.step (.around ?_)
  show r.poll.1.Shifts (r.poll.1.endLook caller r.poll.2) _
  unfold endLook
  split <;> exact ⟨rfl, rfl, rfl, rfl⟩

/-- The next piece of work is something that can happen. -/
theorem Reachable.work {r r' : Rig α} {w : Work} (h : Reachable r)
    (hnext : r.next? = some (w, r')) : Reachable (r'.work w) := by
  obtain ⟨ys, zs, hwork, hleft, atOnce, onFiles, onTrees, heq⟩ := next?_eq hnext
  have hsettled : r.traffic.settled = ys.filterMap Work.settled? ++
      (w.settled?.toList ++ zs.filterMap Work.settled?) := by
    show r.allWork.filterMap Work.settled? = _
    rw [hwork, List.filterMap_append, List.filterMap_cons]
    cases w.settled? <;> rfl
  have hshifts : r.Shifts r' { r.traffic with
      settled := ys.filterMap Work.settled? ++ zs.filterMap Work.settled? } := by
    have hsettled' : r'.settled = ys.filterMap Work.settled? ++ zs.filterMap Work.settled? := by
      rw [settled, hleft, List.filterMap_append]
    refine ⟨heq ▸ rfl, heq ▸ rfl, heq ▸ rfl, ?_⟩
    rw [traffic, hsettled', heq]
    rfl
  have hidle (hw : w.settled? = none) : Reachable r' := by
    rw [hw] at hsettled
    have htraffic := congrArg (Traffic.mk r.traffic.host r.traffic.compiles) hsettled
    exact h.step (.around ⟨hshifts.renderer, hshifts.engine, hshifts.finished,
      hshifts.traffic.trans htraffic.symm⟩)
  cases w with
  | settle t o => exact h.step (.deliver r'.now hsettled hshifts)
  | resume t => exact (hidle rfl).step (.event r' (x := .arrive t .turn) (by simp))
  | readSource t path => exact (hidle rfl).step (.event r' (x := .arrive t (.source _)) (by simp))
  | record t record =>
      let written := r'.disk.appendRecord r'.setup.errorLog record
      have hdisk : r'.Shifts { r' with disk := written.1 } r'.traffic := ⟨rfl, rfl, rfl, rfl⟩
      exact ((hidle rfl).step (.around hdisk)).step
        (.event _ (x := .arrive t (.record written.2)) (by simp))
  | loadPreset t shader => exact (hidle rfl).step (.event r' (x := .arrive t (.preset _)) (by simp))
  | scan => exact (hidle rfl).step (.event r' (x := .scanned _) (by simp))
  | look caller => exact (hidle rfl).look caller
  | checkCapture shader =>
      refine (hidle rfl).step (.around ?_)
      show r'.Shifts (if r'.hasPicture shader then r' else r'.requestCapture shader) r'.traffic
      split
      · exact ⟨rfl, rfl, rfl, rfl⟩
      · obtain ⟨seen, console, hseen⟩ := requestCapture_eq r' shader
        exact hseen ▸ ⟨rfl, rfl, rfl, rfl⟩

/-- Doing work until something holds is something that can happen. -/
theorem Reachable.workUntil {r : Rig α} (h : Reachable r) (stop : Rig α → Bool) (most : Nat) :
    Reachable (Rig.workUntil stop most r) := by
  induction most generalizing r with
  | zero => exact h
  | succ most ih =>
      unfold Rig.workUntil
      split
      · exact h
      · split
        · next w r' hnext => exact ih (h.work hnext)
        · exact h

/-- Doing all work is something that can happen. -/
theorem Reachable.settle {r : Rig α} (h : Reachable r) : Reachable r.settle :=
  h.workUntil _ _

/-! ## The program that is sent -/

/-- A browser that connects is sent the program of a shader. -/
def Replays (r : Rig α) (b : ActiveShader α) : Prop :=
  ∃ id, (r.host.syncMessages : List (HostMessage α)).head? =
    some (.push id (Engine.compileRequest b.descriptor b.transpiled))

omit [Scalar α] in
/-- A browser that connects is sent the program in use. -/
theorem replays_iff {r : Rig α} {x : HostProgram} (hx : r.host.program = some x)
    (b : ActiveShader α) :
    r.Replays b ↔ x.request = Engine.compileRequest b.descriptor b.transpiled := by
  have hhead : (r.host.syncMessages : List (HostMessage α)).head? =
      some (.push x.id x.request) := by
    simp [Host.syncMessages, hx]
  constructor
  · rintro ⟨id, hid⟩
    exact (HostMessage.push.inj (Option.some.inj (hhead.symm.trans hid))).2
  · intro hreq
    exact ⟨x.id, hreq ▸ hhead⟩

/-- When no activation is on its way and there is an active shader, the program in use is that of
an activation that has ended, either with the active shader or because it was outdated when its
compile had succeeded. A browser that connects is sent the program of the active shader unless
the activation was outdated and its program is another. -/
theorem replay_of_quiet {r : Rig α} (h : Reachable r) (hquiet : r.engine.activations = [])
    {b : ActiveShader α} (hb : r.engine.session.active = some b) :
    ∃ x, r.host.program = some x ∧ ∃ f ∈ r.finished,
      Keyed.get? x.id r.compiles = some (.activation f.ticket) ∧
      (f.outcome = .installed b ∨ f.outcome = .superseded) ∧
      (r.Replays b ↔ (f.outcome = .superseded →
        x.request = Engine.compileRequest b.descriptor b.transpiled)) := by
  obtain ⟨log, hlog, hreturns⟩ := h.sound.coherent
  obtain ⟨x, t, hx, ht, f, hf, rfl, hout⟩ := hlog.program_of_quiet hquiet hb
  refine ⟨x, hx, f, hreturns ▸ hf, Traffic.caller?_eq_some.mp ht, ?_, ?_⟩
  · rcases hout with hout | ⟨hout, -⟩
    · exact .inr hout
    · exact .inl hout
  · rw [replays_iff hx b]
    constructor
    · exact fun hreq _ => hreq
    · intro hreq
      rcases hout with hout | ⟨-, hout⟩
      · exact hreq hout
      · exact hout

/-- Two shaders are asked for. The second compiles first, so the first is outdated when it has
compiled too. -/
def overtaking : Rig Float :=
  let setup : Setup Float :=
    { renderer := .channel, failures := [], captureRefusal := none, shaderDir := ["shaders"]
      presetDir := none, captureDir := none, errorLog := ["errors.log"], captureDelay := 0.0
      compileLimit := 0.0, pollInterval := 0.0, busyPorts := [], start := ⟨0⟩ }
  let scan : Scan :=
    { descriptors := [⟨"a", "shaders/a.glsl", "a.glsl", .glsl⟩,
        ⟨"b", "shaders/b.glsl", "b.glsl", .glsl⟩]
      signature := .missing }
  let r := (Rig.new setup (.empty "home") 1).act (·.step (.rescan scan))
  let r := r.act (·.step (.activate .activation "a"))
  let r := r.act (·.step (.activate .activation "b"))
  let r := r.act (·.step (.arrive 0 (.source (.ok ""))))
  let r := r.act (·.step (.arrive 1 (.source (.ok ""))))
  let r := (r.takeReply "id-2" true none).1.workUntil (·.atOnce.isEmpty) 2
  (r.takeReply "id-1" true none).1.workUntil (·.atOnce.isEmpty) 2

theorem reachable_overtaking : Reachable overtaking := by
  refine Reachable.workUntil (.step (Reachable.workUntil (.step ?_ (.reply _ _ _ _)) _ _)
    (.reply _ _ _ _)) _ _
  refine .step (.step ?_ (.event _ (by simp))) (.event _ (by simp))
  refine .step (.step ?_ (.event _ (by simp))) (.event _ (by simp))
  exact .step (.new _ 1 (by decide)) (.event _ (by simp))

/-- No activation is on its way in the end, and the program in use is that of one that has
ended. -/
theorem replay_of_quiet_overtaking :
    overtaking.engine.activations = [] ∧
      ∃ b, overtaking.engine.session.active = some b ∧
        ∃ x, overtaking.host.program = some x ∧ ∃ f ∈ overtaking.finished,
          Keyed.get? x.id overtaking.compiles = some (.activation f.ticket) ∧
          (f.outcome = .installed b ∨ f.outcome = .superseded) ∧
          (overtaking.Replays b ↔ (f.outcome = .superseded →
            x.request = Engine.compileRequest b.descriptor b.transpiled)) := by
  have hactive : overtaking.engine.session.active.map (·.descriptor.name) = some "b" := rfl
  obtain ⟨b, hb, -⟩ := Option.map_eq_some_iff.mp hactive
  exact ⟨rfl, b, hb, replay_of_quiet reachable_overtaking rfl hb⟩

/-- The program of a shader that was outdated is sent though another is active. -/
theorem replay_of_overtaking :
    Reachable overtaking ∧ overtaking.engine.activations = [] ∧
      ∃ b, overtaking.engine.session.active = some b ∧ ¬ overtaking.Replays b := by
  refine ⟨reachable_overtaking, rfl, ?_⟩
  have hactive : overtaking.engine.session.active.map (·.descriptor.name) = some "b" := rfl
  have hprogram : overtaking.host.program.map (·.request.name) = some "a" := rfl
  obtain ⟨b, hb, hname⟩ := Option.map_eq_some_iff.mp hactive
  obtain ⟨x, hx, hrequest⟩ := Option.map_eq_some_iff.mp hprogram
  refine ⟨b, hb, fun hreplays => ?_⟩
  have hreq := congrArg CompileRequest.name ((replays_iff hx b).mp hreplays)
  have hab : "a" = "b" := hrequest.symm.trans (hreq.trans hname)
  exact absurd hab (by decide)

end Rig

end LiveVisuals
