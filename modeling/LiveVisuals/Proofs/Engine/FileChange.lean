import LiveVisuals.Proofs.Engine.Watcher
import LiveVisuals.Proofs.Files.Frame

/-!
# Changes of shader files are not lost

When the scan of a reload has ended, the active shader is activated anew, from what its file holds
then. So after a change that the watcher is first to see, a look and a tick bring about that the
active shader is activated anew.

All of this rests on the scan before the change. A scan on request that comes between a change
and the first look at it takes the change over without activating anything, and then nothing
tells the watcher that the active shader is out of date.

Main definitions:

- {lit}`Site.Reactivates`: the scan of a reload has a shader activated anew, from some content.
- {lit}`Site.Watched`: since the last change no scan on request was first to see it.
- {lit}`Site.Triggers`: a look and a tick bring about that a shader is activated anew.

Main results:

- Theorem {lit}`Site.reactivates_of_active`: the scan of a reload has the active shader activated
  anew.
- Theorem {lit}`Site.triggers_of_difference`: what the watcher is first to see is not lost.
- Theorem {lit}`Site.rescan_hides_change`: what a scan on request is first to see can be lost.
-/

namespace LiveVisuals

variable {α : Type} [Scalar α]

namespace Site

variable {root : String} {tree : Files.Node}

/-! ## Reloads -/

/-- When the scan of a reload ends now, a shader is activated anew, and what is read of it next
is some content. -/
def Reactivates (s : Site α) (b : ActiveShader α) (raw : String) : Prop :=
  ∃ t, .readSource t b.descriptor.path ∈ (s.engine.step (.scanned s.scan)).outbox ∧
    (s.step .reload).engine.activation? t =
      some ⟨t, b.descriptor.address, .reload, .reading ⟨s.engine.generation + 1, b.descriptor⟩⟩ ∧
    (s.step .reload).content t = .ok raw

/-- The ticket of the next activation is not in use. -/
theorem find?_issued (root : String) (tree : Files.Node) (as : List (Act α)) :
    (run root tree as).engine.activations.find?
      (·.ticket == (run root tree as).engine.issued) = none := by
  obtain ⟨xs, hxs⟩ : ∃ xs, (run root tree as).play = Performance.run root xs := exists_play as
  have hacc := Performance.accounted root xs
  rw [← hxs] at hacc
  refine List.find?_eq_none.mpr fun a ha => ?_
  have hlt : a.ticket < (run root tree as).engine.issued := hacc.ticket_lt ha
  simpa using Nat.ne_of_lt hlt

/-- The scan of a reload has the active shader activated anew, from what its file holds. -/
theorem reactivates_of_active {as : List (Act α)} {b : ActiveShader α} {sc : Scan} {raw : String}
    (hb : (run root tree as).engine.session.active = some b)
    (hsc : (run root tree as).scan = .ok sc) (hd : b.descriptor ∈ sc.descriptors)
    (haddress : b.descriptor.Addressable)
    (hraw : (run root tree as).read b.descriptor.path = .ok raw) :
    (run root tree as).Reactivates b raw := by
  have hnew := find?_issued root tree as
  have hreload := root_eq root tree (as ++ [.reload]) as
  rw [run_concat] at hreload
  generalize run root tree as = s at hb hsc hraw hnew hreload
  have hget : (s.engine.takeScan sc).registry.get? b.descriptor.address = some b.descriptor :=
    Scan.find?_address hsc haddress hd
  have hstep : s.engine.step (.scanned s.scan) =
      (s.engine.takeScan sc).activate .reload b.descriptor.address := by
    rw [hsc]
    exact Engine.step_scanned_of_active sc hb
  obtain ⟨hflight, hout⟩ := Engine.activate_of_known (s.engine.takeScan sc) .reload hget
  rw [← hstep] at hflight hout
  have hactivation : (s.step .reload).engine.activation? s.engine.issued =
      some ⟨s.engine.issued, b.descriptor.address, .reload,
        .reading ⟨s.engine.generation + 1, b.descriptor⟩⟩ := by
    change (s.engine.step (.scanned s.scan)).flight.find? s.engine.issued = _
    rw [hflight]
    have hbegun : (s.engine.takeScan sc).flight.activations = s.engine.activations := rfl
    simp only [Flight.find?, Flight.begin, hbegun, List.find?_append, hnew]
    simp [Engine.flight, Engine.takeScan, Engine.note, Engine.emit]
  have hread : (s.step .reload).read b.descriptor.path = .ok raw := by
    rw [read, hreload]
    exact hraw
  refine ⟨s.engine.issued, ?_, hactivation, ?_⟩
  · rw [hout]
    exact List.mem_append_right _ (List.mem_singleton_self _)
  · simp only [content, pathOf?, hactivation, hread]

/-- Since the last change reloads came only while the shader was active, and before the directory
was scanned on request there was a look at it or a reload. -/
def Watched (root : String) (tree : Files.Node) (as : List (Act α)) (b : ActiveShader α) : Prop :=
  ∀ us n vs, as = us ++ .change n :: vs → Calm vs → ∀ ws zs,
    (vs = ws ++ .reload :: zs →
      (run root tree (us ++ .change n :: ws)).engine.session.active = some b) ∧
    (vs = ws ++ .rescan :: zs → .poll ∈ ws ∨ .reload ∈ ws)

/-- The watcher looks at the directory, and there is a tick. -/
def look (dt : α) : List (Act α) := [.poll, .other (.tick dt) rfl]

/-- A look and a tick bring about that a shader is activated anew from some content: since the
last change a reload has come that did so, or none has come yet, but its scan has been asked for
and will do so. -/
def Triggers (root : String) (tree : Files.Node) (as : List (Act α)) (b : ActiveShader α)
    (raw : String) (dt : α) : Prop :=
  ∃ us n vs, as = us ++ .change n :: vs ∧ Calm vs ∧
    ((∃ ws zs, vs = ws ++ .reload :: zs ∧
        (run root tree (us ++ .change n :: ws)).Reactivates b raw) ∨
      (.reload ∉ vs ∧ Asks root tree (us ++ [.change n]) (vs ++ look dt) ∧
        (run root tree (as ++ look dt)).Reactivates b raw))

/-- What comes for no activation leaves the active shader. -/
theorem active_step {s : Site α} {a : Act α} {x : Engine.Event α} (hevent : s.event? a = some x)
    (hx : x.arrival? = none) : (s.step a).engine.session.active = s.engine.session.active := by
  have hstep : (s.step a).engine.session.active = (s.engine.step x).flight.active := by
    simp [step, engine, hevent, Performance.step, Engine.dispatched, Engine.flight]
  obtain ⟨_, _, ms⟩ := Engine.goes_step s.engine x
  rw [hx] at ms
  rw [hstep]
  exact ms.of_none.2

/-- A look and a tick leave the active shader. -/
theorem active_of_look (as : List (Act α)) (dt : α) :
    (run root tree (as ++ look dt)).engine.session.active =
      (run root tree as).engine.session.active := by
  have hpoll : (run root tree (as ++ [.poll])).engine.session.active =
      (run root tree as).engine.session.active := by
    rw [run_concat]
    cases hsc : (run root tree as).scan with
    | error e => simp [step, engine, event?, hsc, Except.toOption]
    | ok sc =>
        have hevent : (run root tree as).event? .poll = some (.poll sc) := by
          simp [event?, hsc, Except.toOption]
        exact active_step hevent rfl
  have hlook : as ++ look dt = as ++ [.poll] ++ [.other (.tick dt) rfl] := by simp [look]
  rw [hlook, run_concat, ← hpoll]
  exact active_step (x := .tick dt) rfl rfl

omit [Scalar α] in
theorem calm_look (dt : α) : Calm (look dt) := by
  simp [Calm, look]

/-- If the active shader was compiled from something else than what its file holds, the directory
has been changed since a scan. -/
theorem exists_change_of_difference {as : List (Act α)} {b : ActiveShader α} {raw raw' : String}
    (hraw : CompiledFrom root tree as b raw)
    (hraw' : (run root tree as).read b.descriptor.path = .ok raw') (hne : raw' ≠ raw) :
    ∃ us n vs, as = us ++ .change n :: vs ∧ Calm vs ∧
      ∃ sig, (run root tree us).engine.registry.signature = some sig := by
  obtain ⟨us, t, vs, rfl, hpath, hread, -⟩ := hraw
  have hchanged : ¬ Calm (.source t :: vs) := by
    intro hcalm
    rw [read_of_calm us hcalm, hread] at hraw'
    exact hne (Except.ok.inj hraw').symm
  obtain ⟨ws, n, zs, hvs, hzs⟩ := exists_last_change hchanged
  obtain ⟨sig, hsig⟩ := exists_signature_of_path hpath
  refine ⟨us ++ ws, n, zs, by rw [hvs, List.append_assoc], hzs, ?_⟩
  exact exists_signature_of_append us hsig ws

/-- If the active shader was compiled from something else than what its file holds, then a look
and a tick bring about that it is activated anew from that, unless a scan on request was first to
see the change. -/
theorem triggers_of_difference {as : List (Act α)} {b : ActiveShader α} {raw raw' : String}
    {sc : Scan} (hdated : Dated root tree as)
    (hb : (run root tree as).engine.session.active = some b)
    (hraw : CompiledFrom root tree as b raw)
    (hraw' : (run root tree as).read b.descriptor.path = .ok raw') (hne : raw' ≠ raw)
    (hsc : (run root tree as).scan = .ok sc) (hd : b.descriptor ∈ sc.descriptors)
    (haddress : b.descriptor.Addressable) (hwatched : Watched root tree as b) (dt : α) :
    Triggers root tree as b raw' dt := by
  obtain ⟨us, n, vs, rfl, hcalm, sig, hsig⟩ := exists_change_of_difference hraw hraw' hne
  have hwatch := hwatched us n vs rfl hcalm
  refine ⟨us, n, vs, rfl, hcalm, ?_⟩
  have hsplit : ∀ ws, us ++ .change n :: ws = us ++ [.change n] ++ ws := fun ws => by simp
  rw [hsplit vs] at hb hraw' hsc ⊢
  by_cases hreload : .reload ∈ vs
  · left
    obtain ⟨ws, zs, rfl⟩ := List.append_of_mem hreload
    have hbefore := (hwatch ws zs).1 rfl
    have hws : Calm ws := hcalm.of_append.1
    rw [hsplit ws] at hbefore
    -- nothing has changed between the reload and the end of the run
    rw [scan_of_calm _ hcalm, ← scan_of_calm _ hws] at hsc
    rw [read_of_calm _ hcalm, ← read_of_calm _ hws] at hraw'
    refine ⟨ws, zs, rfl, ?_⟩
    rw [hsplit ws]
    exact reactivates_of_active hbefore hsc hd haddress hraw'
  · right
    refine ⟨hreload, ?_, ?_⟩
    · have hunseen := unseen_of_change hsig (hdated us n vs rfl)
      have hscan := hsc
      rw [scan_of_calm _ hcalm] at hscan
      have hprior := unseen_or_alert hunseen hscan hcalm hreload fun ws zs h => (hwatch ws zs).2 h
      have halert : Alert root tree (us ++ [.change n]) (vs ++ [.poll]) := by
        rcases hprior with ⟨hunseen, -⟩ | halert
        · left
          rw [← List.append_assoc, run_concat]
          exact flagged_of_poll hunseen hsc
        · exact halert.concat .poll
      have hlook : vs ++ look dt = vs ++ [.poll] ++ [.other (.tick dt) rfl] := by simp [look]
      rw [hlook]
      exact halert.tick dt
    · rw [← active_of_look _ dt] at hb
      rw [← scan_of_calm _ (calm_look dt)] at hsc
      rw [← read_of_calm _ (calm_look dt)] at hraw'
      exact reactivates_of_active hb hsc hd haddress hraw'

/-! ## A change that the watcher sees, and one that it does not see -/

/-- A shader directory with one file. -/
def oneFile (content : String) (modified : Nat) : Files.Node :=
  .directory [("a.glsl", .file content modified)] 1

/-- The shader in that file. -/
def oneShader : Descriptor := ⟨"a", "shaders/a.glsl", "a.glsl", .glsl⟩

/-- A scan of that directory. -/
def oneScan (modified : Nat) : Scan := ⟨[oneShader], .tree 1 (max 1 modified)⟩

/-- What the file holds first. -/
def original : String := "void main(){}"

/-- What the file holds after it has been edited. -/
def edited : String := "void main(){ }"

/-- The shader is shown. -/
def showing : List (Act Float) :=
  [.rescan, .other (.activate .request "a") rfl, .source 0,
    .other (.arrive 0 (.program ⟨0⟩ (.ok ()))) rfl, .other (.arrive 0 (.preset (.ok none))) rfl]

/-- What that is to the engine. -/
def showingEvents : List (Engine.Event Float) :=
  [.rescan (oneScan 1), .activate .request "a", .arrive 0 (.source (.ok original)),
    .arrive 0 (.program ⟨0⟩ (.ok ())), .arrive 0 (.preset (.ok none))]

/-- The shader while it is shown. -/
def shown : ActiveShader Float := ⟨oneShader, .ofSource .glsl original, 1⟩

omit [Scalar α] in
theorem scan_of_oneFile {s : Site α} {content : String} {modified : Nat}
    (hroot : s.engine.registry.root = "shaders") (htree : s.tree = oneFile content modified) :
    s.scan = .ok (oneScan modified) := by
  have hfound : [FoundFile.mk "a.glsl" []].filterMap (Scan.descriptor? "shaders") = [oneShader] :=
    rfl
  rw [scan, hroot, htree]
  simp [Scan.ofNode, oneFile, oneScan, Walk.visitAll, Walk.visit, Walk.meet, Walk.start,
    Walk.isHidden, hfound, Scan.arrange, Scan.ofDialect, Scan.firstOfEachName, oneShader]

omit [Scalar α] in
theorem read_of_oneFile {s : Site α} {content : String} {modified : Nat}
    (hroot : s.engine.registry.root = "shaders") (htree : s.tree = oneFile content modified) :
    s.read oneShader.path = .ok content := by
  have hrest : Text.strip? ("shaders" ++ "/").toList oneShader.path.toList =
      some "a.glsl".toList := by decide
  have hpath : Files.Path.ofString "a.glsl" = ["a.glsl"] :=
    Files.Path.join_of_name [] (by decide) (by decide) (by decide) (by decide)
  rw [read, hroot, hrest, htree]
  simp only [String.ofList_toList, hpath]
  rfl

theorem step_of_event {s : Site α} {a : Act α} {x : Engine.Event α} (h : s.event? a = some x) :
    s.step a = ⟨s.play.step x, s.treeAfter a, max s.clock (s.treeAfter a).latest⟩ := by
  simp [step, h]

/-- Scans and looks see the one file. -/
theorem step_of_oneFile {s : Site α} {content : String} {modified : Nat}
    (hroot : s.engine.registry.root = "shaders") (htree : s.tree = oneFile content modified) :
    s.step .rescan = ⟨s.play.step (.rescan (oneScan modified)), s.tree, max s.clock s.tree.latest⟩ ∧
      s.step .poll =
        ⟨s.play.step (.poll (oneScan modified)), s.tree, max s.clock s.tree.latest⟩ := by
  have hscan := scan_of_oneFile hroot htree
  constructor
  · exact step_of_event (a := .rescan) (by simp [event?, hscan, Except.toOption])
  · exact step_of_event (a := .poll) (by simp [event?, hscan, Except.toOption])

/-- The shader has been asked for and its source is to be read. -/
theorem run_requested : run "shaders" (oneFile original 1) (showing.take 2) =
    ⟨.run "shaders" (showingEvents.take 2), oneFile original 1, 1⟩ := by
  have hscanned : run "shaders" (oneFile original 1) (showing.take 1) =
      ⟨.run "shaders" (showingEvents.take 1), oneFile original 1, 1⟩ :=
    (step_of_oneFile (s := start "shaders" (oneFile original 1)) rfl rfl).1
  change (run "shaders" (oneFile original 1) (showing.take 1)).step _ = _
  rw [hscanned]
  rfl

theorem run_showing : run "shaders" (oneFile original 1) showing =
    ⟨.run "shaders" showingEvents, oneFile original 1, 1⟩ := by
  have hread : run "shaders" (oneFile original 1) (showing.take 3) =
      ⟨.run "shaders" (showingEvents.take 3), oneFile original 1, 1⟩ := by
    change (run "shaders" (oneFile original 1) (showing.take 2)).step (.source 0) = _
    rw [run_requested]
    let s : Site Float :=
      ⟨.run "shaders" (showingEvents.take 2), oneFile original 1, 1⟩
    have hcontent : s.content 0 = .ok original := by
      have hpath : s.pathOf? 0 = some oneShader.path := rfl
      rw [content, hpath]
      exact read_of_oneFile rfl rfl
    exact step_of_event (a := .source 0) (by rw [event?, hcontent])
  change ((run "shaders" (oneFile original 1) (showing.take 3)).step _).step _ = _
  rw [hread]
  rfl

/-- The shader was compiled from what its file held first. -/
theorem compiledFrom_original (vs : List (Act Float)) :
    CompiledFrom "shaders" (oneFile original 1) (showing ++ vs) shown original := by
  refine ⟨showing.take 2, 0, showing.drop 3 ++ vs, rfl, ?_, ?_, rfl⟩
  · rw [run_requested]
    rfl
  · rw [run_requested]
    exact read_of_oneFile rfl rfl

/-- An edit is later than what was before. -/
theorem dated_edit {vs : List (Act Float)} (hvs : Calm vs) :
    Dated "shaders" (oneFile original 1) (showing ++ .change (oneFile edited 2) :: vs) := by
  intro us n ws h
  have hshowing : Calm showing := fun n hn => by simp [showing] at hn
  obtain ⟨rfl, rfl, -⟩ := change_unique hshowing hvs h
  rw [run_showing]
  decide

/-- The engine and its directory after an edit. -/
theorem run_edit : run "shaders" (oneFile original 1) (showing ++ [.change (oneFile edited 2)]) =
    ⟨.run "shaders" showingEvents, oneFile edited 2, 2⟩ := by
  rw [run_concat, run_showing]
  rfl

theorem addressable_oneShader : oneShader.Addressable := by
  refine Descriptor.addressable_of_plain (fun c hc => ?_) (fun c hc => ?_) rfl
  · obtain rfl : c = 'a' := List.mem_singleton.mp hc
    decide
  · obtain rfl : 'a' = c := Option.some.inj hc
    decide

/-- An edit of the shader that is shown is seen by the watcher. -/
theorem triggers_of_edit :
    let as : List (Act Float) := showing ++ [.change (oneFile edited 2)]
    Dated "shaders" (oneFile original 1) as ∧
      (run "shaders" (oneFile original 1) as).engine.session.active = some shown ∧
      CompiledFrom "shaders" (oneFile original 1) as shown original ∧
      (run "shaders" (oneFile original 1) as).read shown.descriptor.path = .ok edited ∧
      edited ≠ original ∧
      (run "shaders" (oneFile original 1) as).scan = .ok (oneScan 2) ∧
      shown.descriptor ∈ (oneScan 2).descriptors ∧ shown.descriptor.Addressable ∧
      Watched "shaders" (oneFile original 1) as shown ∧
      Triggers "shaders" (oneFile original 1) as shown edited 0.5 := by
  intro as
  have hdated : Dated "shaders" (oneFile original 1) as := dated_edit fun n hn => by cases hn
  have hactive : (run "shaders" (oneFile original 1) as).engine.session.active = some shown := by
    rw [run_edit]
    rfl
  have hread : (run "shaders" (oneFile original 1) as).read shown.descriptor.path = .ok edited := by
    rw [run_edit]
    exact read_of_oneFile rfl rfl
  have hscan : (run "shaders" (oneFile original 1) as).scan = .ok (oneScan 2) := by
    rw [run_edit]
    exact scan_of_oneFile rfl rfl
  have hwatched : Watched "shaders" (oneFile original 1) as shown := by
    intro us n vs h hvs ws zs
    have hshowing : Calm showing := fun n hn => by simp [showing] at hn
    obtain ⟨-, -, rfl⟩ := change_unique hshowing (fun n hn => by cases hn) h
    simp
  have hne : edited ≠ original := by decide
  have hlisted : shown.descriptor ∈ (oneScan 2).descriptors := List.mem_singleton_self _
  exact ⟨hdated, hactive, compiledFrom_original _, hread, hne, hscan, hlisted,
    addressable_oneShader, hwatched,
    triggers_of_difference hdated hactive (compiledFrom_original _) hread hne hscan hlisted
      addressable_oneShader hwatched 0.5⟩

/-- The engine after an edit that a scan on request was first to see, and a look and a tick. -/
theorem run_hidden : run "shaders" (oneFile original 1)
    (showing ++ .change (oneFile edited 2) :: [.rescan] ++ look 0.5) =
      ⟨.run "shaders" (showingEvents ++ [.rescan (oneScan 2), .poll (oneScan 2), .tick 0.5]),
        oneFile edited 2, 2⟩ := by
  let s : Site Float := ⟨.run "shaders" showingEvents, oneFile edited 2, 2⟩
  let s' : Site Float :=
    ⟨.run "shaders" (showingEvents ++ [.rescan (oneScan 2)]), oneFile edited 2, 2⟩
  have hrescan : s.step .rescan = s' := (step_of_oneFile rfl rfl).1
  have hpoll : s'.step .poll =
      ⟨.run "shaders" (showingEvents ++ [.rescan (oneScan 2), .poll (oneScan 2)]),
        oneFile edited 2, 2⟩ := (step_of_oneFile rfl rfl).2
  have hsplit : showing ++ .change (oneFile edited 2) :: [.rescan] ++ look 0.5 =
      showing ++ [.change (oneFile edited 2)] ++ [.rescan] ++ [.poll] ++
        [.other (.tick 0.5) rfl] := rfl
  rw [hsplit, run_concat, run_concat, run_concat, run_edit, hrescan, hpoll]
  rfl

/-- An edit of the shader that is shown is hidden from the watcher by a scan on request: the file
holds something else than what the shader was compiled from, but a look and a tick do not have it
activated anew. -/
theorem rescan_hides_change :
    let as : List (Act Float) := showing ++ .change (oneFile edited 2) :: [.rescan]
    Dated "shaders" (oneFile original 1) as ∧
      (run "shaders" (oneFile original 1) as).engine.session.active = some shown ∧
      CompiledFrom "shaders" (oneFile original 1) as shown original ∧
      (run "shaders" (oneFile original 1) as).read shown.descriptor.path = .ok edited ∧
      edited ≠ original ∧
      (run "shaders" (oneFile original 1) as).scan = .ok (oneScan 2) ∧
      shown.descriptor ∈ (oneScan 2).descriptors ∧ shown.descriptor.Addressable ∧
      (run "shaders" (oneFile original 1) (as ++ look 0.5)).engine.activations = [] ∧
      ¬ Triggers "shaders" (oneFile original 1) as shown edited 0.5 := by
  intro as
  have hrun : run "shaders" (oneFile original 1) as =
      ⟨.run "shaders" (showingEvents ++ [.rescan (oneScan 2)]), oneFile edited 2, 2⟩ := by
    have hsplit : as = showing ++ [.change (oneFile edited 2)] ++ [.rescan] := rfl
    rw [hsplit, run_concat, run_edit]
    exact (step_of_oneFile rfl rfl).1
  have hactive : (run "shaders" (oneFile original 1) as).engine.session.active = some shown := by
    rw [hrun]
    rfl
  have hread : (run "shaders" (oneFile original 1) as).read shown.descriptor.path = .ok edited := by
    rw [hrun]
    exact read_of_oneFile rfl rfl
  have hscan : (run "shaders" (oneFile original 1) as).scan = .ok (oneScan 2) := by
    rw [hrun]
    exact scan_of_oneFile rfl rfl
  have hactivations :
      (run "shaders" (oneFile original 1) (as ++ look 0.5)).engine.activations = [] := by
    rw [run_hidden]
    rfl
  have hasked : .scan ∉ (run "shaders" (oneFile original 1) (as ++ look 0.5)).play.asked := by
    let isScan : Effect Float → Bool := fun x => match x with
      | .scan => true
      | _ => false
    have hnone : (run "shaders" (oneFile original 1) (as ++ look 0.5)).play.asked.any isScan =
        false := by
      rw [run_hidden]
      rfl
    exact fun hscan => List.any_eq_false.mp hnone .scan hscan rfl
  refine ⟨dated_edit fun n hn => by simp at hn, hactive, compiledFrom_original _, hread, by decide,
    hscan, List.mem_singleton_self _, addressable_oneShader, hactivations, ?_⟩
  rintro ⟨us, n, vs, has, -, ⟨ws, zs, rfl, -⟩ | ⟨-, ⟨xs, hxs, hscans⟩, -⟩⟩
  · have hreload : (.reload : Act Float) ∈ as := has ▸ by simp
    simp [as, showing] at hreload
  · have hsame : us ++ [.change n] ++ (vs ++ look 0.5) = as ++ look 0.5 := by simp [has]
    rw [hsame] at hxs
    exact hasked (hxs ▸ List.mem_append_right _ hscans)

end Site

end LiveVisuals
