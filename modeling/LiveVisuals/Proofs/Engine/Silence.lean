import LiveVisuals.Proofs.Binding.AtRest
import LiveVisuals.Proofs.Engine.Delivery
import LiveVisuals.Proofs.Engine.Finite
import LiveVisuals.Proofs.Shader.Precedence

/-!
# Silence presents the declared defaults

A shader that is installed without saved bindings starts with derived ones, which are at rest.
As long as nobody edits them, nobody installs another shader and only silence is heard whenever
they advance, they stay so, and every tick presents the inputs of the shader with the defaults
that are declared for them. It does not matter how often the music is forgotten in between, what
time passes, and where the knobs stand.

Main definitions:

- {lit}`Session.hushed`: only silence has been heard since the music was last forgotten.
- {lit}`Session.framesSilent`: only silence has been heard whenever bindings advance.
- {lit}`Session.Still`: a session that shows a shader with bindings that have not changed.
- {lit}`Performance.changes`: the changes that come of some events.

Main results:

- Theorem {lit}`Session.quiet_of_hushed`: where only silence has been heard the extractor is quiet.
- Theorem {lit}`Session.Still.changes`: a session stays still through silent frames.
- Theorem {lit}`Transpiled.get?_resolveUniforms_of_derived`: derived bindings at rest present the
  defaults.
- Theorem {lit}`Performance.framesSilent_of_silent`: frames are silent if all messages are.
- Theorem {lit}`Performance.presents_defaults_in_silence`: silence presents the declared defaults.
-/

namespace LiveVisuals

/-! ## What silence is -/

namespace Session

variable {α : Type}

/-- Whether a change has an influence on what is bound: edits do, and so does the installation of
a shader. -/
def Change.rebinds : Change α → Bool
  | .edit _ | .install .. => true
  | _ => false

variable [Scalar α]

/-- Whether there is silence after a change: where the music is forgotten silence begins, and a
message that is not silent ends it. -/
def Change.hush (silence : Bool) : Change α → Bool
  | .forget => true
  | .hear m => silence && m.isSilent
  | _ => silence

/-- Whether only silence has been heard since the music was last forgotten, or ever. -/
def hushed (cs : List (Change α)) : Bool := cs.foldl Change.hush true

/-- Whether bindings advance in silence, if they do. -/
def Change.isSilentFrame (silence : Bool) : Change α → Bool
  | .resolve => silence
  | _ => true

/-- Whether only silence has been heard whenever bindings advance; the flag says whether there is
silence to begin with. -/
def framesSilent : (silence : Bool) → List (Change α) → Bool
  | _, [] => true
  | silence, c :: cs => c.isSilentFrame silence && framesSilent (c.hush silence) cs

/-- Changes come one after the other. -/
theorem framesSilent_append (silence : Bool) (cs ds : List (Change α)) :
    framesSilent silence (cs ++ ds) =
      (framesSilent silence cs && framesSilent (cs.foldl Change.hush silence) ds) := by
  induction cs generalizing silence with
  | nil => rfl
  | cons c cs ih => rw [List.cons_append, framesSilent, framesSilent, ih, Bool.and_assoc]; rfl

/-- Whether a change is no message to be heard, or a silent one. -/
def Change.isSilent : Change α → Bool
  | .hear m => m.isSilent
  | _ => true

/-- Silence lasts as long as all that is heard is silent. -/
theorem framesSilent_of_isSilent {cs : List (Change α)} (h : ∀ c ∈ cs, c.isSilent) :
    framesSilent true cs := by
  induction cs with
  | nil => rfl
  | cons c cs ih =>
      rw [List.forall_mem_cons] at h
      have hframe : c.isSilentFrame true := by cases c <;> rfl
      have hlasts : c.hush true = true := by
        cases c with
        | hear m => exact h.1
        | _ => rfl
      rw [framesSilent, hframe, hlasts, Bool.true_and]
      exact ih h.2

end Session

/-! ## Sessions in silence -/

open Exact

variable {K : Type} [Field K] [LinearOrder K] [FloorRing K] [Base K]

namespace Session

/-- A change keeps the extractor quiet as long as there is silence. -/
theorem quiet_change [IsStrictOrderedRing K] {silence : Bool} {s : Session (Exact K)}
    (h : silence → s.extractor.Quiet) (c : Change (Exact K)) (hc : c.hush silence) :
    (s.change c).extractor.Quiet := by
  cases c with
  | forget => exact .reset _
  | hear m =>
      obtain ⟨hsilence, hm⟩ := Bool.and_eq_true_iff.mp hc
      exact (h hsilence).ingest hm
  | frame dt => exact (h hc).tick dt _
  | resize width height =>
      rcases s.resize_cases width height with hs | hs <;> rw [change, hs] <;> exact h hc
  | resolve => rcases s.resolve_cases with hs | hs <;> rw [change, hs] <;> exact h hc
  | _ => exact h hc

/-- Where only silence has been heard the extractor is quiet. -/
theorem quiet_of_hushed [IsStrictOrderedRing K] {cs : List (Change (Exact K))} (h : hushed cs) :
    (cs.foldl change .initial).extractor.Quiet := by
  induction cs using List.reverseRecOn with
  | nil => exact .initial
  | append_singleton cs c ih =>
      have hc : c.hush (hushed cs) := by rwa [hushed, List.foldl_append] at h
      rw [List.foldl_append]
      exact quiet_change ih c hc

/-- A session that shows a shader with some bindings, and whose extractor is quiet if there is
silence. -/
structure Still (b : ActiveShader (Exact K)) (t : BindingTable (Exact K)) (silence : Bool)
    (s : Session (Exact K)) : Prop where
  active : s.active = some b
  bindings : s.bindings = t
  quiet : silence → s.extractor.Quiet

variable {b : ActiveShader (Exact K)} {t : BindingTable (Exact K)} {silence : Bool}
  {s : Session (Exact K)}

/-- In silence a still session presents what its bindings put out. -/
theorem Still.resolve (h : Still b t true s) (ht : t.AtRest) :
    s.resolve.2 = some (resolveUniforms b.transpiled.uniforms s.readings t.outputs) := by
  have hframe : s.frame.Quiet := (h.quiet rfl).frame
  rw [Engine.resolve_of_active h.active, h.bindings, BindingTable.computeAll,
    ht.advanceAll_eq_self hframe]

variable [IsStrictOrderedRing K]

/-- A session stays still, unless something is bound anew or bindings advance with the music. -/
theorem Still.change (h : Still b t silence s) (ht : t.AtRest) {c : Change (Exact K)}
    (hbound : c.rebinds = false) (hframe : c.isSilentFrame silence) :
    Still b t (c.hush silence) (s.change c) := by
  have hquiet := fun hc => quiet_change h.quiet c hc
  cases c with
  | edit x => cases hbound
  | install b saved => cases hbound
  | resize width height =>
      have hsame : (s.resize width height).active = s.active ∧
          (s.resize width height).bindings = s.bindings := by
        rcases s.resize_cases width height with hs | hs <;> rw [hs] <;> exact ⟨rfl, rfl⟩
      exact ⟨hsame.1.trans h.active, hsame.2.trans h.bindings, hquiet⟩
  | resolve =>
      have hrest : s.bindings.advanceAll s.frame = t := by
        rw [h.bindings]
        exact ht.advanceAll_eq_self (h.quiet hframe).frame
      refine ⟨?_, ?_, hquiet⟩ <;> rw [Session.change, Engine.resolve_of_active h.active]
      · exact h.active
      · exact hrest
  | _ => exact ⟨h.active, h.bindings, hquiet⟩

/-- A session stays still through silent frames. -/
theorem Still.changes (h : Still b t silence s) (ht : t.AtRest) {cs : List (Change (Exact K))}
    (hbound : ∀ c ∈ cs, c.rebinds = false) (hframes : framesSilent silence cs) :
    Still b t (cs.foldl Change.hush silence) (cs.foldl Session.change s) := by
  induction cs generalizing silence s with
  | nil => exact h
  | cons c cs ih =>
      rw [List.forall_mem_cons] at hbound
      rw [framesSilent, Bool.and_eq_true] at hframes
      exact ih (h.change ht hbound.1 hframes.1) hbound.2 hframes.2

end Session

/-! ## Defaults -/

/-- A number that fits a type is what a binding output of that type comes to. -/
theorem coerceScalar_of_fits [IsStrictOrderedRing K] {type : GlslType} {x : Exact K}
    (h : (UniformValue.number x).Fits type) : coerceScalar type x = some (.number x) := by
  cases h with
  | float => rfl
  | int hx => rw [coerceScalar, round_of_isWhole hx]

/-- Derived bindings at rest present the defaults of inputs whose default is in range. -/
theorem Transpiled.get?_resolveUniforms_of_derived [IsStrictOrderedRing K]
    {p : Transpiled (Exact K)} {dialect : Dialect} {raw : String} (hp : p = .ofSource dialect raw)
    (hrange : ∀ d ∈ p.inputs, d.inRange) (r : Readings (Exact K))
    {s : UniformSlot (Exact K)} (hs : s ∈ p.uniforms.slots) (horigin : s.origin = .input)
    (hname : s.name ≠ Header.reservedName) {v : UniformValue (Exact K)}
    (hv : s.defaultValue = some v) :
    Keyed.get? s.name (resolveUniforms p.uniforms r
      (BindingTable.empty.addAll (AutoBind.derive p.inputs) .auto).outputs) = some v := by
  have hsound : p.Sound := hp ▸ sound_ofSource dialect raw
  have huniforms : p.uniforms = UniformSet.compile p.inputs := by
    rw [hp]
    exact (ofSource_of_read rfl).2.1
  have hdistinct : (p.inputs.map (·.name)).Nodup := by
    rw [hp]
    exact ShaderSource.nodup_names_inputs rfl
  rw [get?_resolveUniforms _ _ _ hname, UniformSet.slot?_of_mem hs, Option.bind_some]
  rw [huniforms] at hs
  obtain ⟨d, hd, rfl⟩ := UniformSet.exists_input_of_mem_compile hs horigin
  have hdefault : d.defaultValue = some v := hv
  cases hbound : Keyed.get? d.name
      (BindingTable.empty.addAll (AutoBind.derive p.inputs) .auto).outputs with
  | none => simp [slotValue, UniformSet.inputSlot, hbound, hdefault]
  | some x =>
      obtain ⟨e, he, hself⟩ := List.mem_map.mp (Keyed.mem_of_get? hbound)
      obtain ⟨d', hd', rule, hrule, rfl⟩ := AutoBind.exists_input_of_mem he
      rw [Prod.mk.injEq] at hself
      obtain rfl : d' = d := List.inj_on_of_nodup_map hdistinct hd' hd hself.1
      obtain ⟨y, hnumber, hfits⟩ :=
        (hsound.inputs d' hd).exists_number (AutoBind.mem_rules_of_ruleFor? hrule).2
      obtain rfl : v = .number y := Option.some.inj (hdefault.symm.trans hnumber)
      obtain ⟨base, rfl⟩ := isFinite_iff.mp (hfits.isFinite y List.mem_cons_self)
      obtain rfl : number base = x :=
        (AutoBind.output_bind hrule hnumber (hrange d' hd)).symm.trans hself.2
      simp [slotValue, UniformSet.inputSlot, hbound, coerceScalar_of_fits hfits]

/-! ## Runs in silence -/

section

variable {α : Type} [Scalar α]

namespace Engine

/-- Whether an event is no message that comes in, or a silent one. -/
def Event.isSilent : Event α → Bool
  | .receive m => m.isSilent
  | _ => true

/-- A message that is carried out at once is not heard. -/
theorem isSilent_of_changesOf (m : Osc.Message α) :
    ∀ c ∈ Command.changesOf m, c.isSilent := by
  intro c hc
  obtain ⟨command, -, hcommand⟩ := Option.bind_eq_some_iff.mp (Option.mem_toList.mp hc)
  cases command <;> cases hcommand <;> rfl

/-- If the messages that wait are silent, whatever is heard is. -/
theorem isSilent_of_changes {e : Engine α} (h : ∀ m ∈ e.inbox.drain.audio, m.isSilent)
    (x : Event α) : ∀ c ∈ e.changes x, c.isSilent := by
  have hdue (dt : α) : ∀ c ∈ e.dueChanges dt, c.isSilent :=
    forall_dueChanges.mpr ⟨fun m _ => isSilent_of_changesOf m, h, rfl, rfl⟩
  cases x with
  | tick dt | brokenTick dt =>
      refine List.forall_mem_append.mpr ⟨hdue dt, ?_⟩
      simp [Session.Change.isSilent]
  | control m => exact isSilent_of_changesOf m
  | arrive t came =>
      intro c hc
      obtain ⟨saved, a, q, p, -, -, -, rfl⟩ := install_of_brought? (Option.mem_toList.mp hc)
      rfl
  | poll s =>
      simp only [changes]
      split <;> simp [Session.Change.isSilent]
  | _ => simp [changes, Session.Change.isSilent]

/-- If the messages that wait are silent, those that wait after a silent event are. -/
theorem isSilent_inbox_step {e : Engine α} (h : ∀ m ∈ e.inbox.drain.audio, m.isSilent)
    {x : Event α} (hx : x.isSilent) : ∀ m ∈ (e.step x).inbox.drain.audio, m.isSilent := by
  have hempty : ∀ m ∈ (Osc.Inbox.empty : Osc.Inbox α).drain.audio, m.isSilent := by
    intro m hm
    cases hm
  have hkept {e' : Engine α} (hsame : e'.inbox = e.inbox) :
      ∀ m ∈ e'.inbox.drain.audio, m.isSilent := by rwa [hsame]
  cases x with
  | tick dt =>
      rw [show (e.step (.tick dt)).inbox = .empty from
        (inbox_conclude _ dt _).trans (inbox_prepare e dt)]
      exact hempty
  | brokenTick dt =>
      rw [show (e.step (.brokenTick dt)).inbox = .empty from inbox_prepare e dt]
      exact hempty
  | receive m =>
      intro n hn
      obtain ⟨w, hw, rfl⟩ := List.mem_map.mp hn
      have hwaits {w : String × Osc.Message α} (hw : w ∈ e.inbox.audio) : w.2.isSilent :=
        h w.2 (List.mem_map_of_mem hw)
      change w ∈ (e.inbox.push m).audio at hw
      unfold Osc.Inbox.push at hw
      split at hw
      · rcases List.mem_append.mp hw with hw | hw
        · exact hwaits (List.mem_filter.mp hw).1
        · rw [List.mem_singleton.mp hw]
          exact hx
      · unfold Osc.Inbox.pushCommand at hw
        dsimp only at hw
        split at hw
        · cases hw
        · exact hwaits hw
  | control m => exact hkept (inbox_handle e m)
  | _ => exact hkept (hearing_step e _ rfl).2

end Engine

namespace Performance

/-- The changes that come of some events, from a moment of a performance on. -/
def changes (p : Performance α) : List (Engine.Event α) → List (Session.Change α)
  | [] => []
  | x :: xs => p.engine.changes x ++ changes (p.step x) xs

/-- Changes come one after the other. -/
theorem changes_append (p : Performance α) (xs ys : List (Engine.Event α)) :
    p.changes (xs ++ ys) = p.changes xs ++ (xs.foldl step p).changes ys := by
  induction xs generalizing p with
  | nil => rfl
  | cons x xs ih => rw [List.cons_append, changes, changes, ih, List.append_assoc]; rfl

/-- The session after some events is the one after their changes. -/
theorem session_foldl (p : Performance α) (xs : List (Engine.Event α)) :
    (xs.foldl step p).engine.session =
      (p.changes xs).foldl Session.change p.engine.session := by
  induction xs generalizing p with
  | nil => rfl
  | cons x xs ih =>
      rw [changes, List.foldl_append, ← (Engine.changes_step p.engine x).1]
      exact ih (p.step x)

/-- The session of a run is the one that its changes lead to. -/
theorem session_run_eq_foldl (shaderRoot : String) (xs : List (Engine.Event α)) :
    (run shaderRoot xs).engine.session =
      ((start shaderRoot).changes xs).foldl Session.change .initial :=
  session_foldl (start shaderRoot) xs

/-- Frames are silent if all messages that wait are, and all that come in. -/
theorem framesSilent_of_silent {p : Performance α}
    (hinbox : ∀ m ∈ p.engine.inbox.drain.audio, m.isSilent) {xs : List (Engine.Event α)}
    (hxs : ∀ x ∈ xs, x.isSilent) : Session.framesSilent true (p.changes xs) := by
  refine Session.framesSilent_of_isSilent ?_
  induction xs generalizing p with
  | nil => simp [changes]
  | cons x xs ih =>
      rw [List.forall_mem_cons] at hxs
      exact List.forall_mem_append.mpr ⟨Engine.isSilent_of_changes hinbox x,
        ih (p := p.step x) (Engine.isSilent_inbox_step hinbox hxs.1) hxs.2⟩

end Performance

end

namespace Performance

/-- What a tick presents joins what was presented before. -/
theorem presented_tick {α : Type} [Scalar α] {p : Performance α} (hout : p.engine.outbox = [])
    (dt : α) : Effect.presented (p.step (.tick dt)).asked =
      Effect.presented p.asked ++ (p.engine.due dt).resolve.2.toList := by
  have hstep := (Engine.changes_step p.engine (.tick dt)).2
  rw [hout] at hstep
  exact (Effect.presented_append _ _).trans (congrArg _ hstep)

/-- Some events happen after others and leave bindings alone: they edit none and install no
shader, and whenever bindings advance only silence has been heard since the music was last
forgotten, or ever. -/
structure Undisturbed {α : Type} [Scalar α] (shaderRoot : String)
    (before since : List (Engine.Event α)) : Prop where
  bound : ∀ c ∈ (run shaderRoot before).changes since, c.rebinds = false
  silent : Session.framesSilent (Session.hushed ((start shaderRoot).changes before))
    ((run shaderRoot before).changes since)

/-- Silent events leave bindings alone if they bind nothing anew: nothing but silence has been heard
or waits to be heard when they begin. -/
theorem Undisturbed.of_silent {α : Type} [Scalar α] {shaderRoot : String}
    {before since : List (Engine.Event α)}
    (hhushed : Session.hushed ((start shaderRoot).changes before))
    (hinbox : ∀ m ∈ (run shaderRoot before).engine.inbox.drain.audio, m.isSilent)
    (hsince : ∀ x ∈ since, x.isSilent)
    (hbound : ∀ c ∈ (run shaderRoot before).changes since, c.rebinds = false) :
    Undisturbed shaderRoot before since where
  bound := hbound
  silent := by
    rw [hhushed]
    exact framesSilent_of_silent hinbox hsince

variable [IsStrictOrderedRing K]

/-- A shader that is installed without saved bindings starts with those that are derived. -/
theorem still_of_installs {shaderRoot : String} {xs : List (Engine.Event (Exact K))} {t : Ticket}
    {saved : Except PresetError (Option (List (BindingSpec (Exact K))))}
    {b : ActiveShader (Exact K)} (hb : Installs shaderRoot xs (.arrive t (.preset saved)) b)
    (hsaved : ∀ spec specs, saved ≠ .ok (some (spec :: specs))) :
    let before := xs ++ [.arrive t (.preset saved)]
    Session.Still b (BindingTable.empty.addAll (AutoBind.derive b.transpiled.inputs) .auto)
      (Session.hushed ((start shaderRoot).changes before))
      (run shaderRoot before).engine.session := by
  intro before
  obtain ⟨_, _, hevent, hshows⟩ := Engine.install_of_step (outbox_run shaderRoot xs) hb
  cases hevent
  have hrun : (run shaderRoot before).engine.session =
      ((run shaderRoot xs).engine.step (.arrive t (.preset saved))).session := by
    rw [run_concat]
    rfl
  have hderived : BindingTable.restored b.transpiled saved =
      BindingTable.empty.addAll (AutoBind.derive b.transpiled.inputs) .auto := by
    rcases saved with problem | _ | _ | ⟨spec, specs⟩
    · rfl
    · rfl
    · rfl
    · exact absurd rfl (hsaved spec specs)
  have hquiet (h : Session.hushed ((start shaderRoot).changes before)) :
      (run shaderRoot before).engine.session.extractor.Quiet := by
    rw [session_run_eq_foldl]
    exact Session.quiet_of_hushed h
  exact ⟨hrun ▸ hshows.1, (hrun ▸ hshows.2).trans hderived, hquiet⟩

/-- A session that is left alone is still when the values of a tick are due, and there is silence
then. -/
theorem still_due {q : Performance (Exact K)} {b : ActiveShader (Exact K)}
    {table : BindingTable (Exact K)} {silence : Bool}
    (h : Session.Still b table silence q.engine.session) (htable : table.AtRest)
    {ys : List (Engine.Event (Exact K))} {dt : Exact K}
    (hbound : ∀ c ∈ q.changes (ys ++ [.tick dt]), c.rebinds = false)
    (hsilent : Session.framesSilent silence (q.changes (ys ++ [.tick dt]))) :
    Session.Still b table true ((ys.foldl step q).engine.due dt) := by
  let e := (ys.foldl step q).engine
  have hchanges : q.changes (ys ++ [.tick dt]) = (q.changes ys ++ e.dueChanges dt) ++
      [.resolve, .pass dt (e.due dt).resolve.2] := by
    rw [changes_append, changes, changes, List.append_nil, Engine.changes, List.append_assoc]
  rw [hchanges] at hbound hsilent
  rw [Session.framesSilent_append, Bool.and_eq_true] at hsilent
  have hdue := h.changes htable (fun c hc => hbound c (List.mem_append_left _ hc)) hsilent.1
  have hsilence : (q.changes ys ++ e.dueChanges dt).foldl Session.Change.hush silence = true :=
    (Bool.and_eq_true_iff.mp hsilent.2).1
  have hsession : (q.changes ys ++ e.dueChanges dt).foldl Session.change q.engine.session =
      e.due dt := by
    rw [List.foldl_append, ← session_foldl, Engine.due, (Engine.brings_due e dt).session]
  rwa [hsilence, hsession] at hdue

/-- Silence presents the declared defaults. A shader is installed without saved bindings, whatever
its source, and the default of each of its inputs that is a number lies within the limits that are
declared for it. As long as what happens since then leaves bindings alone, each tick presents each
input that has a default with exactly that. Everything else is free: broken ticks, other messages,
resets, knobs, and the times of ticks. -/
theorem presents_defaults_in_silence (shaderRoot : String) {xs ys : List (Engine.Event (Exact K))}
    {t : Ticket} {saved : Except PresetError (Option (List (BindingSpec (Exact K))))}
    {b : ActiveShader (Exact K)} (hb : Installs shaderRoot xs (.arrive t (.preset saved)) b)
    (hsaved : ∀ spec specs, saved ≠ .ok (some (spec :: specs)))
    (hrange : ∀ d ∈ b.transpiled.inputs, d.inRange) {dt : Exact K}
    (h : Undisturbed shaderRoot (xs ++ [.arrive t (.preset saved)]) (ys ++ [.tick dt])) :
    let p := ys.foldl step (run shaderRoot (xs ++ [.arrive t (.preset saved)]))
    ∃ vs, Effect.presented (p.step (.tick dt)).asked = Effect.presented p.asked ++ [vs] ∧
      ∀ s ∈ b.transpiled.uniforms.slots, s.origin = .input → s.name ≠ Header.reservedName →
        ∀ v, s.defaultValue = some v → Keyed.get? s.name vs = some v := by
  intro p
  let table := BindingTable.empty.addAll (AutoBind.derive b.transpiled.inputs) .auto
  have hrest : table.AtRest := AutoBind.atRest_derive b.transpiled.inputs
  have hinstalled := still_of_installs hb hsaved
  have hdue := still_due hinstalled hrest h.bound h.silent
  have hout : p.engine.outbox = [] := by
    rw [show p = run shaderRoot _ from (List.foldl_append ..).symm, outbox_run]
  obtain ⟨raw, hraw⟩ := (programs_run shaderRoot _).2 b hinstalled.active
  have hvalues := hdue.resolve hrest
  refine ⟨resolveUniforms b.transpiled.uniforms (p.engine.due dt).readings table.outputs, ?_, ?_⟩
  · rw [presented_tick hout dt, hvalues, Option.toList_some]
  intro s hs horigin hname v hv
  exact Transpiled.get?_resolveUniforms_of_derived hraw hrange _ hs horigin hname hv

/-! ## A show without music -/

/-- A source with an input of each type that can be bound, one of them with a default that is
rounded and one with limits. -/
def glowSource : String :=
  "/*\x7b\"INPUTS\":[" ++
  "\x7b\"NAME\":\"glow\",\"TYPE\":\"float\",\"DEFAULT\":0.5,\"MIN\":0.25,\"MAX\":0.75\x7d," ++
  "\x7b\"NAME\":\"beats\",\"TYPE\":\"int\",\"DEFAULT\":2.6\x7d]\x7d*/" ++
  "void main()\x7b\x7d"

/-- Loud music is heard and forgotten, and the source is compiled. -/
def afterTheMusic : List (Engine.Event (Exact ℚ)) :=
  [.rescan ⟨[⟨"a", "shaders/a.fs", "a.fs", .isf⟩], .missing⟩,
    .receive ⟨Audio.Address.level, [.num 1.0]⟩, .tick 0.1,
    .control ⟨Audio.Address.reset, []⟩, .activate .activation "a",
    .arrive 0 (.source (.ok glowSource)), .arrive 0 (.program ⟨0⟩ (.ok ()))]

/-- Silent messages come in, a knob is turned, and a tick breaks off. -/
def quietPassage : List (Engine.Event (Exact ℚ)) :=
  [.receive ⟨Audio.Address.levels, List.replicate 8 (.num 0.0)⟩, .tick 0.1,
    .setControls ⟨none, some (-1.0), none⟩, .receive ⟨Audio.Address.onBeat, [.bool false]⟩,
    .brokenTick 5.0]

/-- After the music the source is installed, and its defaults are in range. -/
theorem exists_installs_afterTheMusic :
    ∃ b, Installs "shaders" afterTheMusic (.arrive 0 (.preset (.ok none))) b ∧
      ∀ d ∈ b.transpiled.inputs, d.inRange := by
  have hfacts : (Effect.installs ((run "shaders" afterTheMusic).engine.step
        (.arrive 0 (.preset (.ok none)))).outbox).any
      (fun b => b.transpiled.inputs.all InputDeclaration.inRange) := by decide +kernel
  obtain ⟨b, hb, hrange⟩ := List.any_eq_true.mp hfacts
  exact ⟨b, hb, List.all_eq_true.mp hrange⟩

/-- The quiet passage leaves alone what is bound then. -/
theorem undisturbed_quietPassage :
    Undisturbed "shaders" (afterTheMusic ++ [.arrive 0 (.preset (.ok none))])
      (quietPassage ++ [.tick 2.0]) := by
  let q := run "shaders" (afterTheMusic ++ [.arrive 0 (.preset (.ok none))])
  have hfacts : Session.hushed ((start "shaders").changes
        (afterTheMusic ++ [.arrive 0 (.preset (.ok none))])) ∧
      (∀ m ∈ q.engine.inbox.drain.audio, m.isSilent) ∧
      ∀ c ∈ q.changes (quietPassage ++ [.tick 2.0]), c.rebinds = false := by decide +kernel
  exact .of_silent hfacts.1 hfacts.2.1 (by decide +kernel) hfacts.2.2

/-- In the quiet passage the defaults of that source are presented. -/
theorem presents_defaults_in_quietPassage :
    let before := afterTheMusic ++ [.arrive 0 (.preset (.ok none))]
    let p := quietPassage.foldl step (run "shaders" before)
    ∃ b, Installs "shaders" afterTheMusic (.arrive 0 (.preset (.ok none))) b ∧
      (∀ d ∈ b.transpiled.inputs, d.inRange) ∧
      Undisturbed "shaders" before (quietPassage ++ [.tick 2.0]) ∧
      ∃ vs, Effect.presented (p.step (.tick 2.0)).asked = Effect.presented p.asked ++ [vs] ∧
        ∀ s ∈ b.transpiled.uniforms.slots, s.origin = .input → s.name ≠ Header.reservedName →
          ∀ v, s.defaultValue = some v → Keyed.get? s.name vs = some v := by
  obtain ⟨b, hb, hrange⟩ := exists_installs_afterTheMusic
  exact ⟨b, hb, hrange, undisturbed_quietPassage,
    presents_defaults_in_silence "shaders" hb (by simp) hrange undisturbed_quietPassage⟩

/-- Both ticks of the quiet passage present the defaults, the one of the whole number rounded. -/
example : ["glow", "beats"].map (fun name =>
      shownNumbers name (afterTheMusic ++ [.arrive 0 (.preset (.ok none))] ++ quietPassage ++
        [.tick 2.0])) =
    [[some [.number 0.5], some [.number 0.5]], [some [.number 3], some [.number 3]]] := by
  decide +kernel

end Performance

end LiveVisuals
