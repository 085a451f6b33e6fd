import LiveVisuals.Proofs.Files.Frame
import LiveVisuals.Proofs.Rig.Restored
import LiveVisuals.Proofs.Shader.Lookup

/-!
# Files that are kept for a shader

Saved bindings and pictures are kept in files that are named after a shader. The file name keeps
some characters only, and nothing of the dialect, so two shaders may share their files. Those
that do not share them do not get into each other's way: saving the bindings of one does not
change what another starts with, and a picture of one is not taken for one of another.

Main definitions:

- {lit}`Rig.Restores`: what a shader starts with, as long as its file is left alone.
- {lit}`Rig.withPicture`: a rig after somebody has put a picture of a shader on its disk.

Main results:

- Theorem {lit}`FileName.join_safe`: the file of a shader is an entry of the directory.
- Theorems {lit}`Preset.fileFor_inj`, {lit}`CaptureScheduler.file_inj`: files are told apart by
  the characters they keep.
- Theorem {lit}`Rig.sidecars_apart`: shaders with files of their own leave each other alone.
- Theorem {lit}`Rig.sidecars_shared`: shaders of one name in both dialects do not.
-/

namespace LiveVisuals

/-! ## The names of the files -/

namespace FileName

/-- A file name has no slashes. -/
theorem not_mem_safe (name : String) : '/' ∉ (safe name).toList := by
  intro hmem
  have hsub : (safe name).toList.Sublist (name.toList.flatMap safeChar) := by
    rw [safe, String.toList_ofList]
    exact (Text.trimEnd_sublist _).trans (List.dropWhile_sublist _)
  obtain ⟨c, -, hc⟩ := List.mem_flatMap.mp (hsub.subset hmem)
  unfold safeChar at hc
  split at hc
  · next hsafe =>
      obtain rfl : '/' = c := List.mem_singleton.mp hc
      exact absurd hsafe (by decide)
  · split at hc <;> simp at hc

/-- The file of a shader is an entry of the directory that it is kept in. -/
theorem join_safe (dir : Files.Path) (name : String) {ext : String} (hslash : '/' ∉ ext.toList)
    (hlong : 2 < ext.length) : dir.join (safe name ++ ext) = dir ++ [safe name ++ ext] := by
  have hlength : 2 < (safe name ++ ext).length := by
    rw [String.length_append]
    omega
  have hshort : ∀ s : String, s.length ≤ 2 → safe name ++ ext ≠ s := by
    intro s hs heq
    rw [heq] at hlength
    omega
  refine Files.Path.join_of_name dir ?_ (hshort _ (by decide)) (hshort _ (by decide))
    (hshort _ (by decide))
  rw [String.toList_append, List.mem_append]
  exact not_or.mpr ⟨not_mem_safe name, hslash⟩

end FileName

namespace Preset

theorem fileFor_eq (dir : Files.Path) (shader : String) :
    fileFor dir shader = dir ++ [FileName.safe shader ++ ".json"] :=
  FileName.join_safe dir shader (by decide) (by decide)

/-- Two shaders share the file of their saved bindings if and only if their names keep the same
characters. -/
theorem fileFor_inj {dir : Files.Path} {shader other : String} :
    fileFor dir shader = fileFor dir other ↔ FileName.safe shader = FileName.safe other := by
  simp [fileFor_eq]

end Preset

namespace CaptureScheduler

theorem file_eq (dir : Files.Path) (shader : String) :
    file dir shader = dir ++ [FileName.safe shader ++ ".png"] :=
  FileName.join_safe dir shader (by decide) (by decide)

/-- Two shaders share the file of their picture if and only if their names keep the same
characters. -/
theorem file_inj {dir : Files.Path} {shader other : String} :
    file dir shader = file dir other ↔ FileName.safe shader = FileName.safe other := by
  simp [file_eq]

end CaptureScheduler

/-! ## Writing one of the files -/

namespace Preset

variable {α : Type} [Scalar α]

/-- What a shader starts with depends on what is in its file. -/
theorem restored_load {dir : Files.Path} {shader : String} {root root' : Files.Node}
    (h : root'.at? (fileFor dir shader) = root.at? (fileFor dir shader)) (p : Transpiled α) :
    BindingTable.restored p (load dir shader root') =
      .restored p (load dir shader root) := by
  have hauto : ∀ {root : Files.Node}, root.at? (fileFor dir shader) = none →
      BindingTable.restored p (load dir shader root) =
        BindingTable.empty.addAll (AutoBind.derive p.inputs) .auto := by
    intro root hnone
    unfold Files.Node.at? at hnone
    cases hfind : root.find (fileFor dir shader) with
    | ok n =>
        rw [hfind] at hnone
        cases hnone
    | error e =>
        rw [load, Files.Node.read, hfind]
        cases e <;> rfl
  cases hroot : root.at? (fileFor dir shader) with
  | none => rw [hauto hroot, hauto (h.trans hroot)]
  | some n =>
      have hfind : ∀ {root : Files.Node}, root.at? (fileFor dir shader) = some n →
          root.find (fileFor dir shader) = .ok n := by
        intro root hsome
        unfold Files.Node.at? at hsome
        cases hfind : root.find (fileFor dir shader) with
        | ok m =>
            rw [hfind] at hsome
            exact congrArg _ (Option.some.inj hsome)
        | error e =>
            rw [hfind] at hsome
            cases hsome
      rw [load, load, Files.Node.read, Files.Node.read, hfind hroot, hfind (h.trans hroot)]

end Preset

namespace Disk

/-- A file that is changed leaves others in its directory alone. -/
theorem at?_changeFile (d : Disk) {dir : Files.Path} {name other : String} (hne : other ≠ name)
    (f : String → String) :
    (d.changeFile dir (dir ++ [name]) f).1.root.at? (dir ++ [other]) =
      d.root.at? (dir ++ [other]) := by
  cases hmade : Files.Node.makeDirectories d.now dir d.root with
  | error e => simp only [changeFile, ensureDirectory, apply, hmade]
  | ok made =>
      have hleft := Files.Node.at?_makeDirectories hmade other []
      cases hwrite : Files.Node.write (now ⟨d.home, made, d.second⟩) f (dir ++ [name]) made with
      | error e => simpa only [changeFile, ensureDirectory, apply, hmade, hwrite] using hleft
      | ok root =>
          have hbeside := Files.Node.at?_write_of_ne hne hmade hwrite
          simpa only [changeFile, ensureDirectory, apply, hmade, hwrite] using hbeside

/-- Saved bindings of a shader leave those of others alone. -/
theorem at?_savePreset {α : Type} [Scalar α] (d : Disk) (dir : Files.Path)
    {shader other : String} (hne : FileName.safe shader ≠ FileName.safe other)
    (savedAt : Timestamp) (specs : List (BindingSpec α)) :
    (d.savePreset dir shader savedAt specs).1.root.at? (Preset.fileFor dir other) =
      d.root.at? (Preset.fileFor dir other) := by
  rw [savePreset, Preset.fileFor_eq, Preset.fileFor_eq]
  refine at?_changeFile d ?_ _
  intro heq
  exact hne (by simpa using heq.symm)

end Disk

namespace Rig

section

variable {α : Type} [Scalar α]

/-- What a shader starts with when it is activated later, by an activation that is the newest
when it gets to the saved bindings, if the file of the shader has been left alone. -/
def Restores (r : Rig α) (d : Descriptor)
    (saved : Except PresetError (Option (List (BindingSpec α)))) : Prop :=
  ∀ {s : Rig α} {t : Ticket} {a : Activation α} {q : Quest} {p : Transpiled α},
    s.setup.presetDir = r.setup.presetDir →
    (∀ dir, r.setup.presetDir = some dir →
      s.disk.read (Preset.fileFor dir d.name) = r.disk.read (Preset.fileFor dir d.name)) →
    s.engine.activation? t = some a → a.stage = .restoring q p → q.descriptor = d →
    s.engine.isOutdated q = false →
    (s.work (.loadPreset t d.name)).engine.Shows ⟨d, p, q.generation⟩ saved

/-- A shader starts with what its file holds, or with the like. -/
theorem restores_of_restored {r : Rig α} {d : Descriptor}
    {saved : Except PresetError (Option (List (BindingSpec α)))}
    (h : ∀ p : Transpiled α,
      BindingTable.restored p (r.savedBindings d.name) = .restored p saved) :
    r.Restores d saved := by
  rintro s t a q p hdir hread ha hstage rfl hnewest
  have hsame : s.savedBindings q.descriptor.name = r.savedBindings q.descriptor.name := by
    rw [savedBindings, savedBindings, hdir]
    cases hpreset : r.setup.presetDir with
    | none => rfl
    | some dir =>
        have hfile := hread dir hpreset
        rw [Disk.read, Disk.read] at hfile
        simp only [Preset.load, hfile]
  have hwork : s.work (.loadPreset t q.descriptor.name) =
      s.act (·.presetLoaded t (s.savedBindings q.descriptor.name)) := rfl
  have hshows := Engine.shows_of_restoring ha hstage hnewest (s.savedBindings q.descriptor.name)
  rw [hwork, engine_act, Engine.Shows]
  refine ⟨hshows.1, hshows.2.trans ?_⟩
  rw [hsame]
  exact h p

/-- Saving the bindings of a shader changes nothing of what another starts with that has a file
of its own. -/
theorem restored_saveBindings {r : Rig α} {shader other : String}
    (hactive : r.engine.session.activeName? = some shader)
    (hne : FileName.safe shader ≠ FileName.safe other) (p : Transpiled α) :
    BindingTable.restored p (r.saveBindings.1.savedBindings other) =
      .restored p (r.savedBindings other) := by
  unfold saveBindings Engine.toSave?
  rw [hactive]
  cases hdir : r.setup.presetDir with
  | none => rfl
  | some dir =>
      simp only [Option.map_some, savedBindings, hdir]
      exact Preset.restored_load (r.disk.at?_savePreset dir hne _ _) p

/-- A rig after somebody has put a picture of a shader on its disk. -/
def withPicture (r : Rig α) (wanted : Option Nat) (shader content : String) : Rig α :=
  match r.setup.captureDir with
  | some dir =>
      let picture := CaptureScheduler.file dir shader
      { r with
        disk := (r.disk.change wanted fun time root => root.writeThrough time content picture).1 }
  | none => r

omit [Scalar α] in
/-- A picture of a shader is not taken for one of another that has a file of its own. -/
theorem hasPicture_withPicture {r : Rig α} {shader other : String}
    (hne : FileName.safe shader ≠ FileName.safe other) (wanted : Option Nat) (content : String) :
    (r.withPicture wanted shader content).hasPicture other = r.hasPicture other := by
  unfold withPicture
  cases hdir : r.setup.captureDir with
  | none => rfl
  | some dir =>
      have hfile : FileName.safe other ++ ".png" ≠ FileName.safe shader ++ ".png" := by
        simpa using hne.symm
      simp only [hasPicture, hdir, Option.any_some, Files.Node.has_eq_isSome_at?,
        CaptureScheduler.file_eq, Disk.change]
      split
      · next root hwrite => rw [Files.Node.at?_writeThrough_of_ne hfile hwrite]
      · rfl

/-- Shaders of whose names different characters are kept have files of their own, and leave each
other alone. Whether the bindings of one are saved or not, another starts with the same bindings
when it is activated later, and it has its first picture taken, whether there is one of the other or
not. -/
theorem sidecars_apart {r : Rig α} {d d' : Descriptor}
    (hactive : r.engine.session.activeName? = some d.name)
    (hapart : FileName.safe d.name ≠ FileName.safe d'.name) :
    let saved := r.savedBindings d'.name
    (∀ dir, Preset.fileFor dir d.name ≠ Preset.fileFor dir d'.name ∧
      CaptureScheduler.file dir d.name ≠ CaptureScheduler.file dir d'.name) ∧
    r.Restores d' saved ∧ r.saveBindings.1.Restores d' saved ∧
      ∀ wanted content, r.hasPicture d'.name = false →
        let drawn := r.withPicture wanted d.name content
        drawn.work (.checkCapture d'.name) = drawn.requestCapture d'.name := by
  intro saved
  refine ⟨fun dir => ⟨mt Preset.fileFor_inj.mp hapart, mt CaptureScheduler.file_inj.mp hapart⟩,
    restores_of_restored fun p => rfl,
    restores_of_restored (restored_saveBindings hactive hapart), ?_⟩
  intro wanted content hmissing drawn
  have hnone : drawn.hasPicture d'.name = false :=
    (hasPicture_withPicture hapart wanted content).trans hmissing
  rw [work, hnone]
  rfl

end

/-! ### Two shaders -/

/-- A binding that somebody asks for. -/
def asked : BindingSpec Float := ⟨"x", "bass", "add", 2.0, 0.5, 0.0, -1.0, 1.0⟩

/-- A rig with an empty disk that has found a shader and another one. It shows the first of them,
with a binding that has been added. -/
def beside (other : Descriptor) : Rig Float :=
  let setup : Setup Float :=
    { renderer := .bench, failures := [], captureRefusal := none, shaderDir := ["shaders"],
      presetDir := some ["bindings"], captureDir := some ["captures"],
      errorLog := ["errors.jsonl"], captureDelay := 0.0, compileLimit := 0.0, pollInterval := 0.0,
      busyPorts := [], start := ⟨0⟩ }
  let scan : Scan := { descriptors := [waves, other], signature := .tree 2 1 }
  let events := .rescan scan :: approach 0 ++ [.arrive 0 (.preset (.ok none)), .addBinding asked]
  { Rig.new setup (.empty "") 0 with engine := (Performance.run "shaders" events).engine }

/-- The other shader is activated, by its address, until it waits for its saved bindings. -/
def visiting (other : Descriptor) (r : Rig Float) : Rig Float :=
  ([.activate .activation other.address, .arrive 1 (.source (.ok "void main(){}")),
    .arrive 1 (.program ⟨0⟩ (.ok ()))] : List (Engine.Event Float)).foldl
      (fun r x => r.act (·.step x)) r

/-- Another shader with a name of its own. -/
def sparks : Descriptor := ⟨"b", "shaders/b.glsl", "b.glsl", .glsl⟩

/-- Another shader with the same name, in the other dialect. -/
def ripples : Descriptor := ⟨"a", "shaders/a.glsl", "a.glsl", .glsl⟩

theorem Keeps.visiting (file : Files.Path) (other : Descriptor) (r : Rig Float) :
    r.Keeps file (visiting other r) :=
  (Keeps.refl file r).events _

/-- The way to the saved bindings does not depend on the disk. -/
theorem engine_visiting (other : Descriptor) {r r' : Rig Float} (h : r.engine = r'.engine) :
    (visiting other r).engine = (visiting other r').engine := by
  simp only [visiting, List.foldl_cons, List.foldl_nil, engine_act, h]

theorem engine_saveBindings (r : Rig Float) : r.saveBindings.1.engine = r.engine := by
  unfold saveBindings
  split <;> rfl

/-- Nothing has been saved on an empty disk. -/
theorem savedBindings_beside (other : Descriptor) (shader : String) :
    (beside other).savedBindings shader = .ok none := by
  have hdir : (beside other).setup.presetDir = some ["bindings"] := rfl
  rw [savedBindings, hdir]
  simp only [Preset.load, Preset.fileFor_eq]
  rfl

/-- There are no pictures on an empty disk. -/
theorem hasPicture_beside (other : Descriptor) (shader : String) :
    (beside other).hasPicture shader = false := by
  have hdir : (beside other).setup.captureDir = some ["captures"] := rfl
  rw [hasPicture, hdir, Option.any_some, CaptureScheduler.file_eq]
  rfl

/-- The other shader, with a name of its own, waits for its saved bindings. -/
theorem waits_sparks :
    (visiting sparks (beside sparks)).engine.activation? 1 = some ⟨1, "glsl/b", .activation,
      .restoring ⟨2, sparks⟩ (.ofSource .glsl "void main()\x7b\x7d")⟩ ∧
      (visiting sparks (beside sparks)).engine.isOutdated ⟨2, sparks⟩ = false :=
  ⟨rfl, by decide +kernel⟩

/-- Another shader starts without bindings, though some have been saved for the one before it, and
it has its first picture taken, though there is one of that. -/
theorem sidecars_apart_sparks :
    let r := beside sparks
    let revisited := (visiting sparks r.saveBindings.1).work (.loadPreset 1 sparks.name)
    let drawn := r.withPicture none waves.name ""
    r.engine.session.activeName? = some waves.name ∧
      FileName.safe waves.name ≠ FileName.safe sparks.name ∧
      revisited.engine.session.bindings = .empty ∧
      drawn.work (.checkCapture sparks.name) = drawn.requestCapture sparks.name := by
  dsimp only
  have hactive : (beside sparks).engine.session.activeName? = some waves.name := by decide +kernel
  have hapart : FileName.safe waves.name ≠ FileName.safe sparks.name := by decide
  have happly := sidecars_apart hactive hapart
  have hengine := engine_visiting sparks (engine_saveBindings (beside sparks))
  have hkeeps (file : Files.Path) := Keeps.visiting file sparks (beside sparks).saveBindings.1
  have hshows := happly.2.2.1 (hkeeps []).dir (fun dir _ => (hkeeps _).content)
    (hengine ▸ waits_sparks.1) rfl rfl (hengine ▸ waits_sparks.2)
  refine ⟨hactive, hapart, ?_, happly.2.2.2 none "" (hasPicture_beside _ _)⟩
  rw [hshows.2, savedBindings_beside]
  rfl

/-! ### Two shaders with one name -/

/-- A directory with shaders of one name in both dialects. -/
def twinTree : Files.Node :=
  .directory [("a.fs", .file wavesSource 1), ("a.glsl", .file "void main()\x7b\x7d" 1)] 1

/-- A scan finds both of them. -/
theorem ofNode_twinTree :
    Scan.ofNode "shaders" (.ok twinTree) = .ok ⟨[waves, ripples], .tree 2 1⟩ := by
  have hwalk : Walk.visitAll (Walk.start.meet 1) []
      [("a.fs", .file wavesSource 1), ("a.glsl", .file "void main()\x7b\x7d" 1)] =
        ⟨[.mk "a.fs" [], .mk "a.glsl" []], 1⟩ := rfl
  have hfiles : [FoundFile.mk "a.fs" [], .mk "a.glsl" []].mergeSort
      (fun f g => !g.place.lex f.place (· < ·)) = [.mk "a.fs" [], .mk "a.glsl" []] :=
    List.mergeSort_of_pairwise (by decide +kernel)
  have hfound : [FoundFile.mk "a.fs" [], .mk "a.glsl" []].filterMap
      (Scan.descriptor? "shaders") = [waves, ripples] := by decide +kernel
  have harrange : Scan.arrange [waves, ripples] = [waves, ripples] := by
    simp [Scan.arrange, Scan.ofDialect, Scan.firstOfEachName, waves, ripples]
  simp only [Scan.ofNode, twinTree, hwalk, hfiles, hfound, harrange]
  rfl

/-- The shader of the other dialect waits for its saved bindings. -/
theorem waits_ripples :
    (visiting ripples (beside ripples)).engine.activation? 1 = some ⟨1, "glsl/a", .activation,
      .restoring ⟨2, ripples⟩ (.ofSource .glsl "void main()\x7b\x7d")⟩ ∧
      (visiting ripples (beside ripples)).engine.isOutdated ⟨2, ripples⟩ = false :=
  ⟨rfl, by decide +kernel⟩

/-- The binding that is derived for the shader that is shown. -/
def derivedSpeed : BindingSpec Float :=
  ⟨"speed", "energy_fast", "multiply", 1.0, 0.6, 1.0, 0.0, 4.0⟩

theorem toList_beside_ripples : (beside ripples).engine.session.bindings.toList =
    [⟨derivedSpeed, .auto⟩, ⟨asked, .explicit⟩] := by
  decide +kernel

theorem storable_beside_ripples :
    ∀ b ∈ (beside ripples).engine.session.bindings.toList, b.toBindingSpec.Storable := by
  rw [toList_beside_ripples, List.forall_mem_cons, List.forall_mem_singleton]
  refine ⟨⟨?_, ?_, ?_, ?_⟩, ?_, ?_, ?_, ?_⟩ <;> decide

theorem readsBack_beside_ripples :
    ∀ b ∈ (beside ripples).engine.session.bindings.toList, ∀ x ∈ b.numbers,
      (Json.num x).ReadsBack := by
  rw [toList_beside_ripples, List.forall_mem_cons, List.forall_mem_singleton]
  simp only [derivedSpeed, asked, BindingSpec.numbers, List.forall_mem_cons]
  refine ⟨⟨?_, ?_, ?_, ?_, ?_, List.forall_mem_nil _⟩, ?_, ?_, ?_, ?_, ?_,
    List.forall_mem_nil _⟩ <;> rfl

theorem saveBindings_beside_ripples :
    (beside ripples).saveBindings = ((beside ripples).saveBindings.1, .ok "/bindings/a.json") := by
  have hactive : (beside ripples).engine.session.activeName? = some "a" := by decide +kernel
  have hsaved : (beside ripples).engine.toSave? =
      some ("a", (beside ripples).engine.session.bindings.toList.map (·.toBindingSpec)) := by
    rw [Engine.toSave?, hactive]
    rfl
  have hdir : (beside ripples).setup.presetDir = some ["bindings"] := rfl
  refine Prod.ext rfl ?_
  rw [saveBindings, hsaved, hdir]
  simp only [Disk.savePreset, fileFor_waves]
  rfl

/-- The other shader starts with the bindings that have been saved for the first. -/
theorem bindings_of_saved_ripples :
    ((visiting ripples (beside ripples).saveBindings.1).work
      (.loadPreset 1 ripples.name)).engine.session.bindings.toList =
        [⟨derivedSpeed, .explicit⟩, ⟨asked, .explicit⟩] := by
  have hactive : (beside ripples).engine.session.activeName? = some ripples.name := by
    decide +kernel
  have hengine := engine_visiting ripples (engine_saveBindings (beside ripples))
  have hshows := shows_of_saved saveBindings_beside_ripples storable_beside_ripples
    (fun b hb x hx _ => readsBack_beside_ripples b hb x hx) rfl hactive
    (Keeps.visiting _ ripples _) (hengine ▸ waits_ripples.1) rfl (hengine ▸ waits_ripples.2)
  rw [toList_beside_ripples] at hshows
  have hrestored (p : Transpiled Float) : BindingTable.restored p (.ok (some
      ([⟨derivedSpeed, .auto⟩, ⟨asked, .explicit⟩].map fun b : Binding Float =>
        b.toBindingSpec))) = BindingTable.empty.addAll [derivedSpeed, asked] .explicit := rfl
  have hadded : (BindingTable.empty.addAll [derivedSpeed, asked] .explicit).toList =
      [⟨derivedSpeed, .explicit⟩, ⟨asked, .explicit⟩] := by
    decide +kernel
  exact (congrArg BindingTable.toList (hshows.2.trans (hrestored _))).trans hadded

/-- Shaders of one name in both dialects share their files. If the bindings of one have been
saved, the other starts with them, and if there is a picture of one, none is taken of the
other. -/
theorem sidecars_shared :
    let r := beside ripples
    let start (s : Rig Float) := (s.work (.loadPreset 1 ripples.name)).engine.session.bindings
    let drawn := r.withPicture none waves.name ""
    Scan.ofNode "shaders" (.ok twinTree) = .ok ⟨[waves, ripples], .tree 2 1⟩ ∧
      waves ≠ ripples ∧ r.AtWork ∧
      r.engine.session.active.map (·.descriptor) = some waves ∧
      (start (visiting ripples r)).toList = [] ∧
      (start (visiting ripples r.saveBindings.1)).toList =
        [⟨derivedSpeed, .explicit⟩, ⟨asked, .explicit⟩] ∧
      r.hasPicture ripples.name = false ∧ drawn.work (.checkCapture ripples.name) = drawn := by
  dsimp only
  have hactive : (beside ripples).engine.session.active.map (·.descriptor) = some waves := by
    decide +kernel
  have hfresh : (beside ripples).Restores ripples ((beside ripples).savedBindings ripples.name) :=
    restores_of_restored fun p => rfl
  have hkeeps (file : Files.Path) := Keeps.visiting file ripples (beside ripples)
  have hshows := hfresh (hkeeps []).dir (fun dir _ => (hkeeps _).content) waits_ripples.1 rfl rfl
    waits_ripples.2
  have hpicture :
      ((beside ripples).withPicture none waves.name "").hasPicture ripples.name = true := by
    have hdir : (beside ripples).setup.captureDir = some ["captures"] := rfl
    simp only [withPicture, hdir, hasPicture, Option.any_some, CaptureScheduler.file_eq]
    rfl
  refine ⟨ofNode_twinTree, by decide, ⟨_, _, rfl⟩, hactive, ?_, bindings_of_saved_ripples,
    hasPicture_beside _ _, ?_⟩
  · rw [hshows.2, savedBindings_beside]
    rfl
  · rw [work, hpicture]
    rfl

end Rig

end LiveVisuals
