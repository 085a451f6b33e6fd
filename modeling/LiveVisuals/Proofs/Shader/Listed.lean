import LiveVisuals.Proofs.Files.Listing
import LiveVisuals.Proofs.Shader.Addressed

/-!
# Which shaders a scan lists

A scan lists a shader for each file that names which are not hidden lead to and whose extension
is that of a dialect. Where several files of one dialect go by one name, whatever the case, it
lists the one whose path comes first. The list is in the order of names, ISF shaders ahead, and
does not depend on the order in which directories list their entries.

Main definitions:

- {lit}`Descriptor.IsOf`: a descriptor is that of the file at a path.
- {lit}`Scan.Finds`: a descriptor is that of a file that a scan reaches.
- {lit}`Scan.Canonical`: what the shaders of a scan are, given those that it reaches.
- {lit}`Files.Node.Listable`: paths are told apart by their texts, and by the order of names.

Main results:

- Theorem {lit}`Scan.descriptor?_eq_some_iff`: the descriptor that is made of a file.
- Theorem {lit}`Scan.exists_mem_firstOfEachName`: of sorted shaders the first of each name is kept.
- Theorem {lit}`Scan.arrange_eq_of_perm`: the list of shaders does not depend on the order of files.
- Theorem {lit}`Scan.canonical_of_listable`: which shaders a scan lists, and in which order.
-/

namespace LiveVisuals

/-! ## Extensions of file names -/

namespace FileName

/-- The extensions of a dialect, in lower case. -/
def extensions : Dialect → List String
  | .isf => [".fs"]
  | .glsl => [".txt", ".glsl", ".frag"]

theorem dialect?_eq_some_iff {ext : List Char} {dialect : Dialect} :
    dialect? ext = some dialect ↔ String.ofList (Text.lower ext) ∈ extensions dialect := by
  unfold dialect?
  split <;> cases dialect <;> simp_all [extensions]

/-- A name is split before its last dot, if something stands ahead of that. -/
theorem split_of_dot {stem ext : List Char} (hstem : stem ≠ []) (hext : '.' ∉ ext)
    (hdots : stem ++ '.' :: ext ≠ ['.', '.']) :
    split (stem ++ '.' :: ext) = (stem, '.' :: ext) := by
  have hreverse : (stem ++ '.' :: ext).reverse = ext.reverse ++ '.' :: stem.reverse := by simp
  have hplain : ∀ c ∈ ext.reverse, (c != '.') = true := by
    intro c hc
    rw [List.mem_reverse] at hc
    exact bne_iff_ne.mpr fun heq => hext (heq ▸ hc)
  have htake : (stem ++ '.' :: ext).reverse.takeWhile (· != '.') = ext.reverse := by
    rw [hreverse, List.takeWhile_append_of_pos hplain]
    simp
  have hdrop : (stem ++ '.' :: ext).reverse.dropWhile (· != '.') = '.' :: stem.reverse := by
    rw [hreverse, List.dropWhile_append_of_pos hplain]
    simp
  simp only [split, htake, hdrop]
  simp [hstem, hdots]

/-- A name is split before its last dot, or not at all. -/
theorem split_cases (name : List Char) :
    split name = (name, []) ∨
      ∃ stem ext, stem ≠ [] ∧ '.' ∉ ext ∧ name = stem ++ '.' :: ext ∧
        split name = (stem, '.' :: ext) := by
  have happend := split_append name
  have hext : '.' ∉ (name.reverse.takeWhile (· != '.')).reverse := by
    intro hmem
    simpa using List.mem_takeWhile_imp (List.mem_reverse.mp hmem)
  cases hdrop : name.reverse.dropWhile (· != '.') with
  | nil =>
      left
      simp [split, hdrop]
  | cons dot stem =>
      by_cases hwhole : stem = [] ∨ name = ['.', '.']
      · left
        simp [split, hdrop, hwhole]
      · right
        have hsplit : split name =
            (stem.reverse, '.' :: (name.reverse.takeWhile (· != '.')).reverse) := by
          simp [split, hdrop, hwhole]
        rw [hsplit] at happend
        refine ⟨stem.reverse, _, ?_, hext, happend.symm, hsplit⟩
        simpa using fun hnil => hwhole (.inl hnil)

end FileName

/-! ## Descriptors of files -/

/-- A descriptor is that of the file at a path: its name is what stands ahead of the last dot of
the file name, and behind it stands an extension of the dialect, in any letter case. -/
structure Descriptor.IsOf (root : String) (path : Files.Path) (d : Descriptor) : Prop where
  name_ne : d.name ≠ ""
  file : ∃ directory ext, path = directory ++ [d.name ++ "." ++ ext] ∧ '.' ∉ ext.toList ∧
    Text.lowered ("." ++ ext) ∈ FileName.extensions d.dialect
  relativePath_eq : d.relativePath = Files.Path.text path
  path_eq : d.path = root ++ "/" ++ Files.Path.text path

namespace Scan

variable {root : String}

/-- The descriptor that is made of a file is the one at its place. -/
theorem descriptor?_eq_some_iff {f : FoundFile} {d : Descriptor} :
    descriptor? root f = some d ↔ d.IsOf root f.place := by
  rw [descriptor?, Option.map_eq_some_iff]
  constructor
  · rintro ⟨dialect, hdialect, rfl⟩
    obtain hsplit | ⟨stem, ext, hstem, hext, hname, hsplit⟩ := FileName.split_cases f.name.toList
    · rw [hsplit] at hdialect
      cases hdialect
    · rw [hsplit, FileName.dialect?_eq_some_iff] at hdialect
      have hfile : f.name = String.ofList stem ++ "." ++ String.ofList ext := by
        rw [← String.toList_inj, hname]
        simp
      simp only [hsplit]
      refine ⟨by simpa using hstem, ⟨f.directory, String.ofList ext, ?_, by simpa using hext, ?_⟩,
        rfl, rfl⟩
      · rw [FoundFile.place, hfile]
      · simpa [Text.lowered] using hdialect
  · rintro ⟨hname, ⟨directory, ext, hplace, hext, hlower⟩, hrelative, hpath⟩
    obtain ⟨-, hlast⟩ := List.append_inj' hplace rfl
    have hfile : f.name.toList = d.name.toList ++ '.' :: ext.toList := by
      rw [List.singleton_inj.mp hlast]
      simp
    have hdots : d.name.toList ++ '.' :: ext.toList ≠ ['.', '.'] := by
      intro hdots
      have hstem : d.name.toList ≠ [] := by simpa using hname
      have hnil : ext.toList = [] := by
        have hpos := List.length_pos_iff.mpr hstem
        have hlength := congrArg List.length hdots
        rw [List.length_append, List.length_cons, List.length_cons, List.length_singleton]
          at hlength
        exact List.length_eq_zero_iff.mp (by omega)
      rw [String.toList_eq_nil_iff.mp hnil] at hlower
      cases hd : d.dialect <;> rw [hd] at hlower <;> revert hlower <;> decide
    have hsplit := FileName.split_of_dot (by simpa using hname) hext hdots
    refine ⟨d.dialect, ?_, ?_⟩
    · rw [hfile, hsplit, FileName.dialect?_eq_some_iff]
      simpa [Text.lowered] using hlower
    · rw [hfile, hsplit]
      cases d
      simp_all [FoundFile.place]

/-- A file makes one descriptor. -/
theorem eq_of_isOf {path : Files.Path} {d e : Descriptor} (hd : d.IsOf root path)
    (he : e.IsOf root path) : d = e := by
  obtain ⟨directory, ext, rfl, -⟩ := hd.file
  obtain ⟨f, hf⟩ := FoundFile.exists_place (List.append_ne_nil_of_right_ne_nil directory
    (List.cons_ne_nil (d.name ++ "." ++ ext) []))
  rw [← hf, ← descriptor?_eq_some_iff] at hd he
  exact Option.some.inj (hd.symm.trans he)

/-! ## Sorting, and keeping the first of each name -/

/-- The order of descriptors by some text. -/
def compareBy (text : Descriptor → String) (a b : Descriptor) : Ordering :=
  Collation.compareStrings (text a) (text b)

instance (text : Descriptor → String) : Std.TransCmp (compareBy text) where
  eq_swap := (Collation.compare_swap _ _).symm
  isLE_trans := Collation.isLE_trans

theorem compare_eq_compareLex :
    compare = compareLex (compareBy (Text.lowered ·.name)) (compareBy (·.relativePath)) := by
  funext a b
  rw [compare, compareLex, compareBy, compareBy]

instance : Std.TransCmp compare := compare_eq_compareLex ▸ inferInstance

theorem inOrder_iff {a b : Descriptor} : inOrder a b ↔ (compare a b).isLE := by
  rw [inOrder, bne_iff_ne]
  exact Ordering.ne_gt_iff_isLE

theorem inOrder_total (a b : Descriptor) : (inOrder a b || inOrder b a) = true := by
  have hswap : compare b a = (compare a b).swap := Std.OrientedCmp.eq_swap
  rw [Bool.or_eq_true, inOrder_iff, inOrder_iff, hswap]
  cases compare a b <;> simp

/-- Sorted shaders are in order. -/
theorem pairwise_mergeSort_inOrder (ds : List Descriptor) :
    (ds.mergeSort inOrder).Pairwise fun a b => (compare a b).isLE := by
  have htrans (a b c : Descriptor) (hab : inOrder a b) (hbc : inOrder b c) : inOrder a c :=
    inOrder_iff.mpr (Std.TransCmp.isLE_trans (inOrder_iff.mp hab) (inOrder_iff.mp hbc))
  exact (List.pairwise_mergeSort htrans inOrder_total ds).imp inOrder_iff.mp

theorem firstOfEachName_sublist (ds : List Descriptor) : (firstOfEachName ds).Sublist ds := by
  rw [firstOfEachName_eq]
  induction ds using List.reverseRecOn with
  | nil => exact .slnil
  | append_singleton ds d ih =>
      rw [List.foldl_append, List.foldl_cons, List.foldl_nil, keepNew]
      split
      · exact ih.trans (List.sublist_append_left _ _)
      · exact ih.append_right _

/-- Of sorted shaders the first of each name is kept, which is no later than any other. -/
theorem exists_mem_firstOfEachName {ds : List Descriptor}
    (h : ds.Pairwise fun a b => (compare a b).isLE) {e : Descriptor} (he : e ∈ ds) :
    ∃ d ∈ firstOfEachName ds, Text.lowered d.name = Text.lowered e.name ∧ (compare d e).isLE := by
  rw [firstOfEachName_eq]
  -- from the end, so that a last shader which is dropped comes after the one that is kept for it
  induction ds using List.reverseRecOn with
  | nil => cases he
  | append_singleton ds last ih =>
      rw [List.pairwise_append] at h
      rw [List.foldl_append, List.foldl_cons, List.foldl_nil, keepNew]
      rcases List.mem_append.mp he with he | he
      · obtain ⟨d, hd, hname, hle⟩ := ih h.1 he
        refine ⟨d, ?_, hname, hle⟩
        split
        · exact hd
        · exact List.mem_append_left _ hd
      · obtain rfl := List.mem_singleton.mp he
        split
        · next hkept =>
            obtain ⟨d, hd, hname⟩ := List.any_eq_true.mp hkept
            refine ⟨d, hd, eq_of_beq hname, ?_⟩
            have hmem : d ∈ ds := mem_of_mem_firstOfEachName (firstOfEachName_eq ds ▸ hd)
            exact h.2.2 d hmem e (List.mem_singleton_self e)
        · refine ⟨e, List.mem_append_right _ (List.mem_singleton_self e), rfl, ?_⟩
          exact Std.ReflCmp.isLE_rfl

/-! ## Arrangements -/

/-- The order of names tells the paths of shaders apart. -/
def PathsApart (ds : List Descriptor) : Prop :=
  ∀ a ∈ ds, ∀ b ∈ ds, Collation.compareStrings a.relativePath b.relativePath = .eq → a = b

theorem PathsApart.eq_of_compare {ds : List Descriptor} (h : PathsApart ds) {a b : Descriptor}
    (ha : a ∈ ds) (hb : b ∈ ds) (heq : compare a b = .eq) : a = b :=
  h a ha b hb (Ordering.then_eq_eq.mp heq).2

/-- The shaders of a dialect do not depend on the order in which files are found. -/
theorem ofDialect_eq_of_perm {ds ds' : List Descriptor} (h : PathsApart ds) (hperm : ds.Perm ds')
    (dialect : Dialect) : ofDialect dialect ds = ofDialect dialect ds' := by
  let sorted (es : List Descriptor) := (es.filter (·.dialect == dialect)).mergeSort inOrder
  have hsorted (es : List Descriptor) : (sorted es).Perm (es.filter (·.dialect == dialect)) :=
    List.mergeSort_perm _ _
  have hmem {a : Descriptor} (es : List Descriptor) (ha : a ∈ sorted es) : a ∈ es :=
    List.mem_of_mem_filter ((hsorted es).mem_iff.mp ha)
  have hsame : sorted ds = sorted ds' := by
    refine List.Perm.eq_of_pairwise (fun a b ha hb hab hba => ?_) (pairwise_mergeSort_inOrder _)
      (pairwise_mergeSort_inOrder _)
      ((hsorted ds).trans ((hperm.filter _).trans (hsorted ds').symm))
    exact h.eq_of_compare (hmem ds ha) (hperm.mem_iff.mpr (hmem ds' hb))
      (Std.OrientedCmp.isLE_antisymm hab hba)
  exact congrArg firstOfEachName hsame

/-- The list of shaders does not depend on the order in which files are found. -/
theorem arrange_eq_of_perm {ds ds' : List Descriptor} (h : PathsApart ds) (hperm : ds.Perm ds') :
    arrange ds = arrange ds' := by
  rw [arrange, arrange, ofDialect_eq_of_perm h hperm, ofDialect_eq_of_perm h hperm]

/-- A shader is in no later place than another by its name, whatever the case. -/
def NoLater (a b : Descriptor) : Prop :=
  (Collation.compareStrings (Text.lowered a.name) (Text.lowered b.name)).isLE

/-- What the shaders of a scan are, given those that it reaches: of each dialect and name the one
whose path comes first, ISF shaders ahead, each dialect by name. -/
structure Canonical (reached : Descriptor → Prop) (ds : List Descriptor) : Prop where
  sound : ∀ d ∈ ds, reached d
  grouped : ∃ isf glsl, ds = isf ++ glsl ∧ (∀ d ∈ isf, d.dialect = .isf) ∧
    (∀ d ∈ glsl, d.dialect = .glsl) ∧ isf.Pairwise NoLater ∧ glsl.Pairwise NoLater
  distinct : ds.Pairwise fun d d' => ¬ d.Alike d'
  complete : ∀ e, reached e → ∃! d, d ∈ ds ∧ d.Alike e
  least : ∀ d ∈ ds, ∀ e, reached e → e.Alike d → e ≠ d → compare d e = .lt

theorem mem_of_mem_ofDialect {dialect : Dialect} {ds : List Descriptor} {d : Descriptor}
    (h : d ∈ ofDialect dialect ds) : d ∈ ds :=
  List.mem_of_mem_filter (List.mem_mergeSort.mp (mem_of_mem_firstOfEachName h))

/-- The shaders of a dialect are in the order of names. -/
theorem pairwise_ofDialect (dialect : Dialect) (ds : List Descriptor) :
    (ofDialect dialect ds).Pairwise NoLater := by
  have hsorted := (pairwise_mergeSort_inOrder (ds.filter (·.dialect == dialect))).sublist
    (firstOfEachName_sublist _)
  exact hsorted.imp fun h => Ordering.isLE_left_of_isLE_then h

/-- Of each dialect and name there is a shader, which is no later than any other. -/
theorem exists_mem_arrange {ds : List Descriptor} {e : Descriptor} (he : e ∈ ds) :
    ∃ d ∈ arrange ds, d.Alike e ∧ (compare d e).isLE := by
  have hsorted : e ∈ (ds.filter (·.dialect == e.dialect)).mergeSort inOrder :=
    List.mem_mergeSort.mpr (List.mem_filter.mpr ⟨he, beq_self_eq_true _⟩)
  obtain ⟨d, hd, hname, hle⟩ :=
    exists_mem_firstOfEachName (pairwise_mergeSort_inOrder _) hsorted
  change d ∈ ofDialect e.dialect ds at hd
  have hdialect : d.dialect = e.dialect := dialect_of_mem_ofDialect hd
  refine ⟨d, ?_, ⟨hdialect, hname⟩, hle⟩
  cases hcase : e.dialect with
  | isf => exact List.mem_append_left _ (hcase ▸ hd)
  | glsl => exact List.mem_append_right _ (hcase ▸ hd)

/-- No two shaders of an arrangement are of one dialect and name. -/
theorem distinct_arrange (ds : List Descriptor) :
    (arrange ds).Pairwise fun d d' => ¬ d.Alike d' := by
  have hof (dialect : Dialect) :
      (ofDialect dialect ds).Pairwise fun d d' => ¬ d.Alike d' :=
    (List.pairwise_map.mp (nodup_firstOfEachName _)).imp fun hne halike => hne halike.2
  refine List.pairwise_append.mpr ⟨hof .isf, hof .glsl, fun d hd d' hd' halike => ?_⟩
  have hdialect := halike.1
  rw [dialect_of_mem_ofDialect hd, dialect_of_mem_ofDialect hd'] at hdialect
  cases hdialect

/-- Of each dialect and name an arrangement has the shader whose path comes first. -/
theorem canonical_arrange {ds : List Descriptor} (h : PathsApart ds) :
    Canonical (· ∈ ds) (arrange ds) where
  sound d hd := (List.mem_append.mp hd).elim mem_of_mem_ofDialect mem_of_mem_ofDialect
  grouped := ⟨ofDialect .isf ds, ofDialect .glsl ds, rfl, fun _ => dialect_of_mem_ofDialect,
    fun _ => dialect_of_mem_ofDialect, pairwise_ofDialect _ _, pairwise_ofDialect _ _⟩
  distinct := distinct_arrange ds
  complete e he := by
    obtain ⟨d, hd, halike, -⟩ := exists_mem_arrange he
    refine ⟨d, ⟨hd, halike⟩, fun d' ⟨hd', halike'⟩ => ?_⟩
    exact eq_of_arrange hd' hd (halike'.1.trans halike.1.symm) (halike'.2.trans halike.2.symm)
  least d hd e he halike hne := by
    obtain ⟨d', hd', halike', hle⟩ := exists_mem_arrange he
    have hsame := halike'.trans halike
    obtain rfl : d' = d := eq_of_arrange hd' hd hsame.1 hsame.2
    have hmem : d' ∈ ds := (List.mem_append.mp hd').elim mem_of_mem_ofDialect mem_of_mem_ofDialect
    have hneq : compare d' e ≠ .eq := fun heq => hne (h.eq_of_compare hmem he heq).symm
    cases hcompare : compare d' e <;> simp_all

end Scan

/-! ## Scans of trees -/

namespace Files

/-- Names without slashes are told apart by the texts of their paths. -/
theorem Path.eq_of_text {p q : Path} (hp : ∀ name ∈ p, '/' ∉ name.toList)
    (hq : ∀ name ∈ q, '/' ∉ name.toList) (hpne : p ≠ []) (hqne : q ≠ [])
    (h : p.text = q.text) : p = q := by
  have hsplit {r : Path} (hr : ∀ name ∈ r, '/' ∉ name.toList) (hrne : r ≠ []) :
      r.text.toList.splitOn '/' = r.map String.toList := by
    rw [Path.text, String.toList_intercalate]
    refine List.splitOn_intercalate '/' ?_ (by simpa using hrne)
    simpa using hr
  have hmap : p.map String.toList = q.map String.toList := by
    rw [← hsplit hp hpne, ← hsplit hq hqne, h]
  exact List.map_injective_iff.mpr (fun _ _ => String.toList_inj.mp) hmap

/-- No name on the way to a file has a slash, and the order of names tells paths apart. -/
structure Node.Listable (tree : Node) : Prop where
  slashless : ∀ path ∈ tree.places, ∀ name ∈ path, '/' ∉ name.toList
  apart : ∀ p ∈ tree.places, ∀ q ∈ tree.places,
    Collation.compareStrings (Path.text p) (Path.text q) = .eq → Path.text p = Path.text q

end Files

namespace Scan

open Files

variable {root : String} {entries : List (String × Node)} {time : Nat}

/-- A descriptor is that of a file which names that are not hidden lead to. -/
def Finds (root : String) (tree : Node) (d : Descriptor) : Prop :=
  ∃ path content time, tree.Leads path (.file content time) ∧ d.IsOf root path

/-- Descriptors of the files that a walk finds, in the order in which directories are listed. -/
def found (root : String) (entries : List (String × Node)) (time : Nat) : List Descriptor :=
  (Walk.visitAll (Walk.start.meet time) [] entries).files.filterMap (descriptor? root)

/-- Walks find a shader for each file of a dialect that names lead to. -/
theorem mem_found {d : Descriptor} :
    d ∈ found root entries time ↔ Finds root (.directory entries time) d := by
  have hplaces := Walk.places_directory entries time
  rw [found, List.mem_filterMap]
  constructor
  · rintro ⟨f, hf, hd⟩
    have hplace : f.place ∈ (Node.directory entries time).places :=
      hplaces ▸ List.mem_map_of_mem hf
    obtain ⟨content, modified, hleads⟩ := Node.mem_places.mp hplace
    exact ⟨f.place, content, modified, hleads, descriptor?_eq_some_iff.mp hd⟩
  · rintro ⟨path, content, modified, hleads, hd⟩
    have hplace := Node.mem_places.mpr ⟨content, modified, hleads⟩
    rw [← hplaces] at hplace
    obtain ⟨f, hf, rfl⟩ := List.mem_map.mp hplace
    exact ⟨f, hf, descriptor?_eq_some_iff.mpr hd⟩

/-- In a listable tree the paths of shaders are told apart. -/
theorem pathsApart_found (h : (Node.directory entries time).Listable) :
    PathsApart (found root entries time) := by
  intro a ha b hb heq
  obtain ⟨p, content, modified, hp, hpa⟩ := mem_found.mp ha
  obtain ⟨q, content', modified', hq, hqb⟩ := mem_found.mp hb
  have hplace := Node.mem_places.mpr ⟨content, modified, hp⟩
  have hplace' := Node.mem_places.mpr ⟨content', modified', hq⟩
  rw [hpa.relativePath_eq, hqb.relativePath_eq] at heq
  have hne {path : Path} {d : Descriptor} (hd : d.IsOf root path) : path ≠ [] := by
    obtain ⟨directory, ext, rfl, -⟩ := hd.file
    simp
  obtain rfl : p = q := Path.eq_of_text (h.slashless p hplace) (h.slashless q hplace')
    (hne hpa) (hne hqb) (h.apart p hplace q hplace' heq)
  exact eq_of_isOf hpa hqb

/-- Another listing of a directory has the same shaders. -/
theorem found_perm {listing : List (String × Node)}
    (h : (Node.directory entries time).Relisted (.directory listing time)) :
    (found root entries time).Perm (found root listing time) := by
  have hplaces := h.places_perm
  rw [← Walk.places_directory, ← Walk.places_directory] at hplaces
  exact ((List.map_perm_map_iff FoundFile.place_injective).mp hplaces).filterMap _

/-- A scan of a directory does not depend on how it is listed. -/
theorem ofNode_of_relisted (h : (Node.directory entries time).Listable)
    {listing : List (String × Node)}
    (hlisting : (Node.directory entries time).Relisted (.directory listing time)) :
    ofNode root (.ok (.directory listing time)) =
      .ok ⟨arrange (found root entries time),
        .tree (Node.directory entries time).places.length
          (Node.directory entries time).latest⟩ := by
  obtain ⟨files, hfiles, hscan⟩ := ofNode_directory root listing time
  have hperm : (found root entries time).Perm (files.filterMap (descriptor? root)) :=
    (found_perm hlisting).trans (hfiles.symm.filterMap _)
  rw [hscan, arrange_eq_of_perm (pathsApart_found h) hperm, hlisting.places_perm.length_eq,
    hlisting.latest_eq]

/-- A scan of a directory lists, of each dialect and name, the shader of the file whose path comes
first among those that names which are not hidden lead to, ISF shaders ahead and each dialect by
name. However directories are listed, the scan is the same, and so is what a walk in that order
finds. -/
theorem canonical_of_listable (h : (Node.directory entries time).Listable) :
    ∃ s, ofNode root (.ok (.directory entries time)) = .ok s ∧
      Canonical (Finds root (.directory entries time)) s.descriptors ∧
      ∀ listing, (Node.directory entries time).Relisted (.directory listing time) →
        ofNode root (.ok (.directory listing time)) = .ok s ∧
          arrange (found root listing time) = s.descriptors := by
  refine ⟨_, ofNode_of_relisted h (.refl _), ?_, fun listing hlisting =>
    ⟨ofNode_of_relisted h hlisting, ?_⟩⟩
  · have hreached : (· ∈ found root entries time) = Finds root (.directory entries time) :=
      funext fun d => propext mem_found
    exact hreached ▸ canonical_arrange (pathsApart_found h)
  · exact (arrange_eq_of_perm (pathsApart_found h) (found_perm hlisting)).symm

/-! ### A directory with several shaders of one name -/

/-- Entries of a directory: shaders of one name, of either dialect and in different cases, and
files that are no shaders or hidden. -/
def mixedEntries : List (String × Node) :=
  [ ("waves.fs", .file "void main(){}" 1)
  , ("Waves.txt", .file "void main(){}" 1)
  , ("notes.md", .file "" 2)
  , (".draft.fs", .file "void main(){}" 3)
  , ("more", .directory
      [("WAVES.FS", .file "void main(){}" 1), ("drops.Frag", .file "void main(){}" 1)] 2) ]

theorem listable_mixedEntries : (Node.directory mixedEntries 1).Listable where
  slashless := by decide +kernel
  apart := by decide +kernel

/-- The shaders of that directory do not depend on how it is listed. -/
theorem canonical_of_mixedEntries :
    (Node.directory mixedEntries 1).Listable ∧
      ∃ s, ofNode "shaders" (.ok (.directory mixedEntries 1)) = .ok s ∧
        Canonical (Finds "shaders" (.directory mixedEntries 1)) s.descriptors ∧
        ∀ listing, (Node.directory mixedEntries 1).Relisted (.directory listing 1) →
          ofNode "shaders" (.ok (.directory listing 1)) = .ok s ∧
            arrange (found "shaders" listing 1) = s.descriptors :=
  ⟨listable_mixedEntries, canonical_of_listable listable_mixedEntries⟩

end Scan

end LiveVisuals
