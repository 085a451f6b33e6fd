import Mathlib.Data.List.Induction
import Mathlib.Data.List.Nodup
import Mathlib.Data.List.TakeWhile
import LiveVisuals.Shader.Registry

/-!
# Looking shaders up by dialect and name

A scan keeps one shader of each dialect and name, so a name that says the dialect leads back to
the shader that it was made from. That takes a name which is read back as it was written: one
without slashes that does not end in a blank, nor in what looks like the extension of a shader.

Main definitions:

- {lit}`Descriptor.address`: dialect and name of a shader.
- {lit}`ShaderQuery.reading`: what is read of a name that stands after a dialect.
- {lit}`Descriptor.Addressable`: the address asks for shaders of that dialect and name.

Main results:

- Theorem {lit}`Scan.eq_of_ofNode`: shaders of a scan are told apart by dialect and name.
- Theorem {lit}`Scan.find?_address`: an address leads back to its shader.
- Theorem {lit}`Descriptor.addressable_of_plain`: which names are addressable.
-/

namespace LiveVisuals

/-! ## Scans have one shader of each name -/

namespace Scan

/-- Keep a shader if there is none of its name yet. -/
def keepNew (kept : List Descriptor) (d : Descriptor) : List Descriptor :=
  if kept.any fun k => Text.lowered k.name == Text.lowered d.name then kept else kept ++ [d]

theorem firstOfEachName_eq (ds : List Descriptor) : firstOfEachName ds = ds.foldl keepNew [] :=
  rfl

/-- Of each name one shader is kept only, whatever the case. -/
theorem nodup_firstOfEachName (ds : List Descriptor) :
    ((firstOfEachName ds).map fun d => Text.lowered d.name).Nodup := by
  rw [firstOfEachName_eq]
  induction ds using List.reverseRecOn with
  | nil => exact List.nodup_nil
  | append_singleton ds d ih =>
      rw [List.foldl_append, List.foldl_cons, List.foldl_nil, keepNew]
      split
      · exact ih
      · next hnew =>
          rw [List.map_append, List.nodup_append]
          refine ⟨ih, by simp, fun n hn m hm => ?_⟩
          obtain ⟨k, hk, rfl⟩ := List.mem_map.mp hn
          obtain rfl : m = Text.lowered d.name := by simpa using hm
          simp only [List.any_eq_true, beq_iff_eq, not_exists, not_and] at hnew
          exact hnew k hk

theorem mem_of_mem_firstOfEachName {ds : List Descriptor} {d : Descriptor}
    (h : d ∈ firstOfEachName ds) : d ∈ ds := by
  rw [firstOfEachName_eq] at h
  induction ds using List.reverseRecOn with
  | nil => exact h
  | append_singleton ds e ih =>
      rw [List.foldl_append, List.foldl_cons, List.foldl_nil, keepNew] at h
      split at h
      · exact List.mem_append_left _ (ih h)
      · rcases List.mem_append.mp h with hkept | he
        · exact List.mem_append_left _ (ih hkept)
        · exact List.mem_append_right _ he

theorem dialect_of_mem_ofDialect {dialect : Dialect} {ds : List Descriptor} {d : Descriptor}
    (h : d ∈ ofDialect dialect ds) : d.dialect = dialect := by
  have hfilter := List.mem_mergeSort.mp (mem_of_mem_firstOfEachName h)
  simpa using (List.mem_filter.mp hfilter).2

/-- Shaders of an arrangement are told apart by dialect and name. -/
theorem eq_of_arrange {ds : List Descriptor} {d d' : Descriptor} (h : d ∈ arrange ds)
    (h' : d' ∈ arrange ds) (hdialect : d.dialect = d'.dialect)
    (hname : Text.lowered d.name = Text.lowered d'.name) : d = d' := by
  have hof : ∀ {c : Descriptor}, c ∈ arrange ds → c ∈ ofDialect c.dialect ds := by
    intro c hc
    rcases List.mem_append.mp hc with hc | hc <;>
      exact (dialect_of_mem_ofDialect hc).symm ▸ hc
  exact List.inj_on_of_nodup_map (nodup_firstOfEachName _) (hof h) (hdialect ▸ hof h') hname

/-- Shaders of a scan are told apart by dialect and name. -/
theorem eq_of_ofNode {root : String} {found : Except Files.Error Files.Node} {s : Scan}
    (hs : ofNode root found = .ok s) {d d' : Descriptor} (h : d ∈ s.descriptors)
    (h' : d' ∈ s.descriptors) (hdialect : d.dialect = d'.dialect)
    (hname : Text.lowered d.name = Text.lowered d'.name) : d = d' := by
  unfold ofNode at hs
  split at hs
  · cases hs
    cases h
  · cases hs
  · cases hs
  · cases hs
    exact eq_of_arrange h h' hdialect hname

end Scan

/-! ## Addresses -/

namespace Text

/-- A text without the blanks at its end. -/
def trimEnd (cs : List Char) : List Char := (skipBlanks cs.reverse).reverse

theorem trimEnd_sublist (cs : List Char) : (trimEnd cs).Sublist cs := by
  have h : (skipBlanks cs.reverse).Sublist cs.reverse := List.dropWhile_sublist _
  simpa [trimEnd] using h.reverse

/-- A text stays as it is that does not end in a blank. -/
theorem trimEnd_eq_self {cs : List Char} (h : ∀ c ∈ cs.getLast?, isBlank c = false) :
    trimEnd cs = cs := by
  have hskip : skipBlanks cs.reverse = cs.reverse := by
    rw [← List.head?_reverse] at h
    cases hcs : cs.reverse with
    | nil => rfl
    | cons d ds =>
        have hd : isBlank d = false := h d (by rw [hcs]; rfl)
        simp [skipBlanks, hd]
  rw [trimEnd, hskip, List.reverse_reverse]

/-- Trimming takes blanks off the end only, if the text starts with another character. -/
theorem trim_cons {c : Char} (h : isBlank c = false) (cs : List Char) :
    trim (c :: cs) = trimEnd (c :: cs) := by
  have hskip : skipBlanks (c :: cs) = c :: cs := by simp [skipBlanks, h]
  rw [trim, hskip, trimEnd]

/-- Blanks are taken off no further than to a character that is none. -/
theorem trimEnd_append_cons (bs : List Char) {c : Char} (h : isBlank c = false)
    (cs : List Char) : trimEnd (bs ++ c :: cs) = bs ++ c :: trimEnd cs := by
  have hreverse : (bs ++ c :: cs).reverse = cs.reverse ++ c :: bs.reverse := by simp
  rw [trimEnd, trimEnd, hreverse, skipBlanks, skipBlanks, List.dropWhile_append]
  split
  · next hnone => simp_all
  · simp

end Text

namespace ShaderQuery

/-- A backslash is read as a slash. -/
def slashed (c : Char) : Char := if c.toNat = 0x5C then '/' else c

/-- What is read of a name that stands after a dialect: what follows the last slash, without
blanks at the end and without an extension that shaders have. -/
def reading (name : List Char) : List Char :=
  withoutExtension (afterLastSlash ((Text.trimEnd name).map slashed))

/-- A name that starts with a dialect asks for it, and for what stands after the mark. -/
theorem ofName_of_mark {name : String} {dialect : Dialect} {rest : List Char}
    (h : dialectMark? ((Text.trim name.toList).map slashed) = some (dialect, rest)) :
    ofName name =
      ⟨String.ofList (Text.lower (withoutExtension (afterLastSlash rest))), some dialect⟩ := by
  unfold slashed at h
  simp only [ofName, h]

end ShaderQuery

namespace Descriptor

/-- Dialect and name of a shader. -/
def address (d : Descriptor) : String := s!"{d.dialect.name}/{d.name}"

/-- The address of a shader asks for shaders of its dialect and name. -/
def Addressable (d : Descriptor) : Prop :=
  ShaderQuery.ofName d.address = ⟨Text.lowered d.name, some d.dialect⟩

/-- Two shaders go by the same address, whatever the case. -/
def Alike (d d' : Descriptor) : Prop :=
  d.dialect = d'.dialect ∧ Text.lowered d.name = Text.lowered d'.name

instance (d : Descriptor) : Decidable d.Addressable := inferInstanceAs (Decidable (_ = _))

instance (d d' : Descriptor) : Decidable (d.Alike d') := inferInstanceAs (Decidable (_ ∧ _))

theorem Alike.trans {d d' d'' : Descriptor} (h : d.Alike d') (h' : d'.Alike d'') : d.Alike d'' :=
  ⟨h.1.trans h'.1, h.2.trans h'.2⟩

/-- An address fits the shaders that are alike. -/
theorem Addressable.fits_iff {d d' : Descriptor} (h : d.Addressable) :
    (ShaderQuery.ofName d.address).fits d' ↔ d'.Alike d := by
  rw [h]
  simp only [ShaderQuery.fits, Option.all_some, Bool.and_eq_true, beq_iff_eq, Alike]
  exact ⟨fun ⟨hname, hdialect⟩ => ⟨hdialect.symm, hname⟩,
    fun ⟨hdialect, hname⟩ => ⟨hname, hdialect.symm⟩⟩

theorem toList_address (d : Descriptor) :
    d.address.toList = d.dialect.name.toList ++ '/' :: d.name.toList := by
  have h : d.address = d.dialect.name ++ "/" ++ d.name := rfl
  simp [h]

/-- An address asks for the dialect, and for what is read of the name. -/
theorem ofName_address (d : Descriptor) :
    ShaderQuery.ofName d.address =
      ⟨String.ofList (Text.lower (ShaderQuery.reading d.name.toList)), some d.dialect⟩ := by
  have htrim : Text.trim d.address.toList =
      d.dialect.name.toList ++ '/' :: Text.trimEnd d.name.toList := by
    have hslash : Text.isBlank '/' = false := by decide
    rw [toList_address, ← Text.trimEnd_append_cons _ hslash]
    cases d.dialect <;> exact Text.trim_cons (by decide) _
  have hmark : ShaderQuery.dialectMark?
        ((d.dialect.name.toList ++ '/' :: Text.trimEnd d.name.toList).map ShaderQuery.slashed) =
      some (d.dialect, (Text.trimEnd d.name.toList).map ShaderQuery.slashed) := by
    rw [List.map_append, List.map_cons]
    cases d.dialect <;> rfl
  exact ShaderQuery.ofName_of_mark (htrim ▸ hmark)

/-- A name is addressable that has no slashes and does not end in a blank, nor in what looks
like the extension of a shader. -/
theorem addressable_of_plain {d : Descriptor}
    (hslash : ∀ c ∈ d.name.toList, c ≠ '/' ∧ c.toNat ≠ 0x5C)
    (hblank : ∀ c ∈ d.name.toList.getLast?, Text.isBlank c = false)
    (hext : FileName.dialect? (FileName.split d.name.toList).2 = none) : d.Addressable := by
  have hslashes : d.name.toList.map ShaderQuery.slashed = d.name.toList := by
    conv_rhs => rw [← List.map_id d.name.toList]
    exact List.map_congr_left fun c hc => if_neg (hslash c hc).2
  have hlast : ShaderQuery.afterLastSlash d.name.toList = d.name.toList := by
    have hnone : ∀ c ∈ d.name.toList.reverse, (c != '/') = true := fun c hc => by
      simpa using (hslash c (by simpa using hc)).1
    rw [ShaderQuery.afterLastSlash, List.takeWhile_eq_self_iff.mpr hnone, List.reverse_reverse]
  have hstem : ShaderQuery.withoutExtension d.name.toList = d.name.toList := by
    simp [ShaderQuery.withoutExtension, hext]
  rw [Addressable, ofName_address, ShaderQuery.reading, Text.trimEnd_eq_self hblank, hslashes,
    hlast, hstem]
  rfl

end Descriptor

/-- An address leads back to its shader, if a scan has found that. -/
theorem Scan.find?_address {root : String} {found : Except Files.Error Files.Node} {s : Scan}
    (hs : ofNode root found = .ok s) {d : Descriptor} (haddress : d.Addressable)
    (hd : d ∈ s.descriptors) :
    s.descriptors.find? (ShaderQuery.ofName d.address).fits = some d := by
  have hfits : (ShaderQuery.ofName d.address).fits d := haddress.fits_iff.mpr ⟨rfl, rfl⟩
  cases hfind : s.descriptors.find? (ShaderQuery.ofName d.address).fits with
  | none => exact absurd hfits (List.find?_eq_none.mp hfind d hd)
  | some d' =>
      have halike : d'.Alike d := haddress.fits_iff.mp (List.find?_some hfind)
      rw [eq_of_ofNode hs (List.mem_of_find?_eq_some hfind) hd halike.1 halike.2]

end LiveVisuals
