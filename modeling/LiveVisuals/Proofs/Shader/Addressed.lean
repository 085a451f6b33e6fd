import Mathlib.Algebra.Order.BigOperators.Group.List
import Mathlib.Algebra.Order.Ring.Nat
import LiveVisuals.Proofs.Shader.Lookup

/-!
# Which shaders their address leads back to

A reload looks the shader that is shown up by its dialect and name. Such an address is read as a
name that somebody has typed: blanks at its end, directories and the extension of a shader file
are taken off. A name of a file may have them too, besides the extension that was taken off it
already, and what is read of it is then a shorter name. Lower case keeps shorter names apart from
longer ones, so the address leads back to exactly those shaders whose name is read as it is.

Main definitions:

- {lit}`FileName.Plain`: nothing is taken off a name when it is read.
- {lit}`Text.width`: how long a text is in lower case.

Main results:

- Theorem {lit}`ShaderQuery.plain_of_lower_reading`: what is read of a name agrees with it,
  whatever the case, for plain names only.
- Theorem {lit}`Registry.get?_address_iff`: the address of a shader that a scan has found leads
  back to it if and only if its name is plain.
- Theorem {lit}`Registry.get?_address_doubled`: a shader whose address leads to another one.
-/

namespace LiveVisuals

/-! ## The length of a text in lower case -/

namespace Text

/-- How many characters a character is in lower case. -/
def lowerWidth (c : Char) : Nat := if c.toNat = 0x130 then 2 else 1

/-- How many characters a text has in lower case. -/
def width (cs : List Char) : Nat := (cs.map lowerWidth).sum

@[simp] theorem width_nil : width [] = 0 := rfl

@[simp] theorem width_cons (c : Char) (cs : List Char) :
    width (c :: cs) = lowerWidth c + width cs := by
  simp [width]

theorem lowerWidth_pos (c : Char) : 0 < lowerWidth c := by
  unfold lowerWidth
  split <;> omega

theorem length_lowerFrom (seen cs : List Char) : (lowerFrom seen cs).length = width cs := by
  induction cs generalizing seen with
  | nil => rfl
  | cons c cs ih =>
      rw [lowerFrom, List.length_append, ih, width_cons, lowerWidth]
      by_cases hdotted : c.toNat = 0x130
      · simp [hdotted]
      · by_cases hsigma : c.toNat = 0x3A3 <;> simp [hdotted, hsigma]

theorem length_lower (cs : List Char) : (lower cs).length = width cs := length_lowerFrom [] cs

theorem width_le_of_sublist {cs ds : List Char} (h : cs.Sublist ds) : width cs ≤ width ds :=
  (h.map lowerWidth).sum_le_sum fun _ _ => Nat.zero_le _

/-- A part of a text that is as long in lower case is the whole text. -/
theorem eq_of_sublist {cs ds : List Char} (h : cs.Sublist ds) (hwidth : width ds ≤ width cs) :
    cs = ds := by
  induction h with
  | slnil => rfl
  | @cons cs ds d h _ =>
      have hle : width cs ≤ width ds := width_le_of_sublist h
      have hpos : 0 < lowerWidth d := lowerWidth_pos d
      rw [width_cons] at hwidth
      omega
  | cons_cons c _ ih =>
      rw [width_cons, width_cons] at hwidth
      rw [ih (by omega)]

/-! ## Names that are read as they are -/

/-- The end of a trimmed text is no blank. -/
theorem isBlank_getLast?_trimEnd {cs : List Char} :
    ∀ c ∈ (trimEnd cs).getLast?, isBlank c = false := by
  intro c hc
  rw [trimEnd, List.getLast?_reverse] at hc
  have hhead := List.head?_dropWhile_not isBlank cs.reverse
  rw [← skipBlanks, Option.mem_def.mp hc] at hhead
  simpa using hhead

end Text

namespace FileName

/-- Stem and extension make up the name. -/
theorem split_append (name : List Char) : (split name).1 ++ (split name).2 = name := by
  have hreverse : name.reverse.takeWhile (· != '.') ++ name.reverse.dropWhile (· != '.') =
      name.reverse := List.takeWhile_append_dropWhile
  simp only [split]
  split
  · next dot stem hdrop =>
      split
      · exact List.append_nil _
      · have hdot : dot = '.' := by
          have hhead := List.head?_dropWhile_not (· != '.') name.reverse
          rw [hdrop] at hhead
          simpa using hhead
        rw [hdrop, hdot] at hreverse
        have hname := congrArg List.reverse hreverse
        simpa using hname
  · exact List.append_nil _

/-- A name that is read as it is: it has no slashes, and ends neither in a blank nor in an
extension that shaders have. -/
structure Plain (name : List Char) : Prop where
  slash : ∀ c ∈ name, c ≠ '/' ∧ c.toNat ≠ 0x5C
  blank : ∀ c ∈ name.getLast?, Text.isBlank c = false
  extension : dialect? (split name).2 = none

end FileName

namespace ShaderQuery

open Text

theorem width_map_slashed (cs : List Char) : width (cs.map slashed) = width cs := by
  induction cs with
  | nil => rfl
  | cons c cs ih =>
      have hslashed : lowerWidth (slashed c) = lowerWidth c := by
        by_cases h : c.toNat = 0x5C
        · simp [slashed, lowerWidth, h]
        · simp [slashed, h]
      rw [List.map_cons, width_cons, width_cons, hslashed, ih]

theorem afterLastSlash_sublist (cs : List Char) : (afterLastSlash cs).Sublist cs := by
  have h : (cs.reverse.takeWhile (· != '/')).Sublist cs.reverse := List.takeWhile_sublist _
  simpa [afterLastSlash] using h.reverse

theorem withoutExtension_sublist (name : List Char) : (withoutExtension name).Sublist name := by
  have hstem : (FileName.split name).1.Sublist name := by
    conv_rhs => rw [← FileName.split_append name]
    exact List.sublist_append_left _ _
  by_cases hext : (FileName.dialect? (FileName.split name).2).isSome
  · simpa [withoutExtension, hext] using hstem
  · simp [withoutExtension, hext]

theorem ne_slash_of_mem_afterLastSlash {c : Char} {cs : List Char} (h : c ∈ afterLastSlash cs) :
    c ≠ '/' := by
  have hwhile := List.mem_takeWhile_imp (List.mem_reverse.mp h)
  simpa using hwhile

/-- A name from which no extension is taken has none that shaders have. -/
theorem dialect?_of_withoutExtension {name : List Char} (h : withoutExtension name = name) :
    FileName.dialect? (FileName.split name).2 = none := by
  by_contra hsome
  have hext : (FileName.dialect? (FileName.split name).2).isSome :=
    Option.isSome_iff_ne_none.mpr hsome
  have hstem : (FileName.split name).1 = name := by simpa [withoutExtension, hext] using h
  have hnil : (FileName.split name).2 = [] := by
    have happend := FileName.split_append name
    rw [hstem] at happend
    simpa using happend
  rw [hnil] at hsome
  exact hsome rfl

/-- What is read of a name is no longer than the name, and it is the name only if that is plain. -/
theorem plain_of_width_le {name : List Char} (h : width name ≤ width (reading name)) :
    FileName.Plain name := by
  let ends := (trimEnd name).map slashed
  have hstem : width (reading name) ≤ width (afterLastSlash ends) :=
    width_le_of_sublist (withoutExtension_sublist _)
  have hlast : width (afterLastSlash ends) ≤ width ends :=
    width_le_of_sublist (afterLastSlash_sublist _)
  have hends : width ends = width (trimEnd name) := width_map_slashed _
  have htrim : width (trimEnd name) ≤ width name := width_le_of_sublist (trimEnd_sublist _)
  have htrimmed : trimEnd name = name := eq_of_sublist (trimEnd_sublist _) (by omega)
  have hwhole : afterLastSlash ends = ends := eq_of_sublist (afterLastSlash_sublist _) (by omega)
  have hslash : ∀ c ∈ name, slashed c ≠ '/' := by
    intro c hc
    have hmem : slashed c ∈ afterLastSlash ends := by
      rw [hwhole]
      exact List.mem_map_of_mem (htrimmed.symm ▸ hc)
    exact ne_slash_of_mem_afterLastSlash hmem
  have hname : ∀ c ∈ name, c ≠ '/' ∧ c.toNat ≠ 0x5C := by
    intro c hc
    have hno : c.toNat ≠ 0x5C := fun hback => hslash c hc (if_pos hback)
    exact ⟨fun heq => hslash c hc (by rw [heq]; rfl), hno⟩
  have hsame : ends = name := by
    have hmap : name.map slashed = name.map id :=
      List.map_congr_left fun c hc => if_neg (hname c hc).2
    rw [show ends = (trimEnd name).map slashed from rfl, htrimmed, hmap, List.map_id]
  have hbare : withoutExtension name = name := by
    refine eq_of_sublist (withoutExtension_sublist _) ?_
    have hread : reading name = withoutExtension name := by
      rw [reading, show (trimEnd name).map slashed = ends from rfl, hwhole, hsame]
    exact hread ▸ h
  refine ⟨hname, ?_, dialect?_of_withoutExtension hbare⟩
  rw [← htrimmed]
  exact isBlank_getLast?_trimEnd

/-- What is read of a name agrees with it, whatever the case, for plain names only. -/
theorem plain_of_lower_reading {name : List Char} (h : lower (reading name) = lower name) :
    FileName.Plain name := by
  apply plain_of_width_le
  rw [← length_lower, ← length_lower, h]

end ShaderQuery

/-! ## Looking up every shader of a scan -/

/-- The address of a shader asks for its name if that is plain, and else for another name. -/
theorem Descriptor.addressable_iff {d : Descriptor} :
    d.Addressable ↔ FileName.Plain d.name.toList := by
  constructor
  · intro h
    rw [Addressable, ofName_address, ShaderQuery.mk.injEq] at h
    exact ShaderQuery.plain_of_lower_reading (String.ofList_injective h.1)
  · intro h
    exact addressable_of_plain h.slash h.blank h.extension

namespace Registry

/-- The address of a shader that a scan has found leads back to it if its name is plain, and
never otherwise. -/
theorem get?_address_iff {root : String} {found : Except Files.Error Files.Node} {s : Scan}
    (r : Registry) (hs : Scan.ofNode root found = .ok s) {d : Descriptor}
    (hd : d ∈ s.descriptors) :
    (r.install s).get? d.address = some d ↔ FileName.Plain d.name.toList := by
  rw [← Descriptor.addressable_iff]
  constructor
  · intro h
    have hfits := List.find?_some h
    rw [Descriptor.ofName_address, ShaderQuery.fits, Bool.and_eq_true, beq_iff_eq] at hfits
    rw [Descriptor.Addressable, Descriptor.ofName_address, hfits.1]
  · intro haddress
    exact Scan.find?_address hs haddress hd

/-! ### A shader whose name ends in the extension of a shader -/

/-- A shader file. -/
def single : Descriptor := ⟨"a", "shaders/a.fs", "a.fs", .isf⟩

/-- A shader file with its extension written twice. -/
def doubled : Descriptor := ⟨"a.fs", "shaders/a.fs.fs", "a.fs.fs", .isf⟩

/-- The directory with both. -/
def doubledTree : Files.Node :=
  .directory [("a.fs", .file "void main(){}" 1), ("a.fs.fs", .file "void main(){ }" 1)] 1

theorem ofNode_doubledTree :
    Scan.ofNode "shaders" (.ok doubledTree) = .ok ⟨[single, doubled], .tree 2 1⟩ := by
  have hfiles : [FoundFile.mk "a.fs" [], .mk "a.fs.fs" []].mergeSort
      (fun f g => !g.place.lex f.place (· < ·)) = [.mk "a.fs" [], .mk "a.fs.fs" []] :=
    List.mergeSort_of_pairwise (by decide +kernel)
  have hfound : [FoundFile.mk "a.fs" [], .mk "a.fs.fs" []].filterMap
      (Scan.descriptor? "shaders") = [single, doubled] := by decide +kernel
  have hsorted : [single, doubled].mergeSort Scan.inOrder = [single, doubled] :=
    List.mergeSort_of_pairwise (by decide +kernel)
  have hnames : Scan.firstOfEachName [single, doubled] = [single, doubled] := by decide +kernel
  have hisf : Scan.ofDialect .isf [single, doubled] = [single, doubled] := by
    rw [Scan.ofDialect]
    exact (congrArg Scan.firstOfEachName hsorted).trans hnames
  have hglsl : Scan.ofDialect .glsl [single, doubled] = [] := by
    simp [Scan.ofDialect, single, doubled, Scan.firstOfEachName]
  have hwalk : Walk.visitAll (Walk.start.meet 1) []
      [("a.fs", .file "void main(){}" 1), ("a.fs.fs", .file "void main(){ }" 1)] =
        ⟨[.mk "a.fs" [], .mk "a.fs.fs" []], 1⟩ := rfl
  simp only [Scan.ofNode, doubledTree, hwalk, hfiles, hfound, Scan.arrange, hisf, hglsl]
  rfl

/-- The address of a shader leads back to it in a directory where another one does not. -/
theorem get?_address_single :
    Scan.ofNode "shaders" (.ok doubledTree) = .ok ⟨[single, doubled], .tree 2 1⟩ ∧
      single ∈ [single, doubled] ∧
      (((new "shaders").install ⟨[single, doubled], .tree 2 1⟩).get? single.address =
        some single ↔ FileName.Plain single.name.toList) :=
  ⟨ofNode_doubledTree, List.mem_cons_self,
    get?_address_iff (new "shaders") ofNode_doubledTree List.mem_cons_self⟩

/-- The extension that is written twice is taken off twice, and the address leads to another
shader. -/
theorem get?_address_doubled :
    Scan.ofNode "shaders" (.ok doubledTree) = .ok ⟨[single, doubled], .tree 2 1⟩ ∧
      doubled ∈ [single, doubled] ∧
      ((new "shaders").install ⟨[single, doubled], .tree 2 1⟩).get? doubled.address =
        some single ∧ single ≠ doubled := by
  refine ⟨ofNode_doubledTree, List.mem_cons_of_mem _ List.mem_cons_self, ?_, by decide⟩
  decide +kernel

end Registry

end LiveVisuals
