import LiveVisuals.Text.Casing
import LiveVisuals.Text.Collation.Order
import LiveVisuals.Text.Collation.Variant
import LiveVisuals.Text.Decomposition

/-!
# Order of names

The order in which names are listed to people. It has three levels: characters by their place
in the order of all characters, then accents, then shades, which tell small letters from
capitals and plain ones from other shapes. A level counts only where the levels before it are
equal all through. Texts are compared as their canonical decompositions.

Main definitions:

- {lit}`Collation.Weight`: how a character counts on the three levels.
- {lit}`Collation.weights`: the weights of a text.
- {lit}`Collation.compare`, {lit}`Collation.compareStrings`: the order.

Main statements:

- {lit}`Collation.compare_self`: a text is equal to itself.
- {lit}`Collation.compare_swap`: the order does not depend on which text comes first.
- {lit}`Collation.isLE_trans`: the order is transitive.
-/

namespace LiveVisuals.Collation

open Text

/-- How a character counts: by its place, its accent and its shade. Where one of them is zero
it does not count on that level. -/
structure Weight where
  primary : Nat
  accent : Nat
  shade : Nat
deriving DecidableEq, Repr

/-- The accent of a letter without one. -/
def plainAccent : Nat := 0x20

/-- The shade of a small letter in its plain shape. -/
def plainShade : Nat := 2

/-- How much further the shade of a capital is than that of its small letter. -/
def capitalStep : Nat := 6

/-- The last shade of small letters. -/
def lastSmallShade : Nat := 6

/-- The weight of a capital, given that of its small letter. -/
def Weight.capital (w : Weight) : Weight :=
  if w.primary ≠ 0 ∧ w.shade ≤ lastSmallShade then { w with shade := w.shade + capitalStep }
  else w

/-- The weight of a character in its plain shape, by its place. -/
def Weight.plain (place : Nat) : Weight := ⟨place, plainAccent, plainShade⟩

/-! ## Single characters -/

/-- The weight of an ASCII character; control characters have none. -/
def plainWeight? (c : Char) : Option Weight :=
  (plainPlace? c.toNat).map fun p => if c.isUpper then (Weight.plain p).capital else .plain p

/-- The weight of a part of a variant with some shade. -/
def partWeight (shade : Nat) (p : VariantPart) : Weight :=
  let shade := p.shade.getD shade
  match p.base with
  | [] => ⟨0, p.accent.getD 0, shade⟩
  | [n] =>
      match accentTable.find? n with
      | some (_, accent) => ⟨0, p.accent.getD accent, shade⟩
      | none => ⟨placeOrLast n, p.accent.getD plainAccent, shade⟩
  | ns => ⟨(joinPlaces.lookup ns).getD 0, p.accent.getD plainAccent, shade⟩

/-- The weights of a character that are not those of its small letter. -/
def ownWeights? (n : Nat) : Option (List Weight) :=
  match variantTable.find? n, accentTable.find? n with
  | some (i, v), _ => some (v.parts.map fun p => partWeight v.shade (p.shift i))
  | none, some (_, accent) => some [⟨0, accent, plainShade⟩]
  | none, none =>
      if silentTable.holds n then some [] else (place? n).map fun p => [.plain p]

/-- The weights of a character. -/
def charWeights (c : Char) : List Weight :=
  if c.toNat < 0x80 then (plainWeight? c).toList
  else
    let small := lowerChar c
    let ofSmall : Option (List Weight) :=
      if small = c then none else (ownWeights? small.toNat).map (·.map Weight.capital)
    ((ownWeights? c.toNat).orElse fun _ => ofSmall).getD [.plain (placeOrLast c.toNat)]

/-! ## Characters that count together -/

/-- The accent of a dot in the middle after an L. -/
def middleDotAccent : Nat := 0x118

/-- Characters that count together when they follow each other, with their weights. -/
def joins : List (List Nat × List Weight) :=
  ([0x6C, 0xB7], [.plain (placeOrLast 0x6C), ⟨0, middleDotAccent, plainShade⟩]) ::
    joinPlaces.map fun (ns, p) => (ns, [.plain p])

/-- What a character can count together with; a capital as its small letter. -/
def joinsOf (c : Char) : List (List Nat × List Weight) :=
  let startingWith (n : Nat) : List (List Nat × List Weight) :=
    joins.filterMap fun
      | (m :: tail, ws) => if m = n then some (tail, ws) else none
      | _ => none
  let small := lowerChar c
  if small = c then startingWith c.toNat
  else (startingWith small.toNat).map fun (tail, ws) => (tail, ws.map Weight.capital)

/-- The longest of some joins that a text goes on with. -/
def longestJoin? (js : List (List Nat × List Weight)) (rest : List Char) :
    Option (List Nat × List Weight) :=
  js.foldl
    (fun best j =>
      if j.1.isPrefixOf (rest.map Char.toNat) &&
          best.all (fun b => b.1.length < j.1.length) then some j
      else best)
    none

/-- Marks that follow can join too, although other marks of lower classes come before them;
{lit}`last` is the class of the mark that was passed over last. -/
def absorb (js : List (List Nat × List Weight)) (tail : List Nat) (ws : List Weight)
    (last : Nat) : List Char → List Weight × List Char
  | [] => (ws, [])
  | m :: ms =>
      let k := combiningClass m
      if k = 0 then (ws, m :: ms)
      else
        match if last < k then js.lookup (tail ++ [m.toNat]) else none with
        | some ws => absorb js (tail ++ [m.toNat]) ws last ms
        | none =>
            let (ws, rest) := absorb js tail ws k ms
            (ws, m :: rest)

/-- Joining marks takes nothing but marks away. -/
theorem length_absorb_le (js : List (List Nat × List Weight)) (tail : List Nat)
    (ws : List Weight) (last : Nat) (cs : List Char) :
    (absorb js tail ws last cs).2.length ≤ cs.length := by
  induction cs generalizing tail ws last with
  | nil => exact Nat.le_refl _
  | cons m ms ih =>
      simp only [absorb]
      split
      · exact Nat.le_refl _
      · split
        · exact Nat.le_succ_of_le (ih ..)
        · exact Nat.succ_le_succ (ih ..)

/-- Vowels that are written before the consonant after which they are read, and the consonants
of their script. -/
def vowelsWrittenFirst : List (String × String) :=
  [ ("E40-E44", "E01-E2E"), ("EC0-EC4", "E81-EAE EDC-EDF")
  , ("19B5-19B7 19BA", "1980-19AB"), ("AAB5-AAB6 AAB9 AABB-AABC", "AA80-AAAF") ]

/-- The table of those vowels. -/
def firstVowelTable : CodeTable Nat :=
  .ofList (vowelsWrittenFirst.zipIdx.flatMap fun ((vowels, _), i) =>
    (CodeTable.words [vowels]).map fun w => (.ofText w, i))

/-- The table of those consonants. -/
def laterConsonantTable : CodeTable Nat :=
  .ofList (vowelsWrittenFirst.zipIdx.flatMap fun ((_, consonants), i) =>
    (CodeTable.words [consonants]).map fun w => (.ofText w, i))

/-- Whether a vowel is read after the consonant that it is written before. -/
def isReadAfter (vowel consonant : Char) : Bool :=
  match firstVowelTable.find? vowel.toNat, laterConsonantTable.find? consonant.toNat with
  | some (_, i), some (_, j) => i == j
  | _, _ => false

/-! ## Texts -/

/-- The weights of a character and of what counts together with it, and what is left. -/
def joinedWeights (c : Char) (rest : List Char) : List Weight × List Char :=
  match joinsOf c with
  | [] => (charWeights c, rest)
  | js =>
      match longestJoin? js rest with
      | some (tail, ws) => absorb js tail ws 0 (rest.drop tail.length)
      | none => absorb js [] (charWeights c) 0 rest

/-- Counting together takes nothing but characters that follow. -/
theorem length_joinedWeights_le (c : Char) (rest : List Char) :
    (joinedWeights c rest).2.length ≤ rest.length := by
  unfold joinedWeights
  split
  · exact Nat.le_refl _
  · split
    · refine Nat.le_trans (length_absorb_le ..) ?_
      simp
    · exact length_absorb_le ..

/-- The weights of a canonical decomposition. -/
def weightsOfCanonical : List Char → List Weight
  | [] => []
  | [c] => (joinedWeights c []).1
  | c :: d :: rest =>
      if isReadAfter c d then charWeights d ++ charWeights c ++ weightsOfCanonical rest
      else
        (joinedWeights c (d :: rest)).1 ++ weightsOfCanonical (joinedWeights c (d :: rest)).2
termination_by cs => cs.length
decreasing_by
  · simp only [List.length_cons]
    omega
  · have := length_joinedWeights_le c (d :: rest)
    simp only [List.length_cons] at this ⊢
    omega

/-- The weights of a text. A text of ASCII characters is its own decomposition, and none of
its characters count together. -/
def weights (s : List Char) : List Weight :=
  if s.all (·.toNat < 0x80) then s.filterMap plainWeight? else weightsOfCanonical (canonical s)

/-- What counts of a text on the three levels. -/
structure Key where
  primaries : List Nat
  accents : List Nat
  shades : List Nat
deriving DecidableEq, Repr

/-- What counts of a text. -/
def Key.ofText (s : List Char) : Key :=
  let ws := weights s
  let level (f : Weight → Nat) : List Nat := (ws.map f).filter (· != 0)
  ⟨level (·.primary), level (·.accent), level (·.shade)⟩

/-- The order of keys: level by level, and on each level place by place. -/
def Key.compare : Key → Key → Ordering :=
  compareLex (compareOn Key.primaries) (compareLex (compareOn Key.accents) (compareOn Key.shades))

/-- Compare texts. -/
def compare (s t : List Char) : Ordering := (Key.ofText s).compare (Key.ofText t)

/-- Compare strings. -/
def compareStrings (s t : String) : Ordering := compare s.toList t.toList

instance : Std.TransCmp Key.compare :=
  inferInstanceAs (Std.TransCmp (compareLex _ _))

/-- A text is equal to itself. -/
@[simp] theorem compare_self (s : List Char) : compare s s = .eq :=
  @Std.ReflCmp.compare_self _ Key.compare _ _

/-- The order does not depend on which text comes first. -/
theorem compare_swap (s t : List Char) : (compare s t).swap = compare t s :=
  (@Std.OrientedCmp.eq_swap _ Key.compare _ _ _).symm

/-- The order is transitive. -/
theorem isLE_trans {s t u : List Char} (hst : (compare s t).isLE) (htu : (compare t u).isLE) :
    (compare s u).isLE :=
  @Std.TransCmp.isLE_trans _ Key.compare _ _ _ _ hst htu

end LiveVisuals.Collation
