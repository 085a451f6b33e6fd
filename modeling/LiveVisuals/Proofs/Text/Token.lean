import Mathlib.Data.List.Basic
import LiveVisuals.Proofs.Text.Lines

/-!
# Replacing words token by token

A text falls apart into words, which are as long as can be, and the single characters between
them. To replace a word wherever it stands on its own is to replace the tokens that are this
word.

Main definitions:

- {lit}`Text.tokens`: the words of a text and the characters between them.

Main results:

- Theorem {lit}`Text.replaceWord_eq_flatten`: a word is replaced token by token.
- Theorem {lit}`Text.isUnbroken_replaceWord`: a replaced word does not break a line.
-/

namespace LiveVisuals.Text

/-- The words of a text and the single characters between them, in order. -/
def tokens : List Char → List (List Char)
  | [] => []
  | c :: cs =>
      if isWordChar c then (c :: cs.takeWhile isWordChar) :: tokens (cs.dropWhile isWordChar)
      else [c] :: tokens cs
termination_by cs => cs.length
decreasing_by
  · have := (List.dropWhile_sublist isWordChar (l := cs)).length_le
    simp only [List.length_cons]
    omega
  · simp

/-- The tokens of a text make up the text. -/
theorem flatten_tokens (cs : List Char) : (tokens cs).flatten = cs := by
  fun_induction tokens cs with
  | case1 => rfl
  | case2 c cs hc ih => simp [ih]
  | case3 c cs hc ih => simp [ih]

/-! ## Where a word stands -/

/-- Behind the word characters that a text starts with no word goes on. -/
theorem endsWord_dropWhile (cs : List Char) : endsWord (cs.dropWhile isWordChar) := by
  induction cs with
  | nil => rfl
  | cons c cs ih =>
      by_cases hc : isWordChar c
      · simpa [hc] using ih
      · simp [hc, endsWord]

section

variable {word : List Char} (new : List Char)

/-- A word stands at the start of a word only if it is that word. -/
theorem wordAt?_isSome_iff (hword : ∀ c ∈ word, isWordChar c) {before : Option Char}
    (hbefore : before.any isWordChar = false) {c : Char} (hc : isWordChar c)
    (cs : List Char) :
    (wordAt? word before (c :: cs)).isSome ↔ c :: cs.takeWhile isWordChar = word := by
  have hfirst : c :: cs.takeWhile isWordChar = (c :: cs).takeWhile isWordChar := by simp [hc]
  have hrest : cs.dropWhile isWordChar = (c :: cs).dropWhile isWordChar := by simp [hc]
  rw [wordAt?, hbefore, hfirst]
  constructor
  · intro h
    cases hstrip : strip? word (c :: cs) with
    | none => simp [hstrip] at h
    | some rest =>
        have hends : endsWord rest := by
          by_contra hends
          simp [hstrip, hends] at h
        rw [strip?_eq_some_iff.mp hstrip, List.takeWhile_append_of_pos hword]
        cases rest with
        | nil => simp
        | cons d ds =>
            have hd : isWordChar d = false := by simpa [endsWord] using hends
            simp [hd]
  · intro h
    have hstrip : strip? word (c :: cs) = some (cs.dropWhile isWordChar) := by
      rw [strip?_eq_some_iff, ← h, hrest, List.takeWhile_append_dropWhile]
    simp [hstrip, endsWord_dropWhile]

/-- No word stands where a word goes on, or where none starts. -/
theorem wordAt?_eq_none (hne : word ≠ []) (hword : ∀ c ∈ word, isWordChar c)
    {before : Option Char} {c : Char} {cs : List Char}
    (h : before.any isWordChar ∨ isWordChar c = false) :
    wordAt? word before (c :: cs) = none := by
  rw [wordAt?]
  rcases h with hbefore | hc
  · simp [hbefore]
  · have hstrip : strip? word (c :: cs) = none := by
      cases word with
      | nil => exact absurd rfl hne
      | cons w ws =>
          have hw : w ≠ c := by
            rintro rfl
            simp [hword w (by simp)] at hc
          simp [strip?, hw]
    simp [hstrip]

/-! ## Replacing -/

/-- What was read before does not matter where no word goes on. -/
theorem replaceWordFrom_eq_none (hne : word ≠ []) (hword : ∀ c ∈ word, isWordChar c)
    (before : Option Char) {cs : List Char}
    (h : before.any isWordChar = false ∨ endsWord cs) :
    replaceWordFrom word new before 0 cs = replaceWordFrom word new none 0 cs := by
  cases cs with
  | nil => rfl
  | cons c cs =>
      have hat : wordAt? word before (c :: cs) = wordAt? word none (c :: cs) := by
        rcases h with hbefore | hends
        · simp [wordAt?, hbefore]
        · have hc : isWordChar c = false := by simpa [endsWord] using hends
          rw [wordAt?_eq_none hne hword (.inr hc), wordAt?_eq_none hne hword (.inr hc)]
      rw [replaceWordFrom, replaceWordFrom, hat]

/-- The rest of a word stays as it is. -/
theorem replaceWordFrom_inside (hne : word ≠ []) (hword : ∀ c ∈ word, isWordChar c)
    {before : Option Char} (hbefore : before.any isWordChar) (cs : List Char) :
    replaceWordFrom word new before 0 cs =
      cs.takeWhile isWordChar ++ replaceWordFrom word new none 0 (cs.dropWhile isWordChar) := by
  induction cs generalizing before with
  | nil => simp [replaceWordFrom]
  | cons c cs ih =>
      by_cases hc : isWordChar c
      · rw [replaceWordFrom, wordAt?_eq_none hne hword (.inl hbefore)]
        simp only [List.takeWhile_cons, hc, List.dropWhile_cons, if_true, List.cons_append]
        rw [@ih (some c) (by simpa using hc)]
      · have hends : endsWord (c :: cs) := by simpa [endsWord] using hc
        simp only [List.takeWhile_cons, List.dropWhile_cons, hc]
        exact replaceWordFrom_eq_none new hne hword before (.inr hends)

/-- The characters of a replaced word are passed over. -/
theorem replaceWordFrom_skip (hne : word ≠ []) (hword : ∀ c ∈ word, isWordChar c)
    (before : Option Char) (cs : List Char) {ds : List Char} (hends : endsWord ds) :
    replaceWordFrom word new before cs.length (cs ++ ds) =
      replaceWordFrom word new none 0 ds := by
  induction cs generalizing before with
  | nil => exact replaceWordFrom_eq_none new hne hword before (.inr hends)
  | cons c cs ih => simpa [replaceWordFrom] using ih (some c)

/-- A word is replaced token by token. -/
theorem replaceWord_eq_flatten (hne : word ≠ []) (hword : ∀ c ∈ word, isWordChar c)
    (cs : List Char) :
    replaceWord word new cs =
      ((tokens cs).map fun w => if w = word then new else w).flatten := by
  rw [replaceWord]
  fun_induction tokens cs with
  | case1 => rfl
  | case2 c cs hc ih =>
      have hat : (wordAt? word none (c :: cs)).isSome ↔ _ := wordAt?_isSome_iff hword rfl hc cs
      have hends := endsWord_dropWhile cs
      by_cases hsame : c :: cs.takeWhile isWordChar = word
      · obtain ⟨rest, hrest⟩ := Option.isSome_iff_exists.mp (hat.mpr hsame)
        have hlength : word.length - 1 = (cs.takeWhile isWordChar).length := by simp [← hsame]
        have hskip := replaceWordFrom_skip new hne hword (some c)
          (cs.takeWhile isWordChar) hends
        rw [List.takeWhile_append_dropWhile] at hskip
        simp only [replaceWordFrom, hrest, hlength, hskip, ih, List.map_cons, if_pos hsame,
          List.flatten_cons]
      · have hnone : wordAt? word none (c :: cs) = none := by
          rw [← Option.not_isSome_iff_eq_none, hat]
          exact hsame
        have hbefore : (some c).any isWordChar := by simpa using hc
        have hinside := replaceWordFrom_inside new hne hword hbefore cs
        simp only [replaceWordFrom, hnone, hinside, ih, List.map_cons, if_neg hsame,
          List.flatten_cons, List.cons_append]
  | case3 c cs hc ih =>
      have hsame : [c] ≠ word := by
        rintro rfl
        exact hc (hword c (by simp))
      have hnone : wordAt? word none (c :: cs) = none :=
        wordAt?_eq_none hne hword (.inr (by simpa using hc))
      have hbefore : (some c).any isWordChar = false := by simpa using hc
      have hrest : replaceWordFrom word new (some c) 0 cs = replaceWordFrom word new none 0 cs :=
        replaceWordFrom_eq_none new hne hword (some c) (.inl hbefore)
      simp only [replaceWordFrom, hnone, hrest, ih, List.map_cons, if_neg hsame,
        List.flatten_cons, List.singleton_append]

end

/-- A replaced word does not break a line. -/
theorem isUnbroken_replaceWord {word new cs : List Char} (hnew : IsUnbroken new)
    (h : IsUnbroken cs) :
    IsUnbroken (replaceWord word new cs) := by
  have hfrom : ∀ before skip, IsUnbroken (replaceWordFrom word new before skip cs) := by
    intro before skip
    induction cs generalizing before skip with
    | nil => simp [replaceWordFrom]
    | cons c cs ih =>
        obtain ⟨hc, hcs⟩ := isUnbroken_cons.mp h
        cases skip with
        | succ skip => simpa [replaceWordFrom] using ih hcs _ _
        | zero =>
            rw [replaceWordFrom]
            split
            · exact isUnbroken_append.mpr ⟨hnew, ih hcs _ _⟩
            · exact isUnbroken_cons.mpr ⟨hc, ih hcs _ _⟩
  exact hfrom none 0

end LiveVisuals.Text
