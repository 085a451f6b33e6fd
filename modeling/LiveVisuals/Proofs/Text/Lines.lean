import Mathlib.Data.List.Basic
import LiveVisuals.Text.Word

/-!
# Lines of texts

A text is cut into lines at CRLF, CR and LF. No line holds one of these characters, lines that
are joined come back as they were, and when two texts are put together only the last line of
the first and the first line of the second become one, unless a CRLF comes of it.

Main definitions:

- {lit}`Text.IsUnbroken`: a text without line breaks.

Main results:

- Theorem {lit}`Text.isUnbroken_of_mem_lines`: lines are unbroken.
- Theorem {lit}`Text.lines_append`: the lines of two texts put together.
- Theorem {lit}`Text.lines_joinLines`: unbroken lines that are joined come back.
-/

namespace LiveVisuals.Text

/-- A text without line breaks. -/
def IsUnbroken (cs : List Char) : Prop := ∀ c ∈ cs, c ≠ '\r' ∧ c ≠ '\n'

/-! ## Unbroken texts -/

@[simp] theorem isUnbroken_nil : IsUnbroken [] := by
  simp [IsUnbroken]

@[simp] theorem isUnbroken_cons {c : Char} {cs : List Char} :
    IsUnbroken (c :: cs) ↔ (c ≠ '\r' ∧ c ≠ '\n') ∧ IsUnbroken cs := by
  simp [IsUnbroken]

@[simp] theorem isUnbroken_append {cs ds : List Char} :
    IsUnbroken (cs ++ ds) ↔ IsUnbroken cs ∧ IsUnbroken ds := by
  simp only [IsUnbroken, List.mem_append]
  constructor
  · intro h
    exact ⟨fun c hc => h c (.inl hc), fun c hc => h c (.inr hc)⟩
  · rintro ⟨hcs, hds⟩ c (hc | hc)
    · exact hcs c hc
    · exact hds c hc

/-- A part of an unbroken text is unbroken. -/
theorem IsUnbroken.subset {cs ds : List Char} (h : IsUnbroken ds) (hcs : cs ⊆ ds) :
    IsUnbroken cs :=
  fun c hc => h c (hcs hc)

/-- Trimming leaves a text unbroken. -/
theorem IsUnbroken.trim {cs : List Char} (h : IsUnbroken cs) : IsUnbroken (trim cs) := by
  refine h.subset fun c hc => ?_
  have hback : c ∈ (skipBlanks cs).reverse :=
    (List.dropWhile_sublist isBlank).subset (List.mem_reverse.mp hc)
  exact (List.dropWhile_sublist isBlank).subset (List.mem_reverse.mp hback)

/-- Identifiers consist of word characters. -/
theorem isWordChar_of_isIdentifier {cs : List Char} (h : isIdentifier cs) :
    ∀ c ∈ cs, isWordChar c := by
  cases cs with
  | nil => simp
  | cons c cs =>
      simp only [isIdentifier, startsIdentifier, Bool.and_eq_true, Bool.or_eq_true,
        List.all_eq_true] at h
      intro d hd
      rcases List.mem_cons.mp hd with rfl | hd
      · rcases h.1 with hletter | hline <;> simp [isWordChar, *]
      · exact h.2 d hd

/-- Words are unbroken. -/
theorem isUnbroken_of_isIdentifier {cs : List Char} (h : isIdentifier cs) : IsUnbroken cs := by
  intro c hc
  have hword : isWordChar c := isWordChar_of_isIdentifier h c hc
  constructor
  · rintro rfl
    exact absurd hword (by decide)
  · rintro rfl
    exact absurd hword (by decide)

/-! ## Lines -/

/-- Any other character than a line break joins the first line. -/
theorem lines_cons {c : Char} (hr : c ≠ '\r') (hn : c ≠ '\n') (cs : List Char) :
    lines (c :: cs) = (c :: (lines cs).head (lines_ne_nil cs)) :: (lines cs).tail := by
  rw [lines]
  · split
    · next h => exact absurd h (lines_ne_nil cs)
    · next l ls h => simp [h]
  · intro ds hcs
    exact absurd hcs hr
  · exact hr
  · exact hn

/-- Lines are unbroken. -/
theorem isUnbroken_of_mem_lines {cs l : List Char} (h : l ∈ lines cs) : IsUnbroken l := by
  fun_induction lines cs generalizing l with
  | case1 =>
      rw [List.mem_singleton.mp h]
      exact isUnbroken_nil
  | case5 c cs _ _ _ hlines => exact absurd hlines (lines_ne_nil cs)
  | case6 c cs hcr hr hn l' ls hlines ih =>
      rcases List.mem_cons.mp h with rfl | h
      · rw [isUnbroken_cons]
        exact ⟨⟨hr, hn⟩, ih (by simp [hlines])⟩
      · exact ih (by simp [hlines, h])
  | _ =>
      rename_i ih
      rcases List.mem_cons.mp h with rfl | h
      · exact isUnbroken_nil
      · exact ih h

/-- An unbroken text is one line. -/
theorem lines_of_isUnbroken {cs : List Char} (h : IsUnbroken cs) : lines cs = [cs] := by
  induction cs with
  | nil => rfl
  | cons c cs ih =>
      obtain ⟨⟨hr, hn⟩, hcs⟩ := isUnbroken_cons.mp h
      rw [lines_cons hr hn]
      simp [ih hcs]

/-- When two texts are put together, the last line of the first goes on as the first line of the
second. The first must not end with a carriage return, which a line feed could follow. -/
theorem lines_append {cs ds : List Char} {ls ms : List (List Char)} {l m : List Char}
    (hend : cs.getLast? ≠ some '\r') (hcs : lines cs = ls ++ [l]) (hds : lines ds = m :: ms) :
    lines (cs ++ ds) = ls ++ (l ++ m) :: ms := by
  have hrest : ∀ {c : Char} {cs : List Char}, (c :: cs).getLast? ≠ some '\r' →
      cs.getLast? ≠ some '\r' := by
    intro c cs h
    cases cs with
    | nil => simp
    | cons d cs => simpa using h
  -- the lines after the first, when there are any
  have hsplit : ∀ {k l : List Char} {ks ls : List (List Char)}, ks ≠ [] →
      k :: ks = ls ++ [l] → ∃ ls', ls = k :: ls' ∧ ks = ls' ++ [l] := by
    intro k l ks ls hks h
    cases ls with
    | nil =>
        simp only [List.nil_append, List.cons.injEq] at h
        exact absurd h.2 hks
    | cons k' ls' =>
        simp only [List.cons_append, List.cons.injEq] at h
        exact ⟨ls', by rw [h.1], h.2⟩
  fun_induction lines cs generalizing ls l with
  | case1 =>
      have hls : ls = [] ∧ l = [] := by
        cases ls <;> simp_all
      rw [hls.1, hls.2]
      exact hds
  | case2 cs ih =>
      obtain ⟨ls', rfl, hls'⟩ := hsplit (lines_ne_nil cs) hcs
      have ih := ih (hrest (hrest hend)) hls'
      simp only [List.cons_append, lines, ih]
  | case3 cs hlf ih =>
      obtain ⟨ls', rfl, hls'⟩ := hsplit (lines_ne_nil cs) hcs
      have ih := ih (hrest hend) hls'
      have hlf' : ∀ es, cs ++ ds = '\n' :: es → False := by
        intro es hes
        cases cs with
        | nil => simp at hend
        | cons c cs =>
            simp only [List.cons_append, List.cons.injEq] at hes
            exact hlf cs (by rw [hes.1])
      rw [List.cons_append, lines]
      · rw [ih]
        rfl
      · exact hlf'
  | case4 cs ih =>
      obtain ⟨ls', rfl, hls'⟩ := hsplit (lines_ne_nil cs) hcs
      have ih := ih (hrest hend) hls'
      simp only [List.cons_append, lines, ih]
  | case5 c cs _ _ _ hlines => exact absurd hlines (lines_ne_nil cs)
  | case6 c cs _ hr hn k ks hlines ih =>
      rw [List.cons_append, lines_cons hr hn]
      cases ks with
      | nil =>
          have hls : ls = [] ∧ l = c :: k := by
            cases ls <;> simp_all
          have ih := @ih [] k (hrest hend) hlines
          rw [hls.1, hls.2]
          simp [ih]
      | cons k' ks =>
          obtain ⟨ls', rfl, hls'⟩ := hsplit (by simp) hcs
          have hjoined : lines cs = (k :: ls') ++ [l] := by rw [hlines, hls']; rfl
          have ih := ih (hrest hend) hjoined
          simp [ih]

/-- The first of several lines that are joined ends at the first line feed. -/
theorem lines_append_newline {l : List Char} (h : IsUnbroken l) (cs : List Char) :
    lines (l ++ '\n' :: cs) = l :: lines cs := by
  have hend : l.getLast? ≠ some '\r' := by
    intro hr
    exact (h '\r' (List.mem_of_getLast? hr)).1 rfl
  have hl : lines l = [] ++ [l] := lines_of_isUnbroken h
  have hbreak : lines ('\n' :: cs) = [] :: lines cs := by
    simp [lines]
  simpa using lines_append hend hl hbreak

/-- Unbroken lines that are joined come back. -/
theorem lines_joinLines {ls : List String} (hne : ls ≠ [])
    (h : ∀ l ∈ ls, IsUnbroken l.toList) :
    lines (joinLines ls).toList = ls.map String.toList := by
  rw [joinLines, String.toList_intercalate]
  induction ls with
  | nil => exact absurd rfl hne
  | cons l ls ih =>
      have hl : IsUnbroken l.toList := h l (by simp)
      cases ls with
      | nil => simpa using lines_of_isUnbroken hl
      | cons l' ls =>
          have ih := ih (by simp) fun m hm => h m (List.mem_cons_of_mem l hm)
          have hnewline : "\n".toList = ['\n'] := rfl
          simp only [List.map_cons, hnewline] at ih ⊢
          rw [List.intercalate_cons_cons, List.append_assoc, List.singleton_append,
            lines_append_newline hl, ih]

end LiveVisuals.Text
