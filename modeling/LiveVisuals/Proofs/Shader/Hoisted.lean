import LiveVisuals.Proofs.Shader.Comment
import LiveVisuals.Proofs.Shader.Declared

/-!
# Hoisting and comments

The directives that are hoisted are found line by line, while a block comment goes on from line to
line. A comment that ends on the line of a directive, or starts there, is cut off from its other
end. If no hoisted line is cut off like that the comments of the text are those of the body: the
hoisted lines are live, the injected ones start in code, and nothing else changes its region.

Main definitions:

- {lit}`Shader.Region.along`: the region of each character of a text.
- {lit}`Shader.Region.starts`: the regions in which lines start.
- {lit}`Shader.ClosedAt`: a line that starts in code and leaves no block comment open.
- {lit}`Shader.LiveDirective`: a line whose directive is in no comment.

Main results:

- Theorem {lit}`Shader.along_lines`: a text may be read line by line.
- Theorem {lit}`Transpiled.reading_text`: the regions of a transpiled text, and what they are at
  each place by {lit}`Transpiled.reading_places`.
- Theorem {lit}`Transpiled.hoisting_respects_comments`: what stays in its region.
-/

namespace LiveVisuals

namespace Shader

open Text

/-! ## The regions of characters -/

namespace Region

/-- The region of each character of a text that starts in a region. The marks of a comment are part
of it; the break at the end of a line comment is not. -/
def along : Region → List Char → List Region
  | _, [] => []
  | code, '/' :: '/' :: cs => lineComment :: lineComment :: along lineComment cs
  | code, '/' :: '*' :: cs => blockComment :: blockComment :: along blockComment cs
  | code, _ :: cs => code :: along code cs
  | lineComment, c :: cs =>
      if endsLine c then code :: along code cs else lineComment :: along lineComment cs
  | blockComment, '*' :: '/' :: cs => blockComment :: blockComment :: along code cs
  | blockComment, _ :: cs => blockComment :: along blockComment cs

/-- The region in which the next line starts. -/
def nextLine : Region → Region
  | blockComment => blockComment
  | _ => code

/-- The regions in which lines start, the first one in a given region. -/
def starts : Region → List (List Char) → List Region
  | _, [] => []
  | r, l :: ls => r :: starts (r.after l).nextLine ls

/-- The region in which what follows lines starts. -/
def behind (r : Region) (ls : List (List Char)) : Region :=
  ls.foldl (fun r l => (r.after l).nextLine) r

/-- The regions of the characters of lines, line by line. -/
def alongLines (r : Region) (ls : List (List Char)) : List (List Region) :=
  List.zipWith along (r.starts ls) ls

@[simp] theorem length_along (r : Region) (cs : List Char) : (r.along cs).length = cs.length := by
  fun_induction along r cs <;> simp_all

theorem nextLine_eq_code {r : Region} (h : r ≠ blockComment) : r.nextLine = code := by
  cases r with
  | code => rfl
  | lineComment => rfl
  | blockComment => exact absurd rfl h

@[simp] theorem nextLine_nextLine (r : Region) : r.nextLine.nextLine = r.nextLine := by
  cases r <;> rfl

/-- No line starts in a line comment. -/
theorem nextLine_behind (ls : List (List Char)) :
    (code.behind ls).nextLine = code.behind ls := by
  have hall : ∀ r : Region, r.nextLine = r → (r.behind ls).nextLine = r.behind ls := by
    induction ls with
    | nil => exact fun r hr => hr
    | cons l ls ih => exact fun r _ => ih _ (nextLine_nextLine _)
  exact hall code rfl

@[simp] theorem length_starts (r : Region) (ls : List (List Char)) :
    (r.starts ls).length = ls.length := by
  induction ls generalizing r with
  | nil => rfl
  | cons l ls ih => rw [starts, List.length_cons, ih, List.length_cons]

/-- Lines that follow others start where those end. -/
theorem starts_append (r : Region) (ls ms : List (List Char)) :
    r.starts (ls ++ ms) = r.starts ls ++ (r.behind ls).starts ms := by
  induction ls generalizing r with
  | nil => rfl
  | cons l ls ih =>
      rw [List.cons_append, starts, starts, ih]
      rfl

theorem alongLines_append (r : Region) (ls ms : List (List Char)) :
    r.alongLines (ls ++ ms) = r.alongLines ls ++ (r.behind ls).alongLines ms := by
  rw [alongLines, starts_append, List.zipWith_append (length_starts r ls)]
  rfl

/-- The regions of a line. -/
theorem getElem?_alongLines {r r' : Region} {ls : List (List Char)} {l : List Char} {i : Nat}
    (hr : (r.starts ls)[i]? = some r') (hl : ls[i]? = some l) :
    (r.alongLines ls)[i]? = some (r'.along l) := by
  rw [alongLines, List.getElem?_zipWith, hr, hl]

/-- A text that starts with no mark of a comment is read as if it stood alone. -/
theorem reading_append (r : Region) (cs : List Char) {ds : List Char}
    (h : ∀ c ∈ ds.head?, c ≠ '/' ∧ c ≠ '*') :
    r.along (cs ++ ds) = r.along cs ++ (r.after cs).along ds ∧
      r.after (cs ++ ds) = (r.after cs).after ds := by
  -- a mark of two characters does not go on into the second text
  have hmark {mark : Char} (hm : mark = '/' ∨ mark = '*') {cs es : List Char}
      (hcs : ∀ es, cs ≠ mark :: es) : cs ++ ds ≠ mark :: es := by
    intro hes
    cases cs with
    | nil =>
        rw [List.nil_append] at hes
        have hhead := h mark (by rw [hes]; rfl)
        exact hm.elim hhead.1 hhead.2
    | cons c cs =>
        rw [List.cons_append, List.cons.injEq] at hes
        exact hcs cs (by rw [hes.1])
  fun_induction after r cs with
  | case1 r => exact ⟨rfl, rfl⟩
  | case2 cs ih => simp [along, after, ih]
  | case3 cs ih => simp [along, after, ih]
  | case4 c cs hline hblock ih =>
      have hline' : ∀ es, c = '/' → cs ++ ds ≠ '/' :: es :=
        fun es hc => hmark (.inl rfl) fun es hes => hline es hc hes
      have hblock' : ∀ es, c = '/' → cs ++ ds ≠ '*' :: es :=
        fun es hc => hmark (.inr rfl) fun es hes => hblock es hc hes
      rw [List.cons_append, along.eq_4 c _ hline' hblock', after.eq_4 c _ hline' hblock',
        along.eq_4 c _ hline hblock, ih.1, ih.2]
      exact ⟨rfl, rfl⟩
  | case5 c cs hc ih => simp [along, after, hc, ih]
  | case6 c cs hc ih => simp [along, after, hc, ih]
  | case7 cs ih => simp [along, after, ih]
  | case8 c cs hclose ih =>
      have hclose' : ∀ es, c = '*' → cs ++ ds ≠ '/' :: es :=
        fun es hc => hmark (.inl rfl) fun es hes => hclose es hc hes
      rw [List.cons_append, along.eq_7 c _ hclose', after.eq_7 c _ hclose',
        along.eq_7 c _ hclose, ih.1, ih.2]
      exact ⟨rfl, rfl⟩

/-- Code without slashes starts no comment. -/
theorem reading_plain {cs : List Char} (h : '/' ∉ cs) (ds : List Char) :
    code.along (cs ++ ds) = List.replicate cs.length code ++ code.along ds ∧
      code.after (cs ++ ds) = code.after ds := by
  induction cs with
  | nil => exact ⟨rfl, rfl⟩
  | cons c cs ih =>
      rw [List.mem_cons, not_or] at h
      have hslash : ∀ es, c = '/' → cs ++ ds ≠ es := fun _ hc => absurd hc.symm h.1
      rw [List.cons_append, along.eq_4 c _ (fun _ => hslash _) (fun _ => hslash _),
        after.eq_4 c _ (fun _ => hslash _) (fun _ => hslash _), (ih h.2).1, (ih h.2).2]
      exact ⟨rfl, rfl⟩

/-- A block comment goes on where there is no star. -/
theorem after_block_plain {cs : List Char} (h : '*' ∉ cs) :
    blockComment.after cs = blockComment := by
  induction cs with
  | nil => rfl
  | cons c cs ih =>
      rw [List.mem_cons, not_or] at h
      rw [after.eq_7 c cs fun _ hc => absurd hc.symm h.1, ih h.2]

/-- A blank is no part of a mark. -/
theorem mark_of_isBlank {c : Char} (h : isBlank c) : c ≠ '/' ∧ c ≠ '*' := by
  constructor <;>
    · rintro rfl
      exact absurd h (by decide)

/-- Blanks do not change the region in which the next line starts. -/
theorem nextLine_after_blanks (r : Region) {g : List Char} (hg : ∀ c ∈ g, isBlank c) :
    (r.after g).nextLine = r.nextLine := by
  induction g generalizing r with
  | nil => rfl
  | cons c g ih =>
      have hg' : ∀ d ∈ g, isBlank d := fun d hd => hg d (List.mem_cons_of_mem c hd)
      have hmark := mark_of_isBlank (hg c List.mem_cons_self)
      cases r with
      | code =>
          have hslash : ∀ es, c = '/' → g = es → False := fun _ hc => absurd hc hmark.1
          rw [after.eq_4 c g (fun _ => hslash _) (fun _ => hslash _), ih code hg']
      | lineComment =>
          rw [after]
          split
          · rw [ih code hg']
            rfl
          · rw [ih lineComment hg']
      | blockComment =>
          rw [after.eq_7 c g (fun _ hc => absurd hc hmark.2), ih blockComment hg']

/-- A line ends in the same kind of region when it is trimmed. -/
theorem nextLine_after_trim (l : List Char) :
    (code.after (trim l)).nextLine = (code.after l).nextLine := by
  have hblanks : ∀ cs : List Char, ∀ c ∈ cs.takeWhile isBlank, isBlank c :=
    fun cs c hc => List.mem_takeWhile_imp hc
  have hslash : '/' ∉ l.takeWhile isBlank := fun h => (mark_of_isBlank (hblanks l '/' h)).1 rfl
  -- the blanks ahead, the trimmed line, the blanks behind
  have hahead : l.takeWhile isBlank ++ skipBlanks l = l := List.takeWhile_append_dropWhile
  have hbehind : trim l ++ ((skipBlanks l).reverse.takeWhile isBlank).reverse = skipBlanks l := by
    have hrest : (skipBlanks l).reverse.takeWhile isBlank ++ skipBlanks (skipBlanks l).reverse =
        (skipBlanks l).reverse := List.takeWhile_append_dropWhile
    rw [trim, ← List.reverse_append, hrest, List.reverse_reverse]
  have hreverse : ∀ c ∈ ((skipBlanks l).reverse.takeWhile isBlank).reverse, isBlank c :=
    fun c hc => hblanks _ c (List.mem_reverse.mp hc)
  have hmark : ∀ c ∈ ((skipBlanks l).reverse.takeWhile isBlank).reverse.head?,
      c ≠ '/' ∧ c ≠ '*' :=
    fun c hc => mark_of_isBlank (hreverse c (List.mem_of_mem_head? hc))
  have hread := (reading_plain hslash (skipBlanks l)).2
  rw [hahead] at hread
  rw [hread, ← hbehind, (reading_append code (trim l) hmark).2, nextLine_after_blanks _ hreverse]

/-- Lines that each lead to the region they start in all start there. -/
theorem starts_of_forall {r : Region} {ls : List (List Char)}
    (h : ∀ l ∈ ls, (r.after l).nextLine = r) :
    r.starts ls = List.replicate ls.length r ∧ r.behind ls = r := by
  induction ls with
  | nil => exact ⟨rfl, rfl⟩
  | cons l ls ih =>
      have hl := h l List.mem_cons_self
      have ih := ih fun l' hl' => h l' (List.mem_cons_of_mem l hl')
      constructor
      · rw [starts, hl, ih.1]
        rfl
      · rw [behind, List.foldl_cons, hl]
        exact ih.2

/-- Lines start in the same regions if each of them leads to the same region. -/
theorem starts_congr {r : Region} {ls ms : List (List Char)} (hlength : ms.length = ls.length)
    (h : ∀ i (r' : Region), (r.starts ls)[i]? = some r' →
      (r'.after (ms.getD i [])).nextLine = (r'.after (ls.getD i [])).nextLine) :
    r.starts ms = r.starts ls := by
  induction ls generalizing r ms with
  | nil =>
      rw [List.length_eq_zero_iff.mp hlength]
  | cons l ls ih =>
      cases ms with
      | nil => cases hlength
      | cons m ms =>
          have hfirst : (r.after m).nextLine = (r.after l).nextLine := h 0 r rfl
          rw [starts, starts, hfirst, ih (Nat.succ.inj hlength) fun i r' hr' => h (i + 1) r' hr']

/-! ### Words -/

/-- A character as far as comments go: no word character is part of a mark. -/
def shape (c : Char) : Char := if isWordChar c then '_' else c

/-- What is neither a word character nor its stand-in has the shape of itself only. -/
theorem eq_of_shape_eq {c d : Char} (hd : isWordChar d = false) (h : shape c = d) : c = d := by
  rw [shape] at h
  split at h
  · rw [← h] at hd
    exact absurd hd (by decide)
  · exact h

theorem endsLine_shape (c : Char) : endsLine (shape c) = endsLine c := by
  rw [shape]
  split
  · next hc =>
      have hc' : endsLine c = false := by
        rw [endsLine, Bool.or_eq_false_iff, beq_eq_false_iff_ne, beq_eq_false_iff_ne]
        constructor <;>
          · rintro rfl
            exact absurd hc (by decide)
      rw [hc']
      decide
  · rfl

/-- Which word characters a text has does not matter for its comments. -/
theorem reading_map_shape (r : Region) (cs : List Char) :
    r.along (cs.map shape) = r.along cs ∧ r.after (cs.map shape) = r.after cs := by
  have hmark {mark : Char} (hm : isWordChar mark = false) {cs : List Char}
      (hcs : ∀ es, cs ≠ mark :: es) : ∀ es, cs.map shape ≠ mark :: es := by
    intro es hes
    cases cs with
    | nil => cases hes
    | cons d ds =>
        rw [List.map_cons, List.cons.injEq] at hes
        exact hcs ds (by rw [eq_of_shape_eq hm hes.1])
  have hslash : shape '/' = '/' := by decide
  have hstar : shape '*' = '*' := by decide
  have hslash' : isWordChar '/' = false := by decide
  have hstar' : isWordChar '*' = false := by decide
  fun_induction after r cs with
  | case1 r => exact ⟨rfl, rfl⟩
  | case2 cs ih => simp [along, after, hslash, ih]
  | case3 cs ih => simp [along, after, hslash, hstar, ih]
  | case4 c cs hline hblock ih =>
      have hline' : ∀ es, shape c = '/' → cs.map shape ≠ '/' :: es := fun es hc =>
        hmark hslash' (fun es hes => hline es (eq_of_shape_eq hslash' hc) hes) es
      have hblock' : ∀ es, shape c = '/' → cs.map shape ≠ '*' :: es := fun es hc =>
        hmark hstar' (fun es hes => hblock es (eq_of_shape_eq hslash' hc) hes) es
      rw [List.map_cons, along.eq_4 _ _ hline' hblock', after.eq_4 _ _ hline' hblock',
        along.eq_4 c cs hline hblock, ih.1, ih.2]
      exact ⟨rfl, rfl⟩
  | case5 c cs hc ih => simp [along, after, endsLine_shape, hc, ih]
  | case6 c cs hc ih => simp [along, after, endsLine_shape, hc, ih]
  | case7 cs ih => simp [along, after, hslash, hstar, ih]
  | case8 c cs hclose ih =>
      have hclose' : ∀ es, shape c = '*' → cs.map shape ≠ '/' :: es := fun es hc =>
        hmark hslash' (fun es hes => hclose es (eq_of_shape_eq hstar' hc) hes) es
      rw [List.map_cons, along.eq_7 _ _ hclose', after.eq_7 _ _ hclose', along.eq_7 c cs hclose,
        ih.1, ih.2]
      exact ⟨rfl, rfl⟩

/-- Renaming the fragment coordinate changes no comment. -/
theorem reading_renamed (dialect : Dialect) (r : Region) (l : List Char) :
    r.along (renamed dialect l) = r.along l ∧ r.after (renamed dialect l) = r.after l := by
  have hshape : (renamed dialect l).map shape = l.map shape := by
    cases dialect with
    | glsl => rfl
    | isf =>
        have hnames : "vj_FragCoord".toList.map shape = "gl_FragCoord".toList.map shape := by decide
        have hword : ∀ w : List Char, (if w = "gl_FragCoord".toList then "vj_FragCoord".toList
            else w).map shape = w.map shape := by
          intro w
          split
          · next hw => rw [hw, hnames]
          · rfl
        rw [renamed, List.map_flatten, List.map_map]
        simp only [Function.comp_def, hword]
        rw [← List.map_flatten, flatten_tokens]
  obtain ⟨halong, hafter⟩ := reading_map_shape r l
  obtain ⟨halong', hafter'⟩ := reading_map_shape r (renamed dialect l)
  rw [hshape] at halong' hafter'
  exact ⟨halong'.symm.trans halong, hafter'.symm.trans hafter⟩

/-! ### Lines of a text -/

/-- A line break leads to the next line. -/
theorem along_break {e : List Char} (hne : e ≠ []) (he : ∀ c ∈ e, endsLine c) (r : Region)
    (rest : List Char) :
    r.along (e ++ rest) = List.replicate e.length r.nextLine ++ r.nextLine.along rest := by
  have hone {c : Char} (hc : endsLine c) (r : Region) (cs : List Char) :
      r.along (c :: cs) = r.nextLine :: r.nextLine.along cs := by
    obtain ⟨hslash, hstar⟩ := mark_of_endsLine hc
    cases r with
    | code => exact along.eq_4 c cs (fun _ h => absurd h hslash) (fun _ h => absurd h hslash)
    | lineComment => exact (along.eq_5 c cs).trans (if_pos hc)
    | blockComment => exact along.eq_7 c cs (fun _ h => absurd h hstar)
  obtain ⟨c, e, rfl⟩ := List.exists_cons_of_ne_nil hne
  rw [List.cons_append, hone (he c List.mem_cons_self), List.length_cons, List.replicate_succ,
    List.cons_append]
  congr 1
  have he' : ∀ d ∈ e, endsLine d := fun d hd => he d (List.mem_cons_of_mem c hd)
  clear hne he
  induction e with
  | nil => rfl
  | cons d e ih =>
      rw [List.cons_append, hone (he' d List.mem_cons_self), nextLine_nextLine,
        ih fun d' hd' => he' d' (List.mem_cons_of_mem d hd')]
      rfl

end Region

/-- A text is one line, or a line, a line break, and lines. -/
theorem exists_first_line (cs : List Char) :
    IsUnbroken cs ∨ ∃ l e rest, cs = l ++ (e ++ rest) ∧ IsUnbroken l ∧
      (e ≠ [] ∧ ∀ c ∈ e, endsLine c) ∧ lines cs = l :: lines rest := by
  have hbreak : ∀ e ∈ [['\r', '\n'], ['\r'], ['\n']], e ≠ [] ∧ ∀ c ∈ e, endsLine c := by
    simp [endsLine]
  fun_induction lines cs with
  | case1 => exact .inl isUnbroken_nil
  | case2 cs => exact .inr ⟨[], _, cs, rfl, isUnbroken_nil, hbreak ['\r', '\n'] (by simp), rfl⟩
  | case3 cs => exact .inr ⟨[], _, cs, rfl, isUnbroken_nil, hbreak ['\r'] (by simp), rfl⟩
  | case4 cs => exact .inr ⟨[], _, cs, rfl, isUnbroken_nil, hbreak ['\n'] (by simp), rfl⟩
  | case5 c cs _ _ _ hlines => exact absurd hlines (lines_ne_nil cs)
  | case6 c cs hcr hr hn l ls hlines ih =>
      rcases ih with hcs | ⟨l', e, rest, hsplit, hl', he, hlines'⟩
      · exact .inl (isUnbroken_cons.mpr ⟨⟨hr, hn⟩, hcs⟩)
      · rw [hlines, List.cons.injEq] at hlines'
        obtain ⟨rfl, rfl⟩ := hlines'
        exact .inr ⟨c :: l, e, rest, by rw [hsplit, List.cons_append],
          isUnbroken_cons.mpr ⟨⟨hr, hn⟩, hl'⟩, he, rfl⟩

/-- The regions of the characters of a text, line breaks apart, are those that are found line by
line. -/
theorem along_lines (r : Region) (cs : List Char) :
    ((cs.zip (r.along cs)).filter fun p => !endsLine p.1) =
      (List.zipWith List.zip (lines cs) (r.alongLines (lines cs))).flatten := by
  have hkept {l : List Char} (hl : IsUnbroken l) (rs : List Region) :
      ((l.zip rs).filter fun p => !endsLine p.1) = l.zip rs := by
    refine List.filter_eq_self.mpr fun p hp => ?_
    have hp := hl p.1 (List.of_mem_zip hp).1
    simp [endsLine, hp]
  induction hlength : cs.length using Nat.strong_induction_on generalizing cs r with
  | h n ih =>
  subst hlength
  rcases exists_first_line cs with hcs | ⟨l, e, rest, rfl, hl, ⟨hne, he⟩, hlines⟩
  · rw [lines_of_isUnbroken hcs, hkept hcs]
    simp [Region.alongLines, Region.starts]
  · have hmark : ∀ c ∈ (e ++ rest).head?, c ≠ '/' ∧ c ≠ '*' := by
      intro c hc
      rw [List.head?_append_of_ne_nil e hne] at hc
      exact mark_of_endsLine (he c (List.mem_of_mem_head? hc))
    have hdropped (rs : List Region) : ((e.zip rs).filter fun p => !endsLine p.1) = [] := by
      refine List.filter_eq_nil_iff.mpr fun p hp => ?_
      simp [he p.1 (List.of_mem_zip hp).1]
    have hpos : 0 < e.length := List.length_pos_of_ne_nil hne
    have hlt : rest.length < (l ++ (e ++ rest)).length := by
      simp only [List.length_append]
      omega
    have hrest := ih rest.length hlt (r.after l).nextLine rest rfl
    rw [(Region.reading_append r l hmark).1, Region.along_break hne he, List.zip_append (by simp),
      List.zip_append (by simp), List.filter_append, List.filter_append, hkept hl, hdropped,
      hrest, hlines]
    rfl

/-! ## Directives in code -/

/-- A line starts in code and does not end in a block comment. -/
structure ClosedAt (body : List (List Char)) (i : Nat) : Prop where
  starts : (Region.code.starts body)[i]? = some .code
  ends : Region.code.after (body.getD i []) ≠ .blockComment

instance (body : List (List Char)) (i : Nat) : Decidable (ClosedAt body i) :=
  decidable_of_iff ((Region.code.starts body)[i]? = some .code ∧
    Region.code.after (body.getD i []) ≠ .blockComment)
    ⟨fun h => ⟨h.1, h.2⟩, fun h => ⟨h.starts, h.ends⟩⟩

/-- A line is a version or extension directive, of which nothing is in a comment up to the end of
its word. -/
def LiveDirective (body : List (List Char)) (i : Nat) : Prop :=
  ∃ blanks word rest, body[i]? = some (blanks ++ '#' :: (word ++ rest)) ∧
    (∀ c ∈ blanks, isBlank c) ∧ word ∈ ["version".toList, "extension".toList] ∧ endsWord rest ∧
    ∃ regions, (Region.code.alongLines body)[i]? =
      some (List.replicate (blanks.length + 1 + word.length) .code ++ regions)

/-- A directive is blanks, a hash and its word. -/
theorem exists_of_isDirective {word : String} {line : List Char} (h : isDirective word line) :
    ∃ blanks rest, line = blanks ++ '#' :: (word.toList ++ rest) ∧ (∀ c ∈ blanks, isBlank c) ∧
      endsWord rest := by
  rw [isDirective] at h
  split at h
  · next rest hstrip =>
      refine ⟨line.takeWhile isBlank, rest, ?_, fun c hc => List.mem_takeWhile_imp hc, h⟩
      have hsplit : line.takeWhile isBlank ++ skipBlanks line = line :=
        List.takeWhile_append_dropWhile
      rw [strip?_eq_some_iff.mp hstrip] at hsplit
      exact hsplit.symm
  · cases h

/-- The line at a place that is there. -/
theorem getElem?_eq_getD {body : List (List Char)} {i : Nat} (hi : i < body.length) :
    body[i]? = some (body.getD i []) := by
  rw [List.getD_eq_getElem?_getD, List.getElem?_eq_getElem hi]
  rfl

/-- A hoisted line that starts in code is a live directive. -/
theorem liveDirective_of_starts {body : List (List Char)} {i : Nat} (hi : i ∈ hoistedPlaces body)
    (hstart : (Region.code.starts body)[i]? = some .code) : LiveDirective body i := by
  obtain ⟨word, hword, hdirective⟩ : ∃ word : String,
      word.toList ∈ ["version".toList, "extension".toList] ∧ directiveAt word body i := by
    rcases mem_hoistedPlaces.mp hi with hversion | ⟨-, hextension⟩
    · exact ⟨"version", by simp, List.find?_some hversion⟩
    · exact ⟨"extension", by simp, hextension⟩
  obtain ⟨blanks, rest, hline, hblanks, hends⟩ := exists_of_isDirective hdirective
  have hlt : i < body.length := by
    rw [← Region.length_starts .code body]
    exact (List.getElem?_eq_some_iff.mp hstart).1
  have hline' : body[i]? = some (blanks ++ '#' :: (word.toList ++ rest)) := by
    rw [← hline, getElem?_eq_getD hlt]
  have hslash : '/' ∉ blanks ++ '#' :: word.toList := by
    simp only [List.mem_append, List.mem_cons, not_or]
    refine ⟨fun h => (Region.mark_of_isBlank (hblanks '/' h)).1 rfl, by decide, ?_⟩
    revert hword
    generalize word.toList = w
    intro hw
    revert w
    decide
  have hplain := (Region.reading_plain hslash rest).1
  refine ⟨blanks, word.toList, rest, hline', hblanks, hword, hends, Region.code.along rest, ?_⟩
  rw [Region.getElem?_alongLines hstart hline']
  rw [List.append_assoc, List.cons_append, List.length_append, List.length_cons] at hplain
  rw [hplain]
  congr 3
  omega

/-! ## The parts of a text -/

/-- The lines ahead of the injected ones. -/
def hoistedLines (body : List (List Char)) : List (List Char) :=
  (hoistedPlaces body).map fun i => trim (body.getD i [])

/-- The lines behind the injected ones. -/
def leftLines (dialect : Dialect) (body : List (List Char)) : List (List Char) :=
  (List.range body.length).map fun i =>
    if i ∈ hoistedPlaces body then [] else renamed dialect (body.getD i [])

@[simp] theorem length_hoistedLines (body : List (List Char)) :
    (hoistedLines body).length = (hoistedPlaces body).length := by
  rw [hoistedLines, List.length_map]

@[simp] theorem length_leftLines (dialect : Dialect) (body : List (List Char)) :
    (leftLines dialect body).length = body.length := by
  rw [leftLines, List.length_map, List.length_range]

theorem getElem?_leftLines (dialect : Dialect) {body : List (List Char)} {i : Nat}
    (hi : i < body.length) : (leftLines dialect body)[i]? =
      some (if i ∈ hoistedPlaces body then [] else renamed dialect (body.getD i [])) := by
  rw [leftLines, List.getElem?_map, List.getElem?_range hi]
  rfl

/-- Behind hoisted lines that are closed the text goes on in code. -/
theorem behind_hoistedLines {body : List (List Char)}
    (h : ∀ i ∈ hoistedPlaces body, ClosedAt body i) :
    Region.code.behind (hoistedLines body) = .code := by
  refine (Region.starts_of_forall fun l hl => ?_).2
  obtain ⟨i, hi, rfl⟩ := List.mem_map.mp hl
  rw [Region.nextLine_after_trim, Region.nextLine_eq_code (h i hi).ends]

/-- If hoisted lines are closed, the lines that are left start in the same regions as those of the
body. -/
theorem starts_leftLines (dialect : Dialect) {body : List (List Char)}
    (h : ∀ i ∈ hoistedPlaces body, ClosedAt body i) :
    Region.code.starts (leftLines dialect body) = Region.code.starts body := by
  apply Region.starts_congr (length_leftLines dialect body)
  intro i r hr
  have hlt : i < body.length := by
    rw [← Region.length_starts .code body]
    exact (List.getElem?_eq_some_iff.mp hr).1
  rw [List.getD_eq_getElem?_getD, getElem?_leftLines dialect hlt, Option.getD_some]
  split
  · next hi =>
      obtain rfl : r = .code := Option.some.inj (hr.symm.trans (h i hi).starts)
      rw [Region.nextLine_eq_code (h i hi).ends]
      rfl
  · rw [(Region.reading_renamed dialect r _).2]

/-- If hoisted lines are closed, a line that stays in place has its characters in the same regions
as in the body. -/
theorem alongLines_leftLines (dialect : Dialect) {body : List (List Char)}
    (h : ∀ i ∈ hoistedPlaces body, ClosedAt body i) {i : Nat} (hi : i < body.length)
    (hstays : i ∉ hoistedPlaces body) :
    (Region.code.alongLines (leftLines dialect body))[i]? =
      (Region.code.alongLines body)[i]? := by
  obtain ⟨r, hr⟩ : ∃ r, (Region.code.starts body)[i]? = some r := by
    rw [← Region.length_starts .code body] at hi
    exact ⟨_, List.getElem?_eq_getElem hi⟩
  have hr' : (Region.code.starts (leftLines dialect body))[i]? = some r := by
    rw [starts_leftLines dialect h, hr]
  rw [Region.getElem?_alongLines hr' (getElem?_leftLines dialect hi), if_neg hstays,
    Region.getElem?_alongLines hr (getElem?_eq_getD hi), (Region.reading_renamed dialect r _).1]

end Shader

namespace Transpiled

open Shader

variable {α : Type}

/-! ## Injected lines and comments -/

/-- The injected lines that are the same for many shaders: the precision, the macros and the
comments above the groups of uniforms. -/
def fixedLines : List String :=
  precisionStatement :: (isfMacros ++
    ["// standard uniforms", "// input uniforms", "// audio uniforms"])

theorem comment_mem_fixedLines (o : UniformOrigin) : s!"// {o.name} uniforms" ∈ fixedLines := by
  have hcomment : s!"// {o.name} uniforms" ∈
      ["// standard uniforms", "// input uniforms", "// audio uniforms"] := by
    cases o <;> decide
  exact List.mem_cons_of_mem _ (List.mem_append_right _ hcomment)

/-- The lines of groups of uniforms are comments and declarations. -/
theorem forall_mem_uniformLines {P : String → Prop} {ss : List (UniformSlot α)}
    (hcomment : ∀ o : UniformOrigin, P s!"// {o.name} uniforms")
    (hline : ∀ s ∈ ss, P (uniformLine s)) (current : Option UniformOrigin) :
    ∀ l ∈ uniformLines current ss, P l := by
  induction ss generalizing current with
  | nil => simp [uniformLines]
  | cons s ss ih =>
      have hfirst := hline s List.mem_cons_self
      have hrest := ih (fun s' hs' => hline s' (List.mem_cons_of_mem s hs')) (some s.origin)
      rw [uniformLines]
      split
      · exact List.forall_mem_cons.mpr ⟨hfirst, hrest⟩
      · exact List.forall_mem_cons.mpr ⟨hcomment s.origin, List.forall_mem_cons.mpr ⟨hfirst, hrest⟩⟩

/-- What holds of the fixed lines and of declarations of uniforms holds of all injected lines. -/
theorem forall_mem_prologue {P : List Char → Prop} {source : ShaderSource α}
    {uniforms : UniformSet α} (hfixed : ∀ cs ∈ fixedLines.map String.toList, P cs)
    (hline : ∀ s ∈ uniforms.slots, P (uniformLine s).toList) :
    ∀ l ∈ prologue source uniforms, P l.toList := by
  obtain ⟨before, after, hbefore, hafter, hprologue⟩ := exists_prologue source uniforms
  have hall : ∀ l ∈ fixedLines, P l.toList := fun l hl => hfixed _ (List.mem_map_of_mem hl)
  have hsubset : precisionStatement :: isfMacros ⊆ fixedLines :=
    List.cons_subset_cons _ (List.subset_append_left _ _)
  intro l hl
  rw [hprologue, List.mem_append, List.mem_append] at hl
  rcases hl with (hl | hl) | hl
  · exact hall l (hsubset (hbefore hl))
  · exact forall_mem_uniformLines (P := fun l => P l.toList)
      (fun o => hall _ (comment_mem_fixedLines o))
      (fun s hs => hline s (List.mem_filter.mp hs).1) none l hl
  · exact hall l (hsubset (hafter hl))

/-- The precision is set first, unless the body sets it. -/
theorem prologue_eq_cons {source : ShaderSource α} (uniforms : UniformSet α)
    (h : setsPrecision source.body.toList = false) :
    ∃ rest, prologue source uniforms = precisionStatement :: rest := by
  rw [prologue, h]
  exact ⟨_, rfl⟩

/-- Declarations of uniforms hold no mark of a comment. -/
theorem mark_notMem_uniformLine {s : UniformSlot α} (h : Text.isIdentifier s.name.toList) :
    '/' ∉ (uniformLine s).toList ∧ '*' ∉ (uniformLine s).toList := by
  have hword {mark : Char} (hmark : Text.isWordChar mark = false) {cs : List Char}
      (hcs : Text.isIdentifier cs) : mark ∉ cs := by
    intro hmem
    rw [Text.isWordChar_of_isIdentifier hcs mark hmem] at hmark
    cases hmark
  have htype : Text.isIdentifier s.glslType.name.toList := by
    cases s.glslType <;> decide
  have hslash : Text.isWordChar '/' = false := by decide
  have hstar : Text.isWordChar '*' = false := by decide
  rw [toList_uniformLine]
  simp [hword hslash htype, hword hslash h, hword hstar htype, hword hstar h]

/-- Injected lines open and close no block comment. -/
theorem nextLine_after_of_mem_prologue {source : ShaderSource α} {uniforms : UniformSet α}
    (h : ∀ s ∈ uniforms.slots, Text.isIdentifier s.name.toList) :
    ∀ l ∈ prologue source uniforms, (Region.code.after l.toList).nextLine = .code ∧
      (Region.blockComment.after l.toList).nextLine = .blockComment := by
  refine forall_mem_prologue (P := fun cs => (Region.code.after cs).nextLine = .code ∧
    (Region.blockComment.after cs).nextLine = .blockComment) ?_ ?_
  · simp only [fixedLines, precisionStatement, isfMacros, List.cons_append, List.nil_append,
      List.map_cons, List.map_nil]
    -- the characters of a literal are found by rewriting, and not by decoding it
    repeat rw [String.toList_ofList]
    decide +kernel
  · intro s hs
    obtain ⟨hslash, hstar⟩ := mark_notMem_uniformLine (h s hs)
    have hplain := (Region.reading_plain hslash []).2
    rw [List.append_nil] at hplain
    rw [hplain, Region.after_block_plain hstar]
    exact ⟨rfl, rfl⟩

variable [Scalar α]

/-- The injected lines of a text all start in the region in which the hoisted ones end, and the
body is read from there. -/
theorem reading_text (dialect : Dialect) (raw : String) :
    let source : ShaderSource α := (ShaderSource.read dialect raw).1
    let t : Transpiled α := ofSource dialect raw
    let body := Text.lines source.body.toList
    let text := Text.lines t.text.toList
    let r := Region.code.behind (hoistedLines body)
    text = hoistedLines body ++ t.injected.map (·.toList) ++ leftLines source.dialect body ∧
    Region.code.starts text = Region.code.starts (hoistedLines body) ++
      List.replicate t.injected.length r ++ r.starts (leftLines source.dialect body) ∧
    Region.code.alongLines text = Region.code.alongLines (hoistedLines body) ++
      r.alongLines (t.injected.map (·.toList)) ++ r.alongLines (leftLines source.dialect body) := by
  obtain ⟨source, hread⟩ : ∃ s : ShaderSource α, (ShaderSource.read dialect raw).1 = s := ⟨_, rfl⟩
  have hnames :=
    UniformSet.isIdentifier_of_mem_compile (ShaderSource.isIdentifier_of_mem_inputs hread)
  have htext := lines_text hread
  simp only [hread, injected_ofSource hread]
  generalize Text.lines source.body.toList = body at htext ⊢
  have hnew : ∀ l ∈ (prologue source (UniformSet.compile source.inputs)).map (·.toList),
      ((Region.code.behind (hoistedLines body)).after l).nextLine =
        Region.code.behind (hoistedLines body) := by
    intro l hl
    obtain ⟨l', hl', rfl⟩ := List.mem_map.mp hl
    obtain ⟨hcode, hblock⟩ := nextLine_after_of_mem_prologue hnames l' hl'
    have hnext := Region.nextLine_behind (hoistedLines body)
    cases hr : Region.code.behind (hoistedLines body) with
    | code => exact hcode
    | lineComment =>
        rw [hr] at hnext
        cases hnext
    | blockComment => exact hblock
  obtain ⟨hstarts, hbehind⟩ := Region.starts_of_forall hnew
  rw [List.length_map] at hstarts
  refine ⟨htext, ?_, ?_⟩
  · rw [htext, List.append_assoc, Region.starts_append, Region.starts_append, ← hoistedLines,
      hstarts, hbehind, List.append_assoc]
    rfl
  · rw [htext, List.append_assoc, Region.alongLines_append, Region.alongLines_append,
      ← hoistedLines, hbehind, List.append_assoc]
    rfl

/-- Behind the hoisted lines of a text stand the injected ones, which start in the region in which
the hoisted ones end, and then the lines that are left, which are read from there. -/
theorem reading_places (dialect : Dialect) (raw : String) :
    let source : ShaderSource α := (ShaderSource.read dialect raw).1
    let t : Transpiled α := ofSource dialect raw
    let body := Text.lines source.body.toList
    let left := leftLines source.dialect body
    let text := Text.lines t.text.toList
    let r := Region.code.behind (hoistedLines body)
    let n := (hoistedPlaces body).length
    (∀ k < t.injected.length, text[n + k]? = t.injected[k]?.map (·.toList) ∧
      (Region.code.starts text)[n + k]? = some r) ∧
    ∀ i, text[n + t.injected.length + i]? = left[i]? ∧
      (Region.code.alongLines text)[n + t.injected.length + i]? = (r.alongLines left)[i]? := by
  intro source t body left text r n
  obtain ⟨htext, hstarts, halong⟩ : text = _ ∧ Region.code.starts text = _ ∧
    Region.code.alongLines text = _ := reading_text (α := α) dialect raw
  have hlines : (hoistedLines body).length = n := length_hoistedLines body
  refine ⟨fun k hk => ⟨?_, ?_⟩, fun i => ⟨?_, ?_⟩⟩
  · rw [htext, List.append_assoc, ← hlines, List.getElem?_append_right (Nat.le_add_right _ _),
      Nat.add_sub_cancel_left, List.getElem?_append_left (by rwa [List.length_map]),
      List.getElem?_map]
  · have hplace : (Region.code.starts (hoistedLines body)).length = n := by
      rw [Region.length_starts, hlines]
    rw [hstarts, List.append_assoc, ← hplace, List.getElem?_append_right (Nat.le_add_right _ _),
      Nat.add_sub_cancel_left, List.getElem?_append_left (by rwa [List.length_replicate]),
      List.getElem?_replicate, if_pos hk]
  · have hplace : (hoistedLines body ++ t.injected.map (·.toList)).length =
        n + t.injected.length := by
      rw [List.length_append, List.length_map, hlines]
    rw [htext, ← hplace, List.getElem?_append_right (Nat.le_add_right _ _),
      Nat.add_sub_cancel_left]
  · have hplace : (Region.code.alongLines (hoistedLines body) ++
        r.alongLines (t.injected.map (·.toList))).length = n + t.injected.length := by
      simp [Region.alongLines, hlines]
    rw [halong, ← hplace, List.getElem?_append_right (Nat.le_add_right _ _),
      Nat.add_sub_cancel_left]

/-- If each hoisted line starts in code and does not end in a block comment, the lines ahead of the
injected ones are live directives of the body and nothing else, each injected line starts in code,
and each line of the body that stays in place has its characters in the same regions as before.
What is found line by line, in the body and in the text, are the regions of the whole. -/
theorem hoisting_respects_comments (dialect : Dialect) (raw : String)
    (h : let body := Text.lines (ShaderSource.read (α := α) dialect raw).1.body.toList
      ∀ i ∈ hoistedPlaces body, ClosedAt body i) :
    let source : ShaderSource α := (ShaderSource.read dialect raw).1
    let t : Transpiled α := ofSource dialect raw
    let body := Text.lines source.body.toList
    let hoisted := hoistedPlaces body
    let text := Text.lines t.text.toList
    (∀ cs ∈ [source.body.toList, t.text.toList],
      ((cs.zip (Region.code.along cs)).filter fun p => !endsLine p.1) =
        (List.zipWith List.zip (Text.lines cs)
          (Region.code.alongLines (Text.lines cs))).flatten) ∧
    (∃ left, left.length = body.length ∧
      text = hoisted.map (fun i => Text.trim (body.getD i [])) ++ t.injected.map (·.toList) ++
        left) ∧
    (∀ i ∈ hoisted, LiveDirective body i) ∧
    (∀ k < t.injected.length,
      (Region.code.starts text)[hoisted.length + k]? = some .code) ∧
    ∀ i < body.length, i ∉ hoisted →
      (Region.code.alongLines text)[hoisted.length + t.injected.length + i]? =
        (Region.code.alongLines body)[i]? := by
  intro source t body hoisted text
  have htext : text = hoistedLines body ++ _ ++ _ := (reading_text (α := α) dialect raw).1
  obtain ⟨hinjected, hleft⟩ := reading_places (α := α) dialect raw
  have hbehind : Region.code.behind (hoistedLines body) = .code := behind_hoistedLines h
  refine ⟨fun cs _ => along_lines .code cs,
    ⟨leftLines source.dialect body, length_leftLines _ _, htext⟩,
    fun i hi => liveDirective_of_starts hi (h i hi).starts, fun k hk => ?_, fun i hi hstays => ?_⟩
  · exact (hinjected k hk).2.trans (congrArg some hbehind)
  · calc (Region.code.alongLines text)[hoisted.length + t.injected.length + i]?
        = ((Region.code.behind (hoistedLines body)).alongLines
            (leftLines source.dialect body))[i]? := (hleft i).2
      _ = (Region.code.alongLines (leftLines source.dialect body))[i]? := by rw [hbehind]
      _ = (Region.code.alongLines body)[i]? := alongLines_leftLines source.dialect h hi hstays

/-- A source with comments of both kinds on and around the lines of its directives. -/
def annotatedSource : String :=
  "/* head */\n#version 300 es // see /* notes\n/* why */\n  #extension all : warn /* */\n/*\n*/"

theorem hoisting_respects_comments_of_annotatedSource :
    let body := Text.lines annotatedSource.toList
    let t : Transpiled Float := ofSource .glsl annotatedSource
    (∀ i ∈ hoistedPlaces body, ClosedAt body i) ∧
    (∀ i ∈ [1, 3], LiveDirective body i) ∧
    ∀ k < t.injected.length,
      (Region.code.starts (Text.lines t.text.toList))[2 + k]? = some .code := by
  have hplaces : hoistedPlaces (Text.lines annotatedSource.toList) = [1, 3] := by
    rw [annotatedSource, String.toList_ofList]
    decide +kernel
  have hclosed : ∀ i ∈ hoistedPlaces (Text.lines annotatedSource.toList),
      ClosedAt (Text.lines annotatedSource.toList) i := by
    rw [hplaces, annotatedSource, String.toList_ofList]
    decide +kernel
  have hall := hoisting_respects_comments (α := Float) .glsl annotatedSource hclosed
  have hlength : (hoistedPlaces (Text.lines annotatedSource.toList)).length = 2 := by
    rw [hplaces]
    rfl
  refine ⟨hclosed, ?_, ?_⟩
  · rw [← hplaces]
    exact hall.2.2.1
  · rw [← hlength]
    exact hall.2.2.2.1

/-- A source whose version directive is in a comment. -/
def commentedSource : String := "/*\n#version 300 es\n*/"

/-- A source with a comment that starts on the line of a directive. -/
def openingSource : String := "float x;\n#extension all : enable /*\n*/"

/-- A directive in a comment is hoisted, and so is one whose line opens a comment: then injected
lines and lines of the body stand in that comment. -/
theorem hoisting_moves_comments :
    let commented := Text.lines commentedSource.toList
    let opening := Text.lines openingSource.toList
    let t : Transpiled Float := ofSource .glsl openingSource
    let text := Text.lines t.text.toList
    ((Region.code.starts commented)[1]? = some .blockComment ∧
      (Text.lines (ofSource (α := Float) .glsl commentedSource).text.toList)[0]? =
        some "#version 300 es".toList) ∧
    (text[1]? = some "precision highp float;".toList ∧
      (Region.code.starts text)[1]? = some .blockComment) ∧
    opening[0]? = some "float x;".toList ∧
      (Region.code.alongLines opening)[0]? = some (List.replicate 8 .code) ∧
      text[1 + t.injected.length]? = some "float x;".toList ∧
      (Region.code.alongLines text)[1 + t.injected.length]? =
        some (List.replicate 8 .blockComment) := by
  intro commented opening t text
  have hcommented : commented = ["/*".toList, "#version 300 es".toList, "*/".toList] := by
    decide +kernel
  have hopening : opening = ["float x;".toList, "#extension all : enable /*".toList,
      "*/".toList] := by
    decide +kernel
  have hhoisted : hoistedLines opening = ["#extension all : enable /*".toList] := by
    rw [hopening]
    decide +kernel
  have hleft : leftLines .glsl opening = ["float x;".toList, [], "*/".toList] := by
    rw [hopening]
    decide +kernel
  have hbehind : Region.code.behind (hoistedLines opening) = .blockComment := by
    rw [hhoisted]
    decide +kernel
  have hlength : (hoistedPlaces opening).length = 1 := by
    rw [← length_hoistedLines, hhoisted]
    rfl
  have hfirst : t.injected[0]? = some precisionStatement := by
    have hread : (ShaderSource.read (α := Float) .glsl openingSource).1 = .glsl openingSource := rfl
    have hprecision : setsPrecision (ShaderSource.glsl (α := Float) openingSource).body.toList =
        false := by decide +kernel
    obtain ⟨rest, hrest⟩ := prologue_eq_cons (UniformSet.compile []) hprecision
    rw [injected_ofSource hread]
    exact congrArg (·[0]?) hrest
  obtain ⟨hinjected, hstays⟩ := reading_places (α := Float) .glsl openingSource
  have hprecision : text[(hoistedPlaces opening).length + 0]? = t.injected[0]?.map (·.toList) ∧
      (Region.code.starts text)[(hoistedPlaces opening).length + 0]? =
        some (Region.code.behind (hoistedLines opening)) :=
    hinjected 0 (List.getElem?_eq_some_iff.mp hfirst).1
  have hstays : text[(hoistedPlaces opening).length + t.injected.length + 0]? =
        (leftLines .glsl opening)[0]? ∧
      (Region.code.alongLines text)[(hoistedPlaces opening).length + t.injected.length + 0]? =
        ((Region.code.behind (hoistedLines opening)).alongLines (leftLines .glsl opening))[0]? :=
    hstays 0
  rw [hlength, hfirst, hbehind] at hprecision
  rw [hlength, hbehind, hleft] at hstays
  refine ⟨⟨?_, ?_⟩, hprecision, ?_, ?_, hstays.1, ?_⟩
  · rw [hcommented]
    decide +kernel
  · have hcomplete : Text.lines (ofSource (α := Float) .glsl commentedSource).text.toList =
        hoistedLines commented ++ _ ++ _ := (reading_text (α := Float) .glsl commentedSource).1
    have hhead : hoistedLines commented = ["#version 300 es".toList] := by
      rw [hcommented]
      decide +kernel
    rw [hcomplete, hhead]
    rfl
  · rw [hopening]
    rfl
  · rw [hopening]
    decide +kernel
  · exact hstays.2.trans (by decide +kernel)

end Transpiled

end LiveVisuals
