import Mathlib.Data.List.Infix
import Mathlib.Data.List.TakeWhile
import LiveVisuals.Shader.Declaration

/-!
# Comments in one reading

The language reads a text once, from left to right: in code a double slash starts a comment that
goes up to the end of the line, and a slash with a star one that goes up to the first end mark.
Within one kind of comment the marks of the other mean nothing. Taking out all block comments
first and all line comments after that comes to the same, unless a start mark in a line comment is
closed behind that line, or takes the second slash of the comment for its own.

Main definitions:

- {lit}`Shader.Region.live`: what one reading leaves of a text.
- {lit}`Shader.Region.after`: the region in which a text ends.
- {lit}`Shader.lineComments`: the line comments of a text.
- {lit}`Shader.LineComment.Contained`: no mark in a line comment reaches out of it.

Main results:

- Theorem {lit}`Shader.exists_stripBlockComments_line`: the first pass on a contained line comment.
- Theorem {lit}`Shader.stripComments_eq_live`: both passes leave what one reading leaves.
-/

namespace LiveVisuals.Shader

/-! ## One reading -/

/-- What a place in a shader text belongs to. -/
inductive Region where
  | code
  | lineComment
  | blockComment
deriving DecidableEq, Repr

namespace Region

/-- What one reading leaves of a text that starts in a region: no line comments, and a space for
each block comment. -/
def live : Region → List Char → List Char
  | _, [] => []
  | code, '/' :: '/' :: cs => live lineComment cs
  | code, '/' :: '*' :: cs => live blockComment cs
  | code, c :: cs => c :: live code cs
  | lineComment, c :: cs => if endsLine c then c :: live code cs else live lineComment cs
  | blockComment, '*' :: '/' :: cs => ' ' :: live code cs
  | blockComment, _ :: cs => live blockComment cs

/-- The region in which a text ends that starts in a region. -/
def after : Region → List Char → Region
  | r, [] => r
  | code, '/' :: '/' :: cs => after lineComment cs
  | code, '/' :: '*' :: cs => after blockComment cs
  | code, _ :: cs => after code cs
  | lineComment, c :: cs => if endsLine c then after code cs else after lineComment cs
  | blockComment, '*' :: '/' :: cs => after code cs
  | blockComment, _ :: cs => after blockComment cs

end Region

/-- A line comment: what stands behind its double slash on the line, and what follows it. -/
structure LineComment where
  text : List Char
  rest : List Char

/-- The line comment whose double slash stands before a text. -/
def LineComment.ofText (cs : List Char) : LineComment :=
  ⟨cs.takeWhile (!endsLine ·), cs.dropWhile (!endsLine ·)⟩

/-- The line comments that one reading of a text meets, starting in a region. -/
def lineComments : Region → List Char → List LineComment
  | _, [] => []
  | .code, '/' :: '/' :: cs => .ofText cs :: lineComments .lineComment cs
  | .code, '/' :: '*' :: cs => lineComments .blockComment cs
  | .code, _ :: cs => lineComments .code cs
  | .lineComment, c :: cs =>
      if endsLine c then lineComments .code cs else lineComments .lineComment cs
  | .blockComment, '*' :: '/' :: cs => lineComments .code cs
  | .blockComment, _ :: cs => lineComments .blockComment cs

/-- Whether the end mark of block comments occurs in a text. -/
def HasEndMark (cs : List Char) : Prop := ['*', '/'] <:+: cs

instance (cs : List Char) : Decidable (HasEndMark cs) := inferInstanceAs (Decidable (_ <:+: _))

/-- No start mark in a line comment reaches out of it: each is closed in the comment or nowhere,
and none shares its slash with the comment unless it is closed nowhere. -/
structure LineComment.Contained (c : LineComment) : Prop where
  shared : ∀ inner, c.text = '*' :: inner → ¬ HasEndMark (inner ++ c.rest)
  closed : ∀ inner, '/' :: '*' :: inner <:+ c.text →
    HasEndMark inner ∨ ¬ HasEndMark (inner ++ c.rest)

instance (c : LineComment) : Decidable c.Contained :=
  decidable_of_iff
    ((∀ inner ∈ c.text.tails, c.text = '*' :: inner → ¬ HasEndMark (inner ++ c.rest)) ∧
      ∀ inner ∈ c.text.tails, '/' :: '*' :: inner <:+ c.text →
        HasEndMark inner ∨ ¬ HasEndMark (inner ++ c.rest)) (by
    constructor
    · rintro ⟨hshared, hclosed⟩
      refine ⟨fun inner htext => hshared inner ?_ htext,
        fun inner hinner => hclosed inner ?_ hinner⟩
      · rw [List.mem_tails, htext]
        exact List.suffix_cons '*' inner
      · rw [List.mem_tails]
        exact ((List.suffix_cons '*' inner).trans (List.suffix_cons '/' _)).trans hinner
    · intro h
      exact ⟨fun inner _ => h.shared inner, fun inner _ => h.closed inner⟩)

/-- What ends a line is no part of a mark. -/
theorem mark_of_endsLine {c : Char} (h : endsLine c) : c ≠ '/' ∧ c ≠ '*' := by
  constructor <;>
    · rintro rfl
      exact absurd h (by decide)

/-! ## Finding end marks -/

/-- A block comment can be closed if there is an end mark. -/
theorem isSome_untilClose?_iff {cs : List Char} : (untilClose? cs).isSome ↔ HasEndMark cs := by
  fun_induction untilClose? cs with
  | case1 => simp [HasEndMark]
  | case2 rest => simp [HasEndMark, List.infix_cons_iff]
  | case3 c cs hmark ih =>
      have hprefix : ¬ ['*', '/'] <+: c :: cs := by
        rintro ⟨rest, hrest⟩
        simp only [List.cons_append, List.nil_append, List.cons.injEq] at hrest
        exact hmark rest hrest.1.symm hrest.2.symm
      simp only [Option.isSome_map, ih, HasEndMark, List.infix_cons_iff, hprefix, false_or]

/-- A block comment ends where it does whatever follows the text. -/
theorem untilClose?_append {cs inner rest : List Char} (h : untilClose? cs = some (inner, rest))
    (ds : List Char) : untilClose? (cs ++ ds) = some (inner, rest ++ ds) := by
  fun_induction untilClose? cs generalizing inner with
  | case1 => cases h
  | case2 rest' =>
      cases h
      rfl
  | case3 c cs hmark ih =>
      simp only [Option.map_eq_some_iff, Prod.exists, Prod.mk.injEq] at h
      obtain ⟨inner', rest', h', rfl, rfl⟩ := h
      have hmark' : ∀ es, c = '*' → cs ++ ds = '/' :: es → False := by
        intro es hc hes
        cases cs with
        | nil => cases h'
        | cons d cs =>
            simp only [List.cons_append, List.cons.injEq] at hes
            exact hmark cs hc (by rw [hes.1])
      rw [List.cons_append, untilClose?.eq_3 c _ hmark', ih h']
      rfl

/-! ## The first pass -/

/-- A closed block comment becomes a space. -/
theorem stripBlockComments_closed {cs inner rest : List Char}
    (h : untilClose? cs = some (inner, rest)) :
    stripBlockComments ('/' :: '*' :: cs) = ' ' :: stripBlockComments rest := by
  rw [stripBlockComments]
  split
  · next _ rest' h' =>
      rw [h] at h'
      cases h'
      rfl
  · next h' =>
      rw [h] at h'
      cases h'

example : stripBlockComments "/*b*/c".toList = " c".toList := by cbv

/-- A start mark that is not closed stays. -/
theorem stripBlockComments_open {cs : List Char} (h : untilClose? cs = none) :
    stripBlockComments ('/' :: '*' :: cs) = '/' :: stripBlockComments ('*' :: cs) := by
  rw [stripBlockComments]
  split
  · next _ _ h' =>
      rw [h] at h'
      cases h'
  · rfl

/-- A character that starts no block comment stays. -/
theorem stripBlockComments_cons {c : Char} {cs : List Char}
    (h : ∀ inside, c = '/' → cs ≠ '*' :: inside) :
    stripBlockComments (c :: cs) = c :: stripBlockComments cs :=
  stripBlockComments.eq_3 c cs h

/-- A star that stands on a line before the end of the text or of the line is on the line. -/
theorem exists_of_append_eq_star {text rest inside : List Char}
    (hrest : ∀ c ∈ rest.head?, endsLine c) (h : text ++ rest = '*' :: inside) :
    ∃ inner, text = '*' :: inner := by
  cases text with
  | nil =>
      exact absurd rfl (mark_of_endsLine (hrest '*' (by simp_all))).2
  | cons c text =>
      simp only [List.cons_append, List.cons.injEq] at h
      exact ⟨text, by rw [h.1]⟩

/-- The first pass keeps what a line comment is in front of, if each start mark in the comment is
closed in the comment or nowhere. -/
theorem exists_stripBlockComments_append {text rest : List Char}
    (hunbroken : ∀ c ∈ text, endsLine c = false) (hrest : ∀ c ∈ rest.head?, endsLine c)
    (hclosed : ∀ inner, '/' :: '*' :: inner <:+ text →
      HasEndMark inner ∨ ¬ HasEndMark (inner ++ rest)) :
    ∃ left, (∀ c ∈ left, endsLine c = false) ∧
      stripBlockComments (text ++ rest) = left ++ stripBlockComments rest := by
  induction hlength : text.length using Nat.strong_induction_on generalizing text with
  | h n ih =>
  subst hlength
  -- what follows the part of the comment that is dealt with
  have hnext {part : List Char} (hsuffix : part <:+ text) (hlt : part.length < text.length) :
      ∃ left, (∀ c ∈ left, endsLine c = false) ∧
        stripBlockComments (part ++ rest) = left ++ stripBlockComments rest :=
    ih part.length hlt (fun c hc => hunbroken c (hsuffix.subset hc))
      (fun inner hinner => hclosed inner (hinner.trans hsuffix)) rfl
  cases text with
  | nil => exact ⟨[], by simp, rfl⟩
  | cons c text =>
      obtain ⟨left, hleft, hstrip⟩ := hnext (List.suffix_cons c text) (Nat.lt_succ_self _)
      have hkept : stripBlockComments (c :: text ++ rest) = c :: stripBlockComments (text ++ rest) →
          ∃ left, (∀ c ∈ left, endsLine c = false) ∧
            stripBlockComments (c :: text ++ rest) = left ++ stripBlockComments rest := by
        intro h
        refine ⟨c :: left, ?_, by rw [h, hstrip, List.cons_append]⟩
        intro d hd
        rcases List.mem_cons.mp hd with rfl | hd
        · exact hunbroken d List.mem_cons_self
        · exact hleft d hd
      by_cases hstart : ∃ inner, c = '/' ∧ text = '*' :: inner
      · obtain ⟨inner, rfl, rfl⟩ := hstart
        cases hclose : untilClose? (inner ++ rest) with
        | none => exact hkept (stripBlockComments_open hclose)
        | some found =>
            have hmark : HasEndMark (inner ++ rest) := by
              rw [← isSome_untilClose?_iff, hclose]
              rfl
            have hinside : (untilClose? inner).isSome :=
              isSome_untilClose?_iff.mpr
                ((hclosed inner (List.suffix_refl _)).resolve_right (not_not_intro hmark))
            obtain ⟨⟨inside, part⟩, hinside⟩ := Option.isSome_iff_exists.mp hinside
            have hinner := eq_of_untilClose? hinside
            have hsuffix : part <:+ '/' :: '*' :: inner := by
              rw [hinner]
              exact ⟨'/' :: '*' :: (inside ++ ['*', '/']), by simp⟩
            have hlt : part.length < ('/' :: '*' :: inner).length := by
              have := length_of_untilClose? hinside
              simp only [List.length_cons]
              omega
            obtain ⟨left, hleft, hstrip⟩ := hnext hsuffix hlt
            refine ⟨' ' :: left, ?_, ?_⟩
            · intro d hd
              rcases List.mem_cons.mp hd with rfl | hd
              · decide
              · exact hleft d hd
            · have := stripBlockComments_closed (untilClose?_append hinside rest)
              rw [List.cons_append, List.cons_append, this, hstrip, List.cons_append]
      · refine hkept (stripBlockComments_cons fun inside hc htext => ?_)
        obtain ⟨inner, hinner⟩ := exists_of_append_eq_star hrest htext
        exact hstart ⟨inner, hc, hinner⟩

/-- The first pass leaves a contained line comment on its line, behind its double slash. -/
theorem exists_stripBlockComments_line {comment : LineComment}
    (hunbroken : ∀ c ∈ comment.text, endsLine c = false)
    (hrest : ∀ c ∈ comment.rest.head?, endsLine c) (h : comment.Contained) :
    ∃ left, (∀ c ∈ left, endsLine c = false) ∧
      stripBlockComments ('/' :: '/' :: (comment.text ++ comment.rest)) =
        '/' :: '/' :: (left ++ stripBlockComments comment.rest) := by
  obtain ⟨left, hleft, hstrip⟩ := exists_stripBlockComments_append hunbroken hrest h.closed
  refine ⟨left, hleft, ?_⟩
  have hsecond : stripBlockComments ('/' :: (comment.text ++ comment.rest)) =
      '/' :: stripBlockComments (comment.text ++ comment.rest) := by
    by_cases hshared : ∃ inner, comment.text = '*' :: inner
    · obtain ⟨inner, hinner⟩ := hshared
      rw [hinner, List.cons_append]
      apply stripBlockComments_open
      rw [← Option.not_isSome_iff_eq_none, isSome_untilClose?_iff]
      exact h.shared inner hinner
    · apply stripBlockComments_cons
      intro inside _ htext
      exact hshared (exists_of_append_eq_star hrest htext)
  rw [stripBlockComments_cons (by simp), hsecond, hstrip]

/-! ## The second pass -/

/-- The second pass drops a line comment up to the end of its line. -/
theorem stripLineCommentsFrom_append {text : List Char}
    (h : ∀ c ∈ text, endsLine c = false) (rest : List Char) :
    stripLineCommentsFrom true (text ++ rest) = stripLineCommentsFrom true rest := by
  induction text with
  | nil => rfl
  | cons c text ih =>
      have hc := h c List.mem_cons_self
      simp [stripLineCommentsFrom, hc, ih fun d hd => h d (List.mem_cons_of_mem c hd)]

example : stripLineCommentsFrom true "b\nc".toList = "\nc".toList := by cbv

/-! ## Both passes -/

/-- What the start of a text can be to a reading in code. -/
theorem reading_cases (cs : List Char) :
    cs = [] ∨ (∃ ds, cs = '/' :: '/' :: ds) ∨ (∃ ds, cs = '/' :: '*' :: ds) ∨
      ∃ c ds, cs = c :: ds ∧ (∀ es, c = '/' → ds ≠ '/' :: es) ∧
        ∀ es, c = '/' → ds ≠ '*' :: es := by
  cases cs with
  | nil => exact .inl rfl
  | cons c ds =>
      by_cases hline : ∃ es, c = '/' ∧ ds = '/' :: es
      · obtain ⟨es, rfl, rfl⟩ := hline
        exact .inr (.inl ⟨es, rfl⟩)
      · by_cases hblock : ∃ es, c = '/' ∧ ds = '*' :: es
        · obtain ⟨es, rfl, rfl⟩ := hblock
          exact .inr (.inr (.inl ⟨es, rfl⟩))
        · exact .inr (.inr (.inr ⟨c, ds, rfl, fun es hc hds => hline ⟨es, hc, hds⟩,
            fun es hc hds => hblock ⟨es, hc, hds⟩⟩))

@[simp] theorem stripComments_nil : stripComments [] = [] := by
  simp [stripComments, stripBlockComments, stripLineComments, stripLineCommentsFrom]

/-- Code stays as it is. -/
theorem stripComments_cons {c : Char} {cs : List Char} (hline : ∀ es, c = '/' → cs ≠ '/' :: es)
    (hblock : ∀ es, c = '/' → cs ≠ '*' :: es) :
    stripComments (c :: cs) = c :: stripComments cs := by
  -- the first pass puts no slash behind a slash
  have hslash : ∀ es, c = '/' → stripBlockComments cs ≠ '/' :: es := by
    intro es hc
    cases cs with
    | nil => simp [stripBlockComments]
    | cons d ds =>
        have hd : d ≠ '/' := by
          rintro rfl
          exact hline ds hc rfl
        rw [stripBlockComments_cons fun _ hslash => absurd hslash hd]
        simp [hd]
  rw [stripComments, stripBlockComments_cons hblock, stripLineComments,
    stripLineCommentsFrom.eq_4 c _ hslash]
  rfl

/-- A closed block comment leaves a space. -/
theorem stripComments_block {cs inner rest : List Char}
    (h : untilClose? cs = some (inner, rest)) :
    stripComments ('/' :: '*' :: cs) = ' ' :: stripComments rest := by
  rw [stripComments, stripBlockComments_closed h]
  rfl

/-- A contained line comment leaves nothing. -/
theorem stripComments_line {text rest : List Char} (htext : ∀ c ∈ text, endsLine c = false)
    (hrest : ∀ c ∈ rest.head?, endsLine c) (h : LineComment.Contained ⟨text, rest⟩) :
    stripComments ('/' :: '/' :: (text ++ rest)) = stripComments rest := by
  obtain ⟨left, hleft, hstrip⟩ := exists_stripBlockComments_line htext hrest h
  rw [stripComments, hstrip, stripLineComments, stripLineCommentsFrom,
    stripLineCommentsFrom_append hleft, stripComments, stripLineComments]
  cases rest with
  | nil => simp [stripBlockComments, stripLineCommentsFrom]
  | cons e rest =>
      have he : endsLine e := hrest e rfl
      have hslash : e ≠ '/' := (mark_of_endsLine he).1
      rw [stripBlockComments_cons fun _ hc => absurd hc hslash,
        stripLineCommentsFrom.eq_4 e _ fun _ hc => absurd hc hslash]
      simp [stripLineCommentsFrom, he]

/-! ## One reading, comment by comment -/

/-- A line comment goes up to the end of its line. -/
theorem LineComment.exists_ofText (cs : List Char) :
    ∃ text rest, cs = text ++ rest ∧ ofText cs = ⟨text, rest⟩ ∧
      (∀ c ∈ text, endsLine c = false) ∧ ∀ c ∈ rest.head?, endsLine c := by
  refine ⟨_, _, List.takeWhile_append_dropWhile.symm, rfl,
    fun c hc => by simpa using List.mem_takeWhile_imp hc, fun c hc => ?_⟩
  have hhead := List.head?_dropWhile_not (fun c => !endsLine c) cs
  rw [Option.mem_def] at hc
  simpa [hc] using hhead

/-- Reading goes on in code behind a line comment. -/
theorem line_of_ends {text rest : List Char} (htext : ∀ c ∈ text, endsLine c = false)
    (hrest : ∀ c ∈ rest.head?, endsLine c) :
    Region.lineComment.live (text ++ rest) = Region.code.live rest ∧
      (Region.code.after rest = .blockComment →
        Region.lineComment.after (text ++ rest) = .blockComment) ∧
      lineComments .lineComment (text ++ rest) = lineComments .code rest := by
  induction text with
  | nil =>
      cases rest with
      | nil => simp [Region.live, Region.after, lineComments]
      | cons e rest =>
          have he : endsLine e := hrest e rfl
          have hslash : e ≠ '/' := (mark_of_endsLine he).1
          have hcode := fun es (hc : e = '/') (_ : rest = es) => hslash hc
          rw [Region.live.eq_4 e rest (fun _ => hcode _) (fun _ => hcode _),
            Region.after.eq_4 e rest (fun _ => hcode _) (fun _ => hcode _),
            lineComments.eq_4 e rest (fun _ => hcode _) (fun _ => hcode _)]
          simp [Region.live, Region.after, lineComments, he]
  | cons c text ih =>
      have hc := htext c List.mem_cons_self
      have ih := ih fun d hd => htext d (List.mem_cons_of_mem c hd)
      simpa [Region.live, Region.after, lineComments, hc] using ih

example : Region.lineComment.live "b\nc".toList = "\nc".toList ∧
    Region.lineComment.after "b\nc".toList = .code ∧
    lineComments .lineComment "b\nc".toList = [] := ⟨by cbv, by cbv, by cbv⟩

/-- A block comment that is not closed goes up to the end of the text. -/
theorem after_block_of_none {cs : List Char} (h : untilClose? cs = none) :
    Region.blockComment.after cs = .blockComment := by
  fun_induction untilClose? cs with
  | case1 => rfl
  | case2 => cases h
  | case3 c cs hmark ih =>
      rw [Region.after.eq_7 c cs hmark]
      exact ih (Option.map_eq_none_iff.mp h)

/-- Reading goes on in code behind a closed block comment, which leaves a space. -/
theorem block_of_untilClose? {cs inner rest : List Char}
    (h : untilClose? cs = some (inner, rest)) :
    Region.blockComment.live cs = ' ' :: Region.code.live rest ∧
      Region.blockComment.after cs = Region.code.after rest ∧
      lineComments .blockComment cs = lineComments .code rest := by
  fun_induction untilClose? cs generalizing inner with
  | case1 => cases h
  | case2 rest' =>
      cases h
      exact ⟨rfl, rfl, rfl⟩
  | case3 c cs hmark ih =>
      simp only [Option.map_eq_some_iff, Prod.exists, Prod.mk.injEq] at h
      obtain ⟨inner', rest', h', -, rfl⟩ := h
      rw [Region.live.eq_7 c cs hmark, Region.after.eq_7 c cs hmark, lineComments.eq_7 c cs hmark]
      exact ih h'

/-- Both passes leave what one reading leaves of a text, if its block comments are closed and its
line comments are contained. -/
theorem stripComments_eq_live_of_contained {cs : List Char}
    (hclosed : Region.code.after cs ≠ .blockComment)
    (h : ∀ comment ∈ lineComments .code cs, comment.Contained) :
    stripComments cs = Region.code.live cs := by
  induction hlength : cs.length using Nat.strong_induction_on generalizing cs with
  | h n ih =>
  subst hlength
  rcases reading_cases cs with rfl | ⟨ds, rfl⟩ | ⟨ds, rfl⟩ | ⟨c, ds, rfl, hline, hblock⟩
  · simp [Region.live]
  · -- a line comment
    obtain ⟨text, rest, rfl, hcomment, htext, hends⟩ := LineComment.exists_ofText ds
    obtain ⟨hlive, hafter, hcomments⟩ := line_of_ends htext hends
    rw [Region.after] at hclosed
    rw [lineComments, hcomment, hcomments] at h
    have hrest := ih rest.length (by simp; omega) (fun hopen => hclosed (hafter hopen))
      (fun comment hmem => h comment (List.mem_cons_of_mem _ hmem)) rfl
    rw [stripComments_line htext hends (h ⟨text, rest⟩ List.mem_cons_self), Region.live, hlive,
      hrest]
  · -- a block comment
    cases hclose : untilClose? ds with
    | none => exact absurd (after_block_of_none hclose) hclosed
    | some found =>
        obtain ⟨inner, rest⟩ := found
        obtain ⟨hlive, hafter, hcomments⟩ := block_of_untilClose? hclose
        rw [Region.after, hafter] at hclosed
        rw [lineComments, hcomments] at h
        have hlt := length_of_untilClose? hclose
        have hrest := ih rest.length (by simp; omega) hclosed h rfl
        rw [stripComments_block hclose, Region.live, hlive, hrest]
  · -- code
    rw [Region.after.eq_4 c ds hline hblock] at hclosed
    rw [lineComments.eq_4 c ds hline hblock] at h
    have hrest := ih ds.length (by simp) hclosed h rfl
    rw [stripComments_cons hline hblock, Region.live.eq_4 c ds hline hblock, hrest]

/-! ## Live text -/

/-- Both passes leave what one reading leaves of a text, if its block comments are closed and its
line comments are contained. So declarations and the float precision are looked for in the live
text: none is missed there, and none is found in a comment. -/
theorem stripComments_eq_live {cs : List Char} (hclosed : Region.code.after cs ≠ .blockComment)
    (h : ∀ comment ∈ lineComments .code cs, comment.Contained) :
    let live := Region.code.live cs
    stripComments cs = live ∧
    declaredUniforms cs = firstOfEach ((uniformNamesFrom none 0 live).map String.ofList) ∧
    setsPrecision cs = setsPrecisionFrom none live := by
  intro live
  have hlive : stripComments cs = live := stripComments_eq_live_of_contained hclosed h
  refine ⟨hlive, ?_, ?_⟩
  · rw [declaredUniforms, hlive]
  · rw [setsPrecision, hlive]

/-- A text with marks of each kind of comment in comments of the other kind. -/
def crowdedText : List Char :=
  ("uniform float time; // in /* whole */ seconds\n" ++
    "/* uniform vec2 mouse; // */ void main() {} // the end */ /*").toList

theorem stripComments_eq_live_of_crowdedText :
    Region.code.after crowdedText ≠ .blockComment ∧
    (∀ comment ∈ lineComments .code crowdedText, comment.Contained) ∧
    stripComments crowdedText = "uniform float time; \n  void main() {} ".toList := by
  have hclosed : Region.code.after crowdedText ≠ .blockComment := by decide +kernel
  have hcontained : ∀ comment ∈ lineComments .code crowdedText, comment.Contained := by
    decide +kernel
  refine ⟨hclosed, hcontained, ?_⟩
  rw [(stripComments_eq_live hclosed hcontained).1]
  decide +kernel

/-- A start mark in a line comment that is closed behind the line takes away what stands between,
and one that shares its slash with the comment brings the rest of the comment to light. -/
theorem marks_in_line_comments_count :
    let covered := "// see /* below\nuniform float time;\n/* the end */".toList
    let bared := "//**/ uniform float time;".toList
    (Region.code.after covered ≠ .blockComment ∧
      Region.code.live covered = "\nuniform float time;\n ".toList ∧
      stripComments covered = [] ∧ declaredUniforms covered = []) ∧
    (Region.code.after bared ≠ .blockComment ∧ Region.code.live bared = [] ∧
      stripComments bared = "/  uniform float time;".toList ∧
      declaredUniforms bared = ["time"]) := by
  repeat rw [String.toList_ofList]
  decide +kernel

end LiveVisuals.Shader
