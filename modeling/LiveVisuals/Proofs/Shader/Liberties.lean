import LiveVisuals.Proofs.Shader.Entries
import LiveVisuals.Proofs.Shader.Loosened

/-!
# Tolerant reading of headers

A header that is no JSON is read once more without its comment lines and trailing commas. Comment
lines go first, each with the blanks ahead of it, and what is left has the blanks and commas of the
first text and those that were added. A comma goes if a closing bracket comes next, which is so for
each one that was added and for none of the first text, unless it stands in a string. The repair
knows nothing of strings, so that all this holds only of texts in whose strings it finds nothing.

Main definitions:

- {lit}`Header.SafeStrings`: in no string of a text the repair finds a comment line or a comma.
- {lit}`Header.Untouched`: it finds none anywhere.
- {lit}`Header.Setting`: what stands around the text of a header.
- {lit}`Header.IsText`, {lit}`Header.Loosens`: the text of a header, and the same with comment lines
  and trailing commas added.

Main results:

- Theorem {lit}`Header.Loosened.tokensFrom?_repaired`: the repaired text has the tokens of the first
  one.
- Theorem {lit}`Header.liberties_do_not_matter`: comment lines and trailing commas do not matter to
  what a header says.
- Theorem {lit}`Header.repair_reaches_strings`: unless a string looks as if it had some.
-/

namespace LiveVisuals

namespace Header

open Json Text
open Shader (endsLine)

/-! ## Dropping comment lines -/

/-- A comment line starts with blanks and a double slash. -/
theorem isCommentLine_iff {cs : List Char} :
    isCommentLine cs = true ↔ ∃ blanks rest, (∀ c ∈ blanks, isBlank c = true) ∧
      cs = blanks ++ '/' :: '/' :: rest := by
  rw [isCommentLine, Option.isSome_iff_exists]
  simp only [strip?_eq_some_iff]
  constructor
  · rintro ⟨rest, hrest⟩
    refine ⟨cs.takeWhile isBlank, rest, fun c hc => List.mem_takeWhile_imp hc, ?_⟩
    have hsplit : cs = cs.takeWhile isBlank ++ skipBlanks cs :=
      List.takeWhile_append_dropWhile.symm
    rwa [hrest] at hsplit
  · rintro ⟨blanks, rest, hblanks, rfl⟩
    refine ⟨rest, ?_⟩
    rw [skipBlanks, List.dropWhile_append_of_pos hblanks]
    rfl

/-- A comment goes up to the end of its line. -/
theorem dropCommentLinesFrom_inside {text : List Char} (h : ∀ c ∈ text, isLineEnd c = false)
    (rest : List Char) : dropCommentLinesFrom false 0 true (text ++ rest) =
      dropCommentLinesFrom false 0 true rest := by
  induction text with
  | nil => rfl
  | cons c text ih =>
      rw [List.forall_mem_cons] at h
      rw [List.cons_append, dropCommentLinesFrom, if_pos rfl, if_neg (by simp [h.1]), ih h.2]

example : dropCommentLinesFrom false 0 true "b\nc".toList = "\nc".toList := by cbv

/-- A comment line is dropped with the blanks before it. -/
theorem dropCommentLinesFrom_comment {blanks : List Char}
    (hblanks : ∀ c ∈ blanks, isBlank c = true) (rest : List Char) :
    dropCommentLinesFrom true 0 false (blanks ++ '/' :: '/' :: rest) =
      dropCommentLinesFrom false 0 true rest := by
  have hskip (bs rest : List Char) : dropCommentLinesFrom false bs.length true (bs ++ rest) =
      dropCommentLinesFrom false 0 true rest := by
    induction bs with
    | nil => rfl
    | cons b bs ih => rw [List.length_cons, List.cons_append, dropCommentLinesFrom, ih]
  have hline : isCommentLine (blanks ++ '/' :: '/' :: rest) = true :=
    isCommentLine_iff.mpr ⟨blanks, rest, hblanks, rfl⟩
  have hslashes : skipBlanks (blanks ++ '/' :: '/' :: rest) = '/' :: '/' :: rest := by
    rw [skipBlanks, List.dropWhile_append_of_pos hblanks]
    rfl
  cases blanks with
  | nil =>
      rw [List.nil_append] at hline hslashes ⊢
      rw [dropCommentLinesFrom, if_neg Bool.false_ne_true, if_pos (by simp [hline]), hslashes,
        Nat.sub_self]
      exact dropCommentLinesFrom_inside (List.forall_mem_singleton.mpr rfl) rest
  | cons b blanks =>
      rw [List.cons_append] at hline hslashes ⊢
      have hcount : (b :: (blanks ++ '/' :: '/' :: rest)).length - ('/' :: '/' :: rest).length - 1 =
          blanks.length := by
        simp only [List.length_cons, List.length_append]
        omega
      rw [dropCommentLinesFrom, if_neg Bool.false_ne_true, if_pos (by simp [hline]), hslashes]
      simp only [hcount]
      rw [hskip]
      have hslash : ∀ c ∈ ['/', '/'], isLineEnd c = false :=
        List.forall_mem_cons.mpr ⟨rfl, List.forall_mem_singleton.mpr rfl⟩
      exact dropCommentLinesFrom_inside hslash rest

/-- A blank ahead of a comment line goes with it. -/
theorem dropCommentLinesFrom_blank {c : Char} (hblank : isBlank c = true) {cs : List Char}
    (hline : isCommentLine cs = true) :
    dropCommentLinesFrom true 0 false (c :: cs) = dropCommentLinesFrom true 0 false cs := by
  obtain ⟨blanks, rest, hblanks, rfl⟩ := isCommentLine_iff.mp hline
  rw [← List.cons_append, dropCommentLinesFrom_comment (List.forall_mem_cons.mpr ⟨hblank, hblanks⟩),
    dropCommentLinesFrom_comment hblanks]

/-- An added line is dropped up to its end. -/
theorem dropCommentLinesFrom_note {blanks text : List Char}
    (hblanks : ∀ c ∈ blanks, isBlank c = true) (htext : IsNote text) {newline : Char}
    (hnewline : endsLine newline = true) (cs : List Char) :
    dropCommentLinesFrom true 0 false (blanks ++ '/' :: '/' :: (text ++ newline :: cs)) =
      newline :: dropCommentLinesFrom true 0 false cs := by
  rw [dropCommentLinesFrom_comment hblanks, dropCommentLinesFrom_inside htext.line,
    dropCommentLinesFrom, if_pos rfl, if_pos (isLineEnd_of_endsLine hnewline)]

/-- A line that is added at the end is dropped. -/
theorem dropCommentLinesFrom_last {blanks text : List Char}
    (hblanks : ∀ c ∈ blanks, isBlank c = true) (htext : IsNote text) :
    dropCommentLinesFrom true 0 false (blanks ++ '/' :: '/' :: text) = [] := by
  have hrest := dropCommentLinesFrom_inside htext.line []
  rw [List.append_nil] at hrest
  rw [dropCommentLinesFrom_comment hblanks, hrest]
  rfl

/-- Everything else stays. -/
theorem dropCommentLinesFrom_cons {lineStart : Bool} {c : Char} {cs : List Char}
    (h : ¬ (lineStart = true ∧ isCommentLine (c :: cs) = true)) :
    dropCommentLinesFrom lineStart 0 false (c :: cs) =
      c :: dropCommentLinesFrom (isLineEnd c) 0 false cs := by
  rw [dropCommentLinesFrom, if_neg Bool.false_ne_true, if_neg (by simpa using h)]

/-- A blank ahead does not matter to whether a line is a comment. -/
theorem isCommentLine_cons_of_isBlank {c : Char} (h : isBlank c = true) (cs : List Char) :
    isCommentLine (c :: cs) = isCommentLine cs := by
  simp [isCommentLine, skipBlanks, h]

/-- Anything else ahead is the first slash. -/
theorem isCommentLine_cons_of_not_isBlank {c : Char} (h : isBlank c = false) (cs : List Char) :
    isCommentLine (c :: cs) = (c == '/' && cs.head? == some '/') := by
  have hskip : skipBlanks (c :: cs) = c :: cs := by simp [skipBlanks, h]
  rw [isCommentLine, hskip]
  by_cases hc : c = '/'
  · subst hc
    cases cs with
    | nil => rfl
    | cons d cs =>
        by_cases hd : d = '/'
        · simp [strip?, hd]
        · simp [strip?, hd, Ne.symm hd]
  · simp [strip?, hc, Ne.symm hc]

/-- A blank stays, or it goes with the comment line after it. -/
theorem dropCommentLinesFrom_blank_or_cons {c : Char} (hblank : isBlank c = true)
    (lineStart : Bool) (cs : List Char) :
    (lineStart = true ∧ dropCommentLinesFrom lineStart 0 false (c :: cs) =
        dropCommentLinesFrom true 0 false cs) ∨
      dropCommentLinesFrom lineStart 0 false (c :: cs) =
        c :: dropCommentLinesFrom (isLineEnd c) 0 false cs := by
  by_cases hline : lineStart = true ∧ isCommentLine (c :: cs) = true
  · obtain ⟨rfl, hline⟩ := hline
    rw [isCommentLine_cons_of_isBlank hblank] at hline
    exact .inl ⟨rfl, dropCommentLinesFrom_blank hblank hline⟩
  · exact .inr (dropCommentLinesFrom_cons hline)

/-- A comma is no part of a comment line. -/
theorem dropCommentLinesFrom_comma (lineStart : Bool) (cs : List Char) :
    dropCommentLinesFrom lineStart 0 false (',' :: cs) =
      ',' :: dropCommentLinesFrom false 0 false cs := by
  refine dropCommentLinesFrom_cons fun hline => ?_
  rw [isCommentLine_cons_of_not_isBlank rfl] at hline
  cases hline.2

/-- A clean text starts no comment line. -/
theorem not_isCommentLine_of_clean {cs : List Char} (h : Clean .plain cs) :
    isCommentLine cs = false := by
  induction cs with
  | nil => rfl
  | cons c cs ih =>
      by_cases hblank : isBlank c = true
      · rw [isCommentLine_cons_of_isBlank hblank]
        exact ih (Mode.next_of_isBlank hblank ▸ h.2)
      · have hslash : c ≠ '/' := fun hc => h.1 rfl (.inl hc)
        rw [isCommentLine_cons_of_not_isBlank (Bool.eq_false_iff.mpr hblank),
          beq_false_of_ne hslash, Bool.false_and]

/-! ## What the repair leaves alone -/

/-- The repair finds a comment line or a trailing comma at a character. The flag tells whether the
character starts a line. -/
def IsLoose (lineStart : Bool) (c : Char) (cs : List Char) : Prop :=
  (lineStart = true ∧ isCommentLine (c :: cs) = true) ∨ (c = ',' ∧ closesNext cs = true)

instance (lineStart : Bool) (c : Char) (cs : List Char) : Decidable (IsLoose lineStart c cs) :=
  inferInstanceAs (Decidable (_ ∨ _))

/-- In no string of what remains of a text the repair finds a comment line or a trailing comma. -/
def SafeStrings : Mode → (lineStart : Bool) → List Char → Prop
  | _, _, [] => True
  | mode, lineStart, c :: cs =>
      (mode ≠ .plain → ¬ IsLoose lineStart c cs) ∧ SafeStrings (mode.next c) (isLineEnd c) cs

instance SafeStrings.decidable :
    ∀ mode lineStart cs, Decidable (SafeStrings mode lineStart cs)
  | _, _, [] => .isTrue trivial
  | mode, lineStart, c :: cs =>
      have := SafeStrings.decidable (mode.next c) (isLineEnd c) cs
      inferInstanceAs (Decidable ((mode ≠ .plain → ¬ IsLoose lineStart c cs) ∧ _))

/-- What remains of a text is clean, and nowhere the repair finds a comment line or a trailing
comma. -/
def Untouched : Mode → (lineStart : Bool) → List Char → Prop
  | _, _, [] => True
  | mode, lineStart, c :: cs =>
      ((mode = .plain → ¬ IsForeign c) ∧ ¬ IsLoose lineStart c cs) ∧
        Untouched (mode.next c) (isLineEnd c) cs

namespace Untouched

variable {mode : Mode} {lineStart : Bool} {c : Char} {cs : List Char}

/-- Outside of strings nothing is foreign. -/
theorem not_isForeign (h : Untouched mode lineStart (c :: cs)) (hmode : mode = .plain) :
    ¬ IsForeign c := h.1.1 hmode

/-- No comment line stands in the text. -/
theorem not_isCommentLine (h : Untouched mode lineStart (c :: cs)) :
    ¬ (lineStart = true ∧ isCommentLine (c :: cs) = true) := fun hline => h.1.2 (.inl hline)

/-- No comma stands ahead of a closing bracket. -/
theorem not_closesNext (h : Untouched mode lineStart (',' :: cs)) : closesNext cs = false :=
  Bool.eq_false_iff.mpr fun hcloses => h.1.2 (.inr ⟨rfl, hcloses⟩)

/-- What is left alone is so from each place on. -/
theorem tail (h : Untouched mode lineStart (c :: cs)) :
    Untouched (mode.next c) (isLineEnd c) cs := h.2

/-- A text that completes a value has no comment lines and trailing commas outside of its
strings. -/
theorem of_safeStrings {α : Type} [Scalar α] {p : Position} (hreads : ¬ Unreadable α p cs)
    (hstrings : SafeStrings p.mode lineStart cs) : Untouched p.mode lineStart cs := by
  induction cs generalizing p lineStart with
  | nil => trivial
  | cons c cs ih =>
      rcases tokensFrom?_step (α := α) p c with hnone | ⟨ts, p', hlead⟩
      · exact absurd (unreadable_of_eq_none (hnone cs)) hreads
      have hclean : Clean p.mode (c :: cs) := by
        refine clean_of_isSome_tokensFrom? (α := α) (Option.isSome_iff_ne_none.mpr fun hnone => ?_)
        exact hreads (unreadable_of_eq_none hnone)
      have hnext : ¬ Unreadable α p' cs := fun h => hreads (h.of_tokens ts (hlead.tokens cs))
      refine ⟨⟨hclean.1, ?_⟩, hlead.mode ▸ ih hnext (hlead.mode ▸ hstrings.2)⟩
      by_cases hplain : p.mode = .plain
      · rintro (⟨-, hline⟩ | ⟨rfl, hcloses⟩)
        · rw [not_isCommentLine_of_clean (hplain ▸ hclean)] at hline
          cases hline
        · have hrest : Clean .plain cs := by
            have hrest := hclean.2
            rwa [hplain] at hrest
          exact hreads (Unreadable.of_separate hplain (separate_cons rfl cs)
            (unreadable_comma hrest hcloses rfl))
      · exact hstrings.1 hplain

end Untouched

/-! ## Repairing a text -/

namespace Loosened

variable {mode : Mode} {prev : Char} {fresh used : Bool} {cs cs' : List Char}

/-- Inside of a string nothing is added. -/
theorem head?_eq (h : Loosened mode prev fresh used cs cs') (hmode : mode ≠ .plain) :
    cs'.head? = cs.head? := by
  cases h with
  | done => rfl
  | same => rfl
  | _ => exact absurd rfl hmode

/-- What looks like a comment line inside of a string does so in both texts. -/
theorem isCommentLine_eq (h : Loosened mode prev fresh used cs cs') (hmode : mode ≠ .plain) :
    isCommentLine cs' = isCommentLine cs := by
  induction h with
  | done => rfl
  | @same mode prev fresh used c cs cs' h ih =>
      have hnext (hc : c ≠ quote) : mode.next c ≠ .plain :=
        fun hplain => hmode (Mode.eq_plain_of_next hc hplain)
      by_cases hblank : isBlank c = true
      · rw [isCommentLine_cons_of_isBlank hblank, isCommentLine_cons_of_isBlank hblank,
          ih (hnext (ne_quote_of_isBlank hblank))]
      · rw [Bool.not_eq_true] at hblank
        rw [isCommentLine_cons_of_not_isBlank hblank, isCommentLine_cons_of_not_isBlank hblank]
        by_cases hc : c = '/'
        · rw [h.head?_eq (hnext (by rw [hc]; decide))]
        · rw [beq_false_of_ne hc, Bool.false_and, Bool.false_and]
  | _ => exact absurd rfl hmode

/-- A character of the first text stays, or it is a blank that goes with the comment line after
it. -/
theorem dropCommentLinesFrom_same {c : Char} {lineStart own : Bool}
    (h : Loosened (mode.next c) c (endsLine c) (used && isBlank c) cs cs')
    (hsafe : Untouched mode own (c :: cs)) (hown : mode ≠ .plain → lineStart = own) :
    (lineStart = true ∧ mode = .plain ∧ isSpace c = true ∧
        dropCommentLinesFrom lineStart 0 false (c :: cs') =
          dropCommentLinesFrom true 0 false cs') ∨
      dropCommentLinesFrom lineStart 0 false (c :: cs') =
        c :: dropCommentLinesFrom (isLineEnd c) 0 false cs' := by
  by_cases hline : lineStart = true ∧ isCommentLine (c :: cs') = true
  · by_cases hmode : mode = .plain
    · have hforeign := hsafe.not_isForeign hmode
      have hblank : isBlank c = true := by
        by_contra hblank
        rw [Bool.not_eq_true] at hblank
        have hslash := hline.2
        rw [isCommentLine_cons_of_not_isBlank hblank, Bool.and_eq_true, beq_iff_eq] at hslash
        exact hforeign (.inl hslash.1)
      have hspace := isSpace_of_not_isForeign hforeign hblank
      rcases dropCommentLinesFrom_blank_or_cons hblank lineStart cs' with ⟨hstart, hdrop⟩ | hkeep
      · exact .inl ⟨hstart, hmode, hspace, hdrop⟩
      · exact .inr hkeep
    · have hsame : Loosened mode c false used (c :: cs) (c :: cs') := .same c h
      rw [hsame.isCommentLine_eq hmode, hown hmode] at hline
      exact absurd hline hsafe.not_isCommentLine
  · exact .inr (dropCommentLinesFrom_cons hline)

/-- When comment lines are gone, a closing bracket comes next only if it did so in the first text,
and it does if a comma has been added ahead of it. -/
theorem closesNext_dropCommentLinesFrom (h : Loosened mode prev fresh used cs cs')
    (lineStart : Bool) {own : Bool} (hsafe : Untouched mode own cs)
    (hown : mode ≠ .plain → lineStart = own) (hfresh : fresh = true → lineStart = true) :
    (closesNext (dropCommentLinesFrom lineStart 0 false cs') = true → closesNext cs = true) ∧
      (used = true → mode = .plain → closesNext cs = true →
        closesNext (dropCommentLinesFrom lineStart 0 false cs') = true) := by
  induction h generalizing lineStart own with
  | done => exact ⟨id, fun _ _ => id⟩
  | @same mode prev fresh used c cs cs' h ih =>
      by_cases hblank : isBlank c = true
      · have hrest : ∀ {rest : List Char}, (closesNext rest = true → closesNext cs = true) ∧
            ((used && isBlank c) = true → mode.next c = .plain → closesNext cs = true →
              closesNext rest = true) →
            (closesNext rest = true → closesNext (c :: cs) = true) ∧
              (used = true → mode = .plain → closesNext (c :: cs) = true →
                closesNext rest = true) := by
          intro rest hrest
          rw [closesNext_of_isBlank hblank]
          refine ⟨hrest.1, ?_⟩
          rintro rfl rfl
          exact hrest.2 (by simp [hblank]) (Mode.next_of_isBlank hblank)
        rcases dropCommentLinesFrom_same h hsafe hown with ⟨-, rfl, -, hdrop⟩ | hkeep
        · rw [hdrop]
          exact hrest (ih true hsafe.tail (absurd (Mode.next_of_isBlank hblank)) fun _ => rfl)
        · rw [hkeep, closesNext_of_isBlank hblank]
          exact hrest (ih (isLineEnd c) hsafe.tail (fun _ => rfl) isLineEnd_of_endsLine)
      · rw [Bool.not_eq_true] at hblank
        rcases dropCommentLinesFrom_same h hsafe hown with ⟨-, -, hspace, -⟩ | hkeep
        · rw [isBlank_of_isSpace hspace] at hblank
          cases hblank
        · rw [hkeep, closesNext_of_not_isBlank hblank, closesNext_of_not_isBlank hblank]
          exact ⟨id, fun _ _ => id⟩
  | @space prev fresh used c cs cs' hspace _ _ ih =>
      have hblank := isBlank_of_isSpace hspace
      rcases dropCommentLinesFrom_blank_or_cons hblank lineStart cs' with ⟨-, hdrop⟩ | hkeep
      · rw [hdrop]
        exact ih true hsafe (absurd rfl) fun _ => rfl
      · rw [hkeep, closesNext_of_isBlank hblank]
        exact ih (isLineEnd c) hsafe (absurd rfl) isLineEnd_of_endsLine
  | @note prev used blanks text newline cs cs' hblanks htext hnewline _ ih =>
      rw [hfresh rfl, dropCommentLinesFrom_note hblanks htext hnewline,
        closesNext_of_isBlank (isBlank_of_isSpace (isSpace_of_endsLine hnewline))]
      exact ih true hsafe (absurd rfl) fun _ => rfl
  | @last prev used blanks text hblanks htext =>
      rw [hfresh rfl, dropCommentLinesFrom_last hblanks htext]
      exact ⟨id, fun _ _ => id⟩
  | @comma prev fresh cs cs' _ _ ih =>
      rw [dropCommentLinesFrom_comma, closesNext_of_not_isBlank rfl]
      exact ⟨fun h => absurd h (by decide), by simp⟩

/-- The repaired text has the tokens of the first one. -/
theorem tokensFrom?_repaired {α : Type} [Scalar α] (h : Loosened mode prev fresh used cs cs')
    {lineStart own : Bool} (hsafe : Untouched mode own cs)
    (hown : mode ≠ .plain → lineStart = own) (hfresh : fresh = true → lineStart = true)
    {p : Position} (hp : p.mode = mode)
    (hstart : lineStart = true → mode = .plain → p = .between)
    (hprev : endsAtom prev = true → mode = .plain → p = .between) :
    tokensFrom? (α := α) p (dropTrailingCommas (dropCommentLinesFrom lineStart 0 false cs')) =
      tokensFrom? p cs := by
  induction h generalizing lineStart own p with
  | done => rfl
  | @same mode prev fresh used c cs cs' h ih =>
      rcases dropCommentLinesFrom_same h hsafe hown with ⟨hline, rfl, hspace, hdrop⟩ | hkeep
      · have hplain := Mode.next_of_isBlank (isBlank_of_isSpace hspace)
        rw [hdrop, hstart hline rfl, tokensFrom?_between_of_isSpace hspace]
        exact ih hsafe.tail (absurd hplain) (fun _ => rfl) hplain.symm (fun _ _ => rfl)
          fun _ _ => rfl
      · have hcomma : ¬ (c = ',' ∧
            closesNext (dropCommentLinesFrom (isLineEnd c) 0 false cs') = true) := by
          rintro ⟨rfl, hcloses⟩
          have hfirst := h.closesNext_dropCommentLinesFrom (isLineEnd ',') hsafe.tail (fun _ => rfl)
            isLineEnd_of_endsLine
          rw [hsafe.not_closesNext] at hfirst
          cases hfirst.1 hcloses
        rw [hkeep, dropTrailingCommas, if_neg hcomma]
        rcases tokensFrom?_step (α := α) p c with hnone | ⟨ts, p', hlead⟩
        · rw [hnone, hnone]
        · have hmode : p'.mode = mode.next c := by rw [hlead.mode, hp]
          have hends : endsAtom c = true → mode.next c = .plain → p' = .between :=
            fun hc hplain => hlead.between hc (hmode.trans hplain)
          have hbreak : isLineEnd c = true → mode.next c = .plain → p' = .between := by
            intro hend hplain
            have hblank := isBlank_of_isLineEnd hend
            have hmode := Mode.eq_plain_of_next (ne_quote_of_isBlank hblank) hplain
            have hspace := isSpace_of_not_isForeign (hsafe.not_isForeign hmode) hblank
            exact hends (by simp [endsAtom, hspace]) hplain
          rw [hlead.tokens, hlead.tokens, ih hsafe.tail (fun _ => rfl) isLineEnd_of_endsLine hmode
            hbreak hends]
  | @space prev fresh used c cs cs' hspace hgap _ ih =>
      rcases dropCommentLinesFrom_blank_or_cons (isBlank_of_isSpace hspace) lineStart cs' with
        ⟨hline, hdrop⟩ | hkeep
      · rw [hdrop, hstart hline rfl]
        exact ih hsafe (absurd rfl) (fun _ => rfl) rfl (fun _ _ => rfl) fun _ _ => rfl
      · have hcomma : c ≠ ',' := by
          rintro rfl
          cases hspace
        rw [hkeep, dropTrailingCommas, if_neg fun h => hcomma h.1]
        refine tokensFrom?_space hp hspace (hgap.imp_left fun hends => hprev hends rfl) ?_
        exact ih hsafe (absurd rfl) isLineEnd_of_endsLine rfl (fun _ _ => rfl) fun _ _ => rfl
  | @note prev used blanks text newline cs cs' hblanks htext hnewline _ ih =>
      have hline := hfresh rfl
      have hspace := isSpace_of_endsLine hnewline
      have hcomma : newline ≠ ',' := by
        rintro rfl
        cases hnewline
      rw [hline, dropCommentLinesFrom_note hblanks htext hnewline, dropTrailingCommas,
        if_neg fun h => hcomma h.1, hstart hline rfl, tokensFrom?_between_of_isSpace hspace]
      exact ih hsafe (absurd rfl) (fun _ => rfl) rfl (fun _ _ => rfl) fun _ _ => rfl
  | @last prev used blanks text hblanks htext =>
      rw [hfresh rfl, dropCommentLinesFrom_last hblanks htext]
      rfl
  | @comma prev fresh cs cs' hcloses h ih =>
      have hfirst := h.closesNext_dropCommentLinesFrom false hsafe (absurd rfl) (by simp)
      rw [dropCommentLinesFrom_comma, dropTrailingCommas, if_pos ⟨rfl, hfirst.2 rfl rfl hcloses⟩]
      exact ih hsafe (absurd rfl) (by simp) hp (by simp) hprev

end Loosened

/-! ## Header comments -/

/-- The bracket that a header starts with. -/
def openBrace : Char := Char.ofNat 0x7B

/-- What stands around the text of a header: blanks ahead of the comment and on both sides of the
text, and the body. -/
structure Setting where
  ahead : List Char
  before : List Char
  after : List Char
  body : List Char
  isBlank_ahead : ∀ c ∈ ahead, isBlank c = true
  isBlank_before : ∀ c ∈ before, isBlank c = true
  isBlank_after : ∀ c ∈ after, isBlank c = true

/-- A source whose header comment holds a text. -/
def Setting.source (f : Setting) (json : List Char) : String :=
  String.ofList
    (f.ahead ++ '/' :: '*' :: ((f.before ++ (json ++ f.after)) ++ '*' :: '/' :: f.body))

/-- A header comment holds its text without the blanks at the end. -/
theorem locate?_source (f : Setting) {cs : List Char}
    (hmark : ¬ Shader.HasEndMark (openBrace :: cs)) :
    locate? (f.source (openBrace :: cs)).toList = some (trimEnd (openBrace :: cs), f.body) := by
  have hskip {blanks : List Char} (hblanks : ∀ c ∈ blanks, isBlank c = true) {c : Char}
      (hc : isBlank c = false) (cs : List Char) : skipBlanks (blanks ++ c :: cs) = c :: cs := by
    rw [skipBlanks, List.dropWhile_append_of_pos hblanks, List.dropWhile_cons_of_neg (by simp [hc])]
  have hafter : trimEnd f.after = [] := List.rdropWhile_eq_nil_iff.mpr f.isBlank_after
  have hinside : ¬ Shader.HasEndMark (f.before ++ (openBrace :: cs ++ f.after)) := by
    have hblanks : ¬ Shader.HasEndMark f.after := by
      rw [← List.append_nil f.after]
      exact not_hasEndMark_blanks f.isBlank_after (by decide)
    refine not_hasEndMark_blanks f.isBlank_before
      (Shader.not_hasEndMark_append hmark hblanks fun hslash => ?_)
    have hblank := f.isBlank_after '/' (List.mem_of_mem_head? hslash)
    cases hblank
  have htrim : trim (f.before ++ (openBrace :: cs ++ f.after)) = trimEnd (openBrace :: cs) := by
    rw [trim, List.cons_append, hskip f.isBlank_before rfl, ← List.cons_append]
    change trimEnd (openBrace :: cs ++ f.after) = _
    rw [trimEnd_append, if_pos hafter]
  have hhead : trimEnd (openBrace :: cs) = openBrace :: trimEnd cs :=
    trimEnd_append_cons [] rfl cs
  rw [Setting.source, String.toList_ofList, locate?, hskip f.isBlank_ahead rfl]
  simp only [strip?, if_true, Option.bind_eq_bind, Option.bind_some,
    Shader.untilClose?_of_not_hasEndMark hinside, htrim, hhead, List.head?_cons]
  rfl

variable {α : Type} [Scalar α]

/-- The text of a header: a text without blanks at its end and without an end mark of comments, that
a strict reader takes for a value of the right shape. -/
structure IsText (json : List Char) (v : Json α) : Prop where
  unmarked : ¬ Shader.HasEndMark json
  last : ∀ c ∈ json.getLast?, isBlank c = false
  reads : Json.read? json = some v
  shape : ∃ fields, Fields.schema (some v) = .accepted fields

/-- A text that starts with a bracket, and the same with comment lines and trailing commas added
behind the bracket. -/
def Loosens (json json' : List Char) : Prop :=
  ∃ cs cs', json = openBrace :: cs ∧ json' = openBrace :: cs' ∧
    Loosened .plain openBrace false false cs cs'

/-- Comment lines and trailing commas do not matter to what a tolerant reader finds, if no string
looks as if it had some. -/
theorem readTolerant?_of_loosened {cs cs' : List Char} {v : Json α}
    (h : Loosened .plain openBrace false false cs cs')
    (hread : Json.read? (openBrace :: cs) = some v)
    (hstrings : SafeStrings .plain true (openBrace :: cs)) :
    readTolerant? (openBrace :: cs') = some v := by
  have hall : Loosened .plain ' ' false false (openBrace :: cs) (openBrace :: cs') := .same _ h
  have hreads : ¬ Unreadable α .between (openBrace :: cs) := by
    intro hunreadable
    have hnone : Json.read? (α := α) (openBrace :: cs) = none := hunreadable [] .value
    rw [hread] at hnone
    cases hnone
  obtain ⟨ts, hts, -⟩ := Option.bind_eq_some_iff.mp hread
  have hclean : Clean .plain (openBrace :: cs) :=
    clean_of_isSome_tokensFrom? (α := α) (p := .between) (by rw [← tokens?, hts]; rfl)
  have hsafe : Untouched .plain true (openBrace :: cs) := .of_safeStrings hreads hstrings
  have hrepaired : Json.read? (tidy (openBrace :: cs')) = some v := by
    rw [← hread, Json.read?, Json.read?]
    congr 1
    exact hall.tokensFrom?_repaired hsafe (absurd rfl) (by simp) rfl (fun _ _ => rfl)
      fun _ _ => rfl
  rcases hall.reads_or_unreadable (α := α) (p := .between) rfl (fun _ _ => rfl) hclean with
    htokens | hunreadable
  · have hstrict : Json.read? (openBrace :: cs') = some v := by
      rw [← hread, Json.read?, Json.read?]
      exact congrArg (·.bind ofTokens?) htokens
    rw [readTolerant?, hstrict]
    rfl
  · have hstrict : Json.read? (α := α) (openBrace :: cs') = none := hunreadable [] .value
    rw [readTolerant?, hstrict, ← hrepaired]
    rfl

/-- Comment lines and trailing commas do not matter to what a header says, if no string of it looks
as if it had some: whatever stands around the text, the inputs, defaults, warnings and descriptive
fields are the same. -/
theorem liberties_do_not_matter {json json' : List Char} {v : Json α} (htext : IsText json v)
    (hstrings : SafeStrings .plain true json) (hloosens : Loosens json json') (f f' : Setting) :
    ∃ header header' : Header α, read (f.source json) = .ok header ∧
      read (f'.source json') = .ok header' ∧ header'.inputs = header.inputs ∧
      header'.defaults = header.defaults ∧ header'.about = header.about ∧
      header'.warnings = header.warnings := by
  obtain ⟨cs, cs', rfl, rfl, h⟩ := hloosens
  obtain ⟨fields, hshape⟩ := htext.shape
  have hall : Loosened .plain ' ' false false (openBrace :: cs) (openBrace :: cs') := .same _ h
  have hlast : ∀ c ∈ cs.getLast?, isBlank c = false := by
    intro c hc
    refine htext.last c ?_
    cases cs with
    | nil => cases hc
    | cons d cs => rwa [List.getLast?_cons_cons]
  have htrimmed : trimEnd (openBrace :: cs') = openBrace :: trimEnd cs' :=
    trimEnd_append_cons [] rfl cs'
  have hfirst : Holds (f.source (openBrace :: cs)) v := by
    refine ⟨openBrace :: cs, f.body, fields, ?_, ?_, hshape⟩
    · rw [locate?_source f htext.unmarked, trimEnd_eq_self htext.last]
    · rw [readTolerant?, htext.reads]
      rfl
  have hsecond : Holds (f'.source (openBrace :: cs')) v := by
    refine ⟨openBrace :: trimEnd cs', f'.body, fields, ?_, ?_, hshape⟩
    · rw [locate?_source f' (hall.not_hasEndMark htext.unmarked).1, htrimmed]
    · exact readTolerant?_of_loosened (h.trimEnd hlast) htext.reads hstrings
  obtain ⟨body, fields, hfields, hread⟩ := hfirst.read
  obtain ⟨body', fields', hfields', hread'⟩ := hsecond.read
  obtain rfl : fields = fields' := by
    rw [hfields] at hfields'
    exact Checked.accepted.inj hfields'
  exact ⟨_, _, hread, hread', rfl, rfl, rfl, rfl⟩

/-- A comment that starts with the source, and no body. -/
def bareSetting : Setting := ⟨[], [], [], [], by simp, by simp, by simp⟩

/-- A header with nothing that the repair could take for a liberty. -/
def creditText : List Char := "\x7b\"CREDIT\":\"a\"\x7d".toList

/-- The same with a comment line and a trailing comma. -/
def creditNotes : List Char := "\x7b\n// b\n\"CREDIT\":\"a\",\x7d".toList

theorem isText_creditText : IsText (α := Float) creditText (.obj [("CREDIT", .str "a")]) where
  unmarked := by decide
  last := by
    rintro c ⟨⟩
    rfl
  reads := rfl
  shape := ⟨_, rfl⟩

/-- A comment line may stand behind the bracket. -/
theorem loosens_first_line {cs cs' : List Char}
    (h : Loosened .plain openBrace true false cs cs') :
    Loosens (openBrace :: cs) (openBrace :: ("\n// b\n".toList ++ cs')) := by
  have hblanks : ∀ c ∈ ([] : List Char), isBlank c = true := by simp
  have hline : IsNote [' ', 'b'] := ⟨by simp [isLineEnd], by decide⟩
  exact ⟨_, _, rfl, rfl, .space rfl (.inl rfl) (.note hblanks hline rfl h)⟩

theorem loosens_creditNotes : Loosens creditText creditNotes := by
  refine loosens_first_line ?_
  iterate 12 refine .same _ ?_
  exact .comma rfl (.same _ .done)

/-- A comment line and a trailing comma leave the credit as it is. -/
theorem liberties_do_not_matter_of_creditNotes :
    SafeStrings .plain true creditText ∧ ∃ header : Header Float,
      read (bareSetting.source creditNotes) = .ok header ∧ header.about.credit = some "a" := by
  have hstrings : SafeStrings .plain true creditText := by decide
  obtain ⟨header, header', hread, hread', -, -, habout, -⟩ :=
    liberties_do_not_matter isText_creditText hstrings loosens_creditNotes bareSetting bareSetting
  refine ⟨hstrings, header', hread', ?_⟩
  have hcredit : read (α := Float) (bareSetting.source creditText) =
      .ok (ofFields (bareSetting.source creditText).toList [] ⟨none, none, some "a", none⟩) := rfl
  rw [hcredit] at hread
  rw [habout, ← Except.ok.inj hread]
  rfl

/-- A header with a string that holds what looks like a trailing comma. -/
def listText : List Char := "\x7b\"CREDIT\":\"a,]\"\x7d".toList

/-- The same with a comment line. -/
def listNotes : List Char := "\x7b\n// b\n\"CREDIT\":\"a,]\"\x7d".toList

/-- The repair knows nothing of strings: with a comment line in the header a string loses its
comma. -/
theorem repair_reaches_strings :
    IsText (α := Float) listText (.obj [("CREDIT", .str "a,]")]) ∧ Loosens listText listNotes ∧
      (∃ header : Header Float, read (bareSetting.source listText) = .ok header ∧
        header.about.credit = some "a,]") ∧
      ∃ header : Header Float, read (bareSetting.source listNotes) = .ok header ∧
        header.about.credit = some "a]" := by
  refine ⟨⟨by decide, ?_, rfl, _, rfl⟩, loosens_first_line ?_, ⟨_, rfl, rfl⟩, ⟨_, rfl, rfl⟩⟩
  · rintro c ⟨⟩
    rfl
  · iterate 15 refine .same _ ?_
    exact .done

end Header

end LiveVisuals
