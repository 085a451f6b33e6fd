import Mathlib.Data.List.TakeWhile
import Mathlib.Data.Nat.Init
import LiveVisuals.Proofs.Shader.Declared

/-!
# Lexemes of shader text

A text falls apart into words, gaps of blanks and single marks. Which blanks a gap consists of
does not matter to the language. Reading an identifier, a given word or blanks at the start of a
text comes to the same as reading its first lexeme.

Main definitions:

- {lit}`Shader.lexemes`: the lexemes of a text.
- {lit}`Shader.Lexeme.name?`, {lit}`Shader.Lexeme.afterGap?`, {lit}`Shader.Lexeme.afterWord?`:
  reading the first lexemes.

Main results:

- Theorem {lit}`Shader.lexemes_append`: texts that do not go on as one word or gap.
- Theorems {lit}`Shader.map_takeIdentifier`, {lit}`Shader.map_skipSomeBlanks` and
  {lit}`Shader.map_strip?_skipSomeBlanks`: reading a text is reading its lexemes.
-/

namespace LiveVisuals.Shader

open Text

/-! ## Lexemes -/

/-- A word, a gap of blanks, or a single character that is neither. -/
inductive Lexeme where
  | word (w : List Char)
  | gap
  | mark (c : Char)
deriving DecidableEq, Repr

/-- Skipping the rest of a word never makes a text longer. -/
theorem length_dropWhile_le (cs : List Char) : (cs.dropWhile isWordChar).length ≤ cs.length :=
  (List.dropWhile_sublist isWordChar).length_le

/-- The lexemes of a text. Words and gaps are as long as can be. -/
def lexemes : List Char → List Lexeme
  | [] => []
  | c :: cs =>
      if isWordChar c then .word (c :: cs.takeWhile isWordChar) :: lexemes (cs.dropWhile isWordChar)
      else if isBlank c then .gap :: lexemes (skipBlanks cs)
      else .mark c :: lexemes cs
termination_by cs => cs.length
decreasing_by
  · exact Nat.lt_succ_of_le (length_dropWhile_le cs)
  · exact Nat.lt_succ_of_le (length_skipBlanks_le cs)
  · exact Nat.lt_succ_self _

@[simp] theorem lexemes_nil : lexemes [] = [] := by
  rw [lexemes]

theorem lexemes_word_cons {c : Char} (hc : isWordChar c) (cs : List Char) :
    lexemes (c :: cs) =
      .word (c :: cs.takeWhile isWordChar) :: lexemes (cs.dropWhile isWordChar) := by
  rw [lexemes, if_pos hc]

/-- A blank is of no word. -/
theorem isWordChar_of_isBlank {c : Char} (h : isBlank c) : isWordChar c = false := by
  by_contra hword
  rw [isBlank_of_isWordChar (by simpa using hword)] at h
  cases h

theorem lexemes_blank_cons {c : Char} (hc : isBlank c) (cs : List Char) :
    lexemes (c :: cs) = .gap :: lexemes (skipBlanks cs) := by
  rw [lexemes, if_neg (by simp [isWordChar_of_isBlank hc]), if_pos hc]

theorem lexemes_mark_cons {c : Char} (hword : isWordChar c = false) (hblank : isBlank c = false)
    (cs : List Char) : lexemes (c :: cs) = .mark c :: lexemes cs := by
  rw [lexemes, if_neg (by simp [hword]), if_neg (by simp [hblank])]

theorem endsWord_iff {cs : List Char} :
    endsWord cs ↔ ∀ c ∈ cs.head?, isWordChar c = false := by
  cases cs with
  | nil => simp [endsWord]
  | cons c cs => simp [endsWord]

/-- A word that does not go on is a lexeme. -/
theorem lexemes_word {w : List Char} (hne : w ≠ []) (hw : ∀ c ∈ w, isWordChar c)
    {rest : List Char} (hrest : ∀ c ∈ rest.head?, isWordChar c = false) :
    lexemes (w ++ rest) = .word w :: lexemes rest := by
  cases w with
  | nil => exact absurd rfl hne
  | cons c w =>
      have hw' : ∀ d ∈ w, isWordChar d := fun d hd => hw d (List.mem_cons_of_mem c hd)
      have hsplit : rest.takeWhile isWordChar = [] ∧ rest.dropWhile isWordChar = rest := by
        cases rest with
        | nil => exact ⟨rfl, rfl⟩
        | cons d ds => simp [hrest d rfl]
      rw [List.cons_append, lexemes_word_cons (hw c List.mem_cons_self),
        List.takeWhile_append_of_pos hw', List.dropWhile_append_of_pos hw', hsplit.1, hsplit.2,
        List.append_nil]

/-- Blanks that do not go on are a gap. -/
theorem lexemes_gap {g : List Char} (hne : g ≠ []) (hg : ∀ c ∈ g, isBlank c) {rest : List Char}
    (hrest : ∀ c ∈ rest.head?, isBlank c = false) :
    lexemes (g ++ rest) = .gap :: lexemes rest := by
  cases g with
  | nil => exact absurd rfl hne
  | cons c g =>
      have hskip : skipBlanks (g ++ rest) = rest := by
        rw [skipBlanks, List.dropWhile_append_of_pos fun d hd => hg d (List.mem_cons_of_mem c hd)]
        cases rest with
        | nil => rfl
        | cons d ds => simp [hrest d rfl]
      rw [List.cons_append, lexemes_blank_cons (hg c List.mem_cons_self), hskip]

/-- What a text starts with, of one kind of characters, and what follows that does not go on where
the next text starts. -/
theorem exists_run {p : Char → Bool} {c : Char} (hc : p c) {cs ds : List Char}
    (h : ∀ d ∈ (c :: cs).getLast?, p d → ∀ e ∈ ds.head?, p e = false) :
    ∃ run rest, c :: cs = run ++ rest ∧ run ≠ [] ∧ (∀ d ∈ run, p d) ∧
      (∀ d ∈ rest.head?, p d = false) ∧ ∀ d ∈ (rest ++ ds).head?, p d = false := by
  have hsplit : c :: cs = (c :: cs.takeWhile p) ++ cs.dropWhile p := by
    rw [List.cons_append, List.takeWhile_append_dropWhile]
  have hrun : ∀ d ∈ c :: cs.takeWhile p, p d := by
    intro d hd
    rcases List.mem_cons.mp hd with rfl | hd
    · exact hc
    · exact List.mem_takeWhile_imp hd
  have hends : ∀ d ∈ (cs.dropWhile p).head?, p d = false := by
    intro d hd
    have hhead := List.head?_dropWhile_not p cs
    rw [Option.mem_def] at hd
    simpa [hd] using hhead
  refine ⟨_, _, hsplit, List.cons_ne_nil _ _, hrun, hends, ?_⟩
  cases hrest : cs.dropWhile p with
  | nil =>
      -- the run goes up to the end of the first text
      rw [hrest, List.append_nil] at hsplit
      have hlast := List.getLast?_eq_some_getLast (List.cons_ne_nil c (cs.takeWhile p))
      rw [hsplit] at h
      exact h _ hlast (hrun _ (List.getLast_mem _))
  | cons e rest =>
      rw [hrest] at hends
      exact hends

/-- Two texts have the lexemes of both, unless a word or a gap goes on from one to the other. -/
theorem lexemes_append {cs ds : List Char}
    (hword : ∀ c ∈ cs.getLast?, isWordChar c → ∀ d ∈ ds.head?, isWordChar d = false)
    (hblank : ∀ c ∈ cs.getLast?, isBlank c → ∀ d ∈ ds.head?, isBlank d = false) :
    lexemes (cs ++ ds) = lexemes cs ++ lexemes ds := by
  induction hlength : cs.length using Nat.strong_induction_on generalizing cs with
  | h n ih =>
  subst hlength
  -- what is left of the first text behind its first lexeme
  have hnext {part rest : List Char} (hcs : cs = part ++ rest) (hne : part ≠ []) :
      lexemes (rest ++ ds) = lexemes rest ++ lexemes ds := by
    by_cases hrest : rest = []
    · rw [hrest, lexemes_nil, List.nil_append, List.nil_append]
    · have hlast : cs.getLast? = rest.getLast? := by
        rw [hcs, List.getLast?_append_of_ne_nil part hrest]
      have hpos : 0 < part.length := List.length_pos_of_ne_nil hne
      refine ih rest.length ?_ (hlast ▸ hword) (hlast ▸ hblank) rfl
      rw [hcs, List.length_append]
      omega
  cases cs with
  | nil => rw [lexemes_nil, List.nil_append, List.nil_append]
  | cons c cs =>
      by_cases hc : isWordChar c
      · obtain ⟨w, rest, hsplit, hne, hw, hends, hends'⟩ := exists_run hc hword
        rw [hsplit, List.append_assoc, lexemes_word hne hw hends', lexemes_word hne hw hends,
          hnext hsplit hne, List.cons_append]
      · by_cases hb : isBlank c
        · obtain ⟨g, rest, hsplit, hne, hg, hends, hends'⟩ := exists_run hb hblank
          rw [hsplit, List.append_assoc, lexemes_gap hne hg hends', lexemes_gap hne hg hends,
            hnext hsplit hne, List.cons_append]
        · have hsplit : c :: cs = [c] ++ cs := rfl
          rw [List.cons_append, lexemes_mark_cons (by simpa using hc) (by simpa using hb),
            lexemes_mark_cons (by simpa using hc) (by simpa using hb),
            hnext hsplit (List.cons_ne_nil _ _), List.cons_append]

/-- A word at the start of the lexemes stands at the start of the text. -/
theorem exists_of_lexemes_word {cs w : List Char} {ls : List Lexeme}
    (h : lexemes cs = .word w :: ls) :
    ∃ rest, cs = w ++ rest ∧ ls = lexemes rest ∧ ∀ c ∈ rest.head?, isWordChar c = false := by
  cases cs with
  | nil =>
      rw [lexemes_nil] at h
      cases h
  | cons c cs =>
      by_cases hc : isWordChar c
      · obtain ⟨v, rest, hsplit, hne, hv, hends, -⟩ :=
          @exists_run isWordChar c hc cs [] (fun _ _ _ _ he => by cases he)
        rw [hsplit, lexemes_word hne hv hends] at h
        cases h
        exact ⟨rest, hsplit, rfl, hends⟩
      · rw [lexemes, if_neg hc] at h
        split at h <;> cases h

/-- A mark at the start of the lexemes stands at the start of the text. -/
theorem exists_of_lexemes_mark {cs : List Char} {c : Char} {ls : List Lexeme}
    (h : lexemes cs = .mark c :: ls) : ∃ rest, cs = c :: rest ∧ ls = lexemes rest := by
  cases cs with
  | nil =>
      rw [lexemes_nil] at h
      cases h
  | cons d cs =>
      rw [lexemes] at h
      split at h
      · cases h
      · split at h
        · cases h
        · cases h
          exact ⟨cs, rfl, rfl⟩

/-! ## Reading the first lexemes -/

namespace Lexeme

/-- An identifier and what follows it. -/
def name? : List Lexeme → Option (List Char × List Lexeme)
  | word w :: ls => if isIdentifier w then some (w, ls) else none
  | _ => none

/-- What follows a gap. -/
def afterGap? : List Lexeme → Option (List Lexeme)
  | gap :: ls => some ls
  | _ => none

/-- What follows a given word and a gap. -/
def afterWord? (w : List Char) : List Lexeme → Option (List Lexeme)
  | word v :: ls => if v = w then afterGap? ls else none
  | _ => none

/-- What follows the gap that there may be. -/
def skipGap : List Lexeme → List Lexeme
  | gap :: ls => ls
  | ls => ls

/-- Whether a mark stands at the start. -/
def startsWith (c : Char) : List Lexeme → Bool
  | mark d :: _ => d = c
  | _ => false

theorem afterGap?_eq_some {ls rest : List Lexeme} :
    afterGap? ls = some rest ↔ ls = gap :: rest := by
  rw [afterGap?.eq_def]
  split <;> simp_all

theorem name?_eq_some {ls rest : List Lexeme} {w : List Char} :
    name? ls = some (w, rest) ↔ isIdentifier w ∧ ls = word w :: rest := by
  rw [name?.eq_def]
  split
  · next v ls' =>
      by_cases hv : isIdentifier v
      · simp only [hv, if_true, Option.some.injEq, Prod.mk.injEq, List.cons.injEq, word.injEq]
        constructor
        · rintro ⟨rfl, rfl⟩
          exact ⟨hv, rfl, rfl⟩
        · rintro ⟨-, rfl, rfl⟩
          exact ⟨rfl, rfl⟩
      · simp only [hv]
        constructor
        · intro h
          cases h
        · rintro ⟨hw, h⟩
          cases h
          exact absurd hw hv
  · next h =>
      constructor
      · intro h'
        cases h'
      · rintro ⟨-, rfl⟩
        exact absurd rfl (h w rest)

theorem afterWord?_eq_some {ls rest : List Lexeme} {w : List Char} :
    afterWord? w ls = some rest ↔ ls = word w :: gap :: rest := by
  rw [afterWord?.eq_def]
  split
  · next v ls' =>
      by_cases hv : v = w
      · simp [hv, afterGap?_eq_some]
      · simp [hv]
  · next h =>
      constructor
      · intro h'
        cases h'
      · rintro rfl
        exact absurd rfl (h w _)

end Lexeme

/-- A character that an identifier starts with is of a word. -/
theorem isWordChar_of_startsIdentifier {c : Char} (h : startsIdentifier c) : isWordChar c := by
  simp only [startsIdentifier, Bool.or_eq_true] at h
  rcases h with h | h <;> simp [isWordChar, h]

/-- Where no word starts, the first lexeme is not a word. -/
theorem lexemes_of_not_word {c : Char} (hc : isWordChar c = false) (cs : List Char) :
    lexemes (c :: cs) = .gap :: lexemes (skipBlanks cs) ∨
      lexemes (c :: cs) = .mark c :: lexemes cs := by
  by_cases hb : isBlank c
  · exact .inl (lexemes_blank_cons hb cs)
  · exact .inr (lexemes_mark_cons hc (by simpa using hb) cs)

theorem map_takeIdentifier (cs : List Char) :
    (takeIdentifier cs).map (Prod.map id lexemes) = Lexeme.name? (lexemes cs) := by
  cases cs with
  | nil => rw [lexemes_nil]; rfl
  | cons c cs =>
      by_cases hc : isWordChar c
      · have hall : (cs.takeWhile isWordChar).all isWordChar :=
          List.all_eq_true.mpr fun d hd => List.mem_takeWhile_imp hd
        rw [lexemes_word_cons hc]
        by_cases hstart : startsIdentifier c
        · simp [takeIdentifier, Lexeme.name?, isIdentifier, hstart, hall]
        · simp [takeIdentifier, Lexeme.name?, isIdentifier, hstart]
      · have hstart : ¬ startsIdentifier c := fun h => hc (isWordChar_of_startsIdentifier h)
        rcases lexemes_of_not_word (by simpa using hc) cs with h | h <;>
          simp [takeIdentifier, hstart, h, Lexeme.name?]

theorem map_skipSomeBlanks (cs : List Char) :
    (skipSomeBlanks cs).map lexemes = Lexeme.afterGap? (lexemes cs) := by
  cases cs with
  | nil => rw [lexemes_nil]; rfl
  | cons c cs =>
      by_cases hb : isBlank c
      · rw [lexemes_blank_cons hb]
        simp [skipSomeBlanks, hb, Lexeme.afterGap?]
      · by_cases hc : isWordChar c
        · simp [skipSomeBlanks, hb, lexemes_word_cons hc, Lexeme.afterGap?]
        · have hmark := lexemes_mark_cons (by simpa using hc) (by simpa using hb) cs
          simp [skipSomeBlanks, hb, hmark, Lexeme.afterGap?]

/-- A word with a blank behind it is a lexeme. -/
theorem map_strip?_skipSomeBlanks {w : List Char} (hne : w ≠ []) (hw : ∀ c ∈ w, isWordChar c)
    (cs : List Char) :
    ((strip? w cs).bind skipSomeBlanks).map lexemes = Lexeme.afterWord? w (lexemes cs) := by
  cases hstrip : strip? w cs with
  | none =>
      cases hls : lexemes cs with
      | nil => rfl
      | cons l ls =>
          cases l with
          | word v =>
              obtain ⟨rest, rfl, -, -⟩ := exists_of_lexemes_word hls
              have hv : v ≠ w := by
                rintro rfl
                rw [strip?_eq_some_iff.mpr rfl] at hstrip
                cases hstrip
              simp [Lexeme.afterWord?, hv]
          | gap => rfl
          | mark c => rfl
  | some rest =>
      obtain rfl := strip?_eq_some_iff.mp hstrip
      by_cases hends : ∀ c ∈ rest.head?, isWordChar c = false
      · rw [lexemes_word hne hw hends, Option.bind_some, map_skipSomeBlanks, Lexeme.afterWord?,
          if_pos rfl]
      · -- the word goes on, so there is no blank behind it
        have hnone : skipSomeBlanks rest = none := by
          cases rest with
          | nil => rfl
          | cons d ds =>
              have hd : isWordChar d := by simpa using hends
              simp [skipSomeBlanks, isBlank_of_isWordChar hd]
        rw [Option.bind_some, hnone]
        cases hls : lexemes (w ++ rest) with
        | nil => rfl
        | cons l ls =>
            cases l with
            | word v =>
                obtain ⟨rest', hsplit, -, hends'⟩ := exists_of_lexemes_word hls
                have hv : v ≠ w := by
                  rintro rfl
                  exact hends (List.append_cancel_left hsplit ▸ hends')
                simp [Lexeme.afterWord?, hv]
            | gap => rfl
            | mark c => rfl

theorem lexemes_skipBlanks (cs : List Char) :
    lexemes (skipBlanks cs) = Lexeme.skipGap (lexemes cs) := by
  cases cs with
  | nil => rw [skipBlanks_nil, lexemes_nil]; rfl
  | cons c cs =>
      by_cases hb : isBlank c
      · have hskip : skipBlanks (c :: cs) = skipBlanks cs := by simp [skipBlanks, hb]
        rw [hskip, lexemes_blank_cons hb, Lexeme.skipGap]
      · have hskip : skipBlanks (c :: cs) = c :: cs := by simp [skipBlanks, hb]
        by_cases hc : isWordChar c
        · rw [hskip, lexemes_word_cons hc]
          rfl
        · rw [hskip, lexemes_mark_cons (by simpa using hc) (by simpa using hb)]
          rfl

/-- A mark at the start of a text. -/
theorem isSome_strip?_mark {c : Char} (hword : isWordChar c = false) (hblank : isBlank c = false)
    (cs : List Char) : (strip? [c] cs).isSome = Lexeme.startsWith c (lexemes cs) := by
  cases cs with
  | nil => rw [lexemes_nil]; rfl
  | cons d ds =>
      by_cases hd : c = d
      · subst hd
        rw [lexemes_mark_cons hword hblank]
        simp [strip?, Lexeme.startsWith]
      · have hnone : (strip? [c] (d :: ds)).isSome = false := by simp [strip?, hd]
        rw [hnone, lexemes.eq_2]
        split
        · rfl
        · split
          · rfl
          · simp [Lexeme.startsWith, Ne.symm hd]

end LiveVisuals.Shader
