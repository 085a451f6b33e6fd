import LiveVisuals.Text.Word

/-!
# Comments in shader text

Block comments are replaced by a space first; what is left of each line from a double slash on
is dropped after that.

Main definitions:

- {lit}`Shader.untilClose?`: the text of a block comment and what follows it.
- {lit}`Shader.stripComments`: a text without its comments.

Main statements:

- {lit}`Shader.eq_of_untilClose?`: splitting at an end mark loses only the mark.
-/

namespace LiveVisuals.Shader

/-- Split a text at the first end mark of a block comment; the mark itself is left out. -/
def untilClose? : List Char → Option (List Char × List Char)
  | [] => none
  | '*' :: '/' :: rest => some ([], rest)
  | c :: cs => (untilClose? cs).map fun (inner, rest) => (c :: inner, rest)

/-- Splitting loses only the end mark. -/
theorem eq_of_untilClose? {cs inner rest : List Char} (h : untilClose? cs = some (inner, rest)) :
    cs = inner ++ '*' :: '/' :: rest := by
  fun_induction untilClose? cs generalizing inner with
  | case1 => simp at h
  | case2 rest' => simp_all
  | case3 c cs _ ih =>
      simp only [Option.map_eq_some_iff, Prod.exists, Prod.mk.injEq] at h
      obtain ⟨inner', rest', h', rfl, rfl⟩ := h
      simp [ih h']

/-- What follows a block comment is shorter than the text with it. -/
theorem length_of_untilClose? {cs inner rest : List Char}
    (h : untilClose? cs = some (inner, rest)) : rest.length < cs.length := by
  have := congrArg List.length (eq_of_untilClose? h)
  simp at this
  omega

/-- Replace each closed block comment by a space. A start mark without an end mark stays. -/
def stripBlockComments : List Char → List Char
  | [] => []
  | '/' :: '*' :: inside =>
      match _h : untilClose? inside with
      | some (_, rest) => ' ' :: stripBlockComments rest
      | none => '/' :: stripBlockComments ('*' :: inside)
  | c :: cs => c :: stripBlockComments cs
termination_by cs => cs.length
decreasing_by
  · have := length_of_untilClose? ‹_›
    simp
    omega
  · simp
  · simp

/-- Whether a character ends a line comment. -/
def endsLine (c : Char) : Bool := c == '\r' || c == '\n'

/-- Drop line comments; the flag says whether the text starts inside one. -/
def stripLineCommentsFrom : (inside : Bool) → List Char → List Char
  | _, [] => []
  | true, c :: cs =>
      if endsLine c then c :: stripLineCommentsFrom false cs else stripLineCommentsFrom true cs
  | false, '/' :: '/' :: cs => stripLineCommentsFrom true cs
  | false, c :: cs => c :: stripLineCommentsFrom false cs

/-- Drop line comments up to the ends of their lines. -/
def stripLineComments (cs : List Char) : List Char := stripLineCommentsFrom false cs

/-- A text without its comments. -/
def stripComments (cs : List Char) : List Char := stripLineComments (stripBlockComments cs)

end LiveVisuals.Shader
