import Mathlib.Data.List.TakeWhile
import Mathlib.Tactic.NormNum

/-!
# Written numbers

Natural numbers that are written alike are the same, also where a mark that is no digit follows.

Main results:

- Theorem {lit}`Text.toString_nat_injective`: numbers that are written alike are the same.
- Theorem {lit}`Text.eq_of_mark`: texts are told apart by what stands ahead of a mark.
-/

namespace LiveVisuals.Text

/-- A written number has only digits. -/
theorem isDigit_of_mem_toString {n : Nat} {c : Char} (h : c ∈ (toString n).toList) :
    c.isDigit := by
  refine Nat.isDigit_of_mem_toDigits (b := 10) (n := n) (by norm_num) (by norm_num) ?_
  rwa [← Nat.toList_repr]

/-- Numbers that are written alike are the same. -/
theorem toString_nat_injective {m n : Nat} (h : (toString m).toList = (toString n).toList) :
    m = n := by
  have hdigits : Nat.toDigits 10 m = Nat.toDigits 10 n := by
    rw [← Nat.toList_repr, ← Nat.toList_repr]
    exact h
  have hvalue := congrArg (Nat.ofDigitChars 10 · 0) hdigits
  simpa only [Nat.ofDigitChars_ten_toDigits] using hvalue

/-- What stands ahead of the first mark of two texts is the same if the texts are. -/
theorem eq_of_mark {mark : Char} {front front' tail tail' : List Char}
    (hfront : mark ∉ front) (hfront' : mark ∉ front') (htail : ∀ c ∈ tail.head?, c = mark)
    (htail' : ∀ c ∈ tail'.head?, c = mark) (h : front ++ tail = front' ++ tail') :
    front = front' ∧ tail = tail' := by
  have hstart {front tail : List Char} (hfront : mark ∉ front)
      (htail : ∀ c ∈ tail.head?, c = mark) :
      (front ++ tail).takeWhile (· != mark) = front := by
    have hplain : ∀ c ∈ front, (c != mark) = true := fun c hc =>
      bne_iff_ne.mpr (ne_of_mem_of_not_mem hc hfront)
    rw [List.takeWhile_append_of_pos hplain]
    cases tail with
    | nil => simp
    | cons c tail =>
        obtain rfl : c = mark := htail c rfl
        simp
  obtain rfl : front = front' := by rw [← hstart hfront htail, h, hstart hfront' htail']
  exact ⟨rfl, List.append_cancel_left h⟩

end LiveVisuals.Text
