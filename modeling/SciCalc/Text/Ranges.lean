/-
# SciCalc.Text.Ranges -- classes of characters as lists of ranges

A class of characters is a list of inclusive ranges of code points.  The lists of
this library are ascending and disjoint, but membership asks for neither.
-/
namespace SciCalc.Text

set_option autoImplicit false

/-- Whether a code point lies in one of the ranges. -/
def inRanges (ranges : List (Nat × Nat)) (c : Char) : Bool :=
  ranges.any fun range => range.1 ≤ c.toNat && c.toNat ≤ range.2

theorem inRanges_eq_true_iff (ranges : List (Nat × Nat)) (c : Char) :
    inRanges ranges c = true ↔ ∃ range ∈ ranges, range.1 ≤ c.toNat ∧ c.toNat ≤ range.2 := by
  simp [inRanges, List.any_eq_true]

theorem inRanges_eq_false {ranges : List (Nat × Nat)} {c : Char}
    (outside : ∀ range ∈ ranges, c.toNat < range.1 ∨ range.2 < c.toNat) :
    inRanges ranges c = false := by
  rw [Bool.eq_false_iff]
  intro inside
  obtain ⟨range, member, low, high⟩ := (inRanges_eq_true_iff ranges c).1 inside
  have := outside range member
  omega

/-- A text that begins with characters of a class, and then does not go on with them, is taken
apart there. -/
theorem takeWhile_dropWhile_append {isIn : Char → Bool} {front behind : List Char}
    (inside : ∀ c ∈ front, isIn c = true) (stops : ∀ c ∈ behind.head?, isIn c = false) :
    (front ++ behind).takeWhile isIn = front ∧ (front ++ behind).dropWhile isIn = behind := by
  rw [List.takeWhile_append_of_pos inside, List.dropWhile_append_of_pos inside]
  cases behind with
  | nil => exact ⟨List.append_nil front, rfl⟩
  | cons c behind =>
      have outside : ¬ isIn c = true := Bool.eq_false_iff.1 (stops c rfl)
      rw [List.takeWhile_cons_of_neg outside, List.dropWhile_cons_of_neg outside]
      exact ⟨List.append_nil front, rfl⟩

end SciCalc.Text
