import CommandScript.Text.Character
import Mathlib.Tactic.ByContra
import Mathlib.Tactic.SplitIfs

/-!
What a character is decides what it is not: letters and digits are no blanks, and
letters are no digits.
-/
namespace CommandScript.Text

/-- The visible characters of ASCII are no blanks. -/
theorem isBlank_of_visible {c : Char} (low : 32 < c.toNat) (high : c.toNat < 127) : isBlank c = false := by
  by_contra blank
  rw [Bool.not_eq_false] at blank
  obtain ⟨range, listed, first, last⟩ := inRanges_iff.1 blank
  have apart : ∀ range ∈ blankRanges, range.2 < 33 ∨ 126 < range.1 := by decide
  have := apart range listed
  omega

theorem isBlank_of_isDigit {c : Char} (digit : c.isDigit = true) : isBlank c = false := by
  obtain ⟨low, high⟩ : 48 ≤ c.toNat ∧ c.toNat ≤ 57 := Char.isDigit_iff_toNat.1 digit
  exact isBlank_of_visible (by omega) (by omega)

theorem toNat_of_isAlpha {c : Char} (letter : c.isAlpha = true) : 65 ≤ c.toNat ∧ c.toNat ≤ 122 := by
  have either : (c.isUpper || c.isLower) = true := letter
  rw [Bool.or_eq_true] at either
  rcases either with upper | lower
  · obtain ⟨low, high⟩ : 'A'.val ≤ c.val ∧ c.val ≤ 'Z'.val := of_decide_eq_true upper
    rw [UInt32.le_iff_toNat_le] at low high
    exact ⟨low, Nat.le_trans high (by decide)⟩
  · have between : (decide ('a'.val ≤ c.val) && decide (c.val ≤ 'z'.val)) = true := lower
    simp only [Bool.and_eq_true, decide_eq_true_eq, UInt32.le_iff_toNat_le] at between
    exact ⟨Nat.le_trans (by decide) between.1, between.2⟩

theorem ranges_apart : (blankRanges.all fun blank =>
    alphabeticRanges.all fun letter => blank.2 < letter.1 || letter.2 < blank.1) = true := by
  decide +kernel

theorem isBlank_of_isAlphabetic {c : Char} (letter : isAlphabetic c = true) : isBlank c = false := by
  unfold isAlphabetic at letter
  split_ifs at letter with ascii
  · obtain ⟨low, high⟩ := toNat_of_isAlpha letter
    exact isBlank_of_visible (by omega) (by omega)
  · by_contra blank
    rw [Bool.not_eq_false] at blank
    obtain ⟨range, listed, low, high⟩ := inRanges_iff.1 blank
    obtain ⟨other, alphabetic, first, last⟩ := inRanges_iff.1 letter
    have apart := List.all_eq_true.1 (List.all_eq_true.1 ranges_apart range listed) other alphabetic
    simp only [Bool.or_eq_true, decide_eq_true_eq] at apart
    omega

theorem isDigit_of_isAlphabetic {c : Char} (letter : isAlphabetic c = true) : c.isDigit = false := by
  by_contra digit
  rw [Bool.not_eq_false] at digit
  obtain ⟨low, high⟩ : 48 ≤ c.toNat ∧ c.toNat ≤ 57 := Char.isDigit_iff_toNat.1 digit
  rw [isAlphabetic_ascii (by omega)] at letter
  have := toNat_of_isAlpha letter
  omega

/-- A letter is none of these marks. -/
theorem not_mem_of_isAlphabetic {c : Char} {marks : List Char}
    (letterless : marks.all (!isAlphabetic ·) = true) (letter : isAlphabetic c = true) : c ∉ marks := by
  intro member
  have other := List.all_eq_true.1 letterless c member
  rw [letter] at other
  contradiction

end CommandScript.Text
