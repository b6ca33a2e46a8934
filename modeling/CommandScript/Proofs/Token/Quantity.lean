import CommandScript.Entries
import CommandScript.Proofs.Text.LowerCase
import CommandScript.Token.Quantity

/-!
A unit is as long as the letters it was read from. Lower case keeps the number of
characters, save for the capital I with a dot above; that one leaves a combining
dot behind, which stays through lower case and is in no unit. What is known as a unit
when it is in lower case is in the table as it stands (`mem_units_of_ofUnit?`).
-/
namespace CommandScript

namespace Text

/-- What the lower case of `İ` leaves behind the `i`. -/
def combiningDot : Char := '\u0307'

theorem length_lowerChar {c : Char} (other : c ≠ 'İ') : (lowerChar c).length = 1 := by
  unfold lowerChar
  split
  · rfl
  · split <;> rfl

theorem length_lowerAfter (before : List Char) {chars : List Char} (others : 'İ' ∉ chars) :
    (lowerAfter before chars).length = chars.length := by
  induction chars generalizing before with
  | nil => rfl
  | cons c chars ih =>
    rw [List.mem_cons, not_or] at others
    obtain ⟨here, later⟩ := others
    have rest := ih (c :: before) later
    simp only [lowerAfter, List.length_append, List.length_cons, rest]
    split
    · simp; omega
    · rw [length_lowerChar (Ne.symm here)]; omega

theorem combiningDot_mem_lowerChar {c : Char} (dotted : c = 'İ' ∨ c = combiningDot) :
    combiningDot ∈ lowerChar c := by
  rcases dotted with rfl | rfl <;> decide +kernel

theorem combiningDot_mem_lowerAfter (before : List Char) {chars : List Char}
    (dotted : 'İ' ∈ chars ∨ combiningDot ∈ chars) : combiningDot ∈ lowerAfter before chars := by
  induction chars generalizing before with
  | nil => simp at dotted
  | cons c chars ih =>
    rw [lowerAfter, List.mem_append]
    by_cases here : c = 'İ' ∨ c = combiningDot
    · left
      have : c ≠ 'Σ' := by rcases here with rfl | rfl <;> decide
      rw [if_neg this]
      exact combiningDot_mem_lowerChar here
    · right
      apply ih
      simp only [List.mem_cons] at dotted
      grind

end Text

namespace Quantity
open Text

theorem combiningDot_not_mem_units : ∀ unit ∈ units, combiningDot ∉ unit.1.toList := by
  simp [units, combiningDot]

theorem ascii_units : ∀ unit ∈ units, ∀ c ∈ unit.1.toList, c.toNat < 0x80 := by
  simp [units]

/-- A text in lower case that is known as a unit is in the table itself. -/
theorem mem_units_of_ofUnit? {text : String} {quantity : Quantity}
    (known : ofUnit? (lowerCase text) = some quantity) : (lowerCase text, quantity) ∈ units := by
  have listed : (lowerCase (lowerCase text), quantity) ∈ units := Entries.mem_of_lookup known
  have ascii := ascii_units _ listed
  dsimp only at ascii
  rwa [lowerCase_lowerCase ascii] at listed

/-- Letters whose lower case is a unit are as many as the unit has. -/
theorem length_of_ofUnit? {letters : List Char} {quantity : Quantity}
    (known : ofUnit? (lowerCase (String.ofList letters)) = some quantity) :
    (lowerCase (String.ofList letters)).length = letters.length := by
  have others : 'İ' ∉ letters := by
    intro dotted
    apply combiningDot_not_mem_units _ (Entries.mem_of_lookup known)
    simp only [lowerCase, String.toList_ofList]
    exact combiningDot_mem_lowerAfter [] (.inr (combiningDot_mem_lowerAfter [] (.inl dotted)))
  simpa [lowerCase] using length_lowerAfter [] others

end Quantity
end CommandScript
