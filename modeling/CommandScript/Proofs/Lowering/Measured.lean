import CommandScript.Proofs.Lexer.Number
import CommandScript.Proofs.Lowering.Expansion
import CommandScript.Lowering
import Mathlib.Data.List.TakeWhile

/-!
Numbers with a unit, from the source to the lowered tree. What stands before the colon in the text
of such a token is read as a number without fail: an integer if it fits 64 bits, and a number with
a point always. So lowering tells the number from its unit, as the lexer has written them together.
-/
namespace CommandScript

namespace Numeral
variable {hasPoint : Bool} {value : String}

theorem exists_digit {digits : String} (nonempty : digits ≠ "") (all : digits.toList.all Char.isDigit = true) :
    ∃ c rest, digits.toList = c :: rest ∧ c.isDigit = true := by
  cases chars : digits.toList with
  | nil => exact absurd (String.toList_eq_nil_iff.mp chars) nonempty
  | cons c rest =>
    rw [chars, List.all_cons, Bool.and_eq_true] at all
    exact ⟨c, rest, rfl, all.1⟩

/-- A numeral begins with a digit. -/
theorem first (numeral : Numeral hasPoint value) : ∃ c rest, value.toList = c :: rest ∧ c.isDigit = true := by
  cases numeral with
  | integer nonempty all => exact exists_digit nonempty all
  | @float whole fraction nonempty wholes fractions =>
    obtain ⟨c, rest, chars, digit⟩ := exists_digit nonempty wholes
    exact ⟨c, rest ++ '.' :: fraction.toList, by simp [chars], digit⟩

/-- So it has no sign, -/
theorem splitSign (numeral : Numeral hasPoint value) : Number.splitSign value.toList = (false, value.toList) := by
  obtain ⟨c, rest, chars, digit⟩ := numeral.first
  rw [chars]
  unfold Number.splitSign
  split
  · rename_i same
    obtain ⟨rfl, _⟩ := List.cons.inj same
    contradiction
  · rename_i same
    obtain ⟨rfl, _⟩ := List.cons.inj same
    contradiction
  · rfl

/-- and it is not the name of a number. -/
theorem ne_name (numeral : Numeral hasPoint value) {name : String}
    (letter : name.toList.head?.any Char.isDigit = false) :
    String.ofList (value.toList.map Char.toLower) ≠ name := by
  obtain ⟨c, rest, chars, digit⟩ := numeral.first
  have low : c.toLower = c := by
    obtain ⟨_, high⟩ : 48 ≤ c.toNat ∧ c.toNat ≤ 57 := Char.isDigit_iff_toNat.1 digit
    have small : ¬('A'.toNat ≤ c.toNat ∧ c.toNat ≤ 'Z'.toNat) := by
      intro capital
      have first : 'A'.toNat = 65 := rfl
      omega
    apply Char.toNat_inj.mp
    rw [Text.toNat_toLower, if_neg small]
  rintro rfl
  rw [String.toList_ofList, chars, List.map_cons, List.head?_cons, Option.any_some, low, digit] at letter
  contradiction

/-- Digits alone are read as an integer if it fits 64 bits. -/
theorem readInt64? (numeral : Numeral false value) : Number.readInt64? value =
    if (Number.digitsValue value.toList : Int) ≤ Int64.maxValue.toInt then
      some (Int64.ofInt (Number.digitsValue value.toList)) else none := by
  have read : Number.readSigned? value.toList = some (Number.digitsValue value.toList : Int) := by
    rw [Number.readSigned?, numeral.splitSign]
    cases numeral with
    | integer nonempty all => simp [Number.readDigits?, nonempty, all]
  have low : Int64.minValue.toInt ≤ Number.digitsValue value.toList := by
    have least : Int64.minValue.toInt ≤ 0 := by decide
    omega
  rw [Number.readInt64?, read]
  exact if_congr (and_iff_right low) rfl rfl

/-- Digits with a point among or behind them are read as a floating-point number. -/
theorem readUnsigned? (numeral : Numeral true value) :
    ∃ number, Double.readUnsigned? false value.toList = some number := by
  cases numeral with
  | @float whole fraction nonempty wholes fractions =>
    have stop : Char.isDigit '.' = false := rfl
    have front := List.all_eq_true.mp wholes
    have behind := List.all_eq_true.mp fractions
    have chars : (whole ++ "." ++ fraction).toList = whole.toList ++ '.' :: fraction.toList := by simp
    have taken : (whole.toList ++ '.' :: fraction.toList).takeWhile Char.isDigit = whole.toList := by
      rw [List.takeWhile_append_of_pos front, List.takeWhile_cons_of_neg (by simp [stop]), List.append_nil]
    have left : (whole.toList ++ '.' :: fraction.toList).dropWhile Char.isDigit = '.' :: fraction.toList := by
      rw [List.dropWhile_append_of_pos front, List.dropWhile_cons_of_neg (by simp [stop])]
    have all : fraction.toList.takeWhile Char.isDigit = fraction.toList := List.takeWhile_eq_self_iff.mpr behind
    have none : fraction.toList.dropWhile Char.isDigit = [] := List.dropWhile_eq_nil_iff.mpr behind
    rw [chars]
    unfold Double.readUnsigned?
    simp [taken, left, all, none, nonempty, Double.readExponent?]

theorem readDouble? (numeral : Numeral true value) : ∃ number, Double.read? value = some number := by
  obtain ⟨number, read⟩ := numeral.readUnsigned?
  refine ⟨number, ?_⟩
  have infinite : String.ofList (value.toList.map Char.toLower) ≠ "inf" := numeral.ne_name rfl
  have infinity : String.ofList (value.toList.map Char.toLower) ≠ "infinity" := numeral.ne_name rfl
  have nan : String.ofList (value.toList.map Char.toLower) ≠ "nan" := numeral.ne_name rfl
  rw [Double.read?, numeral.splitSign]
  simp only [infinite, infinity, nan, decide_false, Bool.or_self, Bool.false_eq_true, if_false]
  exact read

end Numeral

namespace Lowering
open Lexer

/-- A number with its unit, in canonical form. -/
def unitLiteral (quantity : Quantity) (unit : String) (number : Leaf) : Tree :=
  .node "unit_literal" [.node "unit_type" [.ofText quantity.label], .node "unit" [.ofText unit], .leaf number]

theorem splitColon?_of_text {hasPoint : Bool} {text value unit : String} {quantity : Quantity}
    (measure : MeasureText hasPoint text value unit quantity) : splitColon? text = some (value, unit) :=
  splitColon?_eq_some_iff.mpr ⟨measure.text, measure.numeral.colonless⟩

/-- What is read before the colon is the number, and what is behind it the unit. -/
theorem measured?_of_text {hasPoint : Bool} {token : Token} {value unit : String} {quantity : Quantity}
    (measure : MeasureText hasPoint token.text value unit quantity) (read : String → Option Leaf) :
    measured? read [.leaf (.token token)] = (read value).map (unitLiteral quantity unit) := by
  obtain ⟨_, _, lower, known⟩ := units_written _ measure.known
  dsimp only at lower known
  have cut := splitColon?_of_text measure
  cases number : read value with
  | none => simp [measured?, Leaf.asText?, cut, known, number]
  | some leaf => simp [measured?, Leaf.asText?, cut, known, number, lower, unitLiteral]

/-- A node whose only child is a leaf is lowered by its own rule. -/
theorem lower_literal {tag : String} (leaf : Leaf) (explicit : tag ≠ "implicit_lambda_param")
    (inner : isBoundary tag = false) :
    lower (.node tag [.leaf leaf]) = (expansion? tag [.leaf leaf]).getD (.node tag [.leaf leaf]) := by
  simp [lower, lowered, loweredAll, explicit, inner, Lowered.closed, expanded]

/-- Every number with a unit that the lexer reads is told from its unit by lowering: an integer if it
    fits 64 bits, or else it stays as it is, and a number with a point always. -/
theorem lower_measured {source : String} {token : Token} (member : token ∈ (TokenStream.ofSource source).tokens) :
    (token.kind = .unitInteger → ∃ value unit quantity, MeasureText false token.text value unit quantity ∧
      lower (.node "unit_integer_literal" [.leaf (.token token)]) =
        if (Number.digitsValue value.toList : Int) ≤ Int64.maxValue.toInt then
          unitLiteral quantity unit (.int (Int64.ofInt (Number.digitsValue value.toList)))
        else .node "unit_integer_literal" [.leaf (.token token)]) ∧
    (token.kind = .unitFloat → ∃ value unit quantity number, MeasureText true token.text value unit quantity ∧
      Double.read? value = some number ∧
      lower (.node "unit_float_literal" [.leaf (.token token)]) = unitLiteral quantity unit (.float number)) := by
  constructor
  · intro integer
    obtain ⟨value, unit, quantity, measure⟩ := text_of_measured member false integer
    refine ⟨value, unit, quantity, measure, ?_⟩
    have rule : expansion? "unit_integer_literal" [.leaf (.token token)] =
        measured? (fun value => (Number.readInt64? value).map .int) [.leaf (.token token)] := rfl
    rw [lower_literal _ (by decide) (by decide), rule, measured?_of_text measure, measure.numeral.readInt64?]
    split
    · rfl
    · rfl
  · intro float
    obtain ⟨value, unit, quantity, measure⟩ := text_of_measured member true float
    obtain ⟨number, read⟩ := measure.numeral.readDouble?
    refine ⟨value, unit, quantity, number, measure, read, ?_⟩
    have rule : expansion? "unit_float_literal" [.leaf (.token token)] =
        measured? (fun value => (Double.read? value).map .float) [.leaf (.token token)] := rfl
    rw [lower_literal _ (by decide) (by decide), rule, measured?_of_text measure, read]
    rfl

/-- A number with a point and nothing behind it, and an integer that is too large. -/
theorem lower_measured_tokens :
    (TokenStream.ofSource "5.KB 9223372036854775808ns").tokens =
        [⟨⟨0, 4⟩, .unitFloat, "5.:kb"⟩, ⟨⟨5, 21⟩, .unitInteger, "9223372036854775808:ns"⟩] ∧
      (∃ quantity number, lower (.node "unit_float_literal" [.leaf (.token ⟨⟨0, 4⟩, .unitFloat, "5.:kb"⟩)]) =
        unitLiteral quantity "kb" (.float number)) ∧
      lower (.node "unit_integer_literal" [.leaf (.token ⟨⟨5, 21⟩, .unitInteger, "9223372036854775808:ns"⟩)]) =
        .node "unit_integer_literal" [.leaf (.token ⟨⟨5, 21⟩, .unitInteger, "9223372036854775808:ns"⟩)] := by
  have done : (Reader.ofSource "5.KB 9223372036854775808ns".toList).steps 26 = some (
      [⟨⟨0, 4⟩, .unitFloat, "5.:kb"⟩, ⟨⟨5, 21⟩, .unitInteger, "9223372036854775808:ns"⟩],
        ⟨.comment, ⟨some .unitInteger, 0, 0, 0⟩, 28, [], []⟩) := rfl
  have tokens : (TokenStream.ofSource "5.KB 9223372036854775808ns").tokens =
      [⟨⟨0, 4⟩, .unitFloat, "5.:kb"⟩, ⟨⟨5, 21⟩, .unitInteger, "9223372036854775808:ns"⟩] := by
    rw [TokenStream.tokens_ofSource, lex, (Reader.path_of_steps done).run_eq, Reader.run_nil rfl]
    rfl
  refine ⟨tokens, ?_, ?_⟩
  · have first : ⟨⟨0, 4⟩, .unitFloat, "5.:kb"⟩ ∈ (TokenStream.ofSource "5.KB 9223372036854775808ns").tokens := by
      rw [tokens]
      exact List.mem_cons_self ..
    obtain ⟨value, unit, quantity, number, measure, _, lowered⟩ := (lower_measured first).2 rfl
    have cut : some ("5.", "kb") = some (value, unit) := splitColon?_of_text measure
    cases cut
    exact ⟨quantity, number, lowered⟩
  · have second : ⟨⟨5, 21⟩, .unitInteger, "9223372036854775808:ns"⟩ ∈
        (TokenStream.ofSource "5.KB 9223372036854775808ns").tokens := by
      rw [tokens]
      exact List.mem_cons_of_mem _ (List.mem_cons_self ..)
    obtain ⟨value, unit, quantity, measure, lowered⟩ := (lower_measured second).1 rfl
    have cut : some ("9223372036854775808", "ns") = some (value, unit) := splitColon?_of_text measure
    cases cut
    rw [lowered]
    exact if_neg (by decide)

end Lowering
end CommandScript
