import CommandScript.Operator
import CommandScript.Proofs.Text.Letter
import CommandScript.Text.LowerCase
import CommandScript.Token
import CommandScript.Token.Quantity

/-!
Tokens as they are written down, and which can be: names of letters, reserved words,
numbers with or without a unit, quoted texts without escapes, and operators.
-/
namespace CommandScript

/-- A token as it is written: a text between quotes, and a unit right behind its number. -/
def Token.written (token : Token) : String :=
  match token.kind with
  | .quotedString => "\"" ++ token.text ++ "\""
  | .unitInteger | .unitFloat => String.ofList (token.text.toList.filter (· != ':'))
  | _ => token.text

/-- What a token says, wherever it stands. -/
def Token.said (token : Token) : Kind × String := (token.kind, token.text)

/-- Digits alone, or with a point behind the first of them. -/
inductive Numeral : Bool → String → Prop
  | integer {digits : String} (nonempty : digits ≠ "") (numerals : digits.toList.all Char.isDigit = true) :
    Numeral false digits
  | float {whole fraction : String} (nonempty : whole ≠ "") (wholes : whole.toList.all Char.isDigit = true)
    (fractions : fraction.toList.all Char.isDigit = true) : Numeral true (whole ++ "." ++ fraction)

/-- The kinds and texts of the tokens that can be written down. -/
inductive Writable : Kind → String → Prop
  | name {word : String} (nonempty : word ≠ "") (letters : word.toList.all Text.isAlphabetic = true)
    (free : keyword? word = none) : Writable .name word
  | reserved {word : String} {kind : Kind} (listed : (word, kind) ∈ keywords) : Writable kind word
  | implicitParam : Writable .implicitLambdaParam "_"
  | number {hasPoint : Bool} {text : String} (numeral : Numeral hasPoint text) :
    Writable (if hasPoint then .float else .integer) text
  | measured {hasPoint : Bool} {value unit : String} {quantity : Quantity} (numeral : Numeral hasPoint value)
    (known : (unit, quantity) ∈ Quantity.units) :
    Writable (if hasPoint then .unitFloat else .unitInteger) (value ++ ":" ++ unit)
  | quotation {text : String} (quoteless : '"' ∉ text.toList) (backslashless : '\\' ∉ text.toList) :
    Writable .quotedString text
  | operator {text : String} {kind : Kind} (listed : (text, kind) ∈ Operator.structural ++ Operator.arithmetic) :
    Writable kind text

theorem Writable.ne_execArg {kind : Kind} {text : String} (writable : Writable kind text) : kind ≠ .execArg := by
  have reserved : ∀ entry ∈ keywords, entry.2 ≠ .execArg := by decide
  have operators : ∀ entry ∈ Operator.structural ++ Operator.arithmetic, entry.2 ≠ .execArg := by decide
  cases writable with
  | reserved listed => exact reserved _ listed
  | operator listed => exact operators _ listed
  | number => split <;> decide
  | measured => split <;> decide
  | _ => decide

/-! ## The tables -/

theorem units_written : ∀ entry ∈ Quantity.units, entry.1.toList ≠ [] ∧
    entry.1.toList.all Text.isAlphabetic = true ∧ Text.lowerCase entry.1 = entry.1 ∧
    Quantity.ofUnit? entry.1 = some entry.2 := by
  decide

/-- Most tokens are written as their text. -/
theorem Token.written_eq_text {token : Token}
    (verbatim : token.kind ∉ [.quotedString, .unitInteger, .unitFloat]) : token.written = token.text := by
  simp only [List.mem_cons, List.not_mem_nil, or_false, not_or] at verbatim
  obtain ⟨quotation, integer, float⟩ := verbatim
  unfold Token.written
  split <;> first | contradiction | rfl

theorem Numeral.pointed {text : String} (numeral : Numeral true text) : '.' ∈ text.toList := by
  cases numeral with
  | float => simp

theorem Numeral.colonless {hasPoint : Bool} {text : String} (numeral : Numeral hasPoint text) : ':' ∉ text.toList := by
  intro member
  cases numeral with
  | integer _ digits => exact absurd (List.all_eq_true.1 digits _ member) (by decide)
  | float _ wholes fractions =>
    simp only [String.toList_append, List.mem_append] at member
    rcases member with (inWhole | point) | inFraction
    · exact absurd (List.all_eq_true.1 wholes _ inWhole) (by decide)
    · exact absurd point (by decide)
    · exact absurd (List.all_eq_true.1 fractions _ inFraction) (by decide)

theorem written_measured (span : Span) {hasPoint : Bool} {value unit : String} {quantity : Quantity}
    (numeral : Numeral hasPoint value) (known : (unit, quantity) ∈ Quantity.units) :
    (Token.written ⟨span, if hasPoint then .unitFloat else .unitInteger, value ++ ":" ++ unit⟩).toList =
      value.toList ++ unit.toList := by
  have numerals : ∀ c ∈ value.toList, (c != ':') = true := by
    intro c member
    rw [bne_iff_ne]
    rintro rfl
    exact numeral.colonless member
  have letters : ∀ c ∈ unit.toList, (c != ':') = true := by
    intro c member
    rw [bne_iff_ne]
    rintro rfl
    exact absurd (List.all_eq_true.1 (units_written _ known).2.1 _ member) (by decide)
  cases hasPoint <;> simp [Token.written, List.filter_eq_self.2 numerals, List.filter_eq_self.2 letters]

theorem keywords_written : ∀ entry ∈ keywords, entry.1.toList ≠ [] ∧
    entry.1.toList.all Text.isAlphabetic = true ∧ keyword? entry.1 = some entry.2 ∧
    entry.2 ∉ [.quotedString, .unitInteger, .unitFloat] := by
  decide

theorem operators_written : ∀ entry ∈ Operator.structural ++ Operator.arithmetic,
    entry.2 ∉ [.quotedString, .unitInteger, .unitFloat] := by
  decide

/-! ## Brackets -/

/-- How many brackets of a sort are open behind tokens of these kinds, the first of which come first.
    A bracket that closes nothing is ignored. -/
def openBrackets (opening closing : Kind) (kinds : List Kind) : Nat :=
  kinds.foldl (fun count kind =>
    if kind = opening then count + 1 else if kind = closing then count - 1 else count) 0

/-- A bracket of one of three sorts is open behind tokens of these kinds. -/
def Nested (kinds : List Kind) : Prop :=
  0 < openBrackets .parenOpen .parenClose kinds ∨ 0 < openBrackets .curlyOpen .curlyClose kinds ∨
    0 < openBrackets .squareOpen .squareClose kinds

instance (kinds : List Kind) : Decidable (Nested kinds) := inferInstanceAs (Decidable (_ ∨ _ ∨ _))

theorem openBrackets_append_singleton (opening closing : Kind) (kinds : List Kind) (kind : Kind) :
    openBrackets opening closing (kinds ++ [kind]) =
      if kind = opening then openBrackets opening closing kinds + 1
      else if kind = closing then openBrackets opening closing kinds - 1
      else openBrackets opening closing kinds := by
  simp [openBrackets]

end CommandScript
