import CommandScript.Proofs.Lexer.Coverage
import CommandScript.Proofs.Lexer.Emission
import CommandScript.Proofs.Lexer.Operator
import CommandScript.Proofs.Token.Written

/-!
What numbers are made of. Only a reader that is in a number makes a number token. What it has kept
by then is a numeral without a sign (`Path.counting`), unless a command argument came before; the number
is an argument itself then, and has no unit. No dot that it has kept is followed by another one
(`Path.undoubled`): the dots of a range are none of the number before it.
-/
namespace CommandScript

/-- What the text of a token with a unit says: a number, and a unit of the table. -/
structure MeasureText (hasPoint : Bool) (text value unit : String) (quantity : Quantity) : Prop where
  text : text = value ++ ":" ++ unit
  numeral : Numeral hasPoint value
  known : (unit, quantity) ∈ Quantity.units

namespace Numeral
variable {hasPoint : Bool} {text : String} {c : Char}

theorem single (digit : c.isDigit = true) : Numeral false (String.ofList [c]) :=
  .integer (by simp) (by simpa using digit)

/-- A digit behind a numeral belongs to it. -/
theorem digit (numeral : Numeral hasPoint text) (digit : c.isDigit = true) :
    Numeral hasPoint (text ++ String.ofList [c]) := by
  cases numeral with
  | integer nonempty digits =>
    refine .integer ?_ ?_
    · intro empty
      exact nonempty (String.append_eq_empty_iff.mp empty).1
    · rw [String.toList_append, List.all_append, digits, String.toList_ofList]
      simpa using digit
  | float nonempty wholes fractions =>
    rw [String.append_assoc]
    refine .float nonempty wholes ?_
    rw [String.toList_append, List.all_append, fractions, String.toList_ofList]
    simpa using digit

/-- A point behind digits alone belongs to them. -/
theorem point (numeral : Numeral false text) : Numeral true (text ++ String.ofList ['.']) := by
  cases numeral with
  | integer nonempty digits =>
    have whole : Numeral true (text ++ "." ++ "") := .float nonempty digits rfl
    rwa [String.append_assoc] at whole

/-- A numeral begins with a digit. -/
theorem head_digit (numeral : Numeral hasPoint text) : text.toList.head?.any Char.isDigit = true := by
  have first {digits : String} (nonempty : digits ≠ "") (all : digits.toList.all Char.isDigit = true)
      (behind : List Char) : (digits.toList ++ behind).head?.any Char.isDigit = true := by
    cases chars : digits.toList with
    | nil => exact absurd (String.toList_eq_nil_iff.mp chars) nonempty
    | cons c rest =>
      rw [chars, List.all_cons, Bool.and_eq_true] at all
      exact all.1
  cases numeral with
  | integer nonempty digits => simpa using first nonempty digits []
  | float nonempty wholes =>
    rw [String.toList_append, String.toList_append, List.append_assoc]
    exact first nonempty wholes _

end Numeral

namespace Lexer

/-- The kinds of the numbers that are no command arguments. -/
def numberKinds : List Kind := [.integer, .float, .unitInteger, .unitFloat]

/-- The operators that begin with two dots, as the tokens say them. -/
def dotted : List (Kind × String) := [(.range, ".."), (.ellipsis, "...")]

/-- A token that a reader makes of the number that it is in: a number token, or a command argument that
    reads like a number. -/
def ReadAsNumber (source : List Char) (token : Token) : Prop :=
  ∃ tokens r c tail action hasPoint, Reader.Path (.ofSource source) tokens r ∧ r.state = .number hasPoint ∧
    r.rest = c :: tail ∧ Reader.Acts r c tail action ∧ token ∈ r.emitted action

namespace Reader
variable {source : List Char} {r last : Reader} {c : Char} {tail : List Char} {action : Action} {tokens : List Token}
  {token : Token} {hasPoint : Bool}

/-! ## What is kept of a number -/

/-- What is kept of a number is a numeral, unless a command argument came before. -/
def Counting (r : Reader) : Prop := ∀ hasPoint, r.state = .number hasPoint → r.context.prev ≠ some .execArg →
  Numeral hasPoint (String.ofList r.text)

theorem counting_moved (standing : Standing source r) (counting : Counting r) (acts : Acts r c tail action) :
    Counting (r.moved c tail action) := by
  intro hasPoint state free
  cases acts with
  | number opens first =>
    cases state
    have empty : r.text = [] := standing.suits_of opens.state
    show Numeral false (String.ofList (r.text ++ [c]))
    rw [empty]
    rcases first with digit | ⟨rfl, _⟩
    · exact .single digit
    · -- a minus sign would have been read as an operator
      have listed : ("-", Kind.minus) ∈ Operator.structural ++ Operator.arithmetic := by decide
      obtain ⟨found, read⟩ := exists_operator?_of_free listed free tail
      have whole : operator? r.context ('-' :: tail) = some found := read
      rw [opens.unread] at whole
      contradiction
  | numberPoint before point =>
    cases state
    show Numeral true (String.ofList (r.text ++ [c]))
    rw [String.ofList_append, point]
    exact (counting false before free).point
  | numberDigit before digit =>
    cases state
    show Numeral hasPoint (String.ofList (r.text ++ [c]))
    rw [String.ofList_append]
    exact (counting hasPoint before free).digit digit
  | _ => cases state

theorem Path.counting (path : Path (ofSource source) tokens last) : Counting last := by
  induction path with
  | refl =>
    intro hasPoint state
    cases state
  | step path rest done ih =>
    obtain ⟨action, acts, rfl, rfl⟩ := acts_of_step done
    exact counting_moved path.standing_ofSource ih acts

/-- What stands in the source behind a reader is what it is going to read. -/
theorem Standing.getElem?_rest (standing : Standing source r) {k : Nat} (found : source[r.head + k]? = some c) :
    r.rest[k]? = some c := by
  have inside : r.head + k < source.length := (List.getElem?_eq_some_iff.mp found).1
  rw [← standing.drop_head, List.getElem?_drop, List.getElem?_append_left inside, found]

/-- No dot that is kept of a number is followed by another one. -/
theorem Path.undoubled (path : Path (ofSource source) tokens r) (state : r.state = .number hasPoint) {i : Nat}
    (from_le : r.start ≤ i) (lt : i < r.head) (point : source[i]? = some '.') : source[i + 1]? ≠ some '.' := by
  induction path generalizing hasPoint with
  | refl => contradiction
  | @step r next c tail tokens emitted path rest done ih =>
    have standing := path.standing_ofSource
    obtain ⟨action, acts, rfl, rfl⟩ := acts_of_step done
    -- the character that the reader meets, if it is the dot
    have met (here : r.head ≤ i) (lt : i < r.head + 1) : i = r.head ∧ c = '.' := by
      obtain rfl : i = r.head := Nat.le_antisymm (Nat.le_of_lt_succ lt) here
      have read := standing.getElem?_rest (k := 0) point
      rw [rest] at read
      exact ⟨rfl, Option.some.inj read⟩
    cases acts with
    | number opens first =>
      have empty : r.text = [] := standing.suits_of opens.state
      obtain ⟨_, rfl⟩ := met (by simpa [moved, head, empty] using from_le) (by simpa [moved, head, empty] using lt)
      rcases first with digit | ⟨minus, _⟩ <;> contradiction
    | numberPoint before _ single =>
      rcases Nat.lt_or_ge i r.head with kept | here
      · exact ih before from_le kept
      · obtain ⟨rfl, _⟩ := met here (by simpa [moved, head, Nat.add_assoc] using lt)
        intro double
        have behind := standing.getElem?_rest double
        rw [rest, List.getElem?_cons_succ, ← List.head?_eq_getElem?] at behind
        exact single behind
    | numberDigit before digit =>
      rcases Nat.lt_or_ge i r.head with kept | here
      · exact ih before from_le kept
      · obtain ⟨_, rfl⟩ := met here (by simpa [moved, head, Nat.add_assoc] using lt)
        contradiction
    | _ => cases state

/-! ## What a number becomes -/

theorem free_of_numberKind {context : Context} (plain : numberKind context hasPoint ≠ .execArg) :
    context.prev ≠ some .execArg := by
  intro argument
  apply plain
  simp [numberKind, argument]

/-- How a reader makes a token of the number that it has kept, before the character `c`. -/
inductive MakesNumber (r : Reader) (hasPoint : Bool) (c : Char) (tail : List Char) : Token → Prop
  | plain : MakesNumber r hasPoint c tail (r.lexeme (numberKind r.context hasPoint))
  | measured {unit : String} {quantity : Quantity} (free : r.context.prev ≠ some .execArg)
    (lower : unit = Text.lowerCase (String.ofList ((c :: tail).takeWhile Text.isAlphabetic)))
    (known : Quantity.ofUnit? unit = some quantity) : MakesNumber r hasPoint c tail (r.measured hasPoint unit)

theorem makesNumber_of_mem (acts : Acts r c tail action) (state : r.state = .number hasPoint)
    (member : token ∈ r.emitted action) : MakesNumber r hasPoint c tail token := by
  cases acts with
  | numberRange here | numberEnd here =>
    obtain rfl := State.number.inj (here.symm.trans state)
    obtain rfl := List.mem_singleton.mp member
    exact .plain
  | numberUnit here plain _ lower known =>
    obtain rfl := State.number.inj (here.symm.trans state)
    obtain rfl := List.mem_singleton.mp member
    exact .measured (free_of_numberKind plain) lower known
  | numberPoint | numberDigit => contradiction
  | number opens | dot opens | word opens | comment opens | identifier opens | quotation opens | argList opens =>
    exact absurd (opens.state.symm.trans state) State.noConfusion
  | newline here =>
    rcases here with here | here
    · exact absurd (here.symm.trans state) State.noConfusion
    · exact absurd (here.symm.trans state) State.noConfusion
  | _ =>
    rename r.state = _ => here
    exact absurd (here.symm.trans state) State.noConfusion

theorem operators_numberless : ∀ pattern ∈ Operator.structural ++ Operator.arithmetic, pattern.2 ∉ numberKinds := by
  decide

theorem wordKind_numberless (context : Context) (word : List Char) : wordKind context word ∉ numberKinds := by
  have reserved : ∀ keyword ∈ keywords, keyword.2 ∉ numberKinds := by decide
  unfold wordKind
  cases known : keyword? (String.ofList word) with
  | some kind =>
    have other := reserved _ (Entries.mem_of_lookup known)
    dsimp only
    split_ifs
    · decide
    · exact other
  | none =>
    dsimp only
    split_ifs <;> decide

/-- Only a reader that is in a number makes a number token. -/
theorem state_of_number (acts : Acts r c tail action) (member : token ∈ r.emitted action)
    (kind : token.kind ∈ numberKinds) : ∃ hasPoint, r.state = .number hasPoint := by
  cases action with
  | keep => contradiction
  | newline =>
    obtain rfl := eq_terminator member
    contradiction
  | emit =>
    cases emits_of_mem acts member with
    | number state | measured state => exact ⟨_, state⟩
    | operator found =>
      obtain ⟨pattern, listed, _⟩ := operator?_eq_some found
      exact absurd kind (operators_numberless _ listed)
    | word => exact absurd kind (wordKind_numberless r.context r.text)
    | quotation =>
      simp only [lexeme] at kind
      split_ifs at kind <;> contradiction
    | path _ _ part =>
      have others : ∀ kind ∈ pathKinds, kind ∉ numberKinds := by decide
      exact absurd kind (others _ (kind_pathTokens token part))
    | _ => contradiction

/-- The letters of a unit are no dots. -/
theorem undotted_unit (standing : Standing source r) (rest : r.rest = c :: tail) {unit : String} {quantity : Quantity}
    (lower : unit = Text.lowerCase (String.ofList ((c :: tail).takeWhile Text.isAlphabetic)))
    (known : Quantity.ofUnit? unit = some quantity) {i : Nat} (from_le : r.head ≤ i) (lt : i < r.head + unit.length) :
    source[i]? ≠ some '.' := by
  intro point
  obtain ⟨k, rfl⟩ := Nat.exists_eq_add_of_le from_le
  have read := standing.getElem?_rest point
  subst lower
  rw [Quantity.length_of_ofUnit? known, Nat.add_lt_add_iff_left] at lt
  have letter : ((c :: tail).takeWhile Text.isAlphabetic)[k]? = some '.' := by
    obtain ⟨behind, split⟩ := List.takeWhile_prefix (l := c :: tail) Text.isAlphabetic
    rw [rest, ← split, List.getElem?_append_left lt] at read
    exact read
  have alphabetic := List.all_eq_true.1 List.all_takeWhile _ (List.mem_of_getElem? letter)
  exact absurd alphabetic (by decide)

end Reader

open Reader

/-- Every number token is read as a number. -/
theorem readAsNumber_of_mem {source : String} {token : Token} (member : token ∈ (TokenStream.ofSource source).tokens)
    (kind : token.kind ∈ numberKinds) : ReadAsNumber source.toList token := by
  obtain ⟨tokens, r, c, tail, action, path, rest, acts, among⟩ := TokenStream.emitted_of_mem member
  obtain ⟨hasPoint, state⟩ := state_of_number acts among kind
  exact ⟨tokens, r, c, tail, action, hasPoint, path, state, rest, acts, among⟩

/-- The text of every token with a unit says a number and a unit of the table. -/
theorem text_of_measured {source : String} {token : Token} (member : token ∈ (TokenStream.ofSource source).tokens)
    (hasPoint : Bool) (kind : token.kind = if hasPoint then .unitFloat else .unitInteger) :
    ∃ value unit quantity, MeasureText hasPoint token.text value unit quantity := by
  have number : token.kind ∈ numberKinds := by
    rw [kind]
    cases hasPoint <;> decide
  obtain ⟨tokens, r, c, tail, action, pointed, path, state, _, acts, among⟩ := readAsNumber_of_mem member number
  cases makesNumber_of_mem acts state among with
  | plain =>
    have plain : numberKind r.context pointed = if hasPoint then .unitFloat else .unitInteger := kind
    unfold numberKind at plain
    cases hasPoint <;> split_ifs at plain
  | @measured unit quantity free lower known =>
    have kinds : ∀ one other : Bool, (if one then Kind.unitFloat else .unitInteger) =
        (if other then Kind.unitFloat else .unitInteger) → one = other := by decide
    obtain rfl : pointed = hasPoint := kinds pointed hasPoint kind
    subst lower
    exact ⟨String.ofList r.text, _, quantity, rfl, path.counting pointed state free,
      Quantity.mem_units_of_ofUnit? known⟩

/-- The text of every number without a unit is a numeral. -/
theorem numeral_of_number {source : String} {token : Token} (member : token ∈ (TokenStream.ofSource source).tokens)
    (hasPoint : Bool) (kind : token.kind = if hasPoint then .float else .integer) : Numeral hasPoint token.text := by
  have number : token.kind ∈ numberKinds := by
    rw [kind]
    cases hasPoint <;> decide
  obtain ⟨tokens, r, c, tail, action, pointed, path, state, _, acts, among⟩ := readAsNumber_of_mem member number
  cases makesNumber_of_mem acts state among with
  | plain =>
    have plain : numberKind r.context pointed ≠ .execArg := by
      intro argument
      rw [show (r.lexeme (numberKind r.context pointed)).kind = .execArg from argument] at kind
      cases hasPoint <;> contradiction
    have free := free_of_numberKind plain
    have kinds : ∀ one other : Bool, (if one then Kind.float else .integer) =
        (if other then Kind.float else .integer) → one = other := by decide
    have same : (if pointed then Kind.float else .integer) = if hasPoint then .float else .integer := by
      simpa [lexeme, numberKind, free] using kind
    obtain rfl := kinds pointed hasPoint same
    exact path.counting pointed state free
  | measured =>
    have measured : (if pointed then Kind.unitFloat else .unitInteger) = if hasPoint then .float else .integer := kind
    cases pointed <;> cases hasPoint <;> contradiction

/-- Only a command argument that reads like a number has a sign. -/
theorem execArg_of_signed {source : List Char} {token : Token} (read : ReadAsNumber source token)
    (signed : token.text.toList.head? = some '-') : token.kind = .execArg := by
  obtain ⟨tokens, r, c, tail, action, hasPoint, path, state, _, acts, among⟩ := read
  have unsigned (free : r.context.prev ≠ some .execArg) (behind : List Char) :
      (r.text ++ behind).head? ≠ some '-' := by
    have first := (path.counting hasPoint state free).head_digit
    rw [String.toList_ofList] at first
    cases text : r.text with
    | nil => simp [text] at first
    | cons d front =>
      rw [text] at first
      rintro ⟨⟩
      contradiction
  cases makesNumber_of_mem acts state among with
  | plain =>
    by_contra other
    refine unsigned (free_of_numberKind other) [] ?_
    simpa [lexeme] using signed
  | @measured unit quantity free =>
    refine absurd ?_ (unsigned free (":" ++ unit).toList)
    simpa [measured, String.append_assoc] using signed

/-- No dot of a number is followed by another one. -/
theorem undoubled_of_covered {source : List Char} {token : Token} (read : ReadAsNumber source token) {i : Nat}
    (covered : token.span.covers i = true) (point : source[i]? = some '.') : source[i + 1]? ≠ some '.' := by
  obtain ⟨tokens, r, c, tail, action, hasPoint, path, state, rest, acts, among⟩ := read
  obtain ⟨from_le, lt⟩ := Span.covers_iff.mp covered
  cases makesNumber_of_mem acts state among with
  | plain => exact path.undoubled state from_le lt point
  | measured free lower known =>
    rcases Nat.lt_or_ge i r.head with kept | behind
    · exact path.undoubled state from_le kept point
    · refine absurd point (undotted_unit path.standing_ofSource rest lower known behind ?_)
      simpa [measured, Span.stop, head, Nat.add_assoc] using lt

/-- The operators that begin with two dots are written so. -/
theorem double_of_dotted {source : List Char} {token : Token} (faithful : Faithful source token)
    (said : token.said ∈ dotted) :
    source[token.span.offset]? = some '.' ∧ source[token.span.offset + 1]? = some '.' := by
  have verbatim : ∀ said ∈ dotted, said.1 ≠ .semicolon ∧ ¬ (said.1 = .unitInteger ∨ said.1 = .unitFloat) ∧
      said.2.toList[0]? = some '.' ∧ said.2.toList[1]? = some '.' := by decide
  have listed := verbatim _ said
  rw [Token.said] at listed
  obtain ⟨terminator, unitless, first, second⟩ := listed
  have inserted : token.isSynthetic = false := by
    rw [Token.isSynthetic, beq_eq_false_iff_ne.mpr terminator, Bool.false_and]
  have read : token.text = String.ofList (token.span.slice source) := by
    rwa [Faithful, inserted, if_neg Bool.false_ne_true, if_neg unitless] at faithful
  have sliced {k : Nat} (found : token.text.toList[k]? = some '.') : source[token.span.offset + k]? = some '.' := by
    rw [read, String.toList_ofList, Span.slice, List.getElem?_take] at found
    split_ifs at found
    rwa [List.getElem?_drop] at found
  exact ⟨sliced first, sliced second⟩

/-- Number tokens are unsigned. The text of one without a unit is digits, with a point behind the first of
    them if it is a float, and so is the number that a text with a unit begins with. Only a command argument
    that reads like a number begins with a sign. No dot of a number is followed by another one, so that none
    begins an operator. -/
theorem numbers_unsigned {source : String} {token : Token} (member : token ∈ (TokenStream.ofSource source).tokens) :
    (∀ hasPoint, token.kind = (if hasPoint then .float else .integer) → Numeral hasPoint token.text) ∧
    (∀ hasPoint, token.kind = (if hasPoint then .unitFloat else .unitInteger) →
      ∃ value unit quantity, MeasureText hasPoint token.text value unit quantity) ∧
    (token.kind ∈ numberKinds → ReadAsNumber source.toList token) ∧
    (ReadAsNumber source.toList token →
      (token.text.toList.head? = some '-' → token.kind = .execArg) ∧
      (∀ i, token.span.covers i = true → source.toList[i]? = some '.' → source.toList[i + 1]? ≠ some '.') ∧
      ∀ operator ∈ (TokenStream.ofSource source).tokens, operator.said ∈ dotted →
        token.span.covers operator.span.offset = false) := by
  refine ⟨numeral_of_number member, text_of_measured member, readAsNumber_of_mem member, fun read => ?_⟩
  have single (i : Nat) (covered : token.span.covers i = true) (point : source.toList[i]? = some '.') :=
    undoubled_of_covered read covered point
  refine ⟨execArg_of_signed read, single, ?_⟩
  intro operator among said
  obtain ⟨first, second⟩ := double_of_dotted ((tokens_faithful source).2 operator among).2 said
  by_contra covered
  exact single _ (by simpa using covered) first second

/-- The number before a range keeps off its dots. -/
theorem numbers_unsigned_range :
    (⟨⟨1, 1⟩, .integer, "1"⟩ : Token) ∈ (TokenStream.ofSource "(1..2)").tokens ∧ Numeral false "1" ∧
      ReadAsNumber "(1..2)".toList ⟨⟨1, 1⟩, .integer, "1"⟩ ∧ (⟨1, 1⟩ : Span).covers 2 = false := by
  obtain ⟨tokens, spelled⟩ : ∃ tokens, tokens = ([⟨⟨0, 1⟩, .parenOpen, "("⟩, ⟨⟨1, 1⟩, .integer, "1"⟩,
    ⟨⟨2, 2⟩, .range, ".."⟩, ⟨⟨4, 1⟩, .integer, "2"⟩, ⟨⟨5, 1⟩, .parenClose, ")"⟩] : List Token) := ⟨_, rfl⟩
  have done : (ofSource "(1..2)".toList).steps 9 =
      some (tokens, ⟨.comment, ⟨some .parenClose, 0, 0, 0⟩, 8, [], []⟩) := by
    rw [spelled]
    rfl
  have among (token : Token) (listed : token ∈ tokens) : token ∈ (TokenStream.ofSource "(1..2)").tokens := by
    rw [TokenStream.tokens_ofSource, lex, (path_of_steps done).run_eq]
    exact List.mem_append_left _ listed
  have member := among ⟨⟨1, 1⟩, .integer, "1"⟩ (by simp [spelled])
  have range := among ⟨⟨2, 2⟩, .range, ".."⟩ (by simp [spelled])
  obtain ⟨plain, _, read, apart⟩ := numbers_unsigned member
  have counted := read (by decide)
  exact ⟨member, plain false rfl, counted, (apart counted).2.2 _ range (by decide)⟩

end Lexer
end CommandScript
