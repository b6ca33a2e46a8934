import CommandScript.Lexer.Run
import Mathlib.Tactic.SplitIfs

/-!
What a reader can do with one character: an inversion of its actions, one case for
each way in which a state goes on.
-/
namespace CommandScript.Lexer.Reader

/-- No operator and no blank begins with the next character. -/
structure Opens (r : Reader) (c : Char) (tail : List Char) : Prop where
  state : r.state = .start
  printed : Text.isBlank c = false
  unread : operator? r.context (c :: tail) = none

/-- The character that decides what a bare word before `c` is: the first behind the blanks. -/
def ahead (c : Char) (tail : List Char) : Char :=
  if Text.isBlank c && c != '\n' then (tail.find? (!Text.isBlank ·)).getD c else c

/-- What a reader can do with the character `c`, when `tail` comes after it. -/
inductive Acts (r : Reader) (c : Char) (tail : List Char) : Action → Prop
  | newline (state : r.state = .start ∨ r.state = .comment) (feed : c = '\n') : Acts r c tail .newline
  -- between tokens
  | blank (state : r.state = .start) (blank : Text.isBlank c = true) (inline : c ≠ '\n') :
    Acts r c tail (.emit [] 1 .start)
  | operator {kind : Kind} {length : Nat} (state : r.state = .start) (printed : Text.isBlank c = false)
    (found : operator? r.context (c :: tail) = some (kind, length)) :
    Acts r c tail
      (.emit [⟨⟨r.head, length⟩, kind, String.ofList ((c :: tail).take length)⟩] length .start)
  | number (opens : r.Opens c tail)
    (first : c.isDigit = true ∨ c = '-' ∧ tail.head?.any Char.isDigit = true) :
    Acts r c tail (.keep (.number false))
  | dot (opens : r.Opens c tail) (point : c = '.') (named : wordKind r.context [] = .name) :
    Acts r c tail (.emit [r.mark .dot c] 1 .start)
  | word (opens : r.Opens c tail) (digitless : c.isDigit = false)
    (first : Text.isAlphabetic c = true ∨ c ∈ wordSymbols) :
    Acts r c tail (.keep .unquotedLiteral)
  | comment (opens : r.Opens c tail) (first : c = '#') : Acts r c tail (.emit [] 1 .comment)
  | identifier (opens : r.Opens c tail) (first : c = '@') : Acts r c tail (.emit [] 1 .identifier)
  | quotation (opens : r.Opens c tail) (first : c = '"' ∨ c = '\'') :
    Acts r c tail (.emit [] 1 (.quotedLiteral c false))
  | argList (opens : r.Opens c tail) (first : c = backtick) :
    Acts r c tail (.emit [] 1 (.quotedArgList false none))
  -- in a comment
  | commented (state : r.state = .comment) (inline : c ≠ '\n') : Acts r c tail (.emit [] 1 .comment)
  -- in a name that began with `@`
  | identifierDot (state : r.state = .identifier) (nonempty : r.text ≠ []) (point : c = '.')
    (single : tail.head? ≠ some '.') :
    Acts r c tail (.emit [r.lexeme .name, r.mark .dot c] 1 .identifier)
  | identifierEnd (state : r.state = .identifier) (nonempty : r.text ≠ [])
    (stop : Text.isBlank c = true ∨ c ∈ identifierEnds) :
    Acts r c tail (.emit [r.lexeme .name] 0 .start)
  | identifierChar (state : r.state = .identifier) (printed : Text.isBlank c = false)
    (inside : c ∉ identifierEnds) (single : c ≠ '@') :
    Acts r c tail (.keep .identifier)
  -- in a quotation
  | quotationEscape {quote : Char} {escaped : Bool} (state : r.state = .quotedLiteral quote escaped)
    (escapes : escaped = true ∨ c = '\\') :
    Acts r c tail (.keep (.quotedLiteral quote !escaped))
  | quotationEnd {quote : Char} (state : r.state = .quotedLiteral quote false) (closes : c = quote)
    (backslashless : c ≠ '\\') :
    Acts r c tail
      (.emit [r.lexeme (if r.context.prev == some .execArg then .execArg else .quotedString)] 1 .start)
  | quotationChar {quote : Char} (state : r.state = .quotedLiteral quote false) (inside : c ≠ quote)
    (backslashless : c ≠ '\\') :
    Acts r c tail (.keep (.quotedLiteral quote false))
  -- in a list of command arguments
  | argEscape {quote : Option Char} {escaped : Bool} (state : r.state = .quotedArgList escaped quote)
    (escapes : escaped = true ∨ c = '\\') :
    Acts r c tail (.keep (.quotedArgList (!escaped) quote))
  | argUnquote {quote : Char} (state : r.state = .quotedArgList false (some quote)) (closes : c = quote)
    (backslashless : c ≠ '\\') :
    Acts r c tail (.emit [r.lexeme .execArg] 1 (.quotedArgList false none))
  | argQuoted {quote : Char} (state : r.state = .quotedArgList false (some quote)) (inside : c ≠ quote)
    (backslashless : c ≠ '\\') :
    Acts r c tail (.keep (.quotedArgList false (some quote)))
  | argQuote (state : r.state = .quotedArgList false none) (opens : c = '"' ∨ c = '\'') :
    Acts r c tail (.emit [] 1 (.quotedArgList false (some c)))
  | argPipe (state : r.state = .quotedArgList false none) (bar : c = '|') :
    Acts r c tail (.emit (r.argument ++ [r.mark .pipe c]) 1 (.quotedArgList false none))
  | argListEnd (state : r.state = .quotedArgList false none) (closes : c = backtick) :
    Acts r c tail (.emit r.argument 1 .start)
  | argBlank (state : r.state = .quotedArgList false none) (blank : Text.isBlank c = true) :
    Acts r c tail (.emit r.argument 1 (.quotedArgList false none))
  | argChar (state : r.state = .quotedArgList false none) (printed : Text.isBlank c = false)
    (inside : c ≠ '"' ∧ c ≠ '\'' ∧ c ≠ '|' ∧ c ≠ backtick ∧ c ≠ '\\') :
    Acts r c tail (.keep (.quotedArgList false none))
  -- in a bare word
  | wordDot (state : r.state = .unquotedLiteral) (point : c = '.') (single : tail.head? ≠ some '.')
    (named : wordKind r.context r.text = .name ∨ wordKind r.context r.text = .implicitLambdaParam) :
    Acts r c tail (.emit [r.lexeme (wordKind r.context r.text), r.mark .dot c] 1 .start)
  | wordReserved (state : r.state = .unquotedLiteral) (mark : ahead c tail ∈ callMarks)
    (reserved : (keyword? (String.ofList r.text)).isSome = true) :
    Acts r c tail (.emit [r.lexeme (wordKind r.context r.text)] 0 .start)
  | wordPath (state : r.state = .unquotedLiteral) (mark : ahead c tail ∈ callMarks)
    (free : keyword? (String.ofList r.text) = none) :
    Acts r c tail (.emit (pathTokens r.start [] r.text) 0 .start)
  | wordEnd (state : r.state = .unquotedLiteral) (unmarked : ahead c tail ∉ callMarks)
    (stop : Text.isBlank c = true ∨ c ∈ wordEnds ∨ c = '.' ∧ tail.head? = some '.') :
    Acts r c tail (.emit [r.lexeme (wordKind r.context r.text)] 0 .start)
  | wordChar (state : r.state = .unquotedLiteral) (printed : Text.isBlank c = false)
    (inside : c ∉ callMarks ∧ c ∉ wordEnds ∧ c ≠ '@')
    (undotted : c = '.' → tail.head? ≠ some '.' ∧ wordKind r.context r.text ≠ .name ∧
      wordKind r.context r.text ≠ .implicitLambdaParam) :
    Acts r c tail (.keep .unquotedLiteral)
  -- in a number
  | numberRange {hasPoint : Bool} (state : r.state = .number hasPoint) (point : c = '.')
    (double : tail.head? = some '.') :
    Acts r c tail (.emit [r.lexeme (numberKind r.context hasPoint)] 0 .start)
  | numberPoint (state : r.state = .number false) (point : c = '.') (single : tail.head? ≠ some '.') :
    Acts r c tail (.keep (.number true))
  | numberDigit {hasPoint : Bool} (state : r.state = .number hasPoint) (digit : c.isDigit = true) :
    Acts r c tail (.keep (.number hasPoint))
  | numberUnit {hasPoint : Bool} {unit : String} {quantity : Quantity}
    (state : r.state = .number hasPoint) (plain : numberKind r.context hasPoint ≠ .execArg)
    (letter : Text.isAlphabetic c = true)
    (lower : unit = Text.lowerCase (String.ofList ((c :: tail).takeWhile Text.isAlphabetic)))
    (known : Quantity.ofUnit? unit = some quantity) :
    Acts r c tail (.emit [r.measured hasPoint unit] unit.length .start)
  | numberEnd {hasPoint : Bool} (state : r.state = .number hasPoint) (point : c ≠ '.')
    (digitless : c.isDigit = false)
    (stop : numberKind r.context hasPoint = .execArg ∨ Text.isAlphabetic c = false) :
    Acts r c tail (.emit [r.lexeme (numberKind r.context hasPoint)] 0 .start)

variable {r : Reader} {c : Char} {tail : List Char} {action : Action}

private theorem start_acts (state : r.state = .start) (done : r.startAction c tail = .ok action) :
    Acts r c tail action := by
  unfold startAction at done
  by_cases feed : c = '\n'
  · simp only [feed, ↓reduceIte, Except.ok.injEq] at done
    exact done ▸ .newline (.inl state) feed
  rw [if_neg feed] at done
  by_cases blank : Text.isBlank c = true
  · simp only [blank, ↓reduceIte, Except.ok.injEq] at done
    exact done ▸ .blank state blank feed
  rw [if_neg blank] at done
  have printed : Text.isBlank c = false := by simpa using blank
  split at done
  · rename_i found
    simp only [Except.ok.injEq] at done
    exact done ▸ .operator state printed found
  rename_i unread
  have opens : r.Opens c tail := ⟨state, printed, unread⟩
  split_ifs at done with digit point word hash sign quote list <;>
    simp only [Except.ok.injEq] at done <;> subst done
  · exact .number opens (by simpa using digit)
  · simp only [Bool.and_eq_true, decide_eq_true_eq, beq_iff_eq] at point
    obtain ⟨rfl, named⟩ := point
    exact .dot opens rfl named
  · exact .word opens (by simp_all) (by simpa using word)
  · exact .comment opens hash
  · exact .identifier opens sign
  · exact .quotation opens (by simpa using quote)
  · exact .argList opens list

private theorem identifier_acts (state : r.state = .identifier)
    (done : r.identifierAction c tail = .ok action) : Acts r c tail action := by
  unfold identifierAction at done
  split_ifs at done with point empty stop empty double <;>
    simp only [Except.ok.injEq] at done <;> subst done
  · simp only [Bool.and_eq_true, decide_eq_true_eq, bne_iff_ne] at point
    obtain ⟨rfl, single⟩ := point
    exact .identifierDot state (by simpa using empty) rfl single
  · exact .identifierEnd state (by simpa using empty) (by simpa using stop)
  · simp only [Bool.or_eq_true, List.contains_eq_mem, decide_eq_true_eq, not_or] at stop
    exact .identifierChar state (by simpa using stop.1) stop.2 double

private theorem quotation_acts {quote : Char} {escaped : Bool}
    (state : r.state = .quotedLiteral quote escaped)
    (done : r.quotedLiteralAction quote escaped c = action) : Acts r c tail action := by
  unfold quotedLiteralAction at done
  by_cases escapes : escaped = true ∨ c = '\\'
  · rw [if_pos (by simpa using escapes)] at done
    exact done ▸ .quotationEscape state escapes
  rw [if_neg (by simpa using escapes)] at done
  simp only [not_or, Bool.not_eq_true] at escapes
  obtain ⟨rfl, backslashless⟩ := escapes
  by_cases closes : c = quote
  · rw [if_pos closes] at done
    exact done ▸ .quotationEnd state closes backslashless
  · rw [if_neg closes] at done
    exact done ▸ .quotationChar state closes backslashless

private theorem argList_acts {escaped : Bool} {quote : Option Char}
    (state : r.state = .quotedArgList escaped quote)
    (done : r.quotedArgListAction escaped quote c = action) : Acts r c tail action := by
  unfold quotedArgListAction at done
  by_cases escapes : escaped = true ∨ c = '\\'
  · rw [if_pos (by simpa using escapes)] at done
    exact done ▸ .argEscape state escapes
  rw [if_neg (by simpa using escapes)] at done
  simp only [not_or, Bool.not_eq_true] at escapes
  obtain ⟨rfl, backslashless⟩ := escapes
  cases quote with
  | some opened =>
    dsimp only at done
    split_ifs at done with closes <;> subst done
    · exact .argUnquote state closes backslashless
    · exact .argQuoted state closes backslashless
  | none =>
    dsimp only at done
    split_ifs at done with opens bar closes blank <;> subst done
    · exact .argQuote state (by simpa using opens)
    · subst bar
      exact .argPipe state rfl
    · exact .argListEnd state closes
    · exact .argBlank state blank
    · simp only [Bool.or_eq_true, decide_eq_true_eq, not_or] at opens
      exact .argChar state (by simpa using blank) ⟨opens.1, opens.2, bar, closes, backslashless⟩

/-- Only a blank that ends no line is looked past. -/
theorem ahead_eq (here : Text.isBlank c = false ∨ c = '\n') : ahead c tail = c := by
  rcases here with printed | rfl
  · simp [ahead, printed]
  · simp [ahead]

private theorem word_acts (state : r.state = .unquotedLiteral)
    (done : r.unquotedLiteralAction c tail = .ok action) : Acts r c tail action := by
  unfold unquotedLiteralAction at done
  dsimp only at done
  rw [← ahead] at done
  split_ifs at done with dot mark reserved stop sign <;>
    simp only [Except.ok.injEq] at done <;> subst done
  · simp only [Bool.and_eq_true, Bool.not_eq_true', Bool.and_eq_false_iff, beq_iff_eq, bne_eq_false_iff_eq,
      Bool.or_eq_true, beq_eq_false_iff_ne] at dot
    obtain ⟨⟨⟨here, point⟩, single⟩, named⟩ := dot
    have same : ahead c tail = c := ahead_eq here
    obtain rfl : c = '.' := same.symm.trans point
    exact .wordDot state rfl (single.resolve_left fun other => other point) named
  · exact .wordReserved state (by simpa using mark) reserved
  · exact .wordPath state (by simpa using mark) (by simpa using reserved)
  · refine .wordEnd state (by simpa using mark) ?_
    by_cases here : Text.isBlank c = false ∨ c = '\n'
    · rw [ahead_eq here] at stop
      grind
    · simp only [not_or, Bool.not_eq_false] at here
      exact .inl here.1
  · have here : Text.isBlank c = false ∨ c = '\n' := by grind
    rw [ahead_eq here] at dot mark stop
    have printed : Text.isBlank c = false := by
      refine here.resolve_right ?_
      rintro rfl
      simp [wordEnds] at stop
    refine .wordChar state printed ⟨by simpa using mark, by grind, sign⟩ ?_
    rintro rfl
    grind

private theorem number_acts {hasPoint : Bool} (state : r.state = .number hasPoint)
    (done : r.numberAction hasPoint c tail = .ok action) : Acts r c tail action := by
  unfold numberAction at done
  by_cases point : c = '.'
  · simp only [point, ↓reduceIte] at done
    split_ifs at done with double decimal <;>
      simp only [Except.ok.injEq] at done <;> subst done
    · exact .numberRange state point double
    · obtain rfl : hasPoint = false := by simpa using decimal
      exact .numberPoint state point double
  rw [if_neg point] at done
  by_cases digit : c.isDigit = true
  · simp only [digit, ↓reduceIte, Except.ok.injEq] at done
    exact done ▸ .numberDigit state digit
  rw [if_neg digit] at done
  split_ifs at done with letter
  · simp only [Bool.and_eq_true, bne_iff_ne] at letter
    obtain ⟨unit, lower⟩ :
        ∃ unit, unit = Text.lowerCase (String.ofList ((c :: tail).takeWhile Text.isAlphabetic)) :=
      ⟨_, rfl⟩
    dsimp only at done
    rw [← lower] at done
    split at done <;> simp only [Except.ok.injEq, reduceCtorEq] at done
    exact done ▸ .numberUnit state letter.1 letter.2 lower ‹_›
  · simp only [Except.ok.injEq] at done
    exact done ▸ .numberEnd state point (by simpa using digit) (by grind)

/-- Every action of a reader is one of these. -/
theorem acts_of_action (done : r.action c tail = .ok action) : Acts r c tail action := by
  unfold Reader.action at done
  cases state : r.state <;> rw [state] at done <;> dsimp only at done
  case start => exact start_acts state done
  case comment =>
    by_cases feed : c = '\n'
    · simp only [feed, ↓reduceIte, Except.ok.injEq] at done
      exact done ▸ .newline (.inr state) feed
    · simp only [feed, ↓reduceIte, Except.ok.injEq] at done
      exact done ▸ .commented state feed
  case identifier => exact identifier_acts state done
  case quotedLiteral quote escaped => exact quotation_acts state (Except.ok.inj done)
  case quotedArgList escaped quote => exact argList_acts state (Except.ok.inj done)
  case unquotedLiteral => exact word_acts state done
  case number hasPoint => exact number_acts state done

/-- A step that does not fail is an action. -/
theorem acts_of_step {next : Reader} {tokens : List Token} (done : r.step c tail = .ok (tokens, next)) :
    ∃ action, Acts r c tail action ∧ tokens = r.emitted action ∧ next = r.moved c tail action := by
  unfold step at done
  split at done
  · rename_i action acted
    simp only [Except.ok.injEq, Prod.mk.injEq] at done
    exact ⟨action, acts_of_action acted, done.1.symm, done.2.symm⟩
  · simp at done

end CommandScript.Lexer.Reader
