import CommandScript.Lexer.Error
import CommandScript.Lexer.Word
import CommandScript.Operator
import CommandScript.Text.Character
import CommandScript.Token.Quantity

/-!
One step of the lexer. A reader stands between two characters of its source; what
it does with the next one depends on its state, its context and what lies ahead.
It keeps the character for the token it is reading, or it emits tokens and goes on
behind the characters that they take.
-/
namespace CommandScript.Lexer

/-- A lexer in the middle of a source. -/
structure Reader where
  state : State := .start
  context : Context := {}
  /-- the offset of the first character of `text`, or of `rest` if there is none -/
  start : Nat := 0
  /-- the characters kept for the token being read -/
  text : List Char := []
  rest : List Char

/-- What to do with a character. -/
inductive Action
  /-- it belongs to the token being read -/
  | keep (next : State)
  /-- the token being read is done: emit these tokens, and go on behind `count` characters -/
  | emit (tokens : List Token) (count : Nat) (next : State)
  /-- it ends a line outside of any token -/
  | newline
deriving DecidableEq

namespace Reader

/-- The offset of the next character. -/
def head (r : Reader) : Nat := r.start + r.text.length

/-- The text kept so far, as a token. -/
def lexeme (r : Reader) (kind : Kind) : Token :=
  ⟨⟨r.start, r.text.length⟩, kind, String.ofList r.text⟩

/-- The next character, as a token. -/
def mark (r : Reader) (kind : Kind) (c : Char) : Token := ⟨⟨r.head, 1⟩, kind, String.ofList [c]⟩

/-! ## Between tokens -/

/-- The operators that can be read. Behind a command argument, and outside of brackets,
    arithmetic ones can not. -/
def operators (context : Context) : PatternTrie Kind :=
  if context.inBrackets || context.prev != some .execArg then Operator.fullTrie
  else Operator.structuralTrie

/-- The operator that the characters begin with. Nothing is looked up for a character that
    begins no operator at all. -/
def operator? (context : Context) : List Char → Option (Kind × Nat)
  | [] => none
  | c :: tail =>
    if Operator.fullTrie.startsPattern c then (operators context).longest (c :: tail) else none

theorem operator?_pos {context : Context} {chars : List Char} {kind : Kind} {length : Nat}
    (found : operator? context chars = some (kind, length)) : 0 < length := by
  cases chars with
  | nil => simp [operator?] at found
  | cons c tail =>
    simp only [operator?] at found
    split at found
    · exact PatternTrie.longest_pos found
    · simp at found

/-- The character at both ends of a list of command arguments. -/
def backtick : Char := '\x60'

/-- The characters besides letters that begin a bare word. -/
def wordSymbols : List Char := ['.', '/', '*', '+', '-', '%', '_']

/-- The first character of a token decides how the token is read. A single dot is a word of its
    own where a name is expected, and begins a longer word elsewhere. -/
def startAction (r : Reader) (c : Char) (tail : List Char) : Except Problem Action :=
  if c = '\n' then .ok .newline
  else if Text.isBlank c then .ok (.emit [] 1 .start)
  else match operator? r.context (c :: tail) with
  | some (kind, length) =>
    .ok (.emit [⟨⟨r.head, length⟩, kind, String.ofList ((c :: tail).take length)⟩] length .start)
  | none =>
    if c.isDigit || (c == '-' && tail.head?.any Char.isDigit) then .ok (.keep (.number false))
    else if c = '.' && wordKind r.context [] == .name then .ok (.emit [r.mark .dot '.'] 1 .start)
    else if Text.isAlphabetic c || wordSymbols.contains c then .ok (.keep .unquotedLiteral)
    else if c = '#' then .ok (.emit [] 1 .comment)
    else if c = '@' then .ok (.emit [] 1 .identifier)
    else if c = '"' || c = '\'' then .ok (.emit [] 1 (.quotedLiteral c false))
    else if c = backtick then .ok (.emit [] 1 (.quotedArgList false none))
    else .error .unimplementedChar

/-! ## Names that begin with `@` -/

/-- The characters besides blanks that end a name that began with `@`. -/
def identifierEnds : List Char :=
  [':', '=', '+', '-', '/', '[', ']', '{', '}', '(', ')', '<', '>', '.']

/-- A dot cuts the name, and the part behind it is a name too; two dots are a range and end it.
    No part can be empty. -/
def identifierAction (r : Reader) (c : Char) (tail : List Char) : Except Problem Action :=
  if c = '.' && tail.head? != some '.' then
    if r.text.isEmpty then .error .emptyIdentifier
    else .ok (.emit [r.lexeme .name, r.mark .dot '.'] 1 .identifier)
  else if Text.isBlank c || identifierEnds.contains c then
    if r.text.isEmpty then .error .emptyIdentifier else .ok (.emit [r.lexeme .name] 0 .start)
  else if c = '@' then .error .unexpectedChar
  else .ok (.keep .identifier)

/-! ## Quotations -/

/-- The same quote ends the text unless it is escaped. Escapes stay in the text as they are.
    Behind a command argument the text is an argument too. -/
def quotedLiteralAction (r : Reader) (quote : Char) (escaped : Bool) (c : Char) : Action :=
  if escaped || c = '\\' then .keep (.quotedLiteral quote !escaped)
  else if c = quote then
    let kind := if r.context.prev == some .execArg then .execArg else .quotedString
    .emit [r.lexeme kind] 1 .start
  else .keep (.quotedLiteral quote false)

/-- The argument read so far, if there is one. -/
def argument (r : Reader) : List Token := if r.text.isEmpty then [] else [r.lexeme .execArg]

/-- Blanks separate the arguments, unless they are quoted, and bars the commands. An argument
    begins at its quote: what stands right before the quote is no part of it. -/
def quotedArgListAction (r : Reader) (escaped : Bool) (quote : Option Char) (c : Char) : Action :=
  if escaped || c = '\\' then .keep (.quotedArgList (!escaped) quote)
  else match quote with
  | some opened =>
    if c = opened then .emit [r.lexeme .execArg] 1 (.quotedArgList false none)
    else .keep (.quotedArgList false quote)
  | none =>
    if c = '"' || c = '\'' then .emit [] 1 (.quotedArgList false (some c))
    else if c = '|' then .emit (r.argument ++ [r.mark .pipe '|']) 1 (.quotedArgList false none)
    else if c = backtick then .emit r.argument 1 .start
    else if Text.isBlank c then .emit r.argument 1 (.quotedArgList false none)
    else .keep (.quotedArgList false none)

/-! ## Bare words -/

/-- A word goes on up to a blank or a mark that ends it. What follows the blanks behind it decides
    its kind too. A dot cuts a word that is a name; a dot in a command argument is a part of it. -/
def unquotedLiteralAction (r : Reader) (c : Char) (tail : List Char) : Except Problem Action :=
  let spaced := Text.isBlank c && c != '\n'
  let ahead := if spaced then (tail.find? (!Text.isBlank ·)).getD c else c
  let kind := wordKind r.context r.text
  let ranged := ahead == '.' && tail.head? == some '.'
  if !spaced && ahead == '.' && !ranged && (kind == .name || kind == .implicitLambdaParam) then
    .ok (.emit [r.lexeme kind, r.mark .dot '.'] 1 .start)
  else if callMarks.contains ahead then
    if (keyword? (String.ofList r.text)).isSome then .ok (.emit [r.lexeme kind] 0 .start)
    else .ok (.emit (pathTokens r.start [] r.text) 0 .start)
  else if spaced || wordEnds.contains ahead || ranged then .ok (.emit [r.lexeme kind] 0 .start)
  else if c = '@' then .error .unexpectedChar
  else .ok (.keep .unquotedLiteral)

/-! ## Numbers -/

/-- The kind of a number without a unit. -/
def numberKind (context : Context) (hasPoint : Bool) : Kind :=
  if context.prev == some .execArg then .execArg else if hasPoint then .float else .integer

/-- A number and the unit behind it, which is written in lower case after a colon. The token is as
    long as the lower case is. -/
def measured (r : Reader) (hasPoint : Bool) (unit : String) : Token :=
  ⟨⟨r.start, r.text.length + unit.length⟩, if hasPoint then .unitFloat else .unitInteger,
    String.ofList r.text ++ ":" ++ unit⟩

/-- A number has digits and at most one point, and two dots end it. Letters behind it are its unit,
    unless it is a command argument. -/
def numberAction (r : Reader) (hasPoint : Bool) (c : Char) (tail : List Char) : Except Problem Action :=
  let kind := numberKind r.context hasPoint
  if c = '.' then
    if tail.head? = some '.' then .ok (.emit [r.lexeme kind] 0 .start)
    else if hasPoint then .error .unexpectedChar
    else .ok (.keep (.number true))
  else if c.isDigit then .ok (.keep (.number hasPoint))
  else if kind != .execArg && Text.isAlphabetic c then
    let unit := Text.lowerCase (String.ofList ((c :: tail).takeWhile Text.isAlphabetic))
    match Quantity.ofUnit? unit with
    | some _ => .ok (.emit [r.measured hasPoint unit] unit.length .start)
    | none => .error (.unknownUnit unit)
  else .ok (.emit [r.lexeme kind] 0 .start)

/-! ## Any state -/

/-- What a reader does with the character `c`, when `tail` comes after it. -/
def action (r : Reader) (c : Char) (tail : List Char) : Except Problem Action :=
  match r.state with
  | .start => r.startAction c tail
  | .comment => .ok (if c = '\n' then .newline else .emit [] 1 .comment)
  | .identifier => r.identifierAction c tail
  | .quotedLiteral quote escaped => .ok (r.quotedLiteralAction quote escaped c)
  | .quotedArgList escaped quote => .ok (r.quotedArgListAction escaped quote c)
  | .unquotedLiteral => r.unquotedLiteralAction c tail
  | .number hasPoint => r.numberAction hasPoint c tail

/-- The tokens that an action emits. A line feed ends a statement unless a parenthesis is open. -/
def emitted (r : Reader) : Action → List Token
  | .keep _ => []
  | .emit tokens _ _ => tokens
  | .newline => if r.context.parens = 0 then [.terminator r.head] else []

/-- The reader after an action on the character `c`, when `tail` comes after it. -/
def moved (r : Reader) (c : Char) (tail : List Char) : Action → Reader
  | .keep next => { r with state := next, text := r.text ++ [c], rest := tail }
  | .emit tokens count next =>
    { state := next, context := r.context.afterAll (tokens.map (·.kind)), start := r.head + count,
      rest := (c :: tail).drop count }
  | .newline => { context := r.context.newline, start := r.head + 1, rest := tail }

end Reader
end CommandScript.Lexer
