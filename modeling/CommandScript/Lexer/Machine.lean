import CommandScript.Lexer.Run

/-!
How a source is read step by step. A cursor goes over the characters and puts the tokens into a
queue, one after the other; a machine drives it from state to state. What a step has done before it
fails stays done.
-/
namespace CommandScript.Lexer

/-- Where a machine is in its input, and the tokens that wait to be given out. -/
structure Cursor where
  data : List Char
  head : Nat := 0
  /-- where the token being read starts -/
  start : Nat := 0
  context : Context := {}
  queue : List Token := []

namespace Cursor

/-- A cursor at the beginning of a source. -/
def ofSource (source : String) : Cursor := { data := source.toList ++ padding }

def hasInput (k : Cursor) : Bool := k.head < k.data.length

/-- The characters from the head on. -/
def rest (k : Cursor) : List Char := k.data.drop k.head

/-- The character behind the head. -/
def next (k : Cursor) : Option Char := k.rest.tail.head?

/-- The first character behind the head that is no blank. -/
def printed (k : Cursor) : Option Char := k.rest.tail.find? (!Text.isBlank ·)

/-- The text of the token being read, up to an offset. -/
def textTo (k : Cursor) (stop : Nat) : List Char := (k.data.drop k.start).take (stop - k.start)

/-- The text of the token being read, up to the head. -/
def pending (k : Cursor) : List Char := k.textTo k.head

end Cursor

/-- Steps of a cursor that end with a result, or fail on the way. -/
abbrev Reading := EStateM Problem Cursor

/-- The states of a machine. -/
inductive Node
  | start
  /-- at an operator that has been found -/
  | operator (kind : Kind) (length : Nat)
  | comment
  | identifier
  | quotedLiteral (quote : Char) (escaped : Bool)
  | quotedArgList (escaped : Bool) (quote : Option Char)
  | unquotedLiteral
  /-- `first` if no character of the number has been taken yet -/
  | number (hasPoint first : Bool)

/-- The state that an error mentions. An operator is always taken. -/
def Node.state : Node → State
  | start | operator _ _ => .start
  | comment => .comment
  | identifier => .identifier
  | quotedLiteral quote escaped => .quotedLiteral quote escaped
  | quotedArgList escaped quote => .quotedArgList escaped quote
  | unquotedLiteral => .unquotedLiteral
  | number hasPoint _ => .number hasPoint

/-- Where a machine goes on: with the next character, or with the same one again. -/
inductive Move
  | advance (next : Node)
  | reread (next : Node)

namespace Reading

/-! ## What a cursor does -/

def startAt (start : Nat) : Reading Unit := modify ({ · with start })

/-- Puts a token into the queue. It is the last one of its line then. -/
def emit (token : Token) : Reading Unit := modify fun k =>
  { k with context := { k.context with prev := some token.kind }, queue := k.queue ++ [token] }

/-- Puts tokens into the queue, one after the other. -/
def emitAll : List Token → Reading Unit
  | [] => pure ()
  | token :: tokens => do
    emit token
    emitAll tokens

/-- Puts the text of the token being read into the queue. -/
def emitPending (kind : Kind) : Reading Unit := do
  let k ← get
  emit ⟨⟨k.start, k.pending.length⟩, kind, String.ofList k.pending⟩

/-- Puts the character at the head into the queue. -/
def emitMark (kind : Kind) (c : Char) : Reading Unit := do
  emit ⟨⟨(← get).head, 1⟩, kind, String.ofList [c]⟩

/-- Puts the argument being read into the queue, if there is one. -/
def flushArgument : Reading Unit := do
  let k ← get
  if k.head ≠ k.start then emitPending .execArg

/-- Opens or closes the bracket that a token is. -/
def trackBracket (kind : Kind) : Reading Unit := modify fun k =>
  { k with context := { k.context.after kind with prev := k.context.prev } }

/-- A line feed ends a statement unless a parenthesis is open. The terminator is not the last token of
    a line: there is none then. -/
def newline : Reading Unit := modify fun k =>
  { k with
    context := k.context.newline
    queue := if k.context.parens = 0 then k.queue ++ [.terminator k.head] else k.queue }

/-! ## One function for each state -/

/-- What begins with a mark of its own. -/
def opening? (c : Char) : Option Node :=
  if c = '#' then some .comment
  else if c = '@' then some .identifier
  else if c = '"' || c = '\'' then some (.quotedLiteral c false)
  else if c = Reader.backtick then some (.quotedArgList false none)
  else none

/-- Between tokens: operators, numbers and bare words are handed on. -/
def start (c : Char) : Reading Move := do
  let k ← get
  if c = '\n' then
    newline
    return .advance .start
  else if Text.isBlank c then return .advance .start
  else match Reader.operator? k.context k.rest with
  | some (kind, length) =>
    startAt k.head
    return .reread (.operator kind length)
  | none =>
    if c.isDigit || (c == '-' && k.next.any Char.isDigit) then
      startAt k.head
      return .reread (.number false true)
    else if Text.isAlphabetic c || Reader.wordSymbols.contains c then
      startAt k.head
      return .reread .unquotedLiteral
    else match opening? c with
    | some next =>
      startAt (k.head + 1)
      return .advance next
    | none => throw .unimplementedChar

def operator (kind : Kind) (length : Nat) : Reading Move := do
  modify fun k => { k with head := k.head + (length - 1) }
  trackBracket kind
  let k ← get
  let text := k.textTo (k.head + 1)
  emit ⟨⟨k.start, text.length⟩, kind, String.ofList text⟩
  return .advance .start

def comment (c : Char) : Reading Move := do
  if c = '\n' then
    newline
    return .advance .start
  else return .advance .comment

def identifier (c : Char) : Reading Move := do
  let k ← get
  if c = '.' && k.next != some '.' then
    if k.start = k.head then throw .emptyIdentifier
    else
      emitPending .name
      emitMark .dot '.'
      startAt (k.head + 1)
      return .advance .identifier
  else if Text.isBlank c || Reader.identifierEnds.contains c then
    if k.start = k.head then throw .emptyIdentifier
    else
      emitPending .name
      return .reread .start
  else if c = '@' then throw .unexpectedChar
  else return .advance .identifier

def quotedLiteral (quote : Char) (escaped : Bool) (c : Char) : Reading Move := do
  let k ← get
  if escaped || c = '\\' then return .advance (.quotedLiteral quote !escaped)
  else if c = quote then
    emitPending (if k.context.prev == some .execArg then .execArg else .quotedString)
    return .advance .start
  else return .advance (.quotedLiteral quote escaped)

def quotedArgList (escaped : Bool) (quote : Option Char) (c : Char) : Reading Move := do
  let k ← get
  if escaped || c = '\\' then return .advance (.quotedArgList (!escaped) quote)
  else if c = '"' || c = '\'' then
    match quote with
    | none =>
      startAt (k.head + 1)
      return .advance (.quotedArgList false (some c))
    | some opened =>
      if c = opened then
        emitPending .execArg
        startAt (k.head + 1)
        return .advance (.quotedArgList false none)
      else return .advance (.quotedArgList false quote)
  else if quote.isSome then return .advance (.quotedArgList false quote)
  else if c = '|' then
    flushArgument
    emitMark .pipe '|'
    startAt (k.head + 1)
    return .advance (.quotedArgList false none)
  else if c = Reader.backtick then
    flushArgument
    return .advance .start
  else if Text.isBlank c then
    flushArgument
    startAt (k.head + 1)
    return .advance (.quotedArgList false none)
  else return .advance (.quotedArgList false none)

def unquotedLiteral (c : Char) : Reading Move := do
  let k ← get
  let spaced := Text.isBlank c && c != '\n'
  let ahead := if spaced then k.printed.getD c else c
  let kind := wordKind k.context k.pending
  let ranged := ahead == '.' && k.next == some '.'
  if !spaced && ahead == '.' && !ranged && (kind == .name || kind == .implicitLambdaParam) then
    if k.pending.isEmpty then
      emitMark .dot '.'
      return .advance .start
    else
      emitPending kind
      emitMark .dot '.'
      return .advance .start
  else if callMarks.contains ahead then
    if (keyword? (String.ofList k.pending)).isSome then
      emitPending kind
      return .reread .start
    else
      emitAll (pathTokens k.start [] k.pending)
      return .reread .start
  else if spaced || wordEnds.contains ahead || ranged then
    emitPending kind
    return .reread .start
  else if c = '@' then throw .unexpectedChar
  else return .advance .unquotedLiteral

def number (hasPoint first : Bool) (c : Char) : Reading Move := do
  let k ← get
  let kind := Reader.numberKind k.context hasPoint
  if c = '.' then
    if k.next = some '.' then
      emitPending kind
      return .reread .start
    else if hasPoint then throw .unexpectedChar
    else return .advance (.number true false)
  else if c.isDigit || (first && c == '-') then return .advance (.number hasPoint false)
  else if kind != .execArg && Text.isAlphabetic c then
    let unit := Text.lowerCase (String.ofList (k.rest.takeWhile Text.isAlphabetic))
    match Quantity.ofUnit? unit with
    | none => throw (.unknownUnit unit)
    | some _ =>
      emit ⟨⟨k.start, k.head + unit.length - k.start⟩, if hasPoint then .unitFloat else .unitInteger,
        String.ofList k.pending ++ ":" ++ unit⟩
      modify fun k => { k with head := k.head + unit.length }
      return .reread .start
  else
    emitPending kind
    return .reread .start

end Reading

/-- What a state does with the character at the head. -/
def Node.consume (node : Node) (c : Char) : Reading Move :=
  match node with
  | start => Reading.start c
  | operator kind length => Reading.operator kind length
  | comment => Reading.comment c
  | identifier => Reading.identifier c
  | quotedLiteral quote escaped => Reading.quotedLiteral quote escaped c
  | quotedArgList escaped quote => Reading.quotedArgList escaped quote c
  | unquotedLiteral => Reading.unquotedLiteral c
  | number hasPoint first => Reading.number hasPoint first c

/-- A machine on an input. -/
structure Machine where
  node : Node := .start
  cursor : Cursor

/-- The machine behind a move of its cursor. -/
def Move.machine (cursor : Cursor) : Move → Machine
  | advance next => ⟨next, { cursor with head := cursor.head + 1 }⟩
  | reread next => ⟨next, cursor⟩

namespace Machine

/-- A machine at the beginning of a source. -/
def ofSource (source : String) : Machine := { cursor := .ofSource source }

/-- One step, on the character at the head. -/
def step (m : Machine) : EStateM.Result LexError Machine Unit :=
  match m.cursor.rest with
  | [] => .ok () m
  | c :: _ =>
    match (m.node.consume c).run m.cursor with
    | .ok move cursor => .ok () (move.machine cursor)
    | .error problem cursor => .error ⟨problem, cursor.head, cursor.rest.head?, m.node.state⟩ ⟨.start, cursor⟩

/-- What is wrong when the input ends here. -/
def finish (m : Machine) : Option LexError :=
  if m.node.state = .comment then none else some ⟨.unexpectedEnd, m.cursor.head, none, m.node.state⟩

end Machine

end CommandScript.Lexer
