import CommandScript.Lexer.Machine

/-!
A machine that watches the range of its input. Where a machine takes as much of a slice as there is, a
checked one stops unless the slice lies in the input, with its end not before its beginning; and it stops
rather than to take a number from a smaller one. All texts that it reads are such slices.
-/
namespace CommandScript.Lexer

/-- What a checked step stops at. -/
inductive Halt
  /-- something is wrong with the source -/
  | problem (problem : Problem)
  /-- a slice or a difference is out of range -/
  | outOfRange
deriving DecidableEq

/-- Steps of a cursor that watch their range. -/
abbrev Checked := EStateM Halt Cursor

namespace Checked

/-- Steps that have no range to watch. -/
def lift {α : Type} (reading : Reading α) : Checked α := EStateM.adaptExcept .problem reading

instance : MonadLift Reading Checked := ⟨lift⟩

/-! ## What is watched -/

/-- The input from one offset up to another. -/
def slice (start stop : Nat) : Checked (List Char) := do
  let k ← get
  if start ≤ stop ∧ stop ≤ k.data.length then return (k.data.drop start).take (stop - start)
  else throw .outOfRange

/-- What is left of a number without another. -/
def difference (whole part : Nat) : Checked Nat :=
  if part ≤ whole then return whole - part else throw .outOfRange

/-- The text of the token being read, up to an offset. -/
def textTo (stop : Nat) : Checked (List Char) := do
  slice (← get).start stop

/-- The text of the token being read, up to the head. -/
def pending : Checked (List Char) := do
  textTo (← get).head

/-- The first character behind the head that is no blank. -/
def printed : Checked (Option Char) := do
  let k ← get
  let behind ← slice (k.head + 1) k.data.length
  return behind.find? (!Text.isBlank ·)

/-- The character that decides about a word at `c`. A blank that ends no line is looked past. -/
def ahead (c : Char) : Checked Char :=
  if Text.isBlank c && c != '\n' then do
    let found ← printed
    return found.getD c
  else return c

/-- The letters from the head on. -/
def letters : Checked (List Char) := do
  let k ← get
  let rest ← slice k.head k.data.length
  return rest.takeWhile Text.isAlphabetic

/-- Puts the text of the token being read into the queue. -/
def emitPending (kind : Kind) : Checked Unit := do
  let text ← pending
  let k ← get
  Reading.emit ⟨⟨k.start, text.length⟩, kind, String.ofList text⟩

/-- Puts the argument being read into the queue, if there is one. -/
def flushArgument : Checked Unit := do
  let k ← get
  if k.head ≠ k.start then emitPending .execArg

/-! ## One function for each state that reads a text -/

def operator (kind : Kind) (length : Nat) : Checked Move := do
  let further ← difference length 1
  modify fun k => { k with head := k.head + further }
  Reading.trackBracket kind
  let k ← get
  let text ← textTo (k.head + 1)
  Reading.emit ⟨⟨k.start, text.length⟩, kind, String.ofList text⟩
  return .advance .start

def identifier (c : Char) : Checked Move := do
  let k ← get
  if c = '.' && k.next != some '.' then
    if k.start = k.head then throw (.problem .emptyIdentifier)
    else
      emitPending .name
      Reading.emitMark .dot '.'
      Reading.startAt (k.head + 1)
      return .advance .identifier
  else if Text.isBlank c || Reader.identifierEnds.contains c then
    if k.start = k.head then throw (.problem .emptyIdentifier)
    else
      emitPending .name
      return .reread .start
  else if c = '@' then throw (.problem .unexpectedChar)
  else return .advance .identifier

def quotedLiteral (quote : Char) (escaped : Bool) (c : Char) : Checked Move := do
  let k ← get
  if escaped || c = '\\' then return .advance (.quotedLiteral quote !escaped)
  else if c = quote then
    emitPending (if k.context.prev == some .execArg then .execArg else .quotedString)
    return .advance .start
  else return .advance (.quotedLiteral quote escaped)

def quotedArgList (escaped : Bool) (quote : Option Char) (c : Char) : Checked Move := do
  let k ← get
  if escaped || c = '\\' then return .advance (.quotedArgList (!escaped) quote)
  else if c = '"' || c = '\'' then
    match quote with
    | none =>
      Reading.startAt (k.head + 1)
      return .advance (.quotedArgList false (some c))
    | some opened =>
      if c = opened then
        emitPending .execArg
        Reading.startAt (k.head + 1)
        return .advance (.quotedArgList false none)
      else return .advance (.quotedArgList false quote)
  else if quote.isSome then return .advance (.quotedArgList false quote)
  else if c = '|' then
    flushArgument
    Reading.emitMark .pipe '|'
    Reading.startAt (k.head + 1)
    return .advance (.quotedArgList false none)
  else if c = Reader.backtick then
    flushArgument
    return .advance .start
  else if Text.isBlank c then
    flushArgument
    Reading.startAt (k.head + 1)
    return .advance (.quotedArgList false none)
  else return .advance (.quotedArgList false none)

def unquotedLiteral (c : Char) : Checked Move := do
  let spaced := Text.isBlank c && c != '\n'
  let ahead ← ahead c
  let word ← pending
  let k ← get
  let kind := wordKind k.context word
  let ranged := ahead == '.' && k.next == some '.'
  if !spaced && ahead == '.' && !ranged && (kind == .name || kind == .implicitLambdaParam) then
    if word.isEmpty then
      Reading.emitMark .dot '.'
      return .advance .start
    else
      emitPending kind
      Reading.emitMark .dot '.'
      return .advance .start
  else if callMarks.contains ahead then
    if (keyword? (String.ofList word)).isSome then
      emitPending kind
      return .reread .start
    else
      Reading.emitAll (pathTokens k.start [] word)
      return .reread .start
  else if spaced || wordEnds.contains ahead || ranged then
    emitPending kind
    return .reread .start
  else if c = '@' then throw (.problem .unexpectedChar)
  else return .advance .unquotedLiteral

def number (hasPoint first : Bool) (c : Char) : Checked Move := do
  let k ← get
  let kind := Reader.numberKind k.context hasPoint
  if c = '.' then
    if k.next = some '.' then
      emitPending kind
      return .reread .start
    else if hasPoint then throw (.problem .unexpectedChar)
    else return .advance (.number true false)
  else if c.isDigit || (first && c == '-') then return .advance (.number hasPoint false)
  else if kind != .execArg && Text.isAlphabetic c then
    let unit := Text.lowerCase (String.ofList (← letters))
    match Quantity.ofUnit? unit with
    | none => throw (.problem (.unknownUnit unit))
    | some _ =>
      let length ← difference (k.head + unit.length) k.start
      let value ← pending
      Reading.emit ⟨⟨k.start, length⟩, if hasPoint then .unitFloat else .unitInteger,
        String.ofList value ++ ":" ++ unit⟩
      modify fun k => { k with head := k.head + unit.length }
      return .reread .start
  else
    emitPending kind
    return .reread .start

end Checked

/-- What a state does with the character at the head, watching its range. Between tokens, and in a comment,
    no text is read. -/
def Node.checked (node : Node) (c : Char) : Checked Move :=
  match node with
  | start => Reading.start c
  | operator kind length => Checked.operator kind length
  | comment => Reading.comment c
  | identifier => Checked.identifier c
  | quotedLiteral quote escaped => Checked.quotedLiteral quote escaped c
  | quotedArgList escaped quote => Checked.quotedArgList escaped quote c
  | unquotedLiteral => Checked.unquotedLiteral c
  | number hasPoint first => Checked.number hasPoint first c

/-- One step, on the character at the head, or none where it would leave the range of the input. -/
def Machine.checkedStep (m : Machine) : Option (EStateM.Result LexError Machine Unit) :=
  match m.cursor.rest with
  | [] => some (.ok () m)
  | c :: _ =>
    match (m.node.checked c).run m.cursor with
    | .ok move cursor => some (.ok () (move.machine cursor))
    | .error (.problem problem) cursor =>
      some (.error ⟨problem, cursor.head, cursor.rest.head?, m.node.state⟩ ⟨.start, cursor⟩)
    | .error .outOfRange _ => none

end CommandScript.Lexer
