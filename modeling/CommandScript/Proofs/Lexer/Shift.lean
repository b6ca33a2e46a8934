import CommandScript.Proofs.Lexer.Stream
import Mathlib.Tactic.SplitIfs

/-!
Reading does not depend on where a source begins. A reader that stands a number of
characters further on does the same with the same characters, and every span and every
error is as many characters further on.
-/
namespace CommandScript

/-- The same span, `n` characters further on. -/
def Span.shift (n : Nat) (span : Span) : Span := { span with offset := span.offset + n }

/-- The same token, `n` characters further on. -/
def Token.shift (n : Nat) (token : Token) : Token := { token with span := token.span.shift n }

namespace Lexer

/-- The same error, `n` characters further on. -/
def LexError.shift (n : Nat) (error : LexError) : LexError :=
  { error with offset := error.offset + n }

theorem pathPart_shift (n start : Nat) (part : List Char) :
    pathPart (start + n) part = (pathPart start part).map (.shift n) := by
  unfold pathPart
  split_ifs <;> rfl

theorem pathTokens_shift (n start : Nat) (part chars : List Char) :
    pathTokens (start + n) part chars = (pathTokens start part chars).map (.shift n) := by
  induction chars generalizing start part with
  | nil => exact pathPart_shift n start part
  | cons c chars ih =>
    have onward : start + n + part.length = start + part.length + n := by omega
    have behind : start + part.length + n + 1 = start + part.length + 1 + n := by omega
    simp only [pathTokens]
    split_ifs
    · rw [pathPart_shift, onward, behind, ih]
      simp [Token.shift, Span.shift]
    · exact ih start (part ++ [c])

/-- The same action of a reader that stands `n` characters further on. -/
def Action.shift (n : Nat) : Action → Action
  | .keep next => .keep next
  | .emit tokens count next => .emit (tokens.map (.shift n)) count next
  | .newline => .newline

namespace Reader
variable {r : Reader} {c : Char} {tail : List Char} {n : Nat}

/-- The same reader, `n` characters further on. -/
def shift (n : Nat) (r : Reader) : Reader := { r with start := r.start + n }

@[simp] theorem shift_state : (r.shift n).state = r.state := rfl

@[simp] theorem shift_context : (r.shift n).context = r.context := rfl

@[simp] theorem shift_start : (r.shift n).start = r.start + n := rfl

@[simp] theorem shift_text : (r.shift n).text = r.text := rfl

theorem head_shift : (r.shift n).head = r.head + n := Nat.add_right_comm ..

theorem lexeme_shift (kind : Kind) : (r.shift n).lexeme kind = (r.lexeme kind).shift n := rfl

theorem mark_shift (kind : Kind) : (r.shift n).mark kind c = (r.mark kind c).shift n := by
  simp [mark, head_shift, Token.shift, Span.shift]

theorem argument_shift : (r.shift n).argument = r.argument.map (.shift n) := by
  unfold argument
  rw [shift_text, lexeme_shift]
  split <;> rfl

/-! ## Actions, one state at a time -/

theorem startAction_shift :
    (r.shift n).startAction c tail = (r.startAction c tail).map (.shift n) := by
  unfold startAction
  rw [shift_context, head_shift, mark_shift]
  by_cases feed : c = '\n'
  · rw [if_pos feed, if_pos feed]
    rfl
  rw [if_neg feed, if_neg feed]
  by_cases blank : Text.isBlank c = true
  · rw [if_pos blank, if_pos blank]
    rfl
  rw [if_neg blank, if_neg blank]
  cases operator? r.context (c :: tail) with
  | some found => rfl
  | none =>
    dsimp only
    generalize wordKind r.context [] = kind
    generalize Text.isAlphabetic c = letter
    generalize tail.head?.any Char.isDigit = digit
    split_ifs <;> rfl

theorem identifierAction_shift :
    (r.shift n).identifierAction c tail = (r.identifierAction c tail).map (.shift n) := by
  unfold identifierAction
  rw [shift_text, lexeme_shift, mark_shift]
  split_ifs <;> rfl

theorem quotedLiteralAction_shift (quote : Char) (escaped : Bool) :
    (r.shift n).quotedLiteralAction quote escaped c = (r.quotedLiteralAction quote escaped c).shift n := by
  unfold quotedLiteralAction
  rw [shift_context]
  dsimp only
  split
  · rfl
  · split <;> rfl

theorem quotedArgListAction_shift (escaped : Bool) (quote : Option Char) :
    (r.shift n).quotedArgListAction escaped quote c = (r.quotedArgListAction escaped quote c).shift n := by
  unfold quotedArgListAction
  rw [argument_shift, lexeme_shift, mark_shift]
  split
  · rfl
  cases quote with
  | some opened =>
    dsimp only
    split <;> rfl
  | none =>
    dsimp only
    split_ifs <;> simp [Action.shift]

theorem unquotedLiteralAction_shift :
    (r.shift n).unquotedLiteralAction c tail = (r.unquotedLiteralAction c tail).map (.shift n) := by
  unfold unquotedLiteralAction
  rw [shift_context, shift_text, shift_start, pathTokens_shift, mark_shift]
  dsimp only
  split_ifs <;> rfl

theorem numberAction_shift (hasPoint : Bool) :
    (r.shift n).numberAction hasPoint c tail = (r.numberAction hasPoint c tail).map (.shift n) := by
  unfold numberAction
  rw [shift_context]
  generalize Text.lowerCase (String.ofList ((c :: tail).takeWhile Text.isAlphabetic)) = unit
  dsimp only
  cases Quantity.ofUnit? unit with
  | some quantity =>
    dsimp only
    split_ifs <;> rfl
  | none =>
    dsimp only
    split_ifs <;> rfl

theorem action_shift : (r.shift n).action c tail = (r.action c tail).map (.shift n) := by
  unfold Reader.action
  rw [shift_state]
  cases r.state with
  | start => exact startAction_shift
  | comment =>
    dsimp only
    split_ifs <;> rfl
  | identifier => exact identifierAction_shift
  | quotedLiteral quote escaped => exact congrArg Except.ok (quotedLiteralAction_shift quote escaped)
  | quotedArgList escaped quote => exact congrArg Except.ok (quotedArgListAction_shift escaped quote)
  | unquotedLiteral => exact unquotedLiteralAction_shift
  | number hasPoint => exact numberAction_shift hasPoint

/-! ## Steps and runs -/

theorem emitted_shift (action : Action) :
    (r.shift n).emitted (action.shift n) = (r.emitted action).map (.shift n) := by
  cases action with
  | keep => rfl
  | emit => rfl
  | newline =>
    simp only [emitted, Action.shift, head_shift, shift_context]
    split_ifs <;> rfl

theorem moved_shift (action : Action) :
    (r.shift n).moved c tail (action.shift n) = (r.moved c tail action).shift n := by
  cases action with
  | keep => rfl
  | emit tokens count next =>
    have onward : r.head + n + count = r.head + count + n := Nat.add_right_comm ..
    simp only [moved, Action.shift, head_shift, shift_context, List.map_map, onward]
    rfl
  | newline =>
    have onward : r.head + n + 1 = r.head + 1 + n := Nat.add_right_comm ..
    simp only [moved, Action.shift, head_shift, shift_context, onward]
    rfl

theorem step_shift_ok {tokens : List Token} {next : Reader} (done : r.step c tail = .ok (tokens, next)) :
    (r.shift n).step c tail = .ok (tokens.map (.shift n), next.shift n) := by
  unfold step at done ⊢
  rw [action_shift]
  cases acted : r.action c tail with
  | error problem => simp [acted] at done
  | ok action =>
    simp only [acted, Except.ok.injEq, Prod.mk.injEq] at done
    simp [Except.map, emitted_shift, moved_shift, done]

theorem step_shift_error {error : LexError} (failed : r.step c tail = .error error) :
    (r.shift n).step c tail = .error (error.shift n) := by
  unfold step at failed ⊢
  rw [action_shift]
  cases acted : r.action c tail with
  | error problem =>
    simp only [acted, Except.error.injEq] at failed
    simp [Except.map, LexError.shift, head_shift, ← failed]
  | ok action => simp [acted] at failed

theorem finish_shift : (r.shift n).finish = r.finish.map (.shift n) := by
  simp only [finish, shift_state, head_shift]
  split_ifs <;> rfl

/-- A whole run from `n` characters further on. -/
theorem run_shift (r : Reader) (n : Nat) :
    (r.shift n).run = (r.run.1.map (.shift n), r.run.2.map (.shift n)) := by
  generalize read : r.run = result
  fun_induction run r generalizing result with
  | case1 r rest =>
    rw [run_nil (r := r.shift n) rest, finish_shift, ← read]
    rfl
  | case2 r c tail rest error failed =>
    rw [run_error (r := r.shift n) rest (step_shift_error failed), ← read]
    rfl
  | case3 r c tail rest tokens next done later error ran ih =>
    rw [run_ok (r := r.shift n) rest (step_shift_ok done), ih _ ran, ← read]
    simp

end Reader

/-- The same item of a stream, `n` characters further on. -/
def TokenStream.shiftItem (n : Nat) : Except LexError Token → Except LexError Token
  | .ok token => .ok (token.shift n)
  | .error error => .error (error.shift n)

/-- A stream of a reader that stands `n` characters further on gives out the same, further on. -/
theorem TokenStream.readerItems_shift (r : Reader) (n : Nat) :
    readerItems (some (r.shift n)) = (readerItems (some r)).map (shiftItem n) := by
  simp only [readerItems, Reader.run_shift, List.map_append, List.map_map]
  cases r.run.2 <;> rfl

end Lexer
end CommandScript
