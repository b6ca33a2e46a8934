import CommandScript.Lexer.State
import CommandScript.Span
import CommandScript.Text.Quoted

namespace CommandScript.Lexer

/-- What is wrong with a source. -/
inductive Problem
  /-- no token begins with this character -/
  | unimplementedChar
  | unexpectedChar
  /-- the source ends inside a quotation -/
  | unexpectedEnd
  | emptyIdentifier
  /-- the letters behind a number, in lower case, are no unit -/
  | unknownUnit (unit : String)
deriving DecidableEq

def Problem.message : Problem → String
  | unimplementedChar => "read unimplemented char"
  | unexpectedChar => "read unexpected char"
  | unexpectedEnd => "read unexpected end of input"
  | emptyIdentifier => "identifier is empty"
  | unknownUnit unit => "number literal has unknown unit: " ++ unit

/-- Why and where the reading of a source stopped. -/
structure LexError where
  problem : Problem
  offset : Nat
  /-- the character at the offset, if the source has not ended there -/
  found : Option Char
  state : State
deriving DecidableEq

namespace LexError

/-- The offending character, or the empty span at the end of the input. -/
def span (error : LexError) : Span := ⟨error.offset, if error.found.isSome then 1 else 0⟩

def message (error : LexError) : String :=
  error.problem.message ++ " at offset " ++ toString error.offset ++ " (found "
    ++ (match error.found with | some c => Text.quotedChar c | none => "EOF")
    ++ ") while in the " ++ error.state.name ++ " state"

end LexError
end CommandScript.Lexer
