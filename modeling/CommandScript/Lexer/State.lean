import CommandScript.Token.Kind

/-!
What a lexer remembers besides the text it is reading: which construct it is in,
the kind of the last token of the line, and how deeply it is nested in brackets.
-/
namespace CommandScript.Lexer

/-- The construct that the next character belongs to. -/
inductive State
  /-- between two tokens -/
  | start
  /-- from `#` to the end of the line -/
  | comment
  /-- a name that began with `@` -/
  | identifier
  /-- a text between two equal quotes; `escaped` if a backslash came just before -/
  | quotedLiteral (quote : Char) (escaped : Bool)
  /-- a list of command arguments between backticks; `quote` is the quote that is open -/
  | quotedArgList (escaped : Bool) (quote : Option Char)
  /-- a bare word, whose kind depends on what stands around it -/
  | unquotedLiteral
  /-- a number, with its point or not yet -/
  | number (hasPoint : Bool)
deriving DecidableEq

/-- The name by which an error mentions a state. -/
def State.name : State → String
  | start => "Start"
  | comment => "Comment"
  | identifier => "Identifier"
  | quotedLiteral _ _ => "QuotedLiteral"
  | quotedArgList _ _ => "QuotedArgList"
  | unquotedLiteral => "UnquotedLiteral"
  | number _ => "Number"

/-- What the tokens read so far say about the next one. -/
structure Context where
  /-- the kind of the last token, unless a line feed came after it -/
  prev : Option Kind := none
  parens : Nat := 0
  curlies : Nat := 0
  squares : Nat := 0
deriving DecidableEq

namespace Context

/-- The context behind a token. A bracket that closes nothing is ignored. -/
def after (context : Context) (kind : Kind) : Context :=
  let next := { context with prev := some kind }
  match kind with
  | .parenOpen => { next with parens := context.parens + 1 }
  | .parenClose => { next with parens := context.parens - 1 }
  | .curlyOpen => { next with curlies := context.curlies + 1 }
  | .curlyClose => { next with curlies := context.curlies - 1 }
  | .squareOpen => { next with squares := context.squares + 1 }
  | .squareClose => { next with squares := context.squares - 1 }
  | _ => next

/-- The context behind several tokens. -/
def afterAll (context : Context) (kinds : List Kind) : Context := kinds.foldl after context

/-- The context at the beginning of a line: only the brackets are remembered. -/
def newline (context : Context) : Context := { context with prev := none }

/-- Whether any bracket is open. -/
def inBrackets (context : Context) : Bool :=
  0 < context.parens || 0 < context.curlies || 0 < context.squares

end Context
end CommandScript.Lexer
