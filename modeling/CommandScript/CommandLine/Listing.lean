import CommandScript.Lexer.Run

/-!
What is printed for a source: a line for each token, and where the first error is.
-/
namespace CommandScript.CommandLine

/-- How a token is printed. -/
inductive Format
  /-- the kind, and the text as it is between single quotes -/
  | plain
  /-- the kind, the quoted text and the span -/
  | debug
deriving DecidableEq

namespace Format

def label : Format → String
  | plain => "plain"
  | debug => "debug"

def ofLabel? (label : String) : Option Format := [plain, debug].find? (·.label == label)

/-- What is printed for a token. -/
def render : Format → Token → String
  | plain, token => token.kind.label ++ " '" ++ token.text ++ "'"
  | debug, token => token.bracketed ++ " @ " ++ toString token.span

end Format

/-- How the tokens of a source are printed. -/
structure Style where
  format : Format := .plain
  /-- whether inserted statement terminators are left out -/
  skipSynthetic : Bool := false
deriving DecidableEq

/-- What is printed for a token, if it is printed at all. -/
def Style.line? (style : Style) (token : Token) : Option String :=
  if style.skipSynthetic && token.isSynthetic then none else some (style.format.render token)

/-- A text to read, and what it is called. -/
structure Source where
  name : String
  text : String

namespace Source

/-- Where in a source an error is. -/
def locate (source : Source) (error : Lexer.LexError) : String :=
  let location := error.span.location source.text.toList
  source.name ++ ":" ++ toString location.line ++ ":" ++ toString location.column

/-- An error with the place where it is. -/
def describe (source : Source) (error : Lexer.LexError) : String :=
  source.locate error ++ ": " ++ error.message

/-- What is printed for each token of a source, and what is said of its first error. -/
def listing (source : Source) (style : Style) : List String × Option String :=
  let (tokens, error) := Lexer.lex source.text
  (tokens.filterMap style.line?, error.map source.describe)

end Source
end CommandScript.CommandLine
