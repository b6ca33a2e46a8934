import CommandScript.Span
import CommandScript.Text.Quoted
import CommandScript.Token.Kind

namespace CommandScript

/-- A lexical token: its kind, its text and where it was read. -/
structure Token where
  span : Span
  kind : Kind
  text : String
deriving DecidableEq

namespace Token

/-- The statement terminator that a line feed stands for. It has no text of its own. -/
def terminator (offset : Nat) : Token := ⟨.emptyAt offset, .semicolon, ""⟩

/-- Whether a token was inserted rather than read; only terminators ever are. -/
def isSynthetic (token : Token) : Bool := token.kind == .semicolon && token.text == ""

/-- Two tokens are the same if they say the same, wherever they stand. -/
def same (a b : Token) : Bool := a.kind == b.kind && a.text == b.text

/-- The kind, then the text between quotes. -/
protected def toString (token : Token) : String := token.kind.label ++ " " ++ Text.quoted token.text

instance : ToString Token := ⟨Token.toString⟩

/-- The kind and the quoted text in one pair of brackets. -/
def bracketed (token : Token) : String :=
  "<" ++ token.kind.label ++ ": " ++ Text.quoted token.text ++ ">"

end Token
end CommandScript
