import CommandScript.Lexer.State
import CommandScript.Token

/-!
Bare words. The same word is a command, an argument of one, a name or a reserved
word, by what stands before it; and it is a path of names if a call, a declaration
or an assignment follows.
-/
namespace CommandScript.Lexer

/-- Behind these kinds a bare word is a name rather than a command. -/
def precedesName : Kind → Bool
  | .kwAs | .kwBreak | .kwCatch | .kwClass | .colon | .kwContinue | .dot | .ellipsis | .kwFor
  | .kwFn | .lambda | .doubleColon | .parenClose | .squareClose | .power | .intDiv | .times
  | .divide | .plus | .minus | .mod => true
  | _ => false

/-- Whether a bare word is an implicit parameter or a path from one. -/
def startsImplicit : List Char → Bool
  | ['_'] => true
  | '_' :: '.' :: _ => true
  | _ => false

/-- The kind of a bare word, by what stands before it. -/
def wordKind (context : Context) (word : List Char) : Kind :=
  if context.prev == some .execArg then .execArg
  else match keyword? (String.ofList word) with
  | some kind => kind
  | none =>
    if startsImplicit word then .implicitLambdaParam
    else if context.inBrackets || context.prev.any precedesName then .name
    else .execArg

/-- A bare word makes a name if one of these comes next. -/
def callMarks : List Char := ['(', ':', '=']

/-- The characters besides blanks that end a bare word. -/
def wordEnds : List Char := ['<', '>', '{', '}', '[', ']', ')', '|', ';', ',', '\n']

/-- A part of a dotted path. An empty part makes no token. -/
def pathPart (start : Nat) (part : List Char) : List Token :=
  if part.isEmpty then []
  else
    [⟨⟨start, part.length⟩, if part = ['_'] then .implicitLambdaParam else .name, String.ofList part⟩]

/-- A word cut at its dots. `part` are the characters read since the last dot. -/
def pathTokens (start : Nat) (part : List Char) : List Char → List Token
  | [] => pathPart start part
  | c :: rest =>
    if c = '.' then
      pathPart start part ++ ⟨⟨start + part.length, 1⟩, .dot, "."⟩
        :: pathTokens (start + part.length + 1) [] rest
    else pathTokens start (part ++ [c]) rest

end CommandScript.Lexer
