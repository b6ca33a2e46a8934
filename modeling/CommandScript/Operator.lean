import CommandScript.PatternTrie
import CommandScript.Token.Kind

/-!
The operators. Between the arguments of an external command the arithmetic ones
are ordinary characters, so there are two tries: with them and without them.
-/
namespace CommandScript.Operator

/-- The operators that are read everywhere. -/
def structural : List (String × Kind) :=
  [("...", .ellipsis), (":=", .declare), ("+=", .plusAssign), ("-=", .minusAssign),
    ("*=", .timesAssign), ("/=", .divideAssign), ("%=", .modAssign), ("**=", .powerAssign),
    ("//=", .intDivAssign), ("++=", .concatAssign), ("|=", .pipeAssign), ("&&=", .seqAndAssign),
    ("||=", .seqOrAssign), (">>", .appendFile), ("\\", .lambda), ("->", .arrow), ("&&", .seqAnd),
    ("||", .seqOr), ("::", .doubleColon), ("==", .equals), ("!=", .notEquals), (">=", .gte),
    ("<=", .lte), ("..", .range), ("++", .concat), (":", .colon), ("=", .assign), ("|", .pipe),
    (",", .comma), ("(", .parenOpen), (")", .parenClose), ("\x7b", .curlyOpen), ("\x7d", .curlyClose),
    ("<", .angleOpen), (">", .angleClose), ("[", .squareOpen), ("]", .squareClose),
    (";", .semicolon), ("$", .curry), ("!", .kwNot), ("~", .async)]

/-- The operators that make sense in an expression only. -/
def arithmetic : List (String × Kind) :=
  [("**", .power), ("//", .intDiv), ("*", .times), ("/", .divide), ("+", .plus), ("-", .minus),
    ("%", .mod)]

/-- The trie of the operators that are read everywhere. -/
def structuralTrie : PatternTrie Kind := .ofList structural

/-- The trie of every operator. -/
def fullTrie : PatternTrie Kind := .ofList (structural ++ arithmetic)

end CommandScript.Operator
