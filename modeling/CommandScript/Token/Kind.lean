namespace CommandScript

/-- The kinds of token. -/
inductive Kind
  -- content
  | name | execArg | integer | float | unitInteger | unitFloat | quotedString | implicitLambdaParam
  -- reserved words; `!` is read as `kwNot` too
  | kwAssert | kwFn | kwFor | kwWhile | kwLoop | kwContinue | kwBreak | kwTrue | kwFalse
  | kwAnd | kwOr | kwXor | kwNot | kwReturn | kwIf | kwDo | kwIn | kwImport | kwElse | kwElif
  | kwTry | kwCatch | kwAs | kwVar | kwConst | kwClass | kwWith | kwBy | kwSay
  -- structure
  | ellipsis | declare | assign | colon | doubleColon | dot | range | comma | semicolon | pipe
  | lambda | arrow | curry | async | appendFile
  | parenOpen | parenClose | curlyOpen | curlyClose | squareOpen | squareClose
  | angleOpen | angleClose
  -- comparison and sequencing
  | equals | notEquals | gte | lte | seqAnd | seqOr | concat
  -- arithmetic
  | plus | minus | times | divide | intDiv | mod | power
  -- compound assignment
  | plusAssign | minusAssign | timesAssign | divideAssign | modAssign | powerAssign
  | intDivAssign | concatAssign | pipeAssign | seqAndAssign | seqOrAssign
deriving DecidableEq

namespace Kind

/-- The name under which a grammar knows the kind. -/
def label : Kind → String
  | name => "NAME" | execArg => "EXEC_ARG" | integer => "INTEGER" | float => "FLOAT"
  | unitInteger => "UNIT_INTEGER" | unitFloat => "UNIT_FLOAT" | quotedString => "QUOTED_STRING"
  | implicitLambdaParam => "IMPLICIT_LAMBDA_PARAM"
  | kwAssert => "ASSERT" | kwFn => "FN" | kwFor => "FOR" | kwWhile => "WHILE"
  | kwLoop => "ALWAYS_LOOP" | kwContinue => "CONTINUE" | kwBreak => "BREAK" | kwTrue => "TRUE"
  | kwFalse => "FALSE" | kwAnd => "AND" | kwOr => "OR" | kwXor => "XOR" | kwNot => "NOT"
  | kwReturn => "RETURN" | kwIf => "IF" | kwDo => "DO" | kwIn => "IN" | kwImport => "IMPORT"
  | kwElse => "ELSE" | kwElif => "ELIF" | kwTry => "TRY" | kwCatch => "CATCH" | kwAs => "AS"
  | kwVar => "VAR" | kwConst => "CONST" | kwClass => "CLASS" | kwWith => "WITH" | kwBy => "BY"
  | kwSay => "SAY"
  | ellipsis => "ELLIPSIS" | declare => "DECLARE" | assign => "ASSIGN" | colon => "COLON"
  | doubleColon => "NAMESPACE" | dot => "DOT" | range => "RANGE" | comma => "COMMA"
  | semicolon => "SEMICOLON" | pipe => "PIPE" | lambda => "LAMBDA" | arrow => "ARROW"
  | curry => "CURRY" | async => "ASYNC" | appendFile => "APPEND_FILE"
  | parenOpen => "PAREN_OPEN" | parenClose => "PAREN_CLOSE" | curlyOpen => "CURLY_OPEN"
  | curlyClose => "CURLY_CLOSE" | squareOpen => "SQUARE_OPEN" | squareClose => "SQUARE_CLOSE"
  | angleOpen => "ANGLE_OPEN" | angleClose => "ANGLE_CLOSE"
  | equals => "EQUALS" | notEquals => "NOT_EQUALS" | gte => "GTE" | lte => "LTE"
  | seqAnd => "SEQ_AND" | seqOr => "SEQ_OR" | concat => "CONCAT"
  | plus => "PLUS" | minus => "MINUS" | times => "TIMES" | divide => "DIVIDE"
  | intDiv => "INT_DIV" | mod => "MOD" | power => "POWER"
  | plusAssign => "PLUS_ASSIGN" | minusAssign => "MINUS_ASSIGN" | timesAssign => "TIMES_ASSIGN"
  | divideAssign => "DIVIDE_ASSIGN" | modAssign => "MOD_ASSIGN" | powerAssign => "POWER_ASSIGN"
  | intDivAssign => "INT_DIV_ASSIGN" | concatAssign => "CONCAT_ASSIGN" | pipeAssign => "PIPE_ASSIGN"
  | seqAndAssign => "SEQ_AND_ASSIGN" | seqOrAssign => "SEQ_OR_ASSIGN"

/-- Every kind, once. -/
def all : List Kind :=
  [name, execArg, integer, float, unitInteger, unitFloat, quotedString, implicitLambdaParam,
    kwAssert, kwFn, kwFor, kwWhile, kwLoop, kwContinue, kwBreak, kwTrue, kwFalse,
    kwAnd, kwOr, kwXor, kwNot, kwReturn, kwIf, kwDo, kwIn, kwImport, kwElse, kwElif,
    kwTry, kwCatch, kwAs, kwVar, kwConst, kwClass, kwWith, kwBy, kwSay,
    ellipsis, declare, assign, colon, doubleColon, dot, range, comma, semicolon, pipe,
    lambda, arrow, curry, async, appendFile,
    parenOpen, parenClose, curlyOpen, curlyClose, squareOpen, squareClose, angleOpen, angleClose,
    equals, notEquals, gte, lte, seqAnd, seqOr, concat,
    plus, minus, times, divide, intDiv, mod, power,
    plusAssign, minusAssign, timesAssign, divideAssign, modAssign, powerAssign,
    intDivAssign, concatAssign, pipeAssign, seqAndAssign, seqOrAssign]

/-- The kind with this label. -/
def ofLabel? (label : String) : Option Kind := all.find? (·.label == label)

instance : ToString Kind := ⟨label⟩

end Kind

/-- Each reserved word, in lower case only, with the kind it is read as. -/
def keywords : List (String × Kind) :=
  [("assert", .kwAssert), ("fn", .kwFn), ("for", .kwFor), ("while", .kwWhile), ("loop", .kwLoop),
    ("continue", .kwContinue), ("break", .kwBreak), ("true", .kwTrue), ("false", .kwFalse),
    ("and", .kwAnd), ("or", .kwOr), ("xor", .kwXor), ("not", .kwNot), ("return", .kwReturn),
    ("ret", .kwReturn), ("if", .kwIf), ("do", .kwDo), ("in", .kwIn), ("import", .kwImport),
    ("else", .kwElse), ("elif", .kwElif), ("try", .kwTry), ("catch", .kwCatch), ("as", .kwAs),
    ("var", .kwVar), ("const", .kwConst), ("class", .kwClass), ("with", .kwWith), ("by", .kwBy),
    ("say", .kwSay)]

/-- The kind of a reserved word. -/
def keyword? (word : String) : Option Kind := keywords.lookup word

end CommandScript
