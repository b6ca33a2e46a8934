import CommandScript.Number.Double
import CommandScript.Token

/-!
Syntax trees. A node has a tag and children; what it means is for its tag to say.
A leaf holds a token or a literal value. Trees are written in two ways: indented,
one node or leaf on a line, or all in one line.
-/
namespace CommandScript

/-- A value at the edge of a tree. -/
inductive Leaf
  | token (token : Token)
  | text (text : String)
  | int (value : Int64)
  | float (value : Double)
  | bool (value : Bool)
deriving DecidableEq

namespace Leaf

/-- The text of a token or of a text. -/
def asText? : Leaf → Option String
  | token t => some t.text
  | text s => some s
  | _ => none

/-- A value as it is read by people. -/
protected def toString : Leaf → String
  | token t => t.text
  | text s => s
  | int value => toString value.toInt
  | float value => toString value
  | bool value => toString value

instance : ToString Leaf := ⟨Leaf.toString⟩

/-- A value with its kind told: tokens in brackets, texts in quotes. -/
def compact : Leaf → String
  | token t => t.bracketed
  | text s => Text.quoted s
  | other => toString other

/-- Equality of values: tokens wherever they stand, floating-point numbers as numbers. -/
def same : Leaf → Leaf → Bool
  | token a, token b => a.same b
  | text a, text b => a == b
  | int a, int b => a == b
  | float a, float b => a.equal b
  | bool a, bool b => a == b
  | _, _ => false

end Leaf

/-- A syntax tree. -/
inductive Tree
  | node (tag : String) (children : List Tree)
  | leaf (leaf : Leaf)

namespace Tree

def tag? : Tree → Option String
  | node tag _ => some tag
  | leaf _ => none

def children : Tree → List Tree
  | node _ children => children
  | leaf _ => []

/-- A leaf that holds a text. -/
def ofText (s : String) : Tree := leaf (.text s)

mutual

/-- Equality of trees by tag, children and the values of their leaves. -/
def same : Tree → Tree → Bool
  | node a as, node b bs => a == b && sameAll as bs
  | leaf a, leaf b => a.same b
  | _, _ => false

/-- Equality of trees in a row. -/
def sameAll : List Tree → List Tree → Bool
  | [], [] => true
  | a :: as, b :: bs => same a b && sameAll as bs
  | _, _ => false

end

/-- The blanks at the beginning of a line. -/
def indent (level : Nat) : String := String.ofList (List.replicate (2 * level) ' ')

mutual

/-- The lines of an indented tree. The only child of a node stands on its line if it is a leaf. -/
def lines (level : Nat) : Tree → List String
  | leaf value => [indent level ++ toString value]
  | node tag [leaf value] => [indent level ++ tag ++ "\t" ++ toString value]
  | node tag children => (indent level ++ tag) :: linesAll (level + 1) children

/-- The lines of indented trees in a row. -/
def linesAll (level : Nat) : List Tree → List String
  | [] => []
  | tree :: rest => lines level tree ++ linesAll level rest

end

/-- A tree written over several lines, each of them ended. -/
def layout (tree : Tree) : String := String.join ((lines 0 tree).map (· ++ "\n"))

/-- A tree written over several lines, or a leaf as it is. -/
protected def toString : Tree → String
  | leaf value => toString value
  | tree => tree.layout

instance : ToString Tree := ⟨Tree.toString⟩

mutual

/-- A tree in one line: the tag, and the children in parentheses. -/
def compact : Tree → String
  | leaf value => value.compact
  | node tag children => tag ++ "(" ++ ", ".intercalate (compactAll children) ++ ")"

/-- Trees in a row, each in one line. -/
def compactAll : List Tree → List String
  | [] => []
  | tree :: rest => compact tree :: compactAll rest

end

end Tree
end CommandScript
