import CommandScript.Token.Quantity
import CommandScript.Tree

/-!
The rules of lowering, one node at a time: shorthand forms become the nodes they
stand for. A rule looks at a node whose children are lowered already; a node that
has not the form its rule expects is left as it is.
-/
namespace CommandScript.Lowering

/-- A tag as the rules judge it. The tag of a generated node tells the grammar rule that it was
    generated from: between two underscores and the next one. -/
def ruleName (tag : String) : String :=
  match tag.toList with
  | '_' :: '_' :: generated => String.ofList (generated.takeWhile (· != '_'))
  | _ => tag

/-- Whether an implicit lambda below a node ends at its child, rather than to grow around it. -/
def isBoundary (tag : String) : Bool := ["start", "pipeline", "curry"].contains (ruleName tag)

/-- A command takes texts: other leaves are written out. -/
def argument : Tree → Tree
  | .leaf value => .ofText (toString value)
  | tree => tree

/-- A text cut at its first colon. -/
def splitColon? (text : String) : Option (String × String) :=
  match text.toList.dropWhile (· != ':') with
  | [] => none
  | _ :: rest => some (String.ofList (text.toList.takeWhile (· != ':')), String.ofList rest)

/-- A number with a unit, told apart into what the unit measures, the unit and the number. -/
def measured? (read : String → Option Leaf) (children : List Tree) : Option Tree :=
  match children with
  | [.leaf leaf] => do
    let (value, unit) ← leaf.asText? >>= splitColon?
    let quantity ← Quantity.ofUnit? unit
    let value ← read value
    some (.node "unit_literal"
      [.node "unit_type" [.ofText quantity.label], .node "unit" [.ofText (Text.lowerCase unit)],
        .leaf value])
  | _ => none

/-- The parameter of the lambda that a selection stands for. -/
def selectionParam : String := "@@shorthand_select@@"

/-- The selection of a field, as the lambda that selects it. -/
def selection? (children : List Tree) : Option Tree :=
  match children with
  | [field] =>
    some (.node "lambda_func"
      [.ofText selectionParam,
        .node "select_field" [.node "identifier" [.ofText selectionParam], field]])
  | _ => none

/-- The sequences that an assignment can be compounded with. -/
def sequences : List (String × String) :=
  [("seq_and_assign", "and_sequence"), ("seq_or_assign", "or_sequence")]

/-- The operators that an assignment can be compounded with. -/
def operators : List (String × String) :=
  [("plus_assign", "addition"), ("minus_assign", "subtraction"), ("times_assign", "multiply"),
    ("divide_assign", "divide"), ("int_div_assign", "int_divide"), ("mod_assign", "modulus"),
    ("power_assign", "raise_power"), ("pipe_assign", "pipeline"), ("concat_assign", "concatenate")]

/-- A compound assignment, as the assignment of the combination of its target and its value. -/
def reassignment? (combine : List Tree → Tree) (children : List Tree) : Option Tree :=
  match children with
  | [target, value] => some (.node "reassign" [target, combine [target, value]])
  | _ => none

/-- What a node with lowered children stands for, if it is a shorthand in the expected form. -/
def expansion? (tag : String) (children : List Tree) : Option Tree :=
  if tag = "exec" then some (.node "exec" (children.map argument))
  else if tag = "unit_integer_literal" then
    measured? (fun value => (Number.readInt64? value).map .int) children
  else if tag = "unit_float_literal" then
    measured? (fun value => (Double.read? value).map .float) children
  else if tag = "always_loop" then some (.node "while" (.leaf (.bool true) :: children))
  else if tag = "selection_lambda_shorthand" then selection? children
  else match sequences.lookup tag with
  | some sequence =>
    reassignment? (fun pair => .node "logical_sequence" [.node sequence pair]) children
  | none => (operators.lookup tag).bind fun operator => reassignment? (.node operator) children

/-- A node with lowered children, lowered itself. -/
def expanded (tag : String) (children : List Tree) : Tree :=
  (expansion? tag children).getD (.node tag children)

end CommandScript.Lowering
