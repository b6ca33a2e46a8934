import CommandScript.Lowering.Rule

/-!
Lowering a syntax tree to its canonical form, children before their parent. A bare
`_` stands for the parameter of a lambda that it does not show. The lambda grows
around the `_` up to the next boundary, so that all `_` below one boundary share it.
-/
namespace CommandScript.Lowering

/-- The parameter of an implicit lambda. -/
def implicitParam : String := "@@implicit_lambda@@"

/-- A lowered tree. It is `awaiting` if its implicit parameters still have no lambda. -/
structure Lowered where
  tree : Tree
  awaiting : Bool

/-- The lambda that the implicit parameters of a tree stand for. -/
def enclosed (body : Tree) : Tree := .node "lambda_func" [.ofText implicitParam, body]

/-- A lowered tree with its implicit parameters bound. -/
def Lowered.closed (lowered : Lowered) : Tree :=
  if lowered.awaiting then enclosed lowered.tree else lowered.tree

mutual

/-- A tree lowered as a part of a larger one. -/
def lowered : Tree → Lowered
  | .leaf value => ⟨.leaf value, false⟩
  | .node tag children =>
    if tag = "implicit_lambda_param" then ⟨.node "identifier" [.ofText implicitParam], true⟩
    else
      let parts := loweredAll children
      if isBoundary tag then ⟨expanded tag (parts.map (·.closed)), false⟩
      else ⟨expanded tag (parts.map (·.tree)), parts.any (·.awaiting)⟩

/-- Trees in a row, each lowered as a part of a larger one. -/
def loweredAll : List Tree → List Lowered
  | [] => []
  | tree :: rest => lowered tree :: loweredAll rest

end

/-- A whole tree, lowered. -/
def lower (tree : Tree) : Tree := (lowered tree).closed

end CommandScript.Lowering
