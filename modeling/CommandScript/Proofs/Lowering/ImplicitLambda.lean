import CommandScript.Lowering
import CommandScript.Proofs.Lowering.Expansion
import CommandScript.Proofs.Tree.Occurrence

/-!
Where implicit lambdas go. A tree awaits a lambda if an implicit parameter stands in it
below no boundary. The lambdas can be written into a tree before anything is lowered:
around the tree, and around each child of a boundary, if it awaits one (`bound`). The
rules then apply to the tree with its lambdas as to any other (`lower_eq_desugared`),
and they neither make nor lose a lambda (`lambda_desugared`).
-/
namespace CommandScript.Lowering
open scoped Classical
open CommandScript.Tree (Stands Occurs occurs_node occurs_leaf)

/-- An implicit parameter stands in the tree, and no node above it is a boundary. -/
def Awaits (tree : Tree) : Prop :=
  ∃ above children, Stands (.node "implicit_lambda_param" children) above tree ∧
    ∀ tag ∈ above, isBoundary tag = false

/-- `tree`, in the form `form`, with the lambda that it awaits, if it awaits one. -/
noncomputable def lambdaAround (tree form : Tree) : Tree :=
  if Awaits tree then enclosed form else form

mutual

/-- The tree with its implicit parameters named, and with the lambdas of those below a boundary. -/
noncomputable def named : Tree → Tree
  | .leaf value => .leaf value
  | .node tag children =>
    if tag = "implicit_lambda_param" then .node "identifier" [.ofText implicitParam]
    else .node tag (namedAll (isBoundary tag) children)

/-- The children of a node, each with its lambda if the node is a boundary. -/
noncomputable def namedAll (boundary : Bool) : List Tree → List Tree
  | [] => []
  | child :: rest =>
    (if boundary then lambdaAround child (named child) else named child) :: namedAll boundary rest

end

/-- The tree with all of its implicit lambdas. -/
noncomputable def bound (tree : Tree) : Tree := lambdaAround tree (named tree)

mutual

/-- The rules applied to every node, children before their parent, and nothing else. -/
def desugared : Tree → Tree
  | .leaf value => .leaf value
  | .node tag children => expanded tag (desugaredAll children)

/-- Trees in a row, the rules applied to each. -/
def desugaredAll : List Tree → List Tree
  | [] => []
  | tree :: rest => desugared tree :: desugaredAll rest

end

theorem loweredAll_eq_map (trees : List Tree) : loweredAll trees = trees.map lowered := by
  induction trees with
  | nil => rfl
  | cons tree rest ih => rw [loweredAll, ih, List.map_cons]

/-- A node is lowered by the rule of its tag once its children are lowered. -/
theorem lowered_node (tag : String) (children : List Tree) : lowered (.node tag children) =
    if tag = "implicit_lambda_param" then ⟨.node "identifier" [.ofText implicitParam], true⟩
    else if isBoundary tag then ⟨expanded tag (children.map fun child => (lowered child).closed), false⟩
    else ⟨expanded tag (children.map fun child => (lowered child).tree),
      children.any fun child => (lowered child).awaiting⟩ := by
  rw [lowered, loweredAll_eq_map]
  simp only [List.map_map, List.any_map]
  rfl

theorem desugaredAll_eq_map (trees : List Tree) : desugaredAll trees = trees.map desugared := by
  induction trees with
  | nil => rfl
  | cons tree rest ih => rw [desugaredAll, ih, List.map_cons]

theorem namedAll_eq_map (boundary : Bool) (trees : List Tree) : namedAll boundary trees =
    trees.map fun tree => if boundary then lambdaAround tree (named tree) else named tree := by
  induction trees with
  | nil => rfl
  | cons tree rest ih => rw [namedAll, ih, List.map_cons]

/-! ## What awaits a lambda -/

theorem awaits_leaf (value : Leaf) : ¬ Awaits (.leaf value) := by
  rintro ⟨above, children, stands, _⟩
  cases stands

theorem awaits_node (tag : String) (children : List Tree) : Awaits (.node tag children) ↔
    tag = "implicit_lambda_param" ∨ (isBoundary tag = false ∧ ∃ child ∈ children, Awaits child) := by
  constructor
  · rintro ⟨above, params, stands, inner⟩
    cases stands with
    | here => exact Or.inl rfl
    | within member stands =>
      refine Or.inr ⟨inner tag (List.mem_cons_self ..), _, member, _, params, stands, ?_⟩
      exact fun other later => inner other (List.mem_cons_of_mem _ later)
  · rintro (rfl | ⟨inner, child, member, above, params, stands, free⟩)
    · exact ⟨[], children, .here, nofun⟩
    · refine ⟨tag :: above, params, .within member stands, ?_⟩
      intro other isAbove
      rcases List.mem_cons.mp isAbove with same | later
      · exact same ▸ inner
      · exact free other later

/-- A lowered tree has parameters without a lambda exactly if the tree awaits one. -/
theorem awaiting_iff (tree : Tree) : (lowered tree).awaiting = true ↔ Awaits tree := by
  induction tree with
  | leaf value => simp [lowered, awaits_leaf]
  | node tag children ih =>
    rw [awaits_node, lowered_node]
    split_ifs with param boundary
    · simp [param]
    · simp [param, boundary]
    · have each : (∃ child ∈ children, (lowered child).awaiting = true) ↔ ∃ child ∈ children, Awaits child :=
        exists_congr fun child => and_congr_right fun member => ih child member
      simpa [param, boundary] using each

/-! ## Lambdas and rules -/

theorem desugared_node (tag : String) (children : List Tree) :
    desugared (.node tag children) = expanded tag (children.map desugared) := by
  rw [desugared, desugaredAll_eq_map]

/-- The rules leave a lambda what it is. -/
theorem desugared_enclosed (body : Tree) : desugared (enclosed body) = enclosed (desugared body) := by
  rw [enclosed, desugared_node]
  rfl

theorem closed_eq (tree : Tree) (same : (lowered tree).tree = desugared (named tree)) :
    (lowered tree).closed = desugared (lambdaAround tree (named tree)) := by
  rw [Lowered.closed, lambdaAround, same]
  by_cases awaits : Awaits tree
  · rw [if_pos ((awaiting_iff tree).mpr awaits), if_pos awaits, desugared_enclosed]
  · rw [if_neg (mt (awaiting_iff tree).mp awaits), if_neg awaits]

/-- A tree lowered as a part is the tree with its named parameters, desugared. -/
theorem lowered_tree_eq (tree : Tree) : (lowered tree).tree = desugared (named tree) := by
  induction tree with
  | leaf value => rfl
  | node tag children ih =>
    rw [lowered_node, named, namedAll_eq_map]
    split_ifs with param boundary
    · rw [desugared_node]
      rfl
    · rw [desugared_node, List.map_map]
      refine congrArg (expanded tag) (List.map_congr_left fun child member => ?_)
      rw [Function.comp_apply]
      exact closed_eq child (ih child member)
    · rw [desugared_node, List.map_map]
      refine congrArg (expanded tag) (List.map_congr_left fun child member => ?_)
      rw [Function.comp_apply]
      exact ih child member

theorem lower_eq_desugared (tree : Tree) : lower tree = desugared (bound tree) :=
  closed_eq tree (lowered_tree_eq tree)

/-! ## Rules make no lambda and lose none -/

theorem lambda_leaf (body : Tree) (value : Leaf) : ¬ Occurs (enclosed body) (.leaf value) := by
  simp [occurs_leaf, enclosed]

private theorem lambda_node (body : Tree) {tag : String} (other : tag ≠ "lambda_func")
    (children : List Tree) :
    Occurs (enclosed body) (.node tag children) ↔ ∃ child ∈ children, Occurs (enclosed body) child := by
  simp [occurs_node, enclosed, other.symm]

private theorem lambda_argument (body child : Tree) :
    Occurs (enclosed body) (argument child) ↔ Occurs (enclosed body) child := by
  cases child using Tree.casesOn with
  | leaf value => simp [argument, Tree.ofText, lambda_leaf]
  | node tag children => rfl

private theorem lambda_measured (body : Tree) {tag : String} (other : tag ≠ "lambda_func")
    {read : String → Option Leaf} {children : List Tree} {result : Tree}
    (found : measured? read children = some result) :
    Occurs (enclosed body) result ↔ Occurs (enclosed body) (.node tag children) := by
  obtain ⟨leaf, _, unit, quantity, number, rfl, _, _, _, _, rfl⟩ := measured?_eq_some_iff.mp found
  simp [lambda_node, lambda_leaf, Tree.ofText, other]

/-- What a form stands for has the lambdas of the form. -/
theorem lambda_expands (body : Tree) {tag : String} {children : List Tree} {result : Tree}
    (expands : Expands tag children result) :
    Occurs (enclosed body) result ↔ Occurs (enclosed body) (.node tag children) := by
  cases expands with
  | exec =>
    rw [lambda_node body (by decide), lambda_node body (by decide)]
    exact exists_argument (lambda_argument body) _
  | unitInteger found => exact lambda_measured body (by decide) found
  | unitFloat found => exact lambda_measured body (by decide) found
  | loop => simp [lambda_node, lambda_leaf]
  | selection field =>
    -- The lambda of a selection has another parameter.
    have other : implicitParam ≠ selectionParam := by decide
    have inner (select : Tree) : Occurs (enclosed body)
        (.node "lambda_func" [.ofText selectionParam, select]) ↔ Occurs (enclosed body) select := by
      simp [occurs_node, enclosed, Tree.ofText, occurs_leaf, other]
    rw [inner]
    simp [lambda_node, lambda_leaf, Tree.ofText]
  | sequence target value listed =>
    have tags : ∀ entry ∈ sequences, entry.1 ≠ "lambda_func" ∧ entry.2 ≠ "lambda_func" := by decide
    obtain ⟨tagOther, sequenceOther⟩ := tags _ listed
    simp [lambda_node, tagOther, sequenceOther]
  | operator target value listed =>
    have tags : ∀ entry ∈ operators, entry.1 ≠ "lambda_func" ∧ entry.2 ≠ "lambda_func" := by decide
    obtain ⟨tagOther, operatorOther⟩ := tags _ listed
    simp [lambda_node, tagOther, operatorOther]

theorem lambda_expanded (body : Tree) (tag : String) (children : List Tree) :
    Occurs (enclosed body) (expanded tag children) ↔ Occurs (enclosed body) (.node tag children) := by
  cases expansion : expansion? tag children with
  | none => rw [expanded, expansion, Option.getD_none]
  | some result =>
    rw [expanded, expansion, Option.getD_some]
    exact lambda_expands body (expansion?_eq_some_iff.mp expansion)

theorem expanded_ne_leaf (tag : String) (children : List Tree) (value : Leaf) :
    expanded tag children ≠ .leaf value := by
  intro same
  rw [expanded] at same
  cases expansion : expansion? tag children with
  | none => simp [expansion] at same
  | some result =>
    have expands := expansion?_eq_some_iff.mp expansion
    rw [expansion, Option.getD_some] at same
    subst same
    cases expands with
    | unitInteger found | unitFloat found =>
      obtain ⟨_, _, _, _, _, _, _, _, _, _, impossible⟩ := measured?_eq_some_iff.mp found
      contradiction

/-- A lambda around a desugared body comes from a lambda around the body. -/
private theorem desugared_eq_enclosed {tag : String} {children : List Tree} {body : Tree} :
    .node tag (children.map desugared) = enclosed body ↔
      ∃ inner, enclosed inner = .node tag children ∧ desugared inner = body := by
  constructor
  · intro same
    simp only [enclosed, Tree.node.injEq] at same
    obtain ⟨rfl, parts⟩ := same
    obtain ⟨param, rest, rfl, paramSame, restSame⟩ := List.map_eq_cons_iff.mp parts
    obtain ⟨inner, tail, rfl, innerSame, tailSame⟩ := List.map_eq_cons_iff.mp restSame
    have noMore : tail = [] := List.map_eq_nil_iff.mp tailSame
    have paramLeaf : param = .ofText implicitParam := by
      cases param using Tree.casesOn with
      | leaf value => exact paramSame
      | node tag children =>
        rw [desugared_node] at paramSame
        exact absurd paramSame (expanded_ne_leaf tag _ _)
    exact ⟨inner, by rw [noMore, paramLeaf, enclosed], innerSame⟩
  · rintro ⟨inner, same, rfl⟩
    simp only [enclosed, Tree.node.injEq] at same
    obtain ⟨rfl, rfl⟩ := same
    rfl

/-- The lambdas of a desugared tree are those of the tree, with their bodies desugared. -/
theorem lambda_desugared (body tree : Tree) : Occurs (enclosed body) (desugared tree) ↔
    ∃ inner, Occurs (enclosed inner) tree ∧ desugared inner = body := by
  induction tree with
  | leaf value =>
    have absent (inner : Tree) : ¬ Occurs (enclosed inner) (.leaf value) := lambda_leaf inner value
    simp [desugared, absent]
  | node tag children ih =>
    rw [desugared_node, lambda_expanded, occurs_node, eq_comm, desugared_eq_enclosed]
    constructor
    · rintro (⟨inner, same, rfl⟩ | ⟨result, member, occurs⟩)
      · exact ⟨inner, occurs_node.mpr (Or.inl same), rfl⟩
      · obtain ⟨child, isChild, rfl⟩ := List.mem_map.mp member
        obtain ⟨inner, within, rfl⟩ := (ih child isChild).mp occurs
        exact ⟨inner, occurs_node.mpr (Or.inr ⟨child, isChild, within⟩), rfl⟩
    · rintro ⟨inner, occurs, rfl⟩
      rcases occurs_node.mp occurs with same | ⟨child, isChild, within⟩
      · exact Or.inl ⟨inner, same, rfl⟩
      · refine Or.inr ⟨desugared child, List.mem_map_of_mem isChild, ?_⟩
        exact (ih child isChild).mpr ⟨inner, within, rfl⟩

/-- Lowering puts a lambda around the tree and around each child of a boundary that awaits one, and
    nowhere else: it is the desugaring of the tree with just these lambdas, and desugaring makes and
    loses none. What is lowered as a part has parameters without a lambda exactly if it awaits one. -/
theorem implicit_lambda_placement (tree : Tree) :
    ((lowered tree).awaiting = true ↔ Awaits tree) ∧ lower tree = desugared (bound tree) ∧
      ∀ body, Occurs (enclosed body) (lower tree) ↔
        ∃ inner, Occurs (enclosed inner) (bound tree) ∧ desugared inner = body := by
  refine ⟨awaiting_iff tree, lower_eq_desugared tree, fun body => ?_⟩
  rw [lower_eq_desugared tree]
  exact lambda_desugared body (bound tree)

end CommandScript.Lowering
