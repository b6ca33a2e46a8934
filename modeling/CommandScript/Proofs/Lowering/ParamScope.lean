import CommandScript.Proofs.Lowering.ImplicitLambda

/-!
The scope of the implicit parameter. A tree in which its name does not occur has the name
in its lowered form only where lowering wrote it: for a `_`, and as the parameter of a
lambda. So what is lowered as a part of a larger tree awaits a lambda exactly if it has a
parameter that no lambda in it binds (`WellScoped`), and no lambda is written that binds
nothing (`implicit_lambda_closed`).
-/
namespace CommandScript.Lowering
open CommandScript.Tree (StandsBelow Occurs occurs_node occurs_leaf)

/-- What a bare `_` is lowered to. -/
def implicitIdentifier : Tree := .node "identifier" [.ofText implicitParam]

/-- An implicit parameter stands in the tree, and no node above it is an implicit lambda. -/
def FreeParam (tree : Tree) : Prop :=
  ∃ above, StandsBelow implicitIdentifier above tree ∧ ∀ body, enclosed body ∉ above

/-! ## Where a parameter is free -/

theorem freeParam_leaf (value : Leaf) : ¬ FreeParam (.leaf value) := by
  rintro ⟨above, stands, _⟩
  cases stands

theorem freeParam_identifier : FreeParam implicitIdentifier := ⟨[], .here, nofun⟩

theorem freeParam_node {tag : String} {children : List Tree} : FreeParam (.node tag children) ↔
    .node tag children = implicitIdentifier ∨
      (∀ body, .node tag children ≠ enclosed body) ∧ ∃ child ∈ children, FreeParam child := by
  constructor
  · rintro ⟨above, stands, free⟩
    cases stands with
    | here => exact Or.inl rfl
    | within member stands =>
      refine Or.inr ⟨fun body same => free body (same ▸ List.mem_cons_self ..), _, member, _, stands, ?_⟩
      exact fun body later => free body (List.mem_cons_of_mem _ later)
  · rintro (same | ⟨other, child, member, above, stands, free⟩)
    · exact same ▸ freeParam_identifier
    · refine ⟨.node tag children :: above, .within member stands, fun body isAbove => ?_⟩
      rcases List.mem_cons.mp isAbove with same | later
      · exact other body same.symm
      · exact free body later

theorem mem_enclosed {child body : Tree} (member : child ∈ (enclosed body).children) :
    child = .ofText implicitParam ∨ child = body := by
  simpa [enclosed, Tree.children] using member

/-- A lambda has no free parameter. -/
theorem freeParam_enclosed (body : Tree) : ¬ FreeParam (enclosed body) := by
  rintro free
  rcases freeParam_node.mp free with same | ⟨other, _⟩
  · simp [implicitIdentifier] at same
  · exact other body rfl

/-- A node that is neither an identifier nor a lambda has the free parameters of its children. -/
theorem freeParam_other {tag : String} (notIdentifier : tag ≠ "identifier") (notLambda : tag ≠ "lambda_func")
    {children : List Tree} : FreeParam (.node tag children) ↔ ∃ child ∈ children, FreeParam child := by
  rw [freeParam_node]
  simp [implicitIdentifier, enclosed, notIdentifier, notLambda]

/-- A node that does not name the implicit parameter has the free parameters of its children. -/
theorem freeParam_nameless {tag : String} {children : List Tree} (nameless : .ofText implicitParam ∉ children) :
    FreeParam (.node tag children) ↔ ∃ child ∈ children, FreeParam child := by
  have notIdentifier : .node tag children ≠ implicitIdentifier := by
    intro same
    obtain ⟨_, rfl⟩ := Tree.node.inj same
    exact nameless (List.mem_cons_self ..)
  have notLambda (body : Tree) : .node tag children ≠ enclosed body := by
    intro same
    obtain ⟨_, rfl⟩ := Tree.node.inj same
    exact nameless (List.mem_cons_self ..)
  rw [freeParam_node]
  simp [notIdentifier, notLambda]

/-! ## Rules bind no parameter and free none -/

theorem freeParam_argument (child : Tree) : FreeParam (argument child) ↔ FreeParam child := by
  cases child using Tree.casesOn with
  | leaf value => simp [argument, Tree.ofText, freeParam_leaf]
  | node tag children => rfl

theorem freeParam_measured {read : String → Option Leaf} {children : List Tree} {result : Tree}
    (found : measured? read children = some result) :
    FreeParam result ↔ ∃ child ∈ children, FreeParam child := by
  obtain ⟨leaf, _, unit, quantity, number, rfl, _, _, _, _, rfl⟩ := measured?_eq_some_iff.mp found
  simp [freeParam_other, freeParam_leaf, Tree.ofText]

theorem freeParam_expands {tag : String} {children : List Tree} {result : Tree}
    (expands : Expands tag children result) :
    FreeParam result ↔ ∃ child ∈ children, FreeParam child := by
  cases expands with
  | exec =>
    rw [freeParam_other (by decide) (by decide)]
    exact exists_argument freeParam_argument _
  | unitInteger found => exact freeParam_measured found
  | unitFloat found => exact freeParam_measured found
  | loop => simp [freeParam_other, freeParam_leaf]
  | selection field =>
    -- The lambda of a selection has another parameter, and binds no implicit one.
    have other : implicitParam ≠ selectionParam := by decide
    simp [freeParam_node, freeParam_leaf, implicitIdentifier, enclosed, Tree.ofText, other.symm]
  | sequence target value listed =>
    have tags : ∀ entry ∈ sequences, entry.2 ≠ "identifier" ∧ entry.2 ≠ "lambda_func" := by decide
    obtain ⟨notIdentifier, notLambda⟩ := tags _ listed
    simp [freeParam_other, notIdentifier, notLambda]
  | operator target value listed =>
    have tags : ∀ entry ∈ operators, entry.2 ≠ "identifier" ∧ entry.2 ≠ "lambda_func" := by decide
    obtain ⟨notIdentifier, notLambda⟩ := tags _ listed
    simp [freeParam_other, notIdentifier, notLambda]

theorem freeParam_expanded {tag : String} {children : List Tree} (nameless : .ofText implicitParam ∉ children) :
    FreeParam (expanded tag children) ↔ ∃ child ∈ children, FreeParam child := by
  cases expansion : expansion? tag children with
  | none => rw [expanded, expansion, Option.getD_none, freeParam_nameless nameless]
  | some result =>
    rw [expanded, expansion, Option.getD_some]
    exact freeParam_expands (expansion?_eq_some_iff.mp expansion)

/-! ## What is lowered is well scoped -/

/-- A lowered tree awaits a lambda exactly if it has a free parameter, and its lambdas bind one. -/
structure WellScoped (lowered : Lowered) : Prop where
  awaits : lowered.awaiting = true ↔ FreeParam lowered.tree
  used : ∀ body, Occurs (enclosed body) lowered.tree → FreeParam body

namespace WellScoped

variable {part : Lowered}

/-- With its lambda, a lowered tree has no free parameter. -/
theorem closed_bound (wellScoped : WellScoped part) : ¬ FreeParam part.closed := by
  rw [Lowered.closed]
  split_ifs with awaiting
  · exact freeParam_enclosed part.tree
  · exact mt wellScoped.awaits.mpr awaiting

/-- The lambda that a lowered tree gets binds the parameter that awaited it. -/
theorem closed_used (wellScoped : WellScoped part) (body : Tree) (occurs : Occurs (enclosed body) part.closed) :
    FreeParam body := by
  rw [Lowered.closed] at occurs
  split_ifs at occurs with awaiting
  · rcases occurs_node.mp occurs with same | ⟨child, member, within⟩
    · simp only [enclosed, Tree.node.injEq, List.cons.injEq, true_and, and_true] at same
      exact same ▸ wellScoped.awaits.mp awaiting
    · rcases mem_enclosed member with rfl | rfl
      · exact absurd within (lambda_leaf body _)
      · exact wellScoped.used body within
  · exact wellScoped.used body occurs

end WellScoped

/-- A rule writes no lambda of its own: around parts that are not the name, all stand in the parts. -/
theorem used_expanded {tag : String} {parts : List Tree} (nameless : .ofText implicitParam ∉ parts)
    (used : ∀ part ∈ parts, ∀ body, Occurs (enclosed body) part → FreeParam body) (body : Tree)
    (occurs : Occurs (enclosed body) (expanded tag parts)) : FreeParam body := by
  rcases occurs_node.mp ((lambda_expanded body tag parts).mp occurs) with same | ⟨part, member, within⟩
  · obtain ⟨_, rfl⟩ := Tree.node.inj same
    exact absurd (List.mem_cons_self ..) nameless
  · exact used part member body within

theorem tree_eq_leaf {tree : Tree} {value : Leaf} (same : (lowered tree).tree = .leaf value) :
    tree = .leaf value := by
  cases tree using Tree.casesOn with
  | leaf other => exact same
  | node tag children =>
    rw [lowered_node] at same
    split_ifs at same with param boundary
    · exact absurd same (expanded_ne_leaf tag _ value)
    · exact absurd same (expanded_ne_leaf tag _ value)

theorem closed_eq_leaf {tree : Tree} {value : Leaf} (same : (lowered tree).closed = .leaf value) :
    tree = .leaf value := by
  rw [Lowered.closed] at same
  split_ifs at same with awaiting
  · contradiction
  · exact tree_eq_leaf same

/-- Where the name of the implicit parameter is unused, lowering keeps to its scopes. -/
theorem wellScoped_lowered {tree : Tree} (unused : ¬ Occurs (.ofText implicitParam) tree) :
    WellScoped (lowered tree) := by
  induction tree with
  | leaf value =>
    refine ⟨?_, fun body occurs => absurd occurs (lambda_leaf body value)⟩
    simp [lowered, freeParam_leaf]
  | node tag children ih =>
    have unusedBelow : ∀ child ∈ children, ¬ Occurs (.ofText implicitParam) child := by
      intro child member occurs
      exact unused (occurs_node.mpr (Or.inr ⟨child, member, occurs⟩))
    have parts : ∀ child ∈ children, WellScoped (lowered child) := fun child member =>
      ih child member (unusedBelow child member)
    -- A part that is the name has been the name in the tree already.
    have nameless (form : Tree → Tree) (leaf : ∀ {child value}, form child = .leaf value → child = .leaf value) :
        .ofText implicitParam ∉ children.map form := by
      intro member
      obtain ⟨child, isChild, same⟩ := List.mem_map.mp member
      exact unusedBelow child isChild (leaf same ▸ occurs_leaf.mpr rfl)
    rw [lowered_node]
    split_ifs with param boundary
    · refine ⟨iff_of_true rfl freeParam_identifier, fun body occurs => ?_⟩
      simp [occurs_node, occurs_leaf, enclosed, Tree.ofText] at occurs
    · have noName := nameless (fun child => (lowered child).closed) closed_eq_leaf
      refine ⟨?_, used_expanded noName ?_⟩
      · rw [freeParam_expanded noName]
        refine iff_of_false Bool.false_ne_true ?_
        rintro ⟨part, member, free⟩
        obtain ⟨child, isChild, rfl⟩ := List.mem_map.mp member
        exact (parts child isChild).closed_bound free
      · intro part member
        obtain ⟨child, isChild, rfl⟩ := List.mem_map.mp member
        exact (parts child isChild).closed_used
    · have noName := nameless (fun child => (lowered child).tree) tree_eq_leaf
      refine ⟨?_, used_expanded noName ?_⟩
      · rw [freeParam_expanded noName, List.any_eq_true]
        constructor
        · rintro ⟨child, isChild, awaiting⟩
          exact ⟨_, List.mem_map_of_mem isChild, (parts child isChild).awaits.mp awaiting⟩
        · rintro ⟨part, member, free⟩
          obtain ⟨child, isChild, rfl⟩ := List.mem_map.mp member
          exact ⟨child, isChild, (parts child isChild).awaits.mpr free⟩
      · intro part member
        obtain ⟨child, isChild, rfl⟩ := List.mem_map.mp member
        exact (parts child isChild).used

/-- Where the name of the implicit parameter is unused, lowering writes it only into the bodies of
    implicit lambdas, and each of these binds it: the body has it below no further implicit lambda. -/
theorem implicit_lambda_closed {tree : Tree} (unused : ¬ Occurs (.ofText implicitParam) tree) :
    (∀ above, StandsBelow implicitIdentifier above (lower tree) → ∃ outer body inner,
      above = outer ++ enclosed body :: inner ∧ StandsBelow implicitIdentifier inner body) ∧
    ∀ body, Occurs (enclosed body) (lower tree) → ∃ above,
      StandsBelow implicitIdentifier above body ∧ ∀ inner, enclosed inner ∉ above := by
  have wellScoped := wellScoped_lowered unused
  constructor
  · intro above stands
    rcases Classical.em (∃ body, enclosed body ∈ above) with ⟨body, isAbove⟩ | none
    · obtain ⟨outer, inner, rfl⟩ := List.append_of_mem isAbove
      obtain ⟨child, member, below⟩ := stands.inside
      rcases mem_enclosed member with rfl | rfl
      · cases below
      · exact ⟨outer, _, inner, rfl, below⟩
    · exact absurd ⟨above, stands, not_exists.mp none⟩ wellScoped.closed_bound
  · exact wellScoped.closed_used

/-- A `_` beside a pipeline that has one of its own. -/
def nestedParams : Tree :=
  .node "start" [.node "plus_assign" [.node "implicit_lambda_param" [],
    .node "pipeline" [.node "implicit_lambda_param" []]]]

/-- The outer lambda binds the target, which is written twice, and the inner one has its own. -/
theorem implicit_lambda_closed_nested : ¬ Occurs (.ofText implicitParam) nestedParams ∧
    lower nestedParams = .node "start" [enclosed (.node "reassign" [implicitIdentifier,
      .node "addition" [implicitIdentifier, .node "pipeline" [enclosed implicitIdentifier]]])] ∧
    ∀ body, Occurs (enclosed body) (lower nestedParams) → FreeParam body := by
  have unused : ¬ Occurs (.ofText implicitParam) nestedParams := by
    simp [nestedParams, occurs_node, Tree.ofText]
  exact ⟨unused, rfl, (implicit_lambda_closed unused).2⟩

end CommandScript.Lowering
