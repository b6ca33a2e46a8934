import CommandScript.Tree

/-!
Where trees stand in trees. A subtree is told by the tags of the nodes above it, the
root among them; `occurs_node` and `occurs_leaf` follow the recursion of trees. Where the
nodes above matter as trees, it is told by them (`StandsBelow`).
-/
namespace CommandScript.Tree

/-- Induction over trees: what holds of all children holds of their node. -/
@[induction_eliminator]
theorem induct {motive : Tree → Prop} (leaf : ∀ value, motive (.leaf value))
    (node : ∀ tag children, (∀ child ∈ children, motive child) → motive (.node tag children))
    (tree : Tree) : motive tree := by
  refine @Tree.rec motive (fun children => ∀ child ∈ children, motive child) node leaf ?_ ?_ tree
  · exact fun child member => nomatch member
  · intro first rest holds all child member
    rcases List.mem_cons.mp member with same | later
    · exact same ▸ holds
    · exact all child later

/-- `sub` stands in a tree below nodes with the tags `above`, outermost first. -/
inductive Stands (sub : Tree) : List String → Tree → Prop
  | here : Stands sub [] sub
  | within {above : List String} {tag : String} {children : List Tree} {child : Tree} :
      child ∈ children → Stands sub above child → Stands sub (tag :: above) (.node tag children)

/-- `sub` stands somewhere in the tree. -/
def Occurs (sub tree : Tree) : Prop := ∃ above, Stands sub above tree

theorem occurs_leaf {sub : Tree} {value : Leaf} : Occurs sub (.leaf value) ↔ sub = .leaf value := by
  constructor
  · rintro ⟨above, stands⟩
    cases stands
    rfl
  · rintro rfl
    exact ⟨[], .here⟩

theorem occurs_node {sub : Tree} {tag : String} {children : List Tree} :
    Occurs sub (.node tag children) ↔ sub = .node tag children ∨ ∃ child ∈ children, Occurs sub child := by
  constructor
  · rintro ⟨above, stands⟩
    cases stands with
    | here => exact Or.inl rfl
    | within member stands => exact Or.inr ⟨_, member, _, stands⟩
  · rintro (rfl | ⟨child, member, above, stands⟩)
    · exact ⟨[], .here⟩
    · exact ⟨tag :: above, .within member stands⟩

/-- `sub` stands in a tree below the nodes `above`, outermost first. -/
inductive StandsBelow (sub : Tree) : List Tree → Tree → Prop
  | here : StandsBelow sub [] sub
  | within {above : List Tree} {tag : String} {children : List Tree} {child : Tree} :
      child ∈ children → StandsBelow sub above child →
        StandsBelow sub (.node tag children :: above) (.node tag children)

/-- What stands below a node stands in one of its children, below the nodes further inside. -/
theorem StandsBelow.inside {sub node tree : Tree} {outer inner : List Tree}
    (stands : StandsBelow sub (outer ++ node :: inner) tree) :
    ∃ child ∈ node.children, StandsBelow sub inner child := by
  induction outer generalizing tree with
  | nil =>
    cases stands with
    | within member stands => exact ⟨_, member, stands⟩
  | cons outermost outer ih =>
    cases stands with
    | within _ stands => exact ih stands

end CommandScript.Tree
