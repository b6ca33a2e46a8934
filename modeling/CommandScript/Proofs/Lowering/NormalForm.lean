import CommandScript.Proofs.Lowering.ImplicitLambda
import Mathlib.Data.List.Basic
import Mathlib.Tactic.ByContra

/-!
What is left of a tree when it has been lowered. A lowered tree has no shorthand form any
more, however its rules met, and a tree without one is lowered to itself
(`lower_normal_form`).
-/
namespace CommandScript.Lowering
open CommandScript.Tree (Occurs occurs_node occurs_leaf)

/-- The assignments that are compounded with an operator or with a sequence. -/
def assignments : List String :=
  ["plus_assign", "minus_assign", "times_assign", "divide_assign", "int_div_assign", "mod_assign", "power_assign",
    "pipe_assign", "concat_assign", "seq_and_assign", "seq_or_assign"]

/-- The only child is the text of a number that can be read, with a colon and a known unit behind it. -/
def Measured {α : Type} (read : String → Option α) (children : List Tree) : Prop :=
  ∃ leaf value unit number, children = [.leaf leaf] ∧ leaf.asText? = some (value ++ ":" ++ unit) ∧
    ':' ∉ value.toList ∧ Text.lowerCase unit ∈ Quantity.units.map (·.1) ∧ read value = some number

/-- A node of a raw tree, in a form that is to be written otherwise. -/
inductive Shorthand (tag : String) (children : List Tree) : Prop
  | implicitParam (named : tag = "implicit_lambda_param")
  | loop (named : tag = "always_loop")
  | assignment (named : tag ∈ assignments) (pair : children.length = 2)
  | selection (named : tag = "selection_lambda_shorthand") (single : children.length = 1)
  | unitInteger (named : tag = "unit_integer_literal")
    (measured : Measured Number.readInt64? children)
  | unitFloat (named : tag = "unit_float_literal")
    (measured : Measured Double.read? children)
  | exec (named : tag = "exec") (unwritten : ∃ leaf, .leaf leaf ∈ children ∧ ∀ text, leaf ≠ .text text)

/-- No shorthand form stands anywhere in the tree. -/
def Normal (tree : Tree) : Prop := ∀ tag children, Occurs (.node tag children) tree → ¬ Shorthand tag children

variable {tag : String} {children : List Tree} {result tree : Tree}

theorem normal_leaf (value : Leaf) : Normal (.leaf value) := by
  intro tag children occurs
  simp [occurs_leaf] at occurs

theorem normal_node : Normal (.node tag children) ↔
    ¬ Shorthand tag children ∧ ∀ child ∈ children, Normal child := by
  constructor
  · intro normal
    refine ⟨normal tag children (occurs_node.mpr (.inl rfl)), fun child member other parts occurs => ?_⟩
    exact normal other parts (occurs_node.mpr (.inr ⟨child, member, occurs⟩))
  · rintro ⟨plain, normal⟩ other parts occurs
    rcases occurs_node.mp occurs with same | ⟨child, member, within⟩
    · obtain ⟨rfl, rfl⟩ := Tree.node.inj same
      exact plain
    · exact normal child member other parts within

/-! ## Which tags have a shorthand form -/

/-- The tags of all shorthand forms. -/
def shorthands : List String :=
  ["implicit_lambda_param", "always_loop", "selection_lambda_shorthand", "unit_integer_literal",
    "unit_float_literal", "exec"] ++ assignments

theorem not_shorthand (free : tag ∉ shorthands) : ¬ Shorthand tag children := by
  intro shorthand
  refine free (List.mem_append.mpr ?_)
  cases shorthand with
  | assignment named => exact .inr named
  | implicitParam named | loop named | selection named | unitInteger named | unitFloat named | exec named =>
    subst named
    exact .inl (by decide)

/-- A node with a tag of its own is in normal form if its children are. -/
theorem normal_of_free (free : tag ∉ shorthands) (parts : ∀ child ∈ children, Normal child) :
    Normal (.node tag children) :=
  normal_node.mpr ⟨not_shorthand free, parts⟩

theorem normal_enclosed (body : Normal tree) : Normal (enclosed tree) := by
  refine normal_of_free (by decide) ?_
  simpa [Tree.ofText] using ⟨normal_leaf _, body⟩

theorem normal_closed {lowered : Lowered} (normal : Normal lowered.tree) : Normal lowered.closed := by
  unfold Lowered.closed
  split
  · exact normal_enclosed normal
  · exact normal

/-! ## Rules and forms -/

theorem assignments_eq : assignments = (operators ++ sequences).map (·.1) := rfl

theorem mem_assignments : tag ∈ assignments ↔
    (∃ operator, (tag, operator) ∈ operators) ∨ ∃ sequence, (tag, sequence) ∈ sequences := by
  rw [assignments_eq, List.map_append, List.mem_append]
  simp

theorem ofUnit?_isSome {unit : String} :
    (∃ quantity, Quantity.ofUnit? unit = some quantity) ↔ Text.lowerCase unit ∈ Quantity.units.map (·.1) := by
  rw [Quantity.ofUnit?, ← Option.isSome_iff_exists, List.lookup_isSome_iff]
  simp

theorem measured_iff {α : Type} {read : String → Option α} (wrap : α → Leaf) :
    Measured read children ↔ ∃ result, measured? (fun value => (read value).map wrap) children = some result := by
  constructor
  · rintro ⟨leaf, value, unit, number, single, isText, colonless, known, isRead⟩
    obtain ⟨quantity, measures⟩ := ofUnit?_isSome.mpr known
    refine ⟨_, measured?_eq_some_iff.mpr
      ⟨leaf, value, unit, quantity, wrap number, single, isText, colonless, measures, ?_, rfl⟩⟩
    rw [isRead, Option.map_some]
  · rintro ⟨result, found⟩
    obtain ⟨leaf, value, unit, quantity, wrapped, single, isText, colonless, measures, isRead, _⟩ :=
      measured?_eq_some_iff.mp found
    obtain ⟨number, isNumber, _⟩ := Option.map_eq_some_iff.mp isRead
    exact ⟨leaf, value, unit, number, single, isText, colonless, ofUnit?_isSome.mp ⟨quantity, measures⟩, isNumber⟩

/-- Every shorthand form but the implicit parameter stands for something. -/
theorem Shorthand.expands (shorthand : Shorthand tag children) (explicit : tag ≠ "implicit_lambda_param") :
    ∃ result, Expands tag children result := by
  cases shorthand with
  | implicitParam named => contradiction
  | loop named => exact named ▸ ⟨_, .loop children⟩
  | assignment named pair =>
    obtain ⟨target, value, rfl⟩ := List.length_eq_two.mp pair
    rcases mem_assignments.mp named with ⟨operator, listed⟩ | ⟨sequence, listed⟩
    · exact ⟨_, .operator target value listed⟩
    · exact ⟨_, .sequence target value listed⟩
  | selection named single =>
    obtain ⟨field, rfl⟩ := List.length_eq_one_iff.mp single
    exact named ▸ ⟨_, .selection field⟩
  | unitInteger named measured =>
    obtain ⟨result, found⟩ := (measured_iff .int).mp measured
    exact named ▸ ⟨result, .unitInteger found⟩
  | unitFloat named measured =>
    obtain ⟨result, found⟩ := (measured_iff .float).mp measured
    exact named ▸ ⟨result, .unitFloat found⟩
  | exec named => exact named ▸ ⟨_, .exec children⟩

/-- A text or a node is an argument of a command as it is. -/
theorem argument_eq_self (written : ∀ leaf, tree = .leaf leaf → ∃ text, leaf = .text text) :
    argument tree = tree := by
  cases tree using Tree.casesOn with
  | leaf leaf =>
    obtain ⟨text, rfl⟩ := written leaf rfl
    rfl
  | node => rfl

/-- An argument that is no node is a text. -/
theorem text_of_argument {leaf : Leaf} (same : argument tree = .leaf leaf) : ∃ text, leaf = .text text := by
  cases tree using Tree.casesOn with
  | leaf value => exact ⟨_, (Tree.leaf.inj same).symm⟩
  | node => contradiction

/-- A node in no shorthand form is left as it is. -/
theorem expanded_eq_self (plain : ¬ Shorthand tag children) : expanded tag children = .node tag children := by
  cases expansion : expansion? tag children with
  | none => rw [expanded, expansion, Option.getD_none]
  | some result =>
    rw [expanded, expansion, Option.getD_some]
    cases expansion?_eq_some_iff.mp expansion with
    | exec =>
      have written : ∀ child ∈ children, argument child = child := fun child member =>
        argument_eq_self fun leaf same => by
          by_contra other
          exact plain (.exec rfl ⟨leaf, same ▸ member, fun text isText => other ⟨text, isText⟩⟩)
      rw [List.map_congr_left written, List.map_id']
    | unitInteger found => exact absurd (.unitInteger rfl ((measured_iff .int).mpr ⟨_, found⟩)) plain
    | unitFloat found => exact absurd (.unitFloat rfl ((measured_iff .float).mpr ⟨_, found⟩)) plain
    | loop => exact absurd (.loop rfl) plain
    | selection => exact absurd (.selection rfl rfl) plain
    | sequence target value listed =>
      exact absurd (.assignment (mem_assignments.mpr (.inr ⟨_, listed⟩)) rfl) plain
    | operator target value listed =>
      exact absurd (.assignment (mem_assignments.mpr (.inl ⟨_, listed⟩)) rfl) plain

theorem Shorthand.unwritten (shorthand : Shorthand "exec" children) :
    ∃ leaf, .leaf leaf ∈ children ∧ ∀ text, leaf ≠ .text text := by
  cases shorthand with
  | exec _ unwritten => exact unwritten
  | implicitParam named | loop named | assignment named | selection named | unitInteger named | unitFloat named =>
    exact absurd named (by decide)

theorem normal_argument (normal : Normal tree) : Normal (argument tree) := by
  cases tree using Tree.casesOn with
  | leaf value => exact normal_leaf _
  | node => exact normal

/-- What a form stands for is in normal form if its parts are. -/
theorem normal_expands (expands : Expands tag children result) (parts : ∀ child ∈ children, Normal child) :
    Normal result := by
  have text (text : String) : Normal (.ofText text) := normal_leaf _
  cases expands with
  | exec =>
    refine normal_node.mpr ⟨fun shorthand => ?_, fun part member => ?_⟩
    · obtain ⟨leaf, member, unwritten⟩ := shorthand.unwritten
      obtain ⟨child, _, same⟩ := List.mem_map.mp member
      obtain ⟨text, isText⟩ := text_of_argument same
      exact unwritten text isText
    · obtain ⟨child, isChild, rfl⟩ := List.mem_map.mp member
      exact normal_argument (parts child isChild)
  | unitInteger found | unitFloat found =>
    obtain ⟨_, _, unit, quantity, _, _, _, _, _, _, rfl⟩ := measured?_eq_some_iff.mp found
    have kind : Normal (.node "unit_type" [.ofText quantity.label]) :=
      normal_of_free (by decide) (by simpa using text _)
    have name : Normal (.node "unit" [.ofText (Text.lowerCase unit)]) :=
      normal_of_free (by decide) (by simpa using text _)
    refine normal_of_free (by decide) ?_
    simpa using ⟨kind, name, normal_leaf _⟩
  | loop =>
    refine normal_of_free (by decide) ?_
    simpa using ⟨normal_leaf _, parts⟩
  | selection field =>
    have identifier : Normal (.node "identifier" [.ofText selectionParam]) :=
      normal_of_free (by decide) (by simpa using text _)
    have select : Normal (.node "select_field" [.node "identifier" [.ofText selectionParam], field]) :=
      normal_of_free (by decide) (by simpa [identifier] using parts)
    exact normal_of_free (by decide) (by simpa [text] using select)
  | @sequence tag sequence target value listed =>
    have free : ∀ entry ∈ sequences, entry.2 ∉ shorthands := by decide
    have pair : Normal (.node sequence [target, value]) := normal_of_free (free _ listed) parts
    have all : Normal (.node "logical_sequence" [.node sequence [target, value]]) :=
      normal_of_free (by decide) (by simpa using pair)
    refine normal_of_free (by decide) ?_
    simpa using ⟨parts target (by simp), all⟩
  | @operator tag operator target value listed =>
    have free : ∀ entry ∈ operators, entry.2 ∉ shorthands := by decide
    have pair : Normal (.node operator [target, value]) := normal_of_free (free _ listed) parts
    refine normal_of_free (by decide) ?_
    simpa using ⟨parts target (by simp), pair⟩

theorem normal_expanded (explicit : tag ≠ "implicit_lambda_param") (parts : ∀ child ∈ children, Normal child) :
    Normal (expanded tag children) := by
  by_cases shorthand : Shorthand tag children
  · obtain ⟨result, expands⟩ := shorthand.expands explicit
    rw [expanded, expansion?_eq_some_iff.mpr expands, Option.getD_some]
    exact normal_expands expands parts
  · rw [expanded_eq_self shorthand]
    exact normal_node.mpr ⟨shorthand, parts⟩

/-! ## Lowering -/

theorem normal_lowered (tree : Tree) : Normal (lowered tree).tree := by
  induction tree with
  | leaf value => exact normal_leaf value
  | node tag children ih =>
    rw [lowered_node]
    split_ifs with param boundary
    · exact normal_of_free (by decide) (by simpa [Tree.ofText] using normal_leaf _)
    · refine normal_expanded param fun part member => ?_
      obtain ⟨child, isChild, rfl⟩ := List.mem_map.mp member
      exact normal_closed (ih child isChild)
    · refine normal_expanded param fun part member => ?_
      obtain ⟨child, isChild, rfl⟩ := List.mem_map.mp member
      exact ih child isChild

/-- A tree in normal form is lowered to itself. -/
theorem Normal.lowered_eq (normal : Normal tree) : lowered tree = ⟨tree, false⟩ := by
  induction tree with
  | leaf value => rfl
  | node tag children ih =>
    obtain ⟨plain, parts⟩ := normal_node.mp normal
    have same : ∀ child ∈ children, lowered child = ⟨child, false⟩ := fun child member =>
      ih child member (parts child member)
    have explicit : tag ≠ "implicit_lambda_param" := fun named => plain (.implicitParam named)
    have closed : (children.map fun child => (lowered child).closed) = children :=
      (List.map_congr_left fun child member => by rw [same child member]; rfl).trans (List.map_id' children)
    have trees : (children.map fun child => (lowered child).tree) = children :=
      (List.map_congr_left fun child member => by rw [same child member]).trans (List.map_id' children)
    have none : (children.any fun child => (lowered child).awaiting) = false := by
      rw [List.any_eq_false]
      intro child member
      rw [same child member]
      exact Bool.false_ne_true
    rw [lowered_node, if_neg explicit, closed, trees, none, expanded_eq_self plain, ite_self]

/-- Lowering leads to normal form, and leaves exactly the trees in normal form as they are; so lowering
    a lowered tree changes nothing. -/
theorem lower_normal_form (tree : Tree) :
    Normal (lower tree) ∧ (lower tree = tree ↔ Normal tree) ∧ lower (lower tree) = lower tree := by
  have fixed {tree : Tree} (normal : Normal tree) : lower tree = tree := by
    rw [lower, normal.lowered_eq]
    rfl
  have normal : Normal (lower tree) := normal_closed (normal_lowered tree)
  exact ⟨normal, ⟨fun same => same ▸ normal, fixed⟩, fixed normal⟩

end CommandScript.Lowering
