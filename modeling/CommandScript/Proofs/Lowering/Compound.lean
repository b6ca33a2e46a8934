import CommandScript.Proofs.Lowering.NormalForm

/-!
Compound assignments are abbreviations. Wherever one stands, it can be written out before
the tree is lowered: the rule duplicates a lowered target, and a target that is written
twice is lowered twice to the same tree, with the same need of a lambda
(`lower_fill_abbreviation`). The pipe assignment is none: written out it has a boundary, at
which lambdas end that grow around the assignment otherwise (`lower_pipe_assign`).
-/
namespace CommandScript

/-- A tree with a hole in it, by the nodes above the hole and what stands beside it. -/
inductive Tree.Context
  | hole
  | within (tag : String) (before : List Tree) (inner : Context) (after : List Tree)

/-- The tree with this part in the hole. -/
def Tree.Context.fill (part : Tree) : Context → Tree
  | hole => part
  | within tag before inner after => .node tag (before ++ inner.fill part :: after)

namespace Lowering

/-- The compound assignments of an operator, and the nodes of the operators. -/
def compounds : List (String × String) :=
  [("plus_assign", "addition"), ("minus_assign", "subtraction"), ("times_assign", "multiply"),
    ("divide_assign", "divide"), ("int_div_assign", "int_divide"), ("mod_assign", "modulus"),
    ("power_assign", "raise_power"), ("concat_assign", "concatenate")]

/-- The compound assignments of a sequence, and the nodes of the sequences. -/
def compoundSequences : List (String × String) :=
  [("seq_and_assign", "and_sequence"), ("seq_or_assign", "or_sequence")]

/-- A compound assignment, and what it abbreviates. -/
inductive Abbreviates : Tree → Tree → Prop
  | operator {tag operator : String} (listed : (tag, operator) ∈ compounds) (target value : Tree) :
    Abbreviates (.node tag [target, value])
      (.node "reassign" [target, .node operator [target, value]])
  | sequence {tag sequence : String} (listed : (tag, sequence) ∈ compoundSequences) (target value : Tree) :
    Abbreviates (.node tag [target, value])
      (.node "reassign" [target, .node "logical_sequence" [.node sequence [target, value]]])

variable {tag : String} {children : List Tree} {short long : Tree}

/-- A node that is no boundary awaits a lambda if a child does, and becomes what its rule says. -/
theorem lowered_inner (explicit : tag ≠ "implicit_lambda_param") (inner : isBoundary tag = false) :
    lowered (.node tag children) = ⟨expanded tag (children.map fun child => (lowered child).tree),
      children.any fun child => (lowered child).awaiting⟩ := by
  rw [lowered_node, if_neg explicit, inner, if_neg Bool.false_ne_true]

theorem explicit_of_free (free : tag ∉ shorthands) : tag ≠ "implicit_lambda_param" := by
  rintro rfl
  exact absurd free (by decide)

/-- A node without a rule keeps its tag. -/
theorem lowered_free (free : tag ∉ shorthands) (inner : isBoundary tag = false) :
    lowered (.node tag children) = ⟨.node tag (children.map fun child => (lowered child).tree),
      children.any fun child => (lowered child).awaiting⟩ := by
  rw [lowered_inner (explicit_of_free free) inner, expanded_eq_self (not_shorthand free)]

/-- A boundary without a rule has children lowered as whole trees. -/
theorem lowered_boundary (free : tag ∉ shorthands) (boundary : isBoundary tag = true) :
    lowered (.node tag children) = ⟨.node tag (children.map lower), false⟩ := by
  rw [lowered_node, if_neg (explicit_of_free free), if_pos boundary, expanded_eq_self (not_shorthand free)]
  rfl

theorem lowered_expands {target value : Tree} {result : Tree} (explicit : tag ≠ "implicit_lambda_param")
    (inner : isBoundary tag = false)
    (expands : Expands tag [(lowered target).tree, (lowered value).tree] result) :
    lowered (.node tag [target, value]) = ⟨result, (lowered target).awaiting || (lowered value).awaiting⟩ := by
  rw [lowered_inner explicit inner]
  simp [expanded, expansion?_eq_some_iff.mpr expands]

theorem lowered_reassign (target value : Tree) : lowered (.node "reassign" [target, value]) =
    ⟨.node "reassign" [(lowered target).tree, (lowered value).tree],
      (lowered target).awaiting || (lowered value).awaiting⟩ := by
  rw [lowered_free (by decide) (by decide)]
  simp

/-- A compound assignment and what it abbreviates are lowered to the same tree, and they await a lambda
    together. -/
theorem lowered_abbreviation (abbreviates : Abbreviates short long) : lowered short = lowered long := by
  cases abbreviates with
  | operator listed target value =>
    have tags : ∀ entry ∈ compounds, entry ∈ operators ∧ entry.1 ≠ "implicit_lambda_param" ∧
        isBoundary entry.1 = false ∧ entry.2 ∉ shorthands ∧ isBoundary entry.2 = false := by decide
    obtain ⟨ruled, explicit, inner, free, alsoInner⟩ := tags _ listed
    rw [lowered_expands explicit inner (.operator _ _ ruled), lowered_reassign, lowered_free free alsoInner]
    simp
  | sequence listed target value =>
    have tags : ∀ entry ∈ compoundSequences, entry ∈ sequences ∧ entry.1 ≠ "implicit_lambda_param" ∧
        isBoundary entry.1 = false ∧ entry.2 ∉ shorthands ∧ isBoundary entry.2 = false := by decide
    obtain ⟨ruled, explicit, inner, free, alsoInner⟩ := tags _ listed
    have around (part : Tree) : lowered (.node "logical_sequence" [part]) =
        ⟨.node "logical_sequence" [(lowered part).tree], (lowered part).awaiting⟩ := by
      rw [lowered_free (by decide) (by decide)]
      simp
    rw [lowered_expands explicit inner (.sequence _ _ ruled), lowered_reassign, around,
      lowered_free free alsoInner]
    simp

/-- What is lowered alike is lowered alike in every place. -/
theorem lowered_fill (same : lowered short = lowered long) (context : Tree.Context) :
    lowered (context.fill short) = lowered (context.fill long) := by
  induction context with
  | hole => exact same
  | within tag before inner after ih => simp [Tree.Context.fill, lowered_node, ih]

/-- A compound assignment can be written out anywhere in a tree that is going to be lowered. -/
theorem lower_fill_abbreviation (context : Tree.Context) (abbreviates : Abbreviates short long) :
    lower (context.fill short) = lower (context.fill long) := by
  rw [lower, lower, lowered_fill (lowered_abbreviation abbreviates)]

/-- A bare `_`. -/
def placeholder : Tree := .node "implicit_lambda_param" []

/-- In a pipeline, `_ += x` is written out below the lambda that its `_` stands for. -/
theorem lower_fill_plus_assign :
    Abbreviates (.node "plus_assign" [placeholder, .ofText "x"])
      (.node "reassign" [placeholder, .node "addition" [placeholder, .ofText "x"]]) ∧
    lower ((Tree.Context.within "pipeline" [] .hole [.ofText "y"]).fill
        (.node "plus_assign" [placeholder, .ofText "x"])) =
      lower ((Tree.Context.within "pipeline" [] .hole [.ofText "y"]).fill
        (.node "reassign" [placeholder, .node "addition" [placeholder, .ofText "x"]])) :=
  ⟨.operator (by decide) _ _, lower_fill_abbreviation _ (.operator (by decide) _ _)⟩

/-! ## The pipe assignment -/

/-- A compound assignment with a pipe. -/
def pipeAssignment (target value : Tree) : Tree := .node "pipe_assign" [target, value]

/-- A pipe assignment, written out. -/
def pipeReassignment (target value : Tree) : Tree :=
  .node "reassign" [target, .node "pipeline" [target, value]]

theorem enclosed_ne_self (body : Tree) : enclosed body ≠ body := by
  intro same
  have size := congrArg sizeOf same
  simp only [enclosed, Tree.node.sizeOf_spec, List.cons.sizeOf_spec] at size
  omega

/-- The parts of a pipe assignment are lowered as parts of it: the pipeline comes too late to be a
    boundary. -/
theorem lowered_pipeAssignment (target value : Tree) : lowered (pipeAssignment target value) =
    ⟨pipeReassignment (lowered target).tree (lowered value).tree,
      (lowered target).awaiting || (lowered value).awaiting⟩ :=
  lowered_expands (by decide) (by decide) (.operator _ _ (by decide))

/-- Written out, the parts of the pipeline are lowered as whole trees. -/
theorem lowered_pipeReassignment (target value : Tree) : lowered (pipeReassignment target value) =
    ⟨.node "reassign" [(lowered target).tree, .node "pipeline" [lower target, lower value]],
      (lowered target).awaiting⟩ := by
  rw [pipeReassignment, lowered_reassign, lowered_boundary (by decide) (by decide)]
  simp

/-- A pipe assignment is lowered like what it is written out to exactly if neither part awaits a lambda.
    If one does, a single lambda grows around the whole assignment, and no stage has one of its own. -/
theorem lower_pipe_assign (target value : Tree) :
    (lower (pipeAssignment target value) = lower (pipeReassignment target value) ↔
      ¬ Awaits target ∧ ¬ Awaits value) ∧
    lower (pipeAssignment target value) = lambdaAround (pipeAssignment target value)
      (pipeReassignment (lowered target).tree (lowered value).tree) := by
  have awaits : Awaits (pipeAssignment target value) ↔ Awaits target ∨ Awaits value := by
    rw [← awaiting_iff, ← awaiting_iff, ← awaiting_iff, lowered_pipeAssignment, Bool.or_eq_true]
  constructor
  · rw [← awaiting_iff target, ← awaiting_iff value, Bool.not_eq_true, Bool.not_eq_true]
    rw [lower, lower, lowered_pipeAssignment, lowered_pipeReassignment]
    constructor
    · intro same
      cases ofTarget : (lowered target).awaiting with
      | true =>
        -- Both are lambdas, but only the one written out has another around the target in its pipeline.
        simp only [ofTarget, Bool.true_or, Lowered.closed, if_true, enclosed, pipeReassignment, lower,
          Tree.node.injEq, List.cons.injEq, true_and, and_true] at same
        exact absurd same.1.symm (enclosed_ne_self _)
      | false =>
        cases ofValue : (lowered value).awaiting with
        | true =>
          simp [ofTarget, ofValue, Lowered.closed, enclosed, pipeReassignment] at same
        | false => exact ⟨rfl, rfl⟩
    · rintro ⟨ofTarget, ofValue⟩
      simp [ofTarget, ofValue, Lowered.closed, pipeReassignment, lower]
  · rw [lower, lowered_pipeAssignment, Lowered.closed, lambdaAround]
    simp only [awaits, ← awaiting_iff, ← Bool.or_eq_true]

/-- In `a |= _` the whole assignment becomes a lambda, in `a = a | _` the stage of the pipeline. -/
theorem pipe_stage_not_closed :
    lower (pipeAssignment (.node "identifier" [.ofText "a"]) placeholder) ≠
      lower (pipeReassignment (.node "identifier" [.ofText "a"]) placeholder) := by
  have assigned : lower (pipeAssignment (.node "identifier" [.ofText "a"]) placeholder) =
      enclosed (pipeReassignment (.node "identifier" [.ofText "a"])
        (.node "identifier" [.ofText implicitParam])) := rfl
  have writtenOut : lower (pipeReassignment (.node "identifier" [.ofText "a"]) placeholder) =
      pipeReassignment (.node "identifier" [.ofText "a"])
        (enclosed (.node "identifier" [.ofText implicitParam])) := rfl
  rw [assigned, writtenOut]
  simp [enclosed, pipeReassignment]

end Lowering
end CommandScript
