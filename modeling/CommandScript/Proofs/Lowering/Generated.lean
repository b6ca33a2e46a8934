import CommandScript.Proofs.Lowering.NormalForm

/-!
The tags of generated nodes. Of the rule that its node was generated from, a tag is judged by what stands
before the first underscore in the name. So is the rule itself, unless its name goes on behind the name of a
boundary (`ExtendsBoundary`): lambdas end at the nodes that are generated from such a rule, and not at its own.
-/
namespace CommandScript.Lowering

/-- The tag of the nodes that are generated for a repetition in a grammar rule. -/
def generatedTag (rule repetition : String) (number : Nat) : String :=
  "__" ++ rule ++ "_" ++ repetition ++ "_" ++ toString number

/-- The name of a boundary, with an underscore and more behind it. -/
def ExtendsBoundary (rule : String) : Prop :=
  ∃ boundary more, rule = boundary ++ "_" ++ more ∧ isBoundary boundary = true

variable {rule front : String}

/-! ## Names of rules -/

/-- A name that does not begin with an underscore is judged as it is. -/
theorem ruleName_eq_self (named : rule.toList.head? ≠ some '_') : ruleName rule = rule := by
  unfold ruleName
  split
  · rename_i chars
    rw [chars] at named
    contradiction
  · rfl

theorem named_of_free (free : '_' ∉ rule.toList) : rule.toList.head? ≠ some '_' :=
  fun first => free (List.mem_of_head? first)

theorem isBoundary_iff_mem (named : rule.toList.head? ≠ some '_') :
    isBoundary rule = true ↔ rule ∈ ["start", "pipeline", "curry"] := by
  rw [isBoundary, ruleName_eq_self named, List.contains_iff_mem]

/-- No boundary has an underscore in its name. -/
theorem free_of_isBoundary (named : rule.toList.head? ≠ some '_') (boundary : isBoundary rule = true) :
    '_' ∉ rule.toList := by
  have free : ∀ name ∈ ["start", "pipeline", "curry"], '_' ∉ name.toList := by decide
  exact free rule ((isBoundary_iff_mem named).mp boundary)

/-- A name has no underscore, or there is a first one. -/
theorem free_or_divided (rule : String) :
    '_' ∉ rule.toList ∨ ∃ front more, rule = front ++ "_" ++ more ∧ '_' ∉ front.toList := by
  by_cases member : '_' ∈ rule.toList
  · obtain ⟨before, behind, whole, free⟩ := List.eq_append_cons_of_mem member
    refine .inr ⟨String.ofList before, String.ofList behind, String.toList_injective ?_, by simpa using free⟩
    simp [whole]
  · exact .inl member

/-- A name is divided at its first underscore in one way. -/
theorem front_unique {other more rest : String} (free : '_' ∉ front.toList) (alsoFree : '_' ∉ other.toList)
    (same : front ++ "_" ++ more = other ++ "_" ++ rest) : front = other := by
  have chars : front.toList ++ '_' :: more.toList = other.toList ++ '_' :: rest.toList := by
    simpa using congrArg String.toList same
  have taken := (cut_separator free more.toList).1
  rw [chars, (cut_separator alsoFree rest.toList).1] at taken
  exact String.toList_injective taken.symm

/-- The name of a boundary that a rule goes on behind stands before the first underscore. -/
theorem extendsBoundary_iff {more : String} (named : (front ++ "_" ++ more).toList.head? ≠ some '_')
    (free : '_' ∉ front.toList) : ExtendsBoundary (front ++ "_" ++ more) ↔ isBoundary front = true := by
  refine ⟨?_, fun judged => ⟨front, more, rfl, judged⟩⟩
  rintro ⟨boundary, rest, same, judged⟩
  have begins : boundary.toList.head? ≠ some '_' := by
    intro first
    rw [same] at named
    obtain ⟨tail, chars⟩ := List.head?_eq_some_iff.mp first
    simp [chars] at named
  rwa [front_unique free (free_of_isBoundary begins judged) same]

/-- A rule whose name goes on behind that of a boundary is none itself. -/
theorem not_isBoundary_of_extends (named : rule.toList.head? ≠ some '_') (extending : ExtendsBoundary rule) :
    isBoundary rule = false := by
  obtain ⟨boundary, more, rfl, _⟩ := extending
  exact Bool.eq_false_iff.mpr fun judged => free_of_isBoundary named judged (by simp)

/-! ## Tags of generated nodes -/

/-- A generated tag is judged by what stands between its first underscores and the next one. -/
theorem ruleName_of_generated (free : '_' ∉ front.toList) (behind : List Char) {tag : String}
    (chars : tag.toList = '_' :: '_' :: (front.toList ++ '_' :: behind)) : ruleName tag = front := by
  simp only [ruleName, chars]
  rw [(cut_separator free behind).1, String.ofList_toList]

/-- Lambdas end at a generated node exactly if its rule is a boundary, or goes on behind the name of one. -/
theorem isBoundary_generatedTag (named : rule.toList.head? ≠ some '_') (repetition : String) (number : Nat) :
    isBoundary (generatedTag rule repetition number) = true ↔ isBoundary rule = true ∨ ExtendsBoundary rule := by
  obtain ⟨suffix, spelled⟩ : ∃ suffix, (generatedTag rule repetition number).toList =
      '_' :: '_' :: (rule.toList ++ '_' :: suffix) :=
    ⟨repetition.toList ++ '_' :: (toString number).toList, by simp [generatedTag]⟩
  rcases free_or_divided rule with free | ⟨front, more, rfl, free⟩
  · have alone : ¬ ExtendsBoundary rule := by
      rintro ⟨boundary, more, rfl, _⟩
      simp at free
    rw [isBoundary, ruleName_of_generated free suffix spelled, isBoundary, ruleName_eq_self named, or_iff_left alone]
  · have whole : (front ++ "_" ++ more).toList ++ '_' :: suffix =
        front.toList ++ '_' :: (more.toList ++ '_' :: suffix) := by
      simp
    rw [whole] at spelled
    have other : ¬ isBoundary (front ++ "_" ++ more) = true := fun boundary =>
      free_of_isBoundary named boundary (by simp)
    rw [or_iff_right other, extendsBoundary_iff named free, isBoundary, ruleName_of_generated free _ spelled, isBoundary,
      ruleName_eq_self (named_of_free free)]

/-- No rule rewrites a generated node. -/
theorem expanded_generatedTag (rule repetition : String) (number : Nat) (children : List Tree) :
    expanded (generatedTag rule repetition number) children = .node (generatedTag rule repetition number) children := by
  refine expanded_eq_self (not_shorthand fun listed => ?_)
  have others : ∀ tag ∈ shorthands, tag.toList.head? ≠ some '_' := by decide
  exact others _ listed (by simp [generatedTag])

/-- For every rule whose name does not begin with an underscore, and whatever repetition and number, a node that
    is generated from the rule is judged as the rule is, unless the name of the rule is that of a boundary with an
    underscore and more behind it. The lambdas of the children end at a node generated from such a rule or from a
    boundary, and grow around a node generated from any other rule. -/
theorem generated_tag_judged {rule : String} (named : rule.toList.head? ≠ some '_') (repetition : String)
    (number : Nat) :
    (isBoundary (generatedTag rule repetition number) = isBoundary rule ↔ ¬ ExtendsBoundary rule) ∧
    (isBoundary rule = true ∨ ExtendsBoundary rule → ∀ children,
      lowered (.node (generatedTag rule repetition number) children) =
        ⟨.node (generatedTag rule repetition number) (children.map fun child => (lowered child).closed), false⟩) ∧
    (¬ (isBoundary rule = true ∨ ExtendsBoundary rule) → ∀ children,
      lowered (.node (generatedTag rule repetition number) children) =
        ⟨.node (generatedTag rule repetition number) (children.map fun child => (lowered child).tree),
          children.any fun child => (lowered child).awaiting⟩) := by
  have judged := isBoundary_generatedTag named repetition number
  have explicit : generatedTag rule repetition number ≠ "implicit_lambda_param" := by
    intro same
    have begins : (generatedTag rule repetition number).toList.head? = some '_' := by simp [generatedTag]
    rw [same] at begins
    exact absurd begins (by decide)
  refine ⟨?_, fun boundary children => ?_, fun inner children => ?_⟩
  · -- the two differ where the name is no boundary's but goes on behind one's
    by_cases extending : ExtendsBoundary rule
    · rw [judged.mpr (.inr extending), not_isBoundary_of_extends named extending]
      simp [extending]
    · rw [Bool.eq_iff_iff, judged, or_iff_left extending]
      simp [extending]
  · rw [lowered_node, if_neg explicit, if_pos (judged.mpr boundary), expanded_generatedTag]
  · rw [lowered_node, if_neg explicit, if_neg (mt judged.mp inner), expanded_generatedTag]

/-- An underscore in the name of a rule that goes on behind no boundary does no harm. -/
theorem generated_tag_judged_sequence : "logical_sequence".toList.head? ≠ some '_' ∧
    isBoundary (generatedTag "logical_sequence" "star" 0) = isBoundary "logical_sequence" ∧
    lowered (.node (generatedTag "logical_sequence" "star" 0) [.node "implicit_lambda_param" []]) =
      ⟨.node "__logical_sequence_star_0" [.node "identifier" [.ofText implicitParam]], true⟩ := by
  have named : "logical_sequence".toList.head? ≠ some '_' := by decide
  have alone : ¬ ExtendsBoundary ("logical" ++ "_" ++ "sequence") :=
    mt (extendsBoundary_iff (by decide) (by decide)).mp (by decide)
  obtain ⟨judged, _, grows⟩ := generated_tag_judged named "star" 0
  refine ⟨named, judged.mpr alone, ?_⟩
  have inner : ¬ (isBoundary "logical_sequence" = true ∨ ExtendsBoundary "logical_sequence") :=
    not_or.mpr ⟨by decide, alone⟩
  rw [grows inner]
  rfl

/-- The name of a stage goes on behind that of a pipeline. Its nodes are no boundary, and the nodes that are
    generated from it are: the lambda of a parameter grows around the one and ends at the other. -/
theorem generated_stage_misjudged : "pipeline_stage".toList.head? ≠ some '_' ∧ '_' ∉ "star".toList ∧
    isBoundary (generatedTag "pipeline_stage" "star" 0) = true ∧ isBoundary "pipeline_stage" = false ∧
    lower (.node (generatedTag "pipeline_stage" "star" 0) [.node "implicit_lambda_param" []]) =
      .node "__pipeline_stage_star_0" [enclosed (.node "identifier" [.ofText implicitParam])] ∧
    lower (.node "pipeline_stage" [.node "implicit_lambda_param" []]) =
      enclosed (.node "pipeline_stage" [.node "identifier" [.ofText implicitParam]]) := by
  refine ⟨by decide, by decide, by decide, by decide, rfl, rfl⟩

end CommandScript.Lowering
