import CommandScript.Entries
import CommandScript.Lowering.Rule
import Mathlib.Tactic.SplitIfs

/-!
The forms that lowering rewrites, one constructor for a kind of rule (`Expands`), and
that `expansion?` finds exactly those (`expansion?_eq_some_iff`).
-/
namespace CommandScript.Lowering

/-- A node with these children stands for `result`. -/
inductive Expands : String → List Tree → Tree → Prop
  | exec (children : List Tree) : Expands "exec" children (.node "exec" (children.map argument))
  | unitInteger {children : List Tree} {result : Tree} :
      measured? (fun value => (Number.readInt64? value).map .int) children = some result →
      Expands "unit_integer_literal" children result
  | unitFloat {children : List Tree} {result : Tree} :
      measured? (fun value => (Double.read? value).map .float) children = some result →
      Expands "unit_float_literal" children result
  | loop (children : List Tree) :
      Expands "always_loop" children (.node "while" (.leaf (.bool true) :: children))
  | selection (field : Tree) : Expands "selection_lambda_shorthand" [field]
      (.node "lambda_func" [.ofText selectionParam,
        .node "select_field" [.node "identifier" [.ofText selectionParam], field]])
  | sequence {tag sequence : String} (target value : Tree) : (tag, sequence) ∈ sequences →
      Expands tag [target, value] (.node "reassign"
        [target, .node "logical_sequence" [.node sequence [target, value]]])
  | operator {tag operator : String} (target value : Tree) : (tag, operator) ∈ operators →
      Expands tag [target, value] (.node "reassign" [target, .node operator [target, value]])

/-- Characters cut at the first separator among them. -/
theorem cut_separator {separator : Char} {front : List Char} (free : separator ∉ front) (behind : List Char) :
    (front ++ separator :: behind).takeWhile (· != separator) = front ∧
      (front ++ separator :: behind).dropWhile (· != separator) = separator :: behind := by
  have others : ∀ c ∈ front, (c != separator) = true := by
    intro c member
    rw [bne_iff_ne]
    rintro rfl
    exact free member
  simp [List.takeWhile_append_of_pos others, List.dropWhile_append_of_pos others]

/-- A text is cut where it has its first colon. -/
theorem splitColon?_eq_some_iff {text value unit : String} :
    splitColon? text = some (value, unit) ↔ text = value ++ ":" ++ unit ∧ ':' ∉ value.toList := by
  constructor
  · intro found
    unfold splitColon? at found
    split at found
    · contradiction
    · rename_i c rest behind
      obtain ⟨rfl, rfl⟩ := Prod.mk.inj (Option.some.inj found)
      have colon : c = ':' := by
        have stopped := List.head?_dropWhile_not (· != ':') text.toList
        rw [behind] at stopped
        simpa using stopped
      have whole := List.takeWhile_append_dropWhile (p := (· != ':')) (l := text.toList)
      rw [behind, colon] at whole
      refine ⟨String.toList_injective ?_, fun member => ?_⟩
      · simp [whole]
      · rw [String.toList_ofList] at member
        simpa using List.all_eq_true.1 List.all_takeWhile _ member
  · rintro ⟨rfl, colonless⟩
    obtain ⟨taken, dropped⟩ := cut_separator colonless unit.toList
    have chars : (value ++ ":" ++ unit).toList = value.toList ++ ':' :: unit.toList := by simp
    unfold splitColon?
    rw [chars, taken, dropped]
    simp

/-- A number with a unit is one leaf, whose text is a number that can be read, a colon and a unit. -/
theorem measured?_eq_some_iff {read : String → Option Leaf} {children : List Tree} {result : Tree} :
    measured? read children = some result ↔ ∃ leaf value unit quantity number, children = [.leaf leaf] ∧
      leaf.asText? = some (value ++ ":" ++ unit) ∧ ':' ∉ value.toList ∧
        Quantity.ofUnit? unit = some quantity ∧ read value = some number ∧
          result = .node "unit_literal" [.node "unit_type" [.ofText quantity.label],
            .node "unit" [.ofText (Text.lowerCase unit)], .leaf number] := by
  constructor
  · intro found
    unfold measured? at found
    split at found
    · rename_i leaf
      obtain ⟨⟨value, unit⟩, cut, found⟩ := Option.bind_eq_some_iff.mp found
      obtain ⟨text, isText, cut⟩ := Option.bind_eq_some_iff.mp cut
      obtain ⟨quantity, known, found⟩ := Option.bind_eq_some_iff.mp found
      obtain ⟨number, isNumber, found⟩ := Option.bind_eq_some_iff.mp found
      obtain ⟨rfl, colonless⟩ := splitColon?_eq_some_iff.mp cut
      exact ⟨leaf, value, unit, quantity, number, rfl, isText, colonless, known, isNumber,
        (Option.some.inj found).symm⟩
    · contradiction
  · rintro ⟨leaf, value, unit, quantity, number, rfl, isText, colonless, known, isNumber, rfl⟩
    have cut : splitColon? (value ++ ":" ++ unit) = some (value, unit) :=
      splitColon?_eq_some_iff.mpr ⟨rfl, colonless⟩
    simp [measured?, isText, cut, known, isNumber]

/-- What holds of an argument exactly if it holds of the child, holds of one of all the arguments exactly
    if it holds of a child. -/
theorem exists_argument {holds : Tree → Prop} (same : ∀ child, holds (argument child) ↔ holds child)
    (children : List Tree) :
    (∃ given ∈ children.map argument, holds given) ↔ ∃ child ∈ children, holds child := by
  constructor
  · rintro ⟨given, member, fits⟩
    obtain ⟨child, isChild, rfl⟩ := List.mem_map.mp member
    exact ⟨child, isChild, (same child).mp fits⟩
  · rintro ⟨child, isChild, fits⟩
    exact ⟨argument child, List.mem_map_of_mem isChild, (same child).mpr fits⟩

private theorem reassignment?_eq_some {combine : List Tree → Tree} {children : List Tree} {result : Tree}
    (found : reassignment? combine children = some result) :
    ∃ target value, children = [target, value] ∧
      result = .node "reassign" [target, combine [target, value]] := by
  unfold reassignment? at found
  split at found
  · rename_i target value
    exact ⟨target, value, rfl, (Option.some.inj found).symm⟩
  · contradiction

private theorem selection?_eq_some {children : List Tree} {result : Tree}
    (found : selection? children = some result) :
    ∃ field, children = [field] ∧ result = .node "lambda_func" [.ofText selectionParam,
      .node "select_field" [.node "identifier" [.ofText selectionParam], field]] := by
  unfold selection? at found
  split at found
  · rename_i field
    exact ⟨field, rfl, (Option.some.inj found).symm⟩
  · contradiction

theorem expansion?_eq_some_iff {tag : String} {children : List Tree} {result : Tree} :
    expansion? tag children = some result ↔ Expands tag children result := by
  constructor
  · intro found
    unfold expansion? at found
    split_ifs at found with exec unitInteger unitFloat loop selection
    · cases found
      exact exec ▸ .exec children
    · exact unitInteger ▸ .unitInteger found
    · exact unitFloat ▸ .unitFloat found
    · cases found
      exact loop ▸ .loop children
    · obtain ⟨field, rfl, rfl⟩ := selection?_eq_some found
      exact selection ▸ .selection field
    · split at found
      · rename_i sequence listed
        obtain ⟨target, value, rfl, rfl⟩ := reassignment?_eq_some found
        exact .sequence target value (Entries.mem_of_lookup listed)
      · obtain ⟨operator, listed, found⟩ := Option.bind_eq_some_iff.mp found
        obtain ⟨target, value, rfl, rfl⟩ := reassignment?_eq_some found
        exact .operator target value (Entries.mem_of_lookup listed)
  · intro expands
    cases expands with
    | exec => rfl
    | unitInteger found => exact found
    | unitFloat found => exact found
    | loop => rfl
    | selection => rfl
    | sequence target value listed =>
      simp only [sequences, List.mem_cons, Prod.mk.injEq, List.not_mem_nil, or_false] at listed
      rcases listed with ⟨rfl, rfl⟩ | ⟨rfl, rfl⟩ <;> rfl
    | operator target value listed =>
      simp only [operators, List.mem_cons, Prod.mk.injEq, List.not_mem_nil, or_false] at listed
      rcases listed with ⟨rfl, rfl⟩ | ⟨rfl, rfl⟩ | ⟨rfl, rfl⟩ | ⟨rfl, rfl⟩ | ⟨rfl, rfl⟩ | ⟨rfl, rfl⟩ |
        ⟨rfl, rfl⟩ | ⟨rfl, rfl⟩ | ⟨rfl, rfl⟩ <;> rfl

end CommandScript.Lowering
