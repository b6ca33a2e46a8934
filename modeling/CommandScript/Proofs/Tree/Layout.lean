import CommandScript.Proofs.Tree.Occurrence
import Mathlib.Data.List.Basic

/-!
What an indented tree shows of a tree. It does not show of which kind a leaf is, and among
several lines below a node, or where the only one is a node, it does not tell a leaf from
a node without children. It shows all else (`Alike`), if no tag and no leaf is written
with the characters that the format is made of: the depth of a line is the number of
blanks at its front, so that the lines below a node end with the first that is not deeper.
-/
namespace CommandScript.Tree

/-- The tag of a node, or the text of a leaf. -/
def label : Tree → String
  | node tag _ => tag
  | leaf value => toString value

mutual

/-- Trees of the same shape, with the same tags and the same texts of leaves. The leaves may be of
    different kinds. -/
inductive Alike : Tree → Tree → Prop
  | leaf {value other : Leaf} : toString value = toString other → Alike (.leaf value) (.leaf other)
  | labelled {tag : String} {value other : Leaf} : toString value = toString other →
      Alike (.node tag [.leaf value]) (.node tag [.leaf other])
  | node {tag : String} {children others : List Tree} :
      (∀ value, children ≠ [.leaf value]) → (∀ value, others ≠ [.leaf value]) →
        AlikeAll children others → Alike (.node tag children) (.node tag others)

/-- Rows of such trees, where a leaf may stand for a node without children. -/
inductive AlikeAll : List Tree → List Tree → Prop
  | nil : AlikeAll [] []
  | cons {tree other : Tree} {rest others : List Tree} :
      Alike tree other → AlikeAll rest others → AlikeAll (tree :: rest) (other :: others)
  | childless {tree other : Tree} {rest others : List Tree} :
      tree.children = [] → other.children = [] → tree.label = other.label →
        AlikeAll rest others → AlikeAll (tree :: rest) (other :: others)

end

/-- A text with none of the characters that give a layout its form. -/
structure Fits (text : String) : Prop where
  feed : '\n' ∉ text.toList
  tab : '\t' ∉ text.toList
  front : text.toList.head? ≠ some ' '

instance (text : String) : Decidable (Fits text) :=
  decidable_of_iff ('\n' ∉ text.toList ∧ '\t' ∉ text.toList ∧ text.toList.head? ≠ some ' ')
    ⟨fun ⟨feed, tab, front⟩ => ⟨feed, tab, front⟩, fun fits => ⟨fits.feed, fits.tab, fits.front⟩⟩

/-- All tags and all leaves of the tree have texts that fit a layout. -/
def Fitting (tree : Tree) : Prop := ∀ sub, Occurs sub tree → Fits sub.label

theorem Fitting.label {tree : Tree} (fitting : Fitting tree) : Fits tree.label :=
  fitting tree ⟨[], .here⟩

theorem fitting_leaf {value : Leaf} : Fitting (.leaf value) ↔ Fits (toString value) := by
  constructor
  · intro fitting
    exact fitting.label
  · intro fits sub occurs
    obtain rfl := occurs_leaf.mp occurs
    exact fits

theorem fitting_node {tag : String} {children : List Tree} :
    Fitting (.node tag children) ↔ Fits tag ∧ ∀ child ∈ children, Fitting child := by
  constructor
  · intro fitting
    refine ⟨fitting.label, ?_⟩
    intro child member sub occurs
    exact fitting sub (occurs_node.mpr (Or.inr ⟨child, member, occurs⟩))
  · rintro ⟨fits, fitting⟩ sub occurs
    rcases occurs_node.mp occurs with rfl | ⟨child, member, occurs⟩
    · exact fits
    · exact fitting child member sub occurs

/-! ## The first line of a tree and the trees beneath it -/

/-- What the first line of a tree says behind its blanks. -/
def firstLine : Tree → String
  | leaf value => toString value
  | node tag [leaf value] => tag ++ "\t" ++ toString value
  | node tag _ => tag

/-- The trees whose lines follow the first line of a tree. -/
def beneath : Tree → List Tree
  | node _ [leaf _] => []
  | node _ children => children
  | leaf _ => []

/-- A tree is a node with a leaf for its only child, or it is written by its label and its children. -/
theorem labelled_or (tree : Tree) :
    (∃ tag value, tree = .node tag [.leaf value]) ∨
      ((∀ value, tree.children ≠ [.leaf value]) ∧ tree.firstLine = tree.label ∧ tree.beneath = tree.children) := by
  cases tree with
  | leaf value => exact Or.inr ⟨by simp [children], rfl, rfl⟩
  | node tag children =>
    by_cases labelled : ∃ value, children = [.leaf value]
    · obtain ⟨value, rfl⟩ := labelled
      exact Or.inl ⟨tag, value, rfl⟩
    · have plain : ∀ value, children ≠ [.leaf value] := fun value same => labelled ⟨value, same⟩
      exact Or.inr ⟨plain, firstLine.eq_3 tag children plain, beneath.eq_2 tag children plain⟩

theorem lines_eq (level : Nat) (tree : Tree) :
    lines level tree = (indent level ++ tree.firstLine) :: linesAll (level + 1) tree.beneath := by
  rcases labelled_or tree with ⟨tag, value, rfl⟩ | ⟨plain, label, beneath⟩
  · simp [lines, firstLine, Tree.beneath, linesAll, String.append_assoc]
  · rw [label, beneath]
    cases tree with
    | leaf value => rfl
    | node tag children => exact lines.eq_3 level tag children plain

theorem mem_children {tree child : Tree} (member : child ∈ tree.beneath) : child ∈ tree.children := by
  rcases labelled_or tree with ⟨tag, value, rfl⟩ | ⟨_, _, same⟩
  · simp [beneath] at member
  · rwa [same] at member

/-- Induction over the trees beneath first lines. -/
theorem induct_beneath {motive : Tree → Prop}
    (step : ∀ tree, (∀ child ∈ tree.beneath, motive child) → motive tree) (tree : Tree) : motive tree := by
  induction tree with
  | leaf value =>
    refine step _ ?_
    simp [beneath]
  | node tag children ih => exact step _ fun child member => ih child (mem_children member)

theorem Fitting.beneath {tree child : Tree} (fitting : Fitting tree) (member : child ∈ tree.beneath) :
    Fitting child := by
  cases tree with
  | leaf value => simp [Tree.beneath] at member
  | node tag children => exact (fitting_node.mp fitting).2 child (mem_children member)

theorem Fitting.labelled {tag : String} {value : Leaf} (fitting : Fitting (.node tag [.leaf value])) :
    Fits tag ∧ Fits (toString value) :=
  ⟨fitting.label, ((fitting_node.mp fitting).2 _ List.mem_cons_self).label⟩

theorem Fitting.feed_firstLine {tree : Tree} (fitting : Fitting tree) : '\n' ∉ tree.firstLine.toList := by
  rcases labelled_or tree with ⟨tag, value, rfl⟩ | ⟨_, same, _⟩
  · obtain ⟨tagFits, valueFits⟩ := fitting.labelled
    simp [firstLine, tagFits.feed, valueFits.feed]
  · rw [same]
    exact fitting.label.feed

theorem Fitting.front_firstLine {tree : Tree} (fitting : Fitting tree) :
    tree.firstLine.toList.head? ≠ some ' ' := by
  rcases labelled_or tree with ⟨tag, value, rfl⟩ | ⟨_, same, _⟩
  · have front := fitting.labelled.1.front
    cases tagged : tag.toList with
    | nil => simp [firstLine, tagged]
    | cons first rest => simpa [firstLine, tagged] using front
  · rw [same]
    exact fitting.label.front

/-! ## The depth of a line -/

/-- The number of blanks at the front of a line. -/
def depth (line : String) : Nat := (line.toList.takeWhile (· == ' ')).length

theorem depth_indent (level : Nat) {text : String} (front : text.toList.head? ≠ some ' ') :
    depth (indent level ++ text) = 2 * level := by
  have blanks : (text.toList.takeWhile (· == ' ')) = [] := by
    cases characters : text.toList with
    | nil => rfl
    | cons first rest =>
      have other : first ≠ ' ' := by simpa [characters] using front
      simp [other]
  have all : ∀ c ∈ List.replicate (2 * level) ' ', (c == ' ') = true := by
    intro c member
    simp [List.eq_of_mem_replicate member]
  simp only [depth, indent, String.toList_append, String.toList_ofList]
  rw [List.takeWhile_append_of_pos all, blanks, List.append_nil, List.length_replicate]

/-- Nothing follows, or a line that stands less deep than the lines at `level`. -/
def Shallow (level : Nat) (rest : List String) : Prop := ∀ line ∈ rest.head?, depth line < 2 * level

theorem Shallow.deeper {level : Nat} {rest : List String} (shallow : Shallow level rest) :
    Shallow (level + 1) rest := by
  intro line member
  have := shallow line member
  omega

theorem Fitting.depth_head {tree : Tree} (fitting : Fitting tree) (level : Nat) (more : List String) :
    ∀ line ∈ (lines level tree ++ more).head?, depth line = 2 * level := by
  intro line member
  rw [lines_eq] at member
  obtain rfl : indent level ++ tree.firstLine = line := by simpa using member
  exact depth_indent level fitting.front_firstLine

/-- Trees in a row do not hide that what follows them is less deep than what is beneath them. -/
theorem shallow_linesAll {level : Nat} {trees : List Tree} {rest : List String}
    (fitting : ∀ tree ∈ trees, Fitting tree) (shallow : Shallow level rest) :
    Shallow (level + 1) (linesAll level trees ++ rest) := by
  cases trees with
  | nil => exact shallow.deeper
  | cons tree others =>
    intro line member
    rw [linesAll, List.append_assoc] at member
    have := (fitting tree List.mem_cons_self).depth_head level _ line member
    omega

/-! ## Lines read back -/

/-- Trees that are not told apart in a row. -/
def Interchangeable (tree other : Tree) : Prop :=
  Alike tree other ∨ (tree.children = [] ∧ other.children = [] ∧ tree.label = other.label)

theorem Interchangeable.cons {tree other : Tree} {rest others : List Tree}
    (same : Interchangeable tree other) (more : AlikeAll rest others) :
    AlikeAll (tree :: rest) (other :: others) := by
  rcases same with alike | ⟨childless, otherChildless, labels⟩
  · exact .cons alike more
  · exact .childless childless otherChildless labels more

theorem AlikeAll.nil_iff {trees others : List Tree} (alike : AlikeAll trees others) :
    trees = [] ↔ others = [] := by
  cases alike with
  | nil => simp
  | cons _ _ => simp
  | childless _ _ _ _ => simp

/-- No label holds a tab, so that a tab tells the tag of a node from its leaf. -/
theorem labelled_of_firstLine {tree : Tree} {tag : String} {value : Leaf} (fitting : Fitting tree)
    (labelled : Fitting (.node tag [.leaf value])) (same : tree.firstLine = firstLine (.node tag [.leaf value])) :
    ∃ other, tree = .node tag [.leaf other] ∧ toString other = toString value := by
  rcases labelled_or tree with ⟨otherTag, other, rfl⟩ | ⟨_, plain, _⟩
  · have characters :
        otherTag.toList ++ '\t' :: (toString other).toList = tag.toList ++ '\t' :: (toString value).toList := by
      simpa [firstLine] using congrArg String.toList same
    obtain ⟨tagFits, valueFits⟩ := fitting.labelled
    obtain ⟨tags, _, texts⟩ := (List.append_cons_inj_of_notMem tagFits.tab valueFits.tab).mp characters
    obtain rfl := String.toList_inj.mp tags
    exact ⟨other, rfl, String.toList_inj.mp texts⟩
  · have tab : '\t' ∈ tree.firstLine.toList := by
      rw [same]
      simp [firstLine]
    rw [plain] at tab
    exact absurd tab fitting.label.tab

/-- A first line and what is beneath it tell a tree. -/
theorem interchangeable_of_firstLine {tree other : Tree} (fitting : Fitting tree) (otherFitting : Fitting other)
    (same : tree.firstLine = other.firstLine) (alike : AlikeAll tree.beneath other.beneath) :
    Interchangeable tree other := by
  rcases labelled_or tree with ⟨tag, value, rfl⟩ | ⟨plain, label, beneath⟩
  · obtain ⟨otherValue, rfl, texts⟩ := labelled_of_firstLine otherFitting fitting same.symm
    exact Or.inl (.labelled texts.symm)
  rcases labelled_or other with ⟨tag, value, rfl⟩ | ⟨otherPlain, otherLabel, otherBeneath⟩
  · obtain ⟨found, rfl, _⟩ := labelled_of_firstLine fitting otherFitting same
    exact absurd rfl (plain found)
  rw [label, otherLabel] at same
  rw [beneath, otherBeneath] at alike
  by_cases childless : tree.children = []
  · exact Or.inr ⟨childless, alike.nil_iff.mp childless, same⟩
  · have otherChildren : other.children ≠ [] := fun none => childless (alike.nil_iff.mpr none)
    cases tree with
    | leaf value => simp [children] at childless
    | node tag children =>
      cases other with
      | leaf value => simp [Tree.children] at otherChildren
      | node otherTag others =>
        obtain rfl : tag = otherTag := same
        exact Or.inl (.node plain otherPlain alike)

/-- The lines of the tree tell what it is and where it ends, whatever less deep line follows. -/
def Told (tree : Tree) : Prop :=
  ∀ ⦃other : Tree⦄ ⦃level : Nat⦄ ⦃rest more : List String⦄, Fitting other →
    Shallow (level + 1) rest → Shallow (level + 1) more → lines level tree ++ rest = lines level other ++ more →
      Interchangeable tree other ∧ rest = more

/-- Lines that are less deep do not begin with a tree of the level. -/
theorem Shallow.not_lines {tree : Tree} {level : Nat} {rest more : List String} (shallow : Shallow level rest)
    (fitting : Fitting tree) : rest ≠ lines level tree ++ more := by
  rintro rfl
  have deep := fitting.depth_head level more
  rw [lines_eq, List.cons_append] at shallow deep
  have := shallow _ rfl
  have := deep _ rfl
  omega

/-- A row of trees ends with the first line that is less deep. -/
theorem alikeAll_of_linesAll {trees others : List Tree} (told : ∀ tree ∈ trees, Told tree)
    (fitting : ∀ tree ∈ trees, Fitting tree) (otherFitting : ∀ tree ∈ others, Fitting tree)
    {level : Nat} {rest more : List String} (shallow : Shallow level rest) (moreShallow : Shallow level more)
    (same : linesAll level trees ++ rest = linesAll level others ++ more) :
    AlikeAll trees others ∧ rest = more := by
  induction trees generalizing others with
  | nil =>
    cases others with
    | nil => exact ⟨.nil, same⟩
    | cons other others =>
      rw [linesAll, linesAll, List.nil_append, List.append_assoc] at same
      exact absurd same (shallow.not_lines (otherFitting other List.mem_cons_self))
  | cons tree trees ih =>
    cases others with
    | nil =>
      rw [linesAll, linesAll, List.nil_append, List.append_assoc] at same
      exact absurd same.symm (moreShallow.not_lines (fitting tree List.mem_cons_self))
    | cons other others =>
      obtain ⟨toldFirst, toldRest⟩ := List.forall_mem_cons.mp told
      obtain ⟨_, fittingRest⟩ := List.forall_mem_cons.mp fitting
      obtain ⟨otherFirst, otherRest⟩ := List.forall_mem_cons.mp otherFitting
      rw [linesAll, linesAll, List.append_assoc, List.append_assoc] at same
      obtain ⟨first, later⟩ := toldFirst otherFirst (shallow_linesAll fittingRest shallow)
        (shallow_linesAll otherRest moreShallow) same
      obtain ⟨alike, rests⟩ := ih toldRest fittingRest otherRest later
      exact ⟨first.cons alike, rests⟩

theorem indent_append_inj {level : Nat} {text other : String} (same : indent level ++ text = indent level ++ other) :
    text = other := by
  have characters := congrArg String.toList same
  rw [String.toList_append, String.toList_append] at characters
  exact String.toList_inj.mp (List.append_cancel_left characters)

/-- The induction follows the lines: first lines at one level are told by their texts, and what is
    beneath them is a row, which ends before what is less deep. -/
theorem Fitting.told {tree : Tree} (fitting : Fitting tree) : Told tree := by
  induction tree using induct_beneath with
  | step tree ih =>
    intro other level rest more otherFitting shallow moreShallow same
    rw [lines_eq, lines_eq level other, List.cons_append, List.cons_append] at same
    obtain ⟨firsts, later⟩ := List.cons.inj same
    have told : ∀ child ∈ tree.beneath, Told child := fun child member => ih child member (fitting.beneath member)
    obtain ⟨alike, rests⟩ := alikeAll_of_linesAll told (fun _ => fitting.beneath)
      (fun _ => otherFitting.beneath) shallow moreShallow later
    exact ⟨interchangeable_of_firstLine fitting otherFitting (indent_append_inj firsts) alike, rests⟩

/-! ## Texts of lines -/

/-- A text of ended lines is split at its line feeds into the lines. -/
theorem splitOn_join {rows : List String} (inline : ∀ row ∈ rows, '\n' ∉ row.toList) :
    (String.join (rows.map (· ++ "\n"))).toList.splitOn '\n' = rows.map String.toList ++ [[]] := by
  induction rows with
  | nil => simp
  | cons row rows ih =>
    obtain ⟨first, rest⟩ := List.forall_mem_cons.mp inline
    have text : (String.join ((row :: rows).map (· ++ "\n"))).toList =
        row.toList ++ '\n' :: (String.join (rows.map (· ++ "\n"))).toList := by
      simp [String.join_cons]
    have others : ∀ c ∈ row.toList, (c == '\n') = false := by
      intro c member
      have : c ≠ '\n' := by
        rintro rfl
        exact first member
      simpa using this
    rw [text, List.splitOn, List.splitOnP_append_cons_of_forall_mem others '\n' (by simp), ← List.splitOn, ih rest]
    rfl

theorem join_lines_inj {rows others : List String} (inline : ∀ row ∈ rows, '\n' ∉ row.toList)
    (otherInline : ∀ row ∈ others, '\n' ∉ row.toList)
    (same : String.join (rows.map (· ++ "\n")) = String.join (others.map (· ++ "\n"))) : rows = others := by
  have split := splitOn_join inline
  rw [same, splitOn_join otherInline] at split
  have texts : others.map String.toList = rows.map String.toList := List.append_cancel_right split
  exact ((List.map_inj_right fun _ _ => String.toList_inj.mp).mp texts).symm

theorem mem_linesAll {level : Nat} {trees : List Tree} {row : String} :
    row ∈ linesAll level trees ↔ ∃ tree ∈ trees, row ∈ lines level tree := by
  induction trees with
  | nil => simp [linesAll]
  | cons tree trees ih => simp [linesAll, ih]

theorem Fitting.feed_lines {tree : Tree} (fitting : Fitting tree) {level : Nat} {row : String}
    (member : row ∈ lines level tree) : '\n' ∉ row.toList := by
  induction tree using induct_beneath generalizing level with
  | step tree ih =>
    rw [lines_eq, List.mem_cons, mem_linesAll] at member
    rcases member with rfl | ⟨child, found, member⟩
    · simp [indent, fitting.feed_firstLine]
    · exact ih child found (fitting.beneath found) member

/-! ## What a layout tells -/

theorem lines_childless {tree : Tree} (childless : tree.children = []) (level : Nat) :
    lines level tree = [indent level ++ tree.label] := by
  cases tree with
  | leaf value => rfl
  | node tag children =>
    obtain rfl : children = [] := childless
    rfl

mutual

theorem Alike.lines_eq {tree other : Tree} (level : Nat) :
    Alike tree other → lines level tree = lines level other
  | .leaf texts => by simp [lines, texts]
  | .labelled texts => by simp [lines, texts]
  | .node plain otherPlain alike => by
    rw [lines.eq_3 _ _ _ plain, lines.eq_3 _ _ _ otherPlain, alike.linesAll_eq]

theorem AlikeAll.linesAll_eq {trees others : List Tree} (level : Nat) :
    AlikeAll trees others → linesAll level trees = linesAll level others
  | .nil => rfl
  | .cons alike more => by rw [linesAll, linesAll, alike.lines_eq, more.linesAll_eq]
  | .childless childless otherChildless labels more => by
    rw [linesAll, linesAll, more.linesAll_eq, lines_childless childless, lines_childless otherChildless, labels]

end

theorem Alike.layout_eq {tree other : Tree} (alike : Alike tree other) : layout tree = layout other := by
  rw [layout, layout, alike.lines_eq]

theorem feed_mem_layout (tree : Tree) : '\n' ∈ tree.layout.toList := by
  rw [layout, lines_eq, List.map_cons, String.join_cons]
  simp

theorem Fitting.alike_of_layout {tag otherTag : String} {children others : List Tree}
    (fitting : Fitting (.node tag children)) (otherFitting : Fitting (.node otherTag others))
    (same : layout (.node tag children) = layout (.node otherTag others)) :
    Alike (.node tag children) (.node otherTag others) := by
  have rows := join_lines_inj (fun _ => fitting.feed_lines) (fun _ => otherFitting.feed_lines) same
  have ended : Shallow 1 [] := by simp [Shallow]
  obtain ⟨alike | ⟨childless, otherChildless, labels⟩, _⟩ :=
    fitting.told otherFitting ended ended (congrArg (· ++ []) rows)
  · exact alike
  · obtain rfl : children = [] := childless
    obtain rfl : others = [] := otherChildless
    obtain rfl : tag = otherTag := labels
    exact .node (by simp) (by simp) .nil

/-- Trees whose tags and leaves fit a layout are written as one text exactly if they are alike. -/
theorem toString_eq_iff_alike {tree other : Tree} (fitting : Fitting tree) (otherFitting : Fitting other) :
    toString tree = toString other ↔ Alike tree other := by
  constructor
  · intro same
    cases tree with
    | leaf value =>
      cases other with
      | leaf otherValue => exact .leaf same
      | node tag others =>
        have feed : '\n' ∈ (toString value).toList := same ▸ feed_mem_layout (.node tag others)
        exact absurd feed fitting.label.feed
    | node tag children =>
      cases other with
      | leaf value =>
        have feed : '\n' ∈ (toString value).toList := same ▸ feed_mem_layout (.node tag children)
        exact absurd feed otherFitting.label.feed
      | node otherTag others => exact fitting.alike_of_layout otherFitting same
  · intro alike
    cases alike with
    | leaf texts => exact texts
    | labelled texts => exact (Alike.labelled texts).layout_eq
    | node plain otherPlain more => exact (Alike.node plain otherPlain more).layout_eq

/-- A condition on a truth value, with a text and a node for its branches. -/
def condition : Tree := .node "if" [.node "const" [.leaf (.bool true)], ofText "echo", .node "exit" []]

/-- A condition on a text, with a node and a text for its branches. -/
def otherCondition : Tree := .node "if" [.node "const" [ofText "true"], .node "echo" [], ofText "exit"]

theorem alike_conditions : Fitting condition ∧ Fitting otherCondition ∧
    toString condition = toString otherCondition ∧ Alike condition otherCondition := by
  have fitting : Fitting condition := by
    simp only [condition, ofText, fitting_node, fitting_leaf, List.forall_mem_cons, List.not_mem_nil, false_implies,
      implies_true]
    decide
  have otherFitting : Fitting otherCondition := by
    simp only [otherCondition, ofText, fitting_node, fitting_leaf, List.forall_mem_cons, List.not_mem_nil, false_implies,
      implies_true]
    decide
  have same : toString condition = toString otherCondition := by decide
  exact ⟨fitting, otherFitting, same, (toString_eq_iff_alike fitting otherFitting).mp same⟩

end CommandScript.Tree
