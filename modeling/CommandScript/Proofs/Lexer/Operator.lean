import CommandScript.Lexer.Reader
import CommandScript.Proofs.LongestMatch
import Mathlib.Tactic.SplitIfs

/-!
The operator that a reader finds. It is the longest one that can be read there: the look at the first
character hides none (`operator?_eq_longest`). None begins with a character that no operator has, one that is
written in full is found where a blank comes behind it, and the arithmetic operators change nothing in how
the others are read.
-/
namespace CommandScript

namespace Operator

theorem distinct : ((structural ++ arithmetic).map (·.1)).Nodup := by
  decide

theorem nonempty : ∀ pattern ∈ structural ++ arithmetic, pattern.1.toList ≠ [] := by
  simp [structural, arithmetic]

/-- No operator has a letter, a digit, a blank, a mark of quotation or an underscore. -/
def spells (c : Char) : Bool :=
  !Text.isAlphabetic c && !Text.isBlank c && !c.isDigit && !(['"', '_', '#'].contains c)

theorem spelled : ∀ pattern ∈ structural ++ arithmetic, pattern.1.toList.all spells = true := by
  decide

/-- An arithmetic operator begins with no other, though others begin with it. -/
theorem apart : ∀ short ∈ structural.map (·.1), ∀ long ∈ arithmetic.map (·.1), ¬ short.toList <+: long.toList := by
  decide

end Operator

namespace Lexer.Reader
variable {context : Context} {c : Char}

/-- What begins an operator that can be read begins one of all operators. -/
theorem startsPattern_fullTrie (starts : (operators context).startsPattern c = true) :
    Operator.fullTrie.startsPattern c = true := by
  unfold operators at starts
  split_ifs at starts
  · exact starts
  · obtain ⟨pattern, listed, first⟩ := PatternTrie.startsPattern_ofList_iff.mp starts
    refine PatternTrie.startsPattern_ofList_iff.mpr ⟨pattern, ?_, first⟩
    rw [List.map_append]
    exact List.mem_append_left _ listed

/-- The look at the first character hides no operator. -/
theorem operator?_eq_longest (context : Context) (chars : List Char) :
    operator? context chars = (operators context).longest chars := by
  cases chars with
  | nil => cases operators context <;> rfl
  | cons c tail =>
    rw [operator?]
    split_ifs with starts
    · rfl
    · cases read : (operators context).longest (c :: tail) with
      | none => rfl
      | some found => exact absurd (startsPattern_fullTrie (PatternTrie.startsPattern_of_longest read)) starts

theorem operators_avoid (absent : ∀ pattern ∈ Operator.structural ++ Operator.arithmetic,
    c ∉ pattern.1.toList) (context : Context) : (operators context).avoids c = true := by
  unfold operators
  split_ifs
  · exact PatternTrie.avoids_ofList absent
  · refine PatternTrie.avoids_ofList fun pattern member => ?_
    exact absent pattern (List.mem_append_left _ member)

theorem operators_avoid_unspelled (unspelled : Operator.spells c = false) (context : Context) :
    (operators context).avoids c = true := by
  refine operators_avoid (fun pattern member inside => ?_) context
  have spelled := List.all_eq_true.1 (Operator.spelled pattern member) c inside
  rw [unspelled] at spelled
  contradiction

/-- No operator begins with a character that none has. -/
theorem operator?_eq_none (unspelled : Operator.spells c = false) (context : Context) (tail : List Char) :
    operator? context (c :: tail) = none := by
  rw [operator?_eq_longest]
  exact PatternTrie.longest_cons_of_avoids (operators_avoid_unspelled unspelled context) tail

/-- No operator goes on over a character that none has. -/
theorem operator?_unspelled (unspelled : Operator.spells c = false) (context : Context) (front behind : List Char) :
    operator? context (front ++ c :: behind) = operator? context front := by
  rw [operator?_eq_longest, operator?_eq_longest]
  exact PatternTrie.longest_append_of_avoids (operators_avoid_unspelled unspelled context) front behind

theorem get?_fullTrie {text : String} {kind : Kind} (listed : (text, kind) ∈ Operator.structural ++ Operator.arithmetic) :
    Operator.fullTrie.get? text.toList = some kind :=
  PatternTrie.get?_of_mem Operator.distinct listed (Operator.nonempty _ listed)

/-- Where no command argument came before, every operator can be read. -/
theorem operators_of_free (free : context.prev ≠ some .execArg) : operators context = Operator.fullTrie := by
  simp [operators, free]

/-- An operator before a blank is found, unless arithmetic could not be read there. -/
theorem operator?_of_mem {text : String} {kind : Kind}
    (listed : (text, kind) ∈ Operator.structural ++ Operator.arithmetic)
    (free : context.prev ≠ some .execArg) (tail : List Char) :
    operator? context (text.toList ++ ' ' :: tail) = some (kind, text.toList.length) := by
  rw [operator?_unspelled (by decide), operator?_eq_longest, operators_of_free free]
  exact PatternTrie.longest_of_get? (get?_fullTrie listed)

/-- An operator that can be read makes sure that some operator is found. -/
theorem exists_operator?_of_get? {text : String} {kind : Kind}
    (readable : (operators context).get? text.toList = some kind) (tail : List Char) :
    ∃ found, operator? context (text.toList ++ tail) = some found := by
  obtain ⟨found, read, _⟩ := PatternTrie.exists_longest_of_get? readable tail
  exact ⟨found, operator?_eq_longest context _ ▸ read⟩

theorem exists_operator?_of_mem {text : String} {kind : Kind} (listed : (text, kind) ∈ Operator.structural)
    (context : Context) (tail : List Char) : ∃ found, operator? context (text.toList ++ tail) = some found := by
  have member : (text, kind) ∈ Operator.structural ++ Operator.arithmetic := List.mem_append_left _ listed
  have structural : Operator.structuralTrie.get? text.toList = some kind := by
    refine PatternTrie.get?_of_mem ?_ listed (Operator.nonempty _ member)
    exact (List.nodup_append.1 (List.map_append ▸ Operator.distinct)).1
  have readable : (operators context).get? text.toList = some kind := by
    unfold operators
    split_ifs
    · exact get?_fullTrie member
    · exact structural
  exact exists_operator?_of_get? readable tail

/-- An operator of any kind is found where no command argument came before. -/
theorem exists_operator?_of_free {text : String} {kind : Kind}
    (listed : (text, kind) ∈ Operator.structural ++ Operator.arithmetic) (free : context.prev ≠ some .execArg)
    (tail : List Char) : ∃ found, operator? context (text.toList ++ tail) = some found := by
  have readable : (operators context).get? text.toList = some kind := by
    rw [operators_of_free free]
    exact get?_fullTrie listed
  exact exists_operator?_of_get? readable tail

/-- Whether arithmetic can be read changes nothing in how the other operators are read. At every offset of any
    characters, what is found without the arithmetic operators is found with them, as long and of the same kind;
    and where nothing is found without them, nothing is found with them but one of them. Whatever the context,
    the look at the first character among all operators hides none that can be read. -/
theorem structural_read_alike (data : List Char) (offset : Nat) :
    (∀ found, Operator.structuralTrie.longestAt data offset = some found →
      Operator.fullTrie.longestAt data offset = some found) ∧
    (Operator.structuralTrie.longestAt data offset = none →
      ∀ kind length, Operator.fullTrie.longestAt data offset = some (kind, length) →
        ∃ text, (text, kind) ∈ Operator.arithmetic ∧ text.length = length ∧ text.toList <+: data.drop offset) ∧
    ∀ context, operator? context (data.drop offset) = (operators context).longestAt data offset := by
  have parts : Operator.fullTrie.longestAt data offset = (Operator.structuralTrie.longestAt data offset).or
      ((PatternTrie.ofList Operator.arithmetic).longestAt data offset) :=
    PatternTrie.longest_append Operator.apart (data.drop offset)
  refine ⟨fun found read => ?_, fun unread kind length read => ?_, fun context => ?_⟩
  · rw [parts, read, Option.some_or]
  · rw [parts, unread, Option.none_or] at read
    obtain ⟨text, listed, spelled, fits⟩ := PatternTrie.mem_of_longest read
    refine ⟨text, listed, ?_, spelled ▸ List.take_prefix length _⟩
    rw [← String.length_toList, spelled, List.length_take_of_le fits]
  · exact operator?_eq_longest context (data.drop offset)

/-- A star begins operators of both kinds: alone it is read among all operators only. -/
example : Operator.structuralTrie.longestAt "a**b".toList 1 = none ∧
    Operator.fullTrie.longestAt "a**b".toList 1 = some (.power, 2) ∧
    Operator.fullTrie.longestAt "a**=b".toList 1 = some (.powerAssign, 3) := by
  decide

end Lexer.Reader
end CommandScript
