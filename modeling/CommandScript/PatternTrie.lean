/-!
Longest match over a finite set of patterns. The patterns live in a trie whose
nodes are linked to their first child and to their next sibling, so that patterns
with a common beginning share its nodes.
-/
namespace CommandScript

/-- Nonempty patterns with a value each. A branch holds one character: `value` belongs to
    the pattern that ends with it, `below` are the patterns that go on after it, and `beside`
    are those with another character in its place. -/
inductive PatternTrie (α : Type) where
  | empty
  | branch (c : Char) (value : Option α) (below beside : PatternTrie α)
deriving DecidableEq

namespace PatternTrie
variable {α : Type}

/-- The trie of a single pattern, given by its first character and the rest. -/
def single (c : Char) : List Char → α → PatternTrie α
  | [], value => branch c (some value) empty empty
  | d :: rest, value => branch c none (single d rest value) empty

/-- Adds a pattern. It takes the place of an equal pattern; an empty pattern is ignored. -/
def insert : PatternTrie α → List Char → α → PatternTrie α
  | trie, [], _ => trie
  | empty, c :: rest, value => single c rest value
  | branch d old below beside, c :: rest, value =>
    if c = d then
      branch d (if rest.isEmpty then some value else old) (below.insert rest value) beside
    else
      branch d old below (beside.insert (c :: rest) value)

/-- The trie of a list of patterns. The last value of a repeated pattern counts. -/
def ofList (patterns : List (String × α)) : PatternTrie α :=
  patterns.foldl (fun trie pattern => trie.insert pattern.1.toList pattern.2) empty

/-- The value and the length of the longest pattern that the characters begin with. -/
def longest : PatternTrie α → List Char → Option (α × Nat)
  | empty, _ => none
  | branch _ _ _ _, [] => none
  | branch d value below beside, c :: rest =>
    if c = d then
      match below.longest rest with
      | some (found, length) => some (found, length + 1)
      | none => value.map (·, 1)
    else
      beside.longest (c :: rest)

/-- The longest match at an offset of the data; behind the data there is none. -/
def longestAt (trie : PatternTrie α) (data : List Char) (offset : Nat) : Option (α × Nat) :=
  trie.longest (data.drop offset)

/-- The characters that begin a pattern, each once. -/
def firstChars : PatternTrie α → List Char
  | empty => []
  | branch c _ _ beside => c :: beside.firstChars

/-- Whether a pattern begins with this character. -/
def startsPattern (trie : PatternTrie α) (c : Char) : Bool := trie.firstChars.contains c

/-- A match takes at least one character. -/
theorem longest_pos {trie : PatternTrie α} {data : List Char} {value : α} {length : Nat}
    (found : trie.longest data = some (value, length)) : 0 < length := by
  fun_induction longest trie data generalizing value length with
  | case1 => simp at found
  | case2 => simp at found
  | case3 => simp only [Option.some.injEq, Prod.mk.injEq] at found; omega
  | case4 =>
    obtain ⟨_, _, pair⟩ := Option.map_eq_some_iff.1 found
    simp only [Prod.mk.injEq] at pair
    omega
  | case5 _ _ _ _ _ _ _ ih => exact ih found

end PatternTrie
end CommandScript
