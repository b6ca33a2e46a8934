import CommandScript.Proofs.PatternTrie

/-!
The longest match against the list of patterns itself. What a trie finds in the data is the
longest listed pattern that they begin with, and of a pattern that is listed more than once
the last value counts.
-/
namespace CommandScript.PatternTrie
variable {α : Type}

/-- A listed pattern that the data begin with. An empty pattern begins nothing. -/
structure Begins (patterns : List (String × α)) (data : List Char) (pattern : String) : Prop where
  listed : pattern ∈ patterns.map (·.1)
  nonempty : pattern ≠ ""
  first : pattern.toList <+: data

/-- The list gives this value to the pattern, and none behind it. -/
def LastValue (patterns : List (String × α)) (pattern : String) (value : α) : Prop :=
  ∃ before after, patterns = before ++ (pattern, value) :: after ∧ pattern ∉ after.map (·.1)

/-- No longer pattern begins the data than one of this length, to which the list gives this value. -/
def LongestMatch (patterns : List (String × α)) (data : List Char) (value : α) (length : Nat) : Prop :=
  ∃ pattern, Begins patterns data pattern ∧ pattern.length = length ∧ LastValue patterns pattern value ∧
    ∀ other, Begins patterns data other → other.length ≤ length

variable {patterns : List (String × α)} {data : List Char} {pattern : String} {value : α} {length : Nat}

/-! ## The last value -/

theorem exists_lastValue (listed : pattern ∈ patterns.map (·.1)) : ∃ value, LastValue patterns pattern value := by
  induction patterns with
  | nil => simp at listed
  | cons entry patterns ih =>
    by_cases later : pattern ∈ patterns.map (·.1)
    · obtain ⟨value, before, after, rfl, last⟩ := ih later
      exact ⟨value, entry :: before, after, rfl, last⟩
    · have same : entry.1 = pattern := by
        rcases List.mem_cons.mp listed with here | behind
        · exact here.symm
        · exact absurd behind later
      subst same
      exact ⟨entry.2, [], patterns, rfl, later⟩

/-- A trie holds the last value that the list gives to a pattern. -/
theorem get?_ofList_eq_some_iff (nonempty : pattern ≠ "") :
    (ofList patterns).get? pattern.toList = some value ↔ LastValue patterns pattern value := by
  have spelled : pattern.toList ≠ [] := by simpa using nonempty
  rw [get?_ofList patterns spelled]
  constructor
  · intro held
    obtain ⟨⟨found, _⟩, first, rfl⟩ := Option.map_eq_some_iff.mp held
    obtain ⟨same, after, before, backwards, others⟩ := List.find?_eq_some_iff_append.mp first
    obtain rfl : found = pattern := String.toList_injective (by simpa using same)
    refine ⟨before.reverse, after.reverse, ?_, ?_⟩
    · simpa using congrArg List.reverse backwards
    · intro listed
      obtain ⟨entry, member, rfl⟩ := List.mem_map.mp listed
      have other := others entry (List.mem_reverse.mp member)
      simp at other
  · rintro ⟨before, after, rfl, last⟩
    have others : after.reverse.find? (·.1.toList = pattern.toList) = none := by
      rw [List.find?_eq_none]
      intro entry member same
      have equal : entry.1 = pattern := String.toList_injective (by simpa using same)
      exact last (List.mem_map.mpr ⟨entry, List.mem_reverse.mp member, equal⟩)
    simp [others]

/-! ## The longest pattern -/

/-- Whatever is found is a listed pattern that comes first, with its last value. -/
theorem begins_of_longest (found : (ofList patterns).longest data = some (value, length)) :
    ∃ pattern, Begins patterns data pattern ∧ pattern.length = length ∧ LastValue patterns pattern value := by
  obtain ⟨held, fits⟩ := get?_of_longest found
  obtain ⟨pattern, member, spelled, _⟩ := mem_of_longest found
  have positive := longest_pos found
  have counted : pattern.length = length := by
    rw [← String.length_toList, spelled, List.length_take]
    omega
  have nonempty : pattern ≠ "" := by
    rintro rfl
    simp at counted
    omega
  rw [← spelled] at held
  refine ⟨pattern, ⟨?_, nonempty, ?_⟩, counted, (get?_ofList_eq_some_iff nonempty).mp held⟩
  · exact List.mem_map_of_mem member
  · rw [spelled]
    exact List.take_prefix length data

/-- Where a listed pattern comes first, what is found is as long at least. -/
theorem Begins.exists_longest (begins : Begins patterns data pattern) :
    ∃ found, (ofList patterns).longest data = some found ∧ pattern.length ≤ found.2 := by
  obtain ⟨value, last⟩ := exists_lastValue begins.listed
  have held := (get?_ofList_eq_some_iff begins.nonempty).mpr last
  obtain ⟨rest, rfl⟩ := begins.first
  rw [← String.length_toList]
  exact exists_longest_of_get? held rest

theorem longest_eq_none_iff : (ofList patterns).longest data = none ↔ ∀ pattern, ¬ Begins patterns data pattern := by
  constructor
  · intro none pattern begins
    obtain ⟨found, read, _⟩ := begins.exists_longest
    rw [none] at read
    contradiction
  · intro absent
    cases read : (ofList patterns).longest data with
    | none => rfl
    | some found =>
      obtain ⟨pattern, begins, _⟩ := begins_of_longest read
      exact absurd begins (absent pattern)

theorem longest_eq_some_iff : (ofList patterns).longest data = some (value, length) ↔
    LongestMatch patterns data value length := by
  constructor
  · intro found
    obtain ⟨pattern, begins, counted, last⟩ := begins_of_longest found
    refine ⟨pattern, begins, counted, last, ?_⟩
    intro other begun
    obtain ⟨longer, read, le⟩ := begun.exists_longest
    rw [found] at read
    cases read
    exact le
  · rintro ⟨pattern, begins, counted, last, longest⟩
    obtain ⟨⟨found, longer⟩, read, le⟩ := begins.exists_longest
    obtain ⟨other, begun, sized, valued⟩ := begins_of_longest read
    -- two patterns of one length that the data begin with are the same
    have equal : other.length = pattern.length := by
      have := longest other begun
      omega
    have sized' : other.toList.length = pattern.toList.length := by
      rw [String.length_toList, String.length_toList, equal]
    have within := List.prefix_of_prefix_length_le begun.first begins.first (Nat.le_of_eq sized')
    obtain rfl : other = pattern := String.toList_injective (within.eq_of_length sized')
    have held := (get?_ofList_eq_some_iff begins.nonempty).mpr last
    have held' := (get?_ofList_eq_some_iff begins.nonempty).mpr valued
    rw [held] at held'
    cases held'
    rw [read, ← sized, counted]

/-! ## More patterns -/

section
variable {more : List (String × α)}

theorem begins_append : Begins (patterns ++ more) data pattern ↔ Begins patterns data pattern ∨ Begins more data pattern := by
  constructor
  · rintro ⟨listed, nonempty, first⟩
    rw [List.map_append, List.mem_append] at listed
    exact listed.imp (⟨·, nonempty, first⟩) (⟨·, nonempty, first⟩)
  · rintro (⟨listed, nonempty, first⟩ | ⟨listed, nonempty, first⟩)
    · exact ⟨List.map_append ▸ List.mem_append_left _ listed, nonempty, first⟩
    · exact ⟨List.map_append ▸ List.mem_append_right _ listed, nonempty, first⟩

theorem LastValue.append_left (last : LastValue patterns pattern value) (absent : pattern ∉ more.map (·.1)) :
    LastValue (patterns ++ more) pattern value := by
  obtain ⟨before, after, rfl, none⟩ := last
  refine ⟨before, after ++ more, by simp, ?_⟩
  rw [List.map_append, List.mem_append]
  exact not_or.mpr ⟨none, absent⟩

theorem LastValue.append_right (last : LastValue more pattern value) (patterns : List (String × α)) :
    LastValue (patterns ++ more) pattern value := by
  obtain ⟨before, after, rfl, none⟩ := last
  exact ⟨patterns ++ before, after, by simp, none⟩

/-- Where no pattern of a list begins one of a second list, those of the second are found only where none of
    the first is. -/
theorem longest_append (apart : ∀ short ∈ patterns.map (·.1), ∀ long ∈ more.map (·.1), ¬ short.toList <+: long.toList)
    (data : List Char) : (ofList (patterns ++ more)).longest data =
      ((ofList patterns).longest data).or ((ofList more).longest data) := by
  cases first : (ofList patterns).longest data with
  | some found =>
    obtain ⟨pattern, begins, counted, last, longest⟩ := longest_eq_some_iff.mp first
    have absent : pattern ∉ more.map (·.1) := fun listed => apart pattern begins.listed pattern listed List.prefix_rfl
    refine longest_eq_some_iff.mpr ⟨pattern, begins_append.mpr (.inl begins), counted, last.append_left absent, ?_⟩
    intro other begun
    rcases begins_append.mp begun with old | new
    · exact longest other old
    · -- both begin the data, so the longer of them would begin with the shorter
      by_contra longer
      refine apart pattern begins.listed other new.listed (List.prefix_of_prefix_length_le begins.first new.first ?_)
      rw [String.length_toList, String.length_toList]
      omega
  | none =>
    have unread := longest_eq_none_iff.mp first
    cases second : (ofList more).longest data with
    | some found =>
      obtain ⟨pattern, begins, counted, last, longest⟩ := longest_eq_some_iff.mp second
      refine longest_eq_some_iff.mpr ⟨pattern, begins_append.mpr (.inr begins), counted, last.append_right patterns, ?_⟩
      intro other begun
      exact longest other ((begins_append.mp begun).resolve_left (unread other))
    | none =>
      refine longest_eq_none_iff.mpr fun pattern begins => ?_
      rcases begins_append.mp begins with old | new
      · exact unread pattern old
      · exact longest_eq_none_iff.mp second pattern new

end

/-! ## The first characters -/

theorem firstChars_single (c : Char) (rest : List Char) (value : α) : (single c rest value).firstChars = [c] := by
  cases rest <;> rfl

theorem mem_firstChars_insert (trie : PatternTrie α) (key : List Char) (value : α) (c : Char) :
    c ∈ (trie.insert key value).firstChars ↔ key.head? = some c ∨ c ∈ trie.firstChars := by
  fun_induction insert trie key value with
  | case1 trie value => simp
  | case2 d rest value => simp [firstChars_single, firstChars, eq_comm]
  | case3 old below beside d rest value ih =>
    simp only [firstChars, List.mem_cons, List.head?_cons, Option.some.injEq]
    grind
  | case4 d old below beside e rest value other ih =>
    simp only [firstChars, List.mem_cons, ih]
    exact or_left_comm

/-- A character begins a pattern of a trie if it begins a listed pattern. -/
theorem startsPattern_ofList_iff {c : Char} : (ofList patterns).startsPattern c = true ↔
    ∃ pattern ∈ patterns.map (·.1), pattern.toList.head? = some c := by
  rw [startsPattern, List.contains_iff_mem]
  induction patterns using List.reverseRecOn with
  | nil => simp [ofList, firstChars]
  | append_singleton patterns entry ih =>
    rw [ofList_append_singleton, mem_firstChars_insert, ih]
    simp [or_comm, or_and_right, exists_or]

/-- For every list of patterns, whatever is repeated in it or empty, and at every offset of the data: a
    trie finds nothing exactly if no listed pattern comes next; what it finds is the longest that does,
    with the last value that the list gives it; and it knows with which characters patterns begin. -/
theorem longest_listed_match (patterns : List (String × α)) (data : List Char) (offset : Nat) :
    ((ofList patterns).longestAt data offset = none ↔ ∀ pattern, ¬ Begins patterns (data.drop offset) pattern) ∧
      (∀ value length, (ofList patterns).longestAt data offset = some (value, length) ↔
        LongestMatch patterns (data.drop offset) value length) ∧
      ∀ c, (ofList patterns).startsPattern c = true ↔
        ∃ pattern ∈ patterns.map (·.1), pattern.toList.head? = some c := by
  refine ⟨longest_eq_none_iff, ?_, ?_⟩
  · intro value length
    exact longest_eq_some_iff
  · intro c
    exact startsPattern_ofList_iff

/-- The last of two equal patterns counts, and the empty one does not. -/
example : (ofList [("ab", 1), ("", 2), ("a", 3), ("ab", 4)]).longestAt "xabc".toList 1 = some (4, 2) := by
  rfl

end CommandScript.PatternTrie
