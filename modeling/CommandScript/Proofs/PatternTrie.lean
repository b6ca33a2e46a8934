import CommandScript.PatternTrie
import Mathlib.Data.List.Induction
import Mathlib.Data.List.Nodup

/-!
What a trie of patterns holds. `get?` looks one pattern up; insertion changes it at
that pattern only, and a longest match is always a pattern that the trie holds.
-/
namespace CommandScript.PatternTrie
variable {α : Type}

/-- The value of a pattern. -/
def get? : PatternTrie α → List Char → Option α
  | empty, _ => none
  | branch _ _ _ _, [] => none
  | branch d value below beside, c :: rest =>
    if c = d then (if rest.isEmpty then value else below.get? rest) else beside.get? (c :: rest)

@[simp] theorem get?_empty (key : List Char) : (empty : PatternTrie α).get? key = none := rfl

/-- An empty pattern is never held. -/
@[simp] theorem get?_nil (trie : PatternTrie α) : trie.get? [] = none := by
  cases trie <;> rfl

theorem get?_single (c : Char) (rest : List Char) (value : α) (key : List Char) :
    (single c rest value).get? key = if key = c :: rest then some value else none := by
  induction rest generalizing c key with
  | nil =>
    cases key with
    | nil => simp
    | cons d tail =>
      by_cases same : d = c
      · cases tail <;> simp [single, get?, same]
      · simp [single, get?, same]
  | cons next rest ih =>
    cases key with
    | nil => simp
    | cons d tail =>
      by_cases same : d = c
      · cases tail with
        | nil => simp [single, get?, same]
        | cons e tail => simp [single, get?, same, ih]
      · simp [single, get?, same]

/-- Insertion changes the trie at the inserted pattern only. -/
theorem get?_insert (trie : PatternTrie α) (pattern : List Char) (value : α) (key : List Char) :
    (trie.insert pattern value).get? key =
      if key = pattern ∧ pattern ≠ [] then some value else trie.get? key := by
  fun_induction insert trie pattern value generalizing key with
  | case1 trie value => simp
  | case2 c rest value => simp [get?_single]
  | case3 old below beside c rest value ih =>
    cases key with
    | nil => simp
    | cons e tail =>
      by_cases same : e = c
      · subst same
        cases tail with
        | nil => cases rest <;> simp [get?]
        | cons f tail =>
          simp only [get?, ↓reduceIte, List.isEmpty_cons, Bool.false_eq_true, ih]
          cases rest <;> simp
      · simp [get?, same]
  | case4 d old below beside c rest value other ih =>
    cases key with
    | nil => simp
    | cons e tail =>
      by_cases same : e = d
      · subst same
        have distinct : ¬ e = c := fun equal => other equal.symm
        simp [get?, distinct]
      · simp [get?, same, ih]

theorem ofList_append_singleton (patterns : List (String × α)) (pattern : String × α) :
    ofList (patterns ++ [pattern]) = (ofList patterns).insert pattern.1.toList pattern.2 := by
  simp [ofList]

/-- A trie holds of each pattern that it was made from the last value. -/
theorem get?_ofList (patterns : List (String × α)) {key : List Char} (nonempty : key ≠ []) :
    (ofList patterns).get? key = (patterns.reverse.find? (·.1.toList = key)).map (·.2) := by
  induction patterns using List.reverseRecOn with
  | nil => rfl
  | append_singleton patterns pattern ih =>
    rw [ofList_append_singleton, get?_insert, List.reverse_append, List.reverse_singleton,
      List.singleton_append, List.find?_cons]
    by_cases same : pattern.1.toList = key
    · simp [same, nonempty]
    · have other : ¬ key = pattern.1.toList := fun equal => same equal.symm
      simp [same, other, ih]

theorem mem_of_get? {patterns : List (String × α)} {key : List Char} {value : α}
    (held : (ofList patterns).get? key = some value) :
    ∃ pattern, (pattern, value) ∈ patterns ∧ pattern.toList = key := by
  have nonempty : key ≠ [] := by
    rintro rfl
    simp at held
  rw [get?_ofList patterns nonempty] at held
  obtain ⟨⟨pattern, _⟩, found, rfl⟩ := Option.map_eq_some_iff.1 held
  have spelled := List.find?_some found
  exact ⟨pattern, List.mem_reverse.1 (List.mem_of_find?_eq_some found), by simpa using spelled⟩

/-- The longest match is a pattern that the trie holds. -/
theorem get?_of_longest {trie : PatternTrie α} {data : List Char} {value : α} {length : Nat}
    (found : trie.longest data = some (value, length)) :
    trie.get? (data.take length) = some value ∧ length ≤ data.length := by
  fun_induction longest trie data generalizing value length with
  | case1 => simp at found
  | case2 => simp at found
  | case3 _ below _ d rest _ n longer ih =>
    simp only [Option.some.injEq, Prod.mk.injEq] at found
    obtain ⟨rfl, rfl⟩ := found
    obtain ⟨held, fits⟩ := ih longer
    have taken : rest.take n ≠ [] := by
      intro none
      rw [none] at held
      simp at held
    exact ⟨by simpa [get?, taken] using held, by simpa using fits⟩
  | case4 _ _ _ d rest =>
    obtain ⟨_, rfl, pair⟩ := Option.map_eq_some_iff.1 found
    simp only [Prod.mk.injEq] at pair
    obtain ⟨rfl, rfl⟩ := pair
    simp [get?]
  | case5 e _ _ beside c rest other ih =>
    obtain ⟨held, fits⟩ := ih found
    refine ⟨?_, fits⟩
    cases length with
    | zero => simp at held
    | succ n => simpa [get?, other] using held

/-- A pattern that the trie holds is found in full where nothing comes behind it. -/
theorem longest_of_get? {trie : PatternTrie α} {key : List Char} {value : α}
    (held : trie.get? key = some value) : trie.longest key = some (value, key.length) := by
  fun_induction longest trie key generalizing value with
  | case1 => simp at held
  | case2 => simp at held
  | case3 own below beside c rest found length longer ih =>
    cases rest with
    | nil => cases below <;> simp [longest] at longer
    | cons d rest =>
      rw [ih (by simpa [get?] using held)] at longer
      obtain ⟨rfl, rfl⟩ := Prod.mk.inj (Option.some.inj longer)
      rfl
  | case4 own below beside c rest none ih =>
    cases rest with
    | nil => simp_all [get?]
    | cons d rest =>
      rw [ih (by simpa [get?] using held)] at none
      contradiction
  | case5 d own below beside c rest other ih => exact ih (by simpa [get?, other] using held)

/-- Where a pattern that the trie holds comes first, something is found that is as long at least. -/
theorem exists_longest_of_get? {trie : PatternTrie α} {key : List Char} {value : α}
    (held : trie.get? key = some value) (rest : List Char) :
    ∃ found, trie.longest (key ++ rest) = some found ∧ key.length ≤ found.2 := by
  induction trie generalizing key with
  | empty => simp at held
  | branch d own below beside inner other =>
    cases key with
    | nil => simp at held
    | cons c tail =>
      by_cases same : c = d
      · rw [List.cons_append, longest, if_pos same]
        cases tail with
        | nil =>
          obtain rfl : own = some value := by simpa [get?, same] using held
          cases later : below.longest ([] ++ rest) with
          | some found => exact ⟨_, rfl, Nat.le_add_left ..⟩
          | none => exact ⟨_, rfl, Nat.le_refl _⟩
        | cons e tail =>
          have inside : below.get? (e :: tail) = some value := by simpa [get?, same] using held
          obtain ⟨found, later, le⟩ := inner inside
          rw [later]
          exact ⟨_, rfl, Nat.succ_le_succ le⟩
      · have outside : beside.get? (c :: tail) = some value := by simpa [get?, same] using held
        obtain ⟨found, later, le⟩ := other outside
        exact ⟨found, by rw [List.cons_append, longest, if_neg same]; exact later, le⟩

/-- A match begins with a character that begins a pattern. -/
theorem startsPattern_of_longest {trie : PatternTrie α} {c : Char} {rest : List Char} {found : α × Nat}
    (matched : trie.longest (c :: rest) = some found) : trie.startsPattern c = true := by
  induction trie with
  | empty => simp [longest] at matched
  | branch d value below beside _ ih =>
    by_cases same : c = d
    · simp [startsPattern, firstChars, same]
    · rw [longest, if_neg same] at matched
      have later := ih matched
      simp only [startsPattern, firstChars, List.contains_eq_mem, List.mem_cons, decide_eq_true_eq] at later ⊢
      exact .inr later

/-- A trie of distinct patterns holds each of them with its own value. -/
theorem get?_of_mem {patterns : List (String × α)} (distinct : (patterns.map (·.1)).Nodup)
    {pattern : String} {value : α} (member : (pattern, value) ∈ patterns) (nonempty : pattern.toList ≠ []) :
    (ofList patterns).get? pattern.toList = some value := by
  rw [get?_ofList patterns nonempty]
  have listed : (pattern, value) ∈ patterns.reverse := List.mem_reverse.2 member
  obtain ⟨⟨other, found⟩, first⟩ :
      ∃ entry, patterns.reverse.find? (·.1.toList = pattern.toList) = some entry :=
    Option.isSome_iff_exists.1 (List.find?_isSome.2 ⟨_, listed, by simp⟩)
  have spelled : other = pattern := String.toList_injective (by simpa using List.find?_some first)
  have held : (other, found) ∈ patterns := List.mem_reverse.1 (List.mem_of_find?_eq_some first)
  rw [first, Option.map_some, List.inj_on_of_nodup_map distinct held member spelled]

/-- The longest match is one of the patterns that the trie was made from. -/
theorem mem_of_longest {patterns : List (String × α)} {data : List Char} {value : α} {length : Nat}
    (found : (ofList patterns).longest data = some (value, length)) :
    ∃ pattern, (pattern, value) ∈ patterns ∧ pattern.toList = data.take length ∧
      length ≤ data.length := by
  obtain ⟨held, fits⟩ := get?_of_longest found
  obtain ⟨pattern, member, spelled⟩ := mem_of_get? held
  exact ⟨pattern, member, spelled, fits⟩

/-! ## A character that no pattern has -/

/-- Whether no pattern of the trie has this character. -/
def avoids (c : Char) : PatternTrie α → Bool
  | empty => true
  | branch d _ below beside => c != d && below.avoids c && beside.avoids c

theorem avoids_single {c d : Char} {rest : List Char} (value : α) (absent : c ∉ d :: rest) :
    (single d rest value).avoids c = true := by
  induction rest generalizing d with
  | nil => simpa [single, avoids] using absent
  | cons next rest ih =>
    rw [List.mem_cons, not_or] at absent
    simp [single, avoids, absent.1, ih absent.2]

theorem avoids_insert {c : Char} {trie : PatternTrie α} {pattern : List Char} (value : α)
    (avoided : trie.avoids c = true) (absent : c ∉ pattern) :
    (trie.insert pattern value).avoids c = true := by
  fun_induction insert trie pattern value with
  | case1 => exact avoided
  | case2 => exact avoids_single _ absent
  | case3 old below beside d rest value ih =>
    simp only [avoids, Bool.and_eq_true] at avoided ⊢
    rw [List.mem_cons, not_or] at absent
    exact ⟨⟨avoided.1.1, ih avoided.1.2 absent.2⟩, avoided.2⟩
  | case4 d old below beside e rest value other ih =>
    simp only [avoids, Bool.and_eq_true] at avoided ⊢
    exact ⟨avoided.1, ih avoided.2 absent⟩

theorem avoids_ofList {c : Char} {patterns : List (String × α)}
    (absent : ∀ pattern ∈ patterns, c ∉ pattern.1.toList) : (ofList patterns).avoids c = true := by
  induction patterns using List.reverseRecOn with
  | nil => rfl
  | append_singleton patterns pattern ih =>
    rw [ofList_append_singleton]
    exact avoids_insert _ (ih fun other member => absent other (List.mem_append_left _ member))
      (absent pattern (List.mem_append_right _ (List.mem_singleton_self _)))

theorem longest_cons_of_avoids {c : Char} {trie : PatternTrie α} (avoided : trie.avoids c = true)
    (behind : List Char) : trie.longest (c :: behind) = none := by
  induction trie with
  | empty => rfl
  | branch d value below beside _ ih =>
    simp only [avoids, Bool.and_eq_true, bne_iff_ne] at avoided
    rw [longest, if_neg avoided.1.1]
    exact ih avoided.2

/-- What stands behind a character that no pattern has does not matter. -/
theorem longest_append_of_avoids {c : Char} {trie : PatternTrie α} (avoided : trie.avoids c = true)
    (front behind : List Char) : trie.longest (front ++ c :: behind) = trie.longest front := by
  fun_induction longest trie front with
  | case1 => rfl
  | case2 => exact longest_cons_of_avoids avoided behind
  | case3 value below beside d rest found length longer ih =>
    simp only [avoids, Bool.and_eq_true] at avoided
    simp [longest, ih avoided.1.2, longer]
  | case4 value below beside d rest none ih =>
    simp only [avoids, Bool.and_eq_true] at avoided
    simp [longest, ih avoided.1.2, none]
  | case5 e value below beside d rest other ih =>
    simp only [avoids, Bool.and_eq_true] at avoided
    rw [List.cons_append, longest, if_neg other]
    exact ih avoided.2

end CommandScript.PatternTrie
