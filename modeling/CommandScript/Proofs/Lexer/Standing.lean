import CommandScript.Proofs.Lexer.Action
import CommandScript.Proofs.PatternTrie
import CommandScript.Proofs.Token.Quantity

/-!
Where a reader stands. Its text and the rest after it are what the padded source
holds from its start on, and in the middle of a word or a number it has not come
into the padding.
-/
namespace CommandScript.Lexer

@[simp] theorem length_padding : padding.length = 2 := rfl

/-- The characters that a number is made of. -/
def isNumeral (c : Char) : Bool := c.isDigit || c = '-' || c = '.'

namespace Reader

/-- What a state asks of the text kept and of the rest. -/
def Suits : State → List Char → List Char → Prop
  | .start, text, _ => text = []
  | .comment, text, _ => text = []
  | .identifier, _, rest => padding.length ≤ rest.length
  | .quotedLiteral quote _, _, _ => quote = '"' ∨ quote = '\''
  | .quotedArgList _ quote, _, _ => ∀ opened ∈ quote, opened = '"' ∨ opened = '\''
  | .unquotedLiteral, text, rest => text ≠ [] ∧ padding.length ≤ rest.length
  | .number _, text, rest =>
    text ≠ [] ∧ (∀ c ∈ text, isNumeral c = true) ∧ padding.length ≤ rest.length

/-- A reader of this source, at the place that its start says. -/
structure Standing (source : List Char) (r : Reader) : Prop where
  reads : (source ++ padding).drop r.start = r.text ++ r.rest
  counts : r.head + r.rest.length = source.length + padding.length
  suits : Suits r.state r.text r.rest

variable {source : List Char} {r : Reader} {c : Char} {tail : List Char}

theorem standing_ofSource (source : List Char) : Standing source (ofSource source) :=
  ⟨rfl, by simp [ofSource, head], rfl⟩

namespace Standing

theorem drop_head (standing : Standing source r) : (source ++ padding).drop r.head = r.rest := by
  rw [head, ← List.drop_drop, standing.reads, List.drop_left]

/-- The last two characters of the rest are the padding. -/
theorem late (standing : Standing source r) {k : Nat} (found : r.rest[k]? = some c)
    (late : r.rest.length ≤ k + 2) :
    (k + 1 = r.rest.length ∧ c = '#') ∨ (k + 2 = r.rest.length ∧ c = ' ') := by
  have counts := standing.counts
  rw [length_padding] at counts
  have inside : k < r.rest.length := (List.getElem?_eq_some_iff.1 found).1
  rw [← standing.drop_head, List.getElem?_drop, List.getElem?_append_right (by omega)] at found
  rcases Nat.lt_or_eq_of_le late with last | before
  · left
    have index : r.head + k - source.length = 1 := by omega
    rw [index] at found
    exact ⟨by omega, (Option.some.inj found).symm⟩
  · right
    have index : r.head + k - source.length = 0 := by omega
    rw [index] at found
    exact ⟨before.symm, (Option.some.inj found).symm⟩

/-- A `#` is all that can come when the padding is being read. -/
theorem two_le (standing : Standing source r) (rest : r.rest = c :: tail) (other : c ≠ '#') :
    padding.length ≤ r.rest.length := by
  by_contra short
  have found : r.rest[0]? = some c := by simp [rest]
  rcases standing.late found (by simp at short; omega) with ⟨_, hash⟩ | ⟨whole, _⟩
  · exact other hash
  · simp at short
    omega

/-- A character other than the blank of the padding leaves the padding to the rest. -/
theorem two_le_tail (standing : Standing source r) (rest : r.rest = c :: tail) (other : c ≠ ' ')
    (within : padding.length ≤ r.rest.length) : padding.length ≤ tail.length := by
  have found : r.rest[0]? = some c := by simp [rest]
  have length : r.rest.length = tail.length + 1 := by simp [rest]
  by_contra short
  rcases standing.late found (by simp at short; omega) with ⟨whole, _⟩ | ⟨_, blank⟩
  · simp at within
    omega
  · exact other blank

/-- Characters that are not those of the padding are taken from the source. -/
theorem taken (standing : Standing source r) {count : Nat} (fits : count ≤ r.rest.length)
    (positive : 0 < count) (others : ∀ c ∈ r.rest.take count, c ≠ ' ' ∧ c ≠ '#') :
    r.head + count ≤ source.length := by
  have counts := standing.counts
  have last : count - 1 < r.rest.length := by omega
  have found := List.getElem?_eq_getElem last
  have member : r.rest[count - 1] ∈ r.rest.take count := by
    rw [List.mem_take_iff_getElem]
    exact ⟨count - 1, by omega, rfl⟩
  by_contra behind
  rw [length_padding] at counts
  rcases standing.late found (by omega) with ⟨_, hash⟩ | ⟨_, blank⟩
  · exact (others _ member).2 hash
  · exact (others _ member).1 blank

theorem suits_of {state : State} (standing : Standing source r) (here : r.state = state) :
    Suits state r.text r.rest :=
  here ▸ standing.suits

/-- Between tokens nothing is kept. -/
theorem start_eq_head (standing : Standing source r) (here : r.state = .start) : r.start = r.head := by
  have empty : r.text = [] := standing.suits_of here
  simp [head, empty]

theorem start_le (standing : Standing source r) : r.start ≤ source.length + padding.length := by
  have counts := standing.counts
  simp only [head] at counts
  omega

/-- Neither character of the padding, so one of the source. -/
theorem inside (standing : Standing source r) (rest : r.rest = c :: tail) (printed : c ≠ ' ')
    (other : c ≠ '#') : padding.length ≤ tail.length :=
  standing.two_le_tail rest printed (standing.two_le rest other)

theorem lt_length (standing : Standing source r) (rest : r.rest = c :: tail) (printed : c ≠ ' ')
    (other : c ≠ '#') : r.head < source.length := by
  have within := standing.inside rest printed other
  have counts := standing.counts
  simp only [rest, List.length_cons, length_padding] at counts within
  omega

/-- What a reader meets at its place is in the source or behind it. -/
theorem here (standing : Standing source r) (rest : r.rest = c :: tail) (inside : r.head < source.length) :
    source[r.head]? = some c := by
  have found := congrArg List.head? standing.drop_head
  rwa [List.head?_drop, rest, List.getElem?_append_left inside] at found

/-! ## One step -/

variable {tokens : List Token} {count : Nat} {next : State}

theorem kept (standing : Standing source r) (rest : r.rest = c :: tail)
    (suits : Suits next (r.text ++ [c]) tail) : Standing source (r.moved c tail (.keep next)) where
  reads := by simp [moved, standing.reads, rest]
  counts := by
    have counts := standing.counts
    simp only [rest, List.length_cons, head] at counts
    simp only [moved, head, List.length_append, List.length_singleton]
    omega
  suits := suits

theorem emitted (standing : Standing source r) (rest : r.rest = c :: tail)
    (fits : count ≤ r.rest.length) (suits : Suits next [] (r.rest.drop count)) :
    Standing source (r.moved c tail (.emit tokens count next)) where
  reads := by
    simp only [moved, List.nil_append, ← rest]
    rw [← List.drop_drop, standing.drop_head]
  counts := by
    have counts := standing.counts
    simp only [moved, ← rest, head, List.length_nil, List.length_drop] at counts ⊢
    omega
  suits := by simpa only [moved, rest] using suits

theorem fed (standing : Standing source r) (rest : r.rest = c :: tail) :
    Standing source (r.moved c tail .newline) where
  reads := by
    simp only [moved, List.nil_append]
    rw [← List.drop_drop, standing.drop_head, rest, List.drop_one, List.tail_cons]
  counts := by
    have counts := standing.counts
    simp only [moved, rest, head, List.length_nil, List.length_cons] at counts ⊢
    omega
  suits := rfl

end Standing

/-- An operator is a pattern of the language, with its kind. -/
theorem operator?_eq_some {context : Context} {chars : List Char} {kind : Kind} {length : Nat}
    (found : operator? context chars = some (kind, length)) :
    ∃ pattern, (pattern, kind) ∈ Operator.structural ++ Operator.arithmetic ∧
      pattern.toList = chars.take length ∧ length ≤ chars.length := by
  cases chars with
  | nil => simp [operator?] at found
  | cons c tail =>
    simp only [operator?] at found
    split_ifs at found
    unfold operators at found
    split_ifs at found
    · exact PatternTrie.mem_of_longest found
    · obtain ⟨pattern, member, rest⟩ := PatternTrie.mem_of_longest found
      exact ⟨pattern, List.mem_append_left _ member, rest⟩

/-- No operator has a character of the padding. -/
theorem operators_inside : ∀ pattern ∈ Operator.structural ++ Operator.arithmetic,
    ∀ c ∈ pattern.1.toList, c ≠ ' ' ∧ c ≠ '#' := by
  simp [Operator.structural, Operator.arithmetic]

/-- The letters of a unit are in the source. -/
theorem length_unit {quantity : Quantity}
    (known : Quantity.ofUnit? (Text.lowerCase (String.ofList (r.rest.takeWhile Text.isAlphabetic)))
      = some quantity) :
    (Text.lowerCase (String.ofList (r.rest.takeWhile Text.isAlphabetic))).length ≤ r.rest.length := by
  rw [Quantity.length_of_ofUnit? known]
  exact (List.takeWhile_prefix _).length_le

theorem ne_blank (printed : Text.isBlank c = false) : c ≠ ' ' := by
  rintro rfl
  revert printed
  decide

theorem ne_feed (printed : Text.isBlank c = false) : c ≠ '\n' := by
  rintro rfl
  revert printed
  decide

theorem ne_padding_of_isNumeral (numeral : isNumeral c = true) : c ≠ ' ' ∧ c ≠ '#' := by
  constructor <;> rintro rfl <;> revert numeral <;> decide

theorem ne_padding_of_isAlphabetic (letter : Text.isAlphabetic c = true) : c ≠ ' ' ∧ c ≠ '#' := by
  constructor <;> rintro rfl <;> revert letter <;> decide

theorem ne_hash_of_quote (quoted : c = '"' ∨ c = '\'') : c ≠ '#' := by
  rcases quoted with rfl | rfl <;> decide

theorem suits_number (standing : Standing source r) (rest : r.rest = c :: tail)
    (texts : ∀ d ∈ r.text, isNumeral d = true) (numeral : isNumeral c = true) (hasPoint : Bool) :
    Suits (.number hasPoint) (r.text ++ [c]) tail := by
  obtain ⟨printed, other⟩ := ne_padding_of_isNumeral numeral
  refine ⟨by simp, ?_, standing.inside rest printed other⟩
  intro d member
  rcases List.mem_append.1 member with before | last
  · exact texts d before
  · rwa [List.mem_singleton.1 last]

/-- Every step leads a reader on to where it says that it stands. -/
theorem standing_moved {action : Action} (standing : Standing source r) (rest : r.rest = c :: tail)
    (acts : Acts r c tail action) : Standing source (r.moved c tail action) := by
  have one : 1 ≤ r.rest.length := by simp [rest]
  cases acts with
  | newline => exact standing.fed rest
  | blank => exact standing.emitted rest one rfl
  | operator state printed found =>
    obtain ⟨_, _, _, fits⟩ := operator?_eq_some found
    exact standing.emitted rest (rest ▸ fits) rfl
  | number opens first =>
    have empty : r.text = [] := standing.suits_of opens.state
    refine standing.kept rest (suits_number standing rest (by simp [empty]) ?_ false)
    rcases first with digit | ⟨rfl, _⟩
    · simp [isNumeral, digit]
    · rfl
  | dot => exact standing.emitted rest one rfl
  | word opens digitless first =>
    obtain ⟨printed, other⟩ : c ≠ ' ' ∧ c ≠ '#' := by
      rcases first with letter | symbol
      · exact ne_padding_of_isAlphabetic letter
      · constructor <;> rintro rfl <;> revert symbol <;> decide
    exact standing.kept rest ⟨by simp, standing.inside rest printed other⟩
  | comment => exact standing.emitted rest one rfl
  | identifier opens first =>
    subst first
    refine standing.emitted rest one ?_
    rw [rest]
    exact standing.inside rest (by decide) (by decide)
  | quotation opens first => exact standing.emitted rest one first
  | argList => exact standing.emitted rest one (by simp [Suits])
  | commented => exact standing.emitted rest one rfl
  | identifierDot state nonempty point =>
    subst point
    refine standing.emitted rest one ?_
    rw [rest]
    exact standing.inside rest (by decide) (by decide)
  | identifierEnd => exact standing.emitted rest (Nat.zero_le _) rfl
  | identifierChar state printed =>
    have within : padding.length ≤ r.rest.length := standing.suits_of state
    exact standing.kept rest (standing.two_le_tail rest (ne_blank printed) within)
  | quotationEscape state => exact standing.kept rest (standing.suits_of state)
  | quotationEnd => exact standing.emitted rest one rfl
  | quotationChar state => exact standing.kept rest (standing.suits_of state)
  | argEscape state => exact standing.kept rest (standing.suits_of state)
  | argUnquote => exact standing.emitted rest one (by simp [Suits])
  | argQuoted state => exact standing.kept rest (standing.suits_of state)
  | argQuote state opens => exact standing.emitted rest one (by simpa [Suits] using opens)
  | argPipe => exact standing.emitted rest one (by simp [Suits])
  | argListEnd => exact standing.emitted rest one rfl
  | argBlank => exact standing.emitted rest one (by simp [Suits])
  | argChar => exact standing.kept rest (by simp [Suits])
  | wordDot => exact standing.emitted rest one rfl
  | wordReserved => exact standing.emitted rest (Nat.zero_le _) rfl
  | wordPath => exact standing.emitted rest (Nat.zero_le _) rfl
  | wordEnd => exact standing.emitted rest (Nat.zero_le _) rfl
  | wordChar state printed =>
    obtain ⟨_, within⟩ := standing.suits_of state
    exact standing.kept rest ⟨by simp, standing.two_le_tail rest (ne_blank printed) within⟩
  | numberRange => exact standing.emitted rest (Nat.zero_le _) rfl
  | numberPoint state point =>
    obtain ⟨_, texts, _⟩ := standing.suits_of state
    exact standing.kept rest (suits_number standing rest texts (by simp [isNumeral, point]) true)
  | numberDigit state digit =>
    obtain ⟨_, texts, _⟩ := standing.suits_of state
    exact standing.kept rest (suits_number standing rest texts (by simp [isNumeral, digit]) _)
  | numberUnit state plain letter lower known =>
    subst lower
    rw [← rest] at known ⊢
    exact standing.emitted rest (length_unit known) rfl
  | numberEnd => exact standing.emitted rest (Nat.zero_le _) rfl

end Reader
end CommandScript.Lexer
