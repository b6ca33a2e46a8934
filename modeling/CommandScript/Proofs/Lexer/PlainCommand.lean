import CommandScript.Proofs.LongestMatch
import CommandScript.Proofs.Lexer.Sticky
import CommandScript.Proofs.Lexer.Writing

/-!
Plain commands. Behind a command word an argument is cut into numbers and a word: as many
numbers as there are, each but the first behind a minus sign, and the rest as one word. All
these pieces are arguments again, and nothing is lost of them. Only a number with a second
point can not be read.
-/
namespace CommandScript.Lexer
namespace Reader
variable {r : Reader} {c : Char} {chars front behind tail : List Char} {tokens : List Token}

/-- The characters of a plain argument. -/
def isPlain (c : Char) : Bool := Text.isAlphabetic c || c.isDigit || wordSymbols.contains c

/-- A text of such characters in which nothing can be read as a range or as a concatenation. -/
structure Plain (text : List Char) : Prop where
  chars : ∀ c ∈ text, isPlain c = true
  unranged : ¬['.', '.'] <:+: text
  unjoined : ¬['+', '+'] <:+: text

/-- A number, perhaps behind a minus sign. -/
inductive Signed (hasPoint : Bool) : List Char → Prop
  | positive {text : String} (numeral : Numeral hasPoint text) : Signed hasPoint text.toList
  | negative {text : String} (numeral : Numeral hasPoint text) : Signed hasPoint ('-' :: text.toList)

/-- Among the numbers that a text begins with there is one with a second point. -/
inductive TwicePointed : List Char → Prop
  | here {number rest : List Char} (signed : Signed true number) : TwicePointed (number ++ '.' :: rest)
  | later {hasPoint : Bool} {number rest : List Char} (signed : Signed hasPoint number)
    (behind : TwicePointed ('-' :: rest)) : TwicePointed (number ++ '-' :: rest)

/-- Arguments whose texts together are these characters. -/
structure Pieces (tokens : List Token) (chars : List Char) : Prop where
  arguments : ∀ token ∈ tokens, token.kind = .execArg
  texts : tokens.flatMap (·.text.toList) = chars

/-- A reader between two tokens, behind a command argument outside of brackets. -/
structure BehindArgument (r : Reader) : Prop where
  fresh : Fresh r
  sticky : r.context.prev = some .execArg
  outside : r.context.inBrackets = false

/-- These characters are read as arguments, and the reader stands behind the last of them. -/
def ReadsPieces (r : Reader) (chars behind : List Char) : Prop :=
  ∃ tokens next, Path (r.facing (chars ++ behind)) tokens (next.facing behind) ∧ Pieces tokens chars ∧
    BehindArgument next

/-! ## Plain characters -/

theorem Plain.later (earlier : List Char) {later : List Char} (plain : Plain (earlier ++ later)) : Plain later where
  chars c member := plain.chars c (List.mem_append_right _ member)
  unranged range := plain.unranged (range.trans (List.suffix_append earlier later).isInfix)
  unjoined joined := plain.unjoined (joined.trans (List.suffix_append earlier later).isInfix)

theorem printed_of_plain (plain : isPlain c = true) : Text.isBlank c = false := by
  simp only [isPlain, Bool.or_eq_true] at plain
  rcases plain with (letter | digit) | symbol
  · exact Text.isBlank_of_isAlphabetic letter
  · exact Text.isBlank_of_isDigit digit
  · have printed : wordSymbols.all (!Text.isBlank ·) = true := by decide
    simpa using List.all_eq_true.mp printed c (by simpa using symbol)

/-- No mark that ends a word is plain. -/
theorem unmarked_of_plain (plain : isPlain c = true) : c ∉ '@' :: (callMarks ++ wordEnds) := by
  intro mark
  have others : ('@' :: (callMarks ++ wordEnds)).all (!isPlain ·) = true := by decide
  have other := List.all_eq_true.mp others c mark
  rw [plain] at other
  contradiction

/-- Behind an argument no operator begins a plain text. -/
theorem operator?_plain (argument : BehindArgument r) (plain : Plain chars) (behind : List Char) :
    operator? r.context (chars ++ ' ' :: behind) = none := by
  have structural : operators r.context = Operator.structuralTrie := by
    simp [operators, argument.outside, argument.sticky]
  have absent : Operator.structuralTrie.longest chars = none := by
    rw [Operator.structuralTrie, PatternTrie.longest_eq_none_iff]
    rintro pattern ⟨listed, _, first⟩
    -- of the operators that have plain characters only, each begins with two dots or two plus signs
    have doubled : ∀ pattern ∈ Operator.structural.map (·.1), pattern.toList.all isPlain = true →
        ['.', '.'] <+: pattern.toList ∨ ['+', '+'] <+: pattern.toList := by decide
    have spelled : pattern.toList.all isPlain = true := by
      rw [List.all_eq_true]
      intro c member
      exact plain.chars c (first.subset member)
    rcases doubled pattern listed spelled with range | joined
    · exact plain.unranged (range.trans first).isInfix
    · exact plain.unjoined (joined.trans first).isInfix
  rw [operator?_blank (by decide), operator?_eq_longest, structural, absent]

/-! ## Pieces -/

theorem Pieces.append {later : List Token} {others : List Char} (pieces : Pieces tokens chars)
    (behind : Pieces later others) : Pieces (tokens ++ later) (chars ++ others) where
  arguments token member := (List.mem_append.mp member).elim (pieces.arguments token) (behind.arguments token)
  texts := by rw [List.flatMap_append, pieces.texts, behind.texts]

theorem ReadsPieces.append {later : List Char} (read : ReadsPieces r front (later ++ behind))
    (others : ∀ next, BehindArgument next → ReadsPieces next later behind) :
    ReadsPieces r (front ++ later) behind := by
  obtain ⟨tokens, next, path, pieces, argument⟩ := read
  obtain ⟨tokens', last, onward, pieces', argument'⟩ := others next argument
  refine ⟨tokens ++ tokens', last, ?_, pieces.append pieces', argument'⟩
  rw [List.append_assoc]
  exact path.trans onward

/-- What has been kept becomes an argument. -/
theorem readsPieces_of_kept {middle : Reader}
    (path : Path (r.facing (chars ++ c :: tail)) [] (middle.facing (c :: tail))) (text : middle.text = chars)
    (outside : middle.context.inBrackets = false)
    (acted : middle.action c tail = .ok (.emit [middle.lexeme .execArg] 0 .start)) :
    ReadsPieces r chars (c :: tail) := by
  have behind : BehindArgument (middle.ended [middle.lexeme .execArg]) := ⟨⟨rfl, rfl⟩, rfl, outside⟩
  refine ⟨[middle.lexeme .execArg], middle.ended [middle.lexeme .execArg], ?_, ⟨?_, ?_⟩, behind⟩
  · exact path.trans (Path.of_step (step_of_action acted))
  · intro token member
    rw [List.mem_singleton.mp member]
    rfl
  · simp [lexeme, text]

/-! ## Numbers -/

/-- What a number begins with: a digit, or a minus sign and a digit. -/
def BeginsNumber : List Char → Prop
  | [] => False
  | c :: tail => c.isDigit = true ∨ c = '-' ∧ tail.head?.any Char.isDigit = true

instance (chars : List Char) : Decidable (BeginsNumber chars) := match chars with
  | [] => inferInstanceAs (Decidable False)
  | _ :: _ => inferInstanceAs (Decidable (_ ∨ _))

theorem BehindArgument.enters (argument : BehindArgument r) : Enters r ['-'] := by
  intro digits nonempty numerals behind
  cases digits with
  | nil => contradiction
  | cons d digits =>
    have digit : d.isDigit = true := List.all_eq_true.mp numerals d List.mem_cons_self
    have unread : operator? r.context ('-' :: d :: (digits ++ behind)) = none := by
      have alone : Plain ['-'] := ⟨List.all_eq_true.mp (by decide), by decide, by decide⟩
      have none := operator?_plain argument alone []
      rw [operator?_unspelled (by decide)] at none
      exact (operator?_unspelled (by simp [Operator.spells, digit]) r.context ['-'] (digits ++ behind)).trans none
    have acted : r.action '-' (d :: (digits ++ behind)) = .ok (.keep (.number false)) := by
      have printed : Text.isBlank '-' = false := by decide
      rw [Reader.action, argument.fresh.state]
      simp [startAction, printed, unread, digit]
    exact (argument.fresh.begun acted).trans (Path.digits false ['-'] numerals behind)

/-- Behind an argument a number may have a sign. -/
theorem BehindArgument.signed {hasPoint : Bool} {number : List Char} (argument : BehindArgument r)
    (signed : Signed hasPoint number) (behind : List Char)
    (single : number.getLast? = some '.' → behind.head? ≠ some '.') :
    Path (r.facing (number ++ behind)) [] ((r.reading (.number hasPoint) number).facing behind) := by
  cases signed with
  | positive numeral => exact argument.fresh.enters.numeral numeral behind single
  | negative numeral =>
    refine argument.enters.numeral numeral behind fun last => single ?_
    rw [List.getLast?_cons, last, Option.getD_some]

/-- A number that is an argument has no unit, so anything but a digit or a point ends it. -/
theorem number_ends (hasPoint : Bool) (sticky : r.context.prev = some .execArg) (text : List Char)
    (point : c ≠ '.') (digitless : c.isDigit = false) (tail : List Char) :
    (r.reading (.number hasPoint) text).action c tail =
      .ok (.emit [(r.reading (.number hasPoint) text).lexeme .execArg] 0 .start) := by
  rw [Reader.action, reading_state]
  simp [numberAction, numberKind_sticky sticky, point, digitless]

theorem head?_append_blank (chars behind : List Char) :
    (chars ++ ' ' :: behind).head? = some '.' ↔ chars.head? = some '.' :=
  head?_point (by decide) chars behind

theorem Plain.single (number : List Char) {rest : List Char} (plain : Plain (number ++ rest))
    (last : number.getLast? = some '.') : rest.head? ≠ some '.' := by
  intro point
  obtain ⟨earlier, rfl⟩ := List.getLast?_eq_some_iff.mp last
  obtain ⟨later, rfl⟩ := List.head?_eq_some_iff.mp point
  exact plain.unranged ⟨earlier, later, by simp⟩

/-- A number of an argument is a piece of it. -/
theorem BehindArgument.number {hasPoint : Bool} {number rest : List Char} (argument : BehindArgument r)
    (signed : Signed hasPoint number) (point : rest.head? ≠ some '.')
    (digitless : rest.head?.any Char.isDigit = false) (tail : List Char) :
    ReadsPieces r number (rest ++ ' ' :: tail) := by
  have single : (rest ++ ' ' :: tail).head? ≠ some '.' := mt (head?_append_blank rest tail).mp point
  have path := argument.signed signed (rest ++ ' ' :: tail) fun _ => single
  cases rest with
  | nil =>
    have acted := number_ends (c := ' ') hasPoint argument.sticky number (by decide) (by decide) tail
    exact readsPieces_of_kept path rfl argument.outside acted
  | cons c rest =>
    have other : c ≠ '.' := by simpa using point
    have acted := number_ends hasPoint argument.sticky number other (by simpa using digitless) (rest ++ ' ' :: tail)
    exact readsPieces_of_kept path rfl argument.outside acted

/-- All digits that some characters begin with. -/
theorem exists_digits (chars : List Char) : ∃ digits rest, chars = digits ++ rest ∧
    digits.all Char.isDigit = true ∧ rest.head?.any Char.isDigit = false := by
  refine ⟨chars.takeWhile Char.isDigit, chars.dropWhile Char.isDigit, ?_, List.all_takeWhile, ?_⟩
  · exact List.takeWhile_append_dropWhile.symm
  · have stops := List.head?_dropWhile_not Char.isDigit chars
    cases here : (chars.dropWhile Char.isDigit).head? with
    | none => rfl
    | some d =>
      rw [here] at stops
      exact stops

/-- The number that some characters begin with, up to where no digit follows, and no point but a second one. -/
theorem exists_numeral (digit : c.isDigit = true) (tail : List Char) :
    ∃ hasPoint text rest, Numeral hasPoint text ∧ c :: tail = text.toList ++ rest ∧
      rest.head?.any Char.isDigit = false ∧ (rest.head? = some '.' → hasPoint = true) := by
  obtain ⟨whole, rest, split, wholes, stops⟩ := exists_digits (c :: tail)
  have nonempty : String.ofList whole ≠ "" := by
    intro empty
    obtain rfl := String.ofList_eq_empty_iff.mp empty
    rw [List.nil_append] at split
    rw [← split, List.head?_cons, Option.any_some, digit] at stops
    contradiction
  by_cases point : rest.head? = some '.'
  · obtain ⟨behind, rfl⟩ := List.head?_eq_some_iff.mp point
    obtain ⟨fraction, later, rfl, fractions, stops'⟩ := exists_digits behind
    refine ⟨true, String.ofList whole ++ "." ++ String.ofList fraction, later, ?_, ?_, stops', fun _ => rfl⟩
    · exact .float nonempty (by simpa using wholes) (by simpa using fractions)
    · simp [split]
  · refine ⟨false, String.ofList whole, rest, .integer nonempty (by simpa using wholes), ?_, stops, ?_⟩
    · rw [split, String.toList_ofList]
    · exact fun second => absurd second point

/-- The same with a sign, if there is one. -/
theorem exists_signed (begins : BeginsNumber chars) :
    ∃ hasPoint number rest, Signed hasPoint number ∧ chars = number ++ rest ∧
      rest.head?.any Char.isDigit = false ∧ (rest.head? = some '.' → hasPoint = true) := by
  cases chars with
  | nil => contradiction
  | cons c tail =>
    rcases begins with digit | ⟨rfl, digit⟩
    · obtain ⟨hasPoint, text, rest, numeral, split, stops, second⟩ := exists_numeral digit tail
      exact ⟨hasPoint, text.toList, rest, .positive numeral, split, stops, second⟩
    · cases tail with
      | nil => contradiction
      | cons d tail =>
        obtain ⟨hasPoint, text, rest, numeral, split, stops, second⟩ := exists_numeral (c := d) digit tail
        refine ⟨hasPoint, '-' :: text.toList, rest, .negative numeral, ?_, stops, second⟩
        rw [split, List.cons_append]

theorem beginsNumber_of_numeral {hasPoint : Bool} {text : String} (numeral : Numeral hasPoint text)
    (rest : List Char) : (text.toList ++ rest).head?.any Char.isDigit = true := by
  have first {digits : String} (nonempty : digits ≠ "") (numerals : digits.toList.all Char.isDigit = true)
      (rest : List Char) : (digits.toList ++ rest).head?.any Char.isDigit = true := by
    cases here : digits.toList with
    | nil => exact absurd here (by simpa using nonempty)
    | cons d digits =>
      rw [here] at numerals
      simpa using List.all_eq_true.mp numerals d List.mem_cons_self
  cases numeral with
  | integer nonempty digits => exact first nonempty digits rest
  | @float whole fraction nonempty wholes =>
    have whole := first nonempty wholes ('.' :: (fraction.toList ++ rest))
    simpa using whole

theorem beginsNumber_of_signed {hasPoint : Bool} {number : List Char} (signed : Signed hasPoint number)
    (rest : List Char) : BeginsNumber (number ++ rest) := by
  cases signed with
  | negative numeral => exact .inr ⟨rfl, beginsNumber_of_numeral numeral rest⟩
  | @positive text numeral =>
    have digit := beginsNumber_of_numeral numeral rest
    cases here : text.toList ++ rest with
    | nil =>
      rw [here] at digit
      contradiction
    | cons d tail =>
      rw [here] at digit
      exact .inl (by simpa using digit)

theorem TwicePointed.beginsNumber (twice : TwicePointed chars) : BeginsNumber chars := by
  cases twice with
  | here signed => exact beginsNumber_of_signed signed _
  | later signed => exact beginsNumber_of_signed signed _

theorem Signed.nonempty {hasPoint : Bool} {number : List Char} (signed : Signed hasPoint number) : number ≠ [] := by
  rintro rfl
  exact beginsNumber_of_signed signed []

/-- A number with a second point has two of them. -/
theorem TwicePointed.two_points (twice : TwicePointed chars) : 2 ≤ chars.count '.' := by
  induction twice with
  | @here number rest signed =>
    have pointed : '.' ∈ number := by
      cases signed with
      | positive numeral => exact numeral.pointed
      | negative numeral => exact List.mem_cons_of_mem _ numeral.pointed
    have first : 0 < number.count '.' := List.count_pos_iff.mpr pointed
    rw [List.count_append, List.count_cons_self]
    omega
  | later _ _ ih =>
    rw [List.count_append]
    omega

/-! ## Words -/

theorem BehindArgument.word_begins (argument : BehindArgument r) (plain : Plain (c :: chars))
    (wordy : ¬BeginsNumber (c :: chars)) (tail : List Char) :
    r.action c (chars ++ ' ' :: tail) = .ok (.keep .unquotedLiteral) := by
  have this : isPlain c = true := plain.chars c List.mem_cons_self
  have printed := printed_of_plain this
  have unread : operator? r.context (c :: (chars ++ ' ' :: tail)) = none :=
    operator?_plain argument plain tail
  obtain ⟨digitless, signless⟩ := not_or.mp wordy
  have numberless : (c.isDigit || (c == '-' && (chars ++ ' ' :: tail).head?.any Char.isDigit)) = false := by
    rw [head?_digit (by decide)]
    simpa [digitless] using signless
  have word : Text.isAlphabetic c = true ∨ c ∈ wordSymbols := by
    simpa [isPlain, digitless] using this
  rw [Reader.action, argument.fresh.state]
  simp only [startAction, if_neg (ne_feed printed), printed, unread, numberless]
  simp [wordKind_sticky argument.sticky, word]

/-- A word that is an argument goes on over dots. -/
theorem word_keeps_plain (state : r.state = .unquotedLiteral) (sticky : r.context.prev = some .execArg)
    (plain : isPlain c = true) (single : c = '.' → tail.head? ≠ some '.') :
    r.action c tail = .ok (.keep .unquotedLiteral) := by
  have printed := printed_of_plain plain
  have unmarked := unmarked_of_plain plain
  simp only [List.mem_cons, List.mem_append, not_or] at unmarked
  obtain ⟨sign, call, stop⟩ := unmarked
  rw [Reader.action, state]
  simpa [unquotedLiteralAction, wordKind_sticky sticky, printed, sign, call, stop] using single

theorem Path.plain_word (sticky : r.context.prev = some .execArg) (plain : Plain chars) (front tail : List Char) :
    Path ((r.reading .unquotedLiteral front).facing (chars ++ ' ' :: tail)) []
      ((r.reading .unquotedLiteral (front ++ chars)).facing (' ' :: tail)) := by
  induction chars generalizing front with
  | nil =>
    rw [List.append_nil]
    exact .refl
  | cons c chars ih =>
    have single : c = '.' → (chars ++ ' ' :: tail).head? ≠ some '.' := by
      rintro rfl
      rw [ne_eq, head?_append_blank]
      exact plain.single ['.'] rfl
    have keeps : (r.reading .unquotedLiteral front).action c (chars ++ ' ' :: tail) = .ok (.keep .unquotedLiteral) :=
      word_keeps_plain rfl sticky (plain.chars c List.mem_cons_self) single
    have first := Path.keep keeps
    have later := ih (plain.later [c]) (front ++ [c])
    rw [List.append_assoc, List.singleton_append] at later
    exact first.trans later

/-- A word ends at a blank, as what it is if no call follows. -/
theorem word_ends_uncalled (state : r.state = .unquotedLiteral) (uncalled : ahead ' ' tail ∉ callMarks) :
    r.action ' ' tail = .ok (.emit [r.lexeme (wordKind r.context r.text)] 0 .start) := by
  rw [word_at_blank state (by decide) (by decide), if_neg (by simpa using uncalled)]

theorem BehindArgument.word (argument : BehindArgument r) (plain : Plain chars) (nonempty : chars ≠ [])
    (wordy : ¬BeginsNumber chars) (uncalled : ahead ' ' tail ∉ callMarks) : ReadsPieces r chars (' ' :: tail) := by
  cases chars with
  | nil => contradiction
  | cons c chars =>
    have begun := argument.fresh.begun (argument.word_begins plain wordy tail)
    have path := begun.trans (Path.plain_word argument.sticky (plain.later [c]) [c] tail)
    have acted := word_ends_uncalled (r := r.reading .unquotedLiteral (c :: chars)) rfl uncalled
    rw [reading_context, wordKind_sticky argument.sticky] at acted
    exact readsPieces_of_kept path rfl argument.outside acted

/-! ## Arguments -/

/-- A plain argument is read, piece by piece, if none of its numbers has a second point. -/
theorem BehindArgument.argument (argument : BehindArgument r) (plain : Plain chars) (once : ¬TwicePointed chars)
    (uncalled : ahead ' ' tail ∉ callMarks) : ReadsPieces r chars (' ' :: tail) := by
  -- on the number of characters: each number leaves fewer of them
  induction counted : chars.length using Nat.strongRecOn generalizing r chars with
  | ind count ih =>
    by_cases empty : chars = []
    · subst empty
      exact ⟨[], r, .refl, ⟨nofun, rfl⟩, argument⟩
    by_cases begins : BeginsNumber chars
    · obtain ⟨hasPoint, number, rest, signed, rfl, digitless, second⟩ := exists_signed begins
      have point : rest.head? ≠ some '.' := by
        intro point
        obtain ⟨later, rfl⟩ := List.head?_eq_some_iff.mp point
        obtain rfl := second point
        exact once (.here signed)
      have onceMore : ¬TwicePointed rest := by
        intro twice
        cases rest with
        | nil => exact twice.beginsNumber
        | cons d later =>
          rcases twice.beginsNumber with digit | ⟨rfl, _⟩
          · rw [List.head?_cons, Option.any_some, digit] at digitless
            contradiction
          · exact once (.later signed twice)
      have shorter : rest.length < count := by
        have positive : 0 < number.length := List.length_pos_iff.mpr signed.nonempty
        rw [← counted, List.length_append]
        omega
      exact (argument.number signed point digitless tail).append fun next behind =>
        ih rest.length shorter behind (plain.later number) onceMore rfl
    · exact argument.word plain empty begins uncalled

/-- A number with a second point can not be read. -/
structure SecondPoint (error : LexError) : Prop where
  problem : error.problem = .unexpectedChar
  found : error.found = some '.'
  state : error.state = .number true

/-- Reading comes to the second point of a number. -/
def FailsAtPoint (r : Reader) : Prop :=
  ∃ tokens last error, Path r tokens last ∧ Stops last (some error) ∧ SecondPoint error

theorem FailsAtPoint.after {next : Reader} (path : Path r tokens next) (fails : FailsAtPoint next) :
    FailsAtPoint r := by
  obtain ⟨later, last, error, onward, stops, point⟩ := fails
  exact ⟨tokens ++ later, last, error, path.trans onward, stops, point⟩

theorem BehindArgument.twicePointed (argument : BehindArgument r) (plain : Plain chars) (twice : TwicePointed chars)
    (tail : List Char) : FailsAtPoint (r.facing (chars ++ ' ' :: tail)) := by
  induction twice generalizing r with
  | @here number rest signed =>
    have single : (rest ++ ' ' :: tail).head? ≠ some '.' := by
      rw [ne_eq, head?_append_blank]
      exact (plain.later number).single ['.'] rfl
    have path := argument.signed signed ('.' :: (rest ++ ' ' :: tail)) fun last =>
      absurd rfl (plain.single number last)
    obtain ⟨pointed, here⟩ : ∃ pointed, pointed = r.reading (.number true) number := ⟨_, rfl⟩
    have state : pointed.state = .number true := here ▸ rfl
    have failed : pointed.action '.' (rest ++ ' ' :: tail) = .error .unexpectedChar := by
      rw [Reader.action, state]
      simp only [numberAction, if_neg single, ↓reduceIte]
    have stops : Stops (pointed.facing ('.' :: (rest ++ ' ' :: tail)))
        (some ⟨.unexpectedChar, pointed.head, some '.', pointed.state⟩) := by
      refine .failed rfl ?_
      rw [step_facing, step_of_error failed]
    rw [← here] at path
    rw [List.append_assoc]
    exact ⟨[], _, _, path, stops, ⟨rfl, rfl, state⟩⟩
  | @later hasPoint number rest signed _ ih =>
    have read : ReadsPieces r number (('-' :: rest) ++ ' ' :: tail) := argument.number signed (by simp) rfl tail
    obtain ⟨tokens, next, path, _, behind⟩ := read
    have fails := ih behind (plain.later number)
    rw [List.append_assoc]
    exact fails.after path

/-! ## The words of a line -/

/-- The words of a plain command behind the first. -/
def PlainWords (words : List String) : Prop := ∀ word ∈ words, word ≠ "" ∧ Plain word.toList

variable {words : List String}

/-- Behind a plain word comes a blank, and no call behind that. -/
theorem PlainWords.exists_behind (plain : PlainWords words) : ∃ tail, spacedBehind words = ' ' :: tail ∧
    ahead ' ' tail ∉ callMarks := by
  have blank : Text.isBlank ' ' = true := by decide
  cases words with
  | nil => exact ⟨['#'], rfl, by decide⟩
  | cons word words =>
    refine ⟨_, spacedBehind_cons word words, ?_⟩
    obtain ⟨nonempty, wordPlain⟩ := plain word List.mem_cons_self
    cases here : word.toList with
    | nil => exact absurd here (by simpa using nonempty)
    | cons c rest =>
      have first : isPlain c = true := wordPlain.chars c (by simp [here])
      have unmarked := unmarked_of_plain first
      simp only [List.mem_cons, List.mem_append, not_or] at unmarked
      simp [ahead, blank, printed_of_plain first, unmarked.2.1]

theorem PlainWords.others {word : String} (plain : PlainWords (word :: words)) : PlainWords words :=
  fun other member => plain other (List.mem_cons_of_mem _ member)

/-- The blank before the next word. -/
theorem BehindArgument.blank (argument : BehindArgument r) (chars : List Char) :
    ∃ begun, BehindArgument begun ∧ Path (r.facing (' ' :: chars)) [] (begun.facing chars) := by
  have idle : r.Idle := .inl argument.fresh.state
  have behind : BehindArgument (r.moved ' ' [] (.emit [] 1 r.state)) :=
    ⟨⟨argument.fresh.state, rfl⟩, argument.sticky, argument.outside⟩
  exact ⟨_, behind, Path.of_step (idle.step_blank (by decide) (by decide) chars)⟩

/-- All arguments of a plain command are read if no number in them has a second point. -/
theorem BehindArgument.reads_words (argument : BehindArgument r) (plain : PlainWords words)
    (once : ∀ word ∈ words, ¬TwicePointed word.toList) :
    ∃ tokens last, Path (r.facing (spacedBehind words)) tokens last ∧ last.rest = [] ∧ last.state = .comment ∧
      Pieces tokens (words.flatMap String.toList) := by
  induction words generalizing r with
  | nil =>
    obtain ⟨last, path, rest, _, state⟩ := padding_path argument.fresh.state
    exact ⟨[], last, path, rest, state, nofun, rfl⟩
  | cons word words ih =>
    obtain ⟨begun, argument', blank⟩ := argument.blank (word.toList ++ spacedBehind words)
    obtain ⟨tail, behind, uncalled⟩ := plain.others.exists_behind
    obtain ⟨tokens, next, path, pieces, behindWord⟩ :=
      argument'.argument (plain word List.mem_cons_self).2 (once word List.mem_cons_self) uncalled
    rw [← behind] at path
    obtain ⟨later, last, onward, rest, state, pieces'⟩ :=
      ih behindWord plain.others fun other member => once other (List.mem_cons_of_mem _ member)
    rw [spacedBehind_cons]
    exact ⟨tokens ++ later, last, (blank.trans path).trans onward, rest, state, pieces.append pieces'⟩

/-- If a number in them has a second point, they are read up to there. -/
theorem BehindArgument.fails_words (argument : BehindArgument r) (plain : PlainWords words)
    (twice : ∃ word ∈ words, TwicePointed word.toList) : FailsAtPoint (r.facing (spacedBehind words)) := by
  induction words generalizing r with
  | nil => exact absurd twice (by simp)
  | cons word words ih =>
    obtain ⟨begun, argument', blank⟩ := argument.blank (word.toList ++ spacedBehind words)
    obtain ⟨tail, behind, uncalled⟩ := plain.others.exists_behind
    have wordPlain := (plain word List.mem_cons_self).2
    rw [spacedBehind_cons]
    refine FailsAtPoint.after blank ?_
    by_cases here : TwicePointed word.toList
    · rw [behind]
      exact argument'.twicePointed wordPlain here tail
    · obtain ⟨tokens, next, path, _, behindWord⟩ := argument'.argument wordPlain here uncalled
      rw [← behind] at path
      refine FailsAtPoint.after path (ih behindWord plain.others ?_)
      obtain ⟨other, member, twice⟩ := twice
      rcases List.mem_cons.mp member with rfl | later
      · exact absurd twice here
      · exact ⟨other, later, twice⟩

/-! ## The command -/

/-- A word of letters at the beginning of a source is a command. -/
theorem readsPieces_command {command : List Char} (nonempty : command ≠ [])
    (letters : ∀ c ∈ command, Text.isAlphabetic c = true) (free : keyword? (String.ofList command) = none)
    (uncalled : ahead ' ' tail ∉ callMarks) : ReadsPieces (ofSource []) command (' ' :: tail) := by
  have between : Between (ofSource []) := ⟨rfl, rfl, by simp [ofSource]⟩
  cases command with
  | nil => contradiction
  | cons c chars =>
    have letter : Text.isAlphabetic c = true := letters c List.mem_cons_self
    have begun := between.fresh.begun (between.word_begins (.inl letter) (chars ++ ' ' :: tail))
    have path := begun.trans (Path.kept [c] (fun front d member =>
      word_keeps rfl (letters d (List.mem_cons_of_mem _ member))) (' ' :: tail))
    have kind : wordKind {} (c :: chars) = .execArg := by
      rw [wordKind, if_neg (by simp), free]
      simp [startsImplicit_of_isAlphabetic letter, Context.inBrackets]
    have acted := word_ends_uncalled (r := (ofSource []).reading .unquotedLiteral (c :: chars)) rfl uncalled
    rw [reading_context, reading_text, ofSource, kind] at acted
    exact readsPieces_of_kept path rfl rfl acted

end Reader

open Reader

/-- A command of letters, and arguments of letters, digits and `. / * + - % _` in which there is neither a
    range nor a concatenation, are read as arguments only, and nothing is lost of them, if none of their
    numbers has a second point. And if one has, that point can not be read. -/
theorem tokenize_plain_command {command : String} {arguments : List String} (nonempty : command ≠ "")
    (letters : ∀ c ∈ command.toList, Text.isAlphabetic c = true) (free : keyword? command = none)
    (plain : PlainWords arguments) :
    ((∀ argument ∈ arguments, ¬TwicePointed argument.toList) →
      ∃ tokens, tokenize (" ".intercalate (command :: arguments)) = .ok tokens ∧
        Pieces tokens (command.toList ++ arguments.flatMap String.toList)) ∧
    ((∃ argument ∈ arguments, TwicePointed argument.toList) →
      ∃ error, tokenize (" ".intercalate (command :: arguments)) = .error error ∧ SecondPoint error) := by
  have source : ofSource (" ".intercalate (command :: arguments)).toList =
      (ofSource []).facing (command.toList ++ spacedBehind arguments) := by
    rw [ofSource, join_spaced]
    rfl
  obtain ⟨tail, behind, uncalled⟩ := plain.exists_behind
  obtain ⟨front, next, path, pieces, argument⟩ :=
    readsPieces_command (by simpa using nonempty) letters (by rwa [String.ofList_toList]) uncalled
  rw [← behind, ← source] at path
  constructor
  · intro once
    obtain ⟨later, last, onward, rest, state, others⟩ := argument.reads_words plain once
    have read := tokenize_eq_ok_iff.mpr ⟨last, path.trans onward, rest, state⟩
    exact ⟨front ++ later, read, pieces.append others⟩
  · intro twice
    obtain ⟨tokens, last, error, whole, stops, point⟩ := (argument.fails_words plain twice).after path
    exact ⟨error, tokenize_eq_error_iff.mpr ⟨tokens, last, whole, stops⟩, point⟩

/-- Two numbers in one argument, and dots in a word. -/
theorem tokenize_plain_command_numbers : "ls" ≠ "" ∧ (∀ c ∈ "ls".toList, Text.isAlphabetic c = true) ∧
    keyword? "ls" = none ∧ PlainWords ["-5-1.5", "a.b.c+1"] ∧
    (∀ argument ∈ ["-5-1.5", "a.b.c+1"], ¬TwicePointed argument.toList) ∧
    ∃ tokens, tokenize (" ".intercalate ("ls" :: ["-5-1.5", "a.b.c+1"])) = .ok tokens ∧
      Pieces tokens ("ls".toList ++ ["-5-1.5", "a.b.c+1"].flatMap String.toList) := by
  have plain : PlainWords ["-5-1.5", "a.b.c+1"] := by
    have numbers : Plain "-5-1.5".toList :=
      ⟨List.all_eq_true.mp (by decide), by simp [List.infix_cons_iff], by simp [List.infix_cons_iff]⟩
    have word : Plain "a.b.c+1".toList :=
      ⟨List.all_eq_true.mp (by decide), by simp [List.infix_cons_iff], by simp [List.infix_cons_iff]⟩
    simp only [PlainWords, List.forall_mem_cons]
    exact ⟨⟨by decide, numbers⟩, ⟨by decide, word⟩, nofun⟩
  have once : ∀ argument ∈ ["-5-1.5", "a.b.c+1"], ¬TwicePointed argument.toList := by
    simp only [List.forall_mem_cons]
    refine ⟨fun twice => absurd twice.two_points (by decide), fun twice => ?_, nofun⟩
    exact absurd twice.beginsNumber (by decide)
  have letters : ∀ c ∈ "ls".toList, Text.isAlphabetic c = true := List.all_eq_true.mp (by decide)
  have free : keyword? "ls" = none := by decide
  exact ⟨by decide, letters, free, plain, once, (tokenize_plain_command (by decide) letters free plain).1 once⟩

/-- A number with two points is no argument. -/
theorem second_point_unread : (∀ c ∈ "ls".toList, Text.isAlphabetic c = true) ∧ keyword? "ls" = none ∧
    PlainWords ["1.2.3"] ∧ TwicePointed "1.2.3".toList ∧
    tokenize (" ".intercalate ["ls", "1.2.3"]) = .error ⟨.unexpectedChar, 6, some '.', .number true⟩ := by
  have plain : PlainWords ["1.2.3"] := by
    have number : Plain "1.2.3".toList :=
      ⟨List.all_eq_true.mp (by decide), by simp [List.infix_cons_iff], by simp [List.infix_cons_iff]⟩
    simp only [PlainWords, List.forall_mem_cons]
    exact ⟨⟨by decide, number⟩, nofun⟩
  have numeral : Numeral true ("1" ++ "." ++ "2") := .float (by decide) (by decide) (by decide)
  have read : (ofSource (" ".intercalate ["ls", "1.2.3"]).toList).steps 7 = some ([⟨⟨0, 2⟩, .execArg, "ls"⟩],
      ⟨.number true, ⟨some .execArg, 0, 0, 0⟩, 3, ['1', '.', '2'], ['.', '3', ' ', '#']⟩) := rfl
  refine ⟨List.all_eq_true.mp (by decide), by decide, plain, .here (.positive numeral), ?_⟩
  exact tokenize_eq_error_iff.mpr ⟨_, _, path_of_steps read, .failed rfl rfl⟩

end CommandScript.Lexer
