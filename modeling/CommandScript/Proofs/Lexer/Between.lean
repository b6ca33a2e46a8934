import CommandScript.Proofs.Lexer.Lookahead
import CommandScript.Proofs.Token.Written

/-!
Reading one token. Between two tokens, behind none that is an argument of a command, a
reader tells a token from its own text and the blank behind it.
-/
namespace CommandScript.Lexer.Reader
variable {r : Reader} {c : Char} {chars behind tail : List Char} {text : String} {kind : Kind}

/-- A reader between two tokens. -/
structure Fresh (r : Reader) : Prop where
  state : r.state = .start
  text : r.text = []

/-- A reader between two tokens, behind none that is an argument of a command. -/
structure Between (r : Reader) : Prop where
  state : r.state = .start
  text : r.text = []
  free : r.context.prev ≠ some .execArg

theorem Between.fresh (between : Between r) : Fresh r := ⟨between.state, between.text⟩

/-- One token is read, and the reader is between two tokens again, before the characters `behind`. -/
def ReadsAs (r : Reader) (chars behind : List Char) (kind : Kind) (text : String) : Prop :=
  ∃ (token : Token) (next : Reader), Path (r.facing chars) [token] (next.facing behind) ∧
    token.kind = kind ∧ token.text = text ∧ next.state = .start ∧ next.text = [] ∧
    next.context = r.context.after kind

/-- The reader in the middle of a token, of which it has read the text. -/
def reading (r : Reader) (state : State) (text : List Char) : Reader := { r with state, text }

@[simp] theorem reading_state (r : Reader) (state : State) (text : List Char) :
    (r.reading state text).state = state := rfl

@[simp] theorem reading_context (r : Reader) (state : State) (text : List Char) :
    (r.reading state text).context = r.context := rfl

@[simp] theorem reading_text (r : Reader) (state : State) (text : List Char) :
    (r.reading state text).text = text := rfl

theorem Path.keep {state next : State} {front : List Char}
    (acted : (r.reading state front).action c tail = .ok (.keep next)) :
    Path ((r.reading state front).facing (c :: tail)) [] ((r.reading next (front ++ [c])).facing tail) :=
  Path.of_step (step_of_action acted)

/-- Characters that a state keeps come to the text one by one. -/
theorem Path.kept {state : State} (front : List Char)
    (keeps : ∀ front, ∀ c ∈ chars, ∀ tail, (r.reading state front).action c tail = .ok (.keep state))
    (tail : List Char) :
    Path ((r.reading state front).facing (chars ++ tail)) []
      ((r.reading state (front ++ chars)).facing tail) := by
  induction chars generalizing front with
  | nil =>
    rw [List.append_nil]
    exact .refl
  | cons c chars ih =>
    have first := Path.keep (keeps front c List.mem_cons_self (chars ++ tail))
    have later := ih (front ++ [c]) fun front d member => keeps front d (List.mem_cons_of_mem _ member)
    rw [List.append_assoc, List.singleton_append] at later
    exact first.trans later

/-- The first character of a token. -/
theorem Fresh.begun {next : State} (fresh : Fresh r) (acted : r.action c tail = .ok (.keep next)) :
    Path (r.facing (c :: tail)) [] ((r.reading next [c]).facing tail) := by
  have same : r.reading .start [] = r := by
    rw [reading, ← fresh.state, ← fresh.text]
  rw [← same] at acted
  have path := Path.keep acted
  rwa [same] at path

/-- Nothing is emitted before the token, and nothing but the token with its last step. -/
theorem Path.readsAs {middle : Reader} {token : Token} {count : Nat}
    (path : Path (r.facing chars) [] (middle.facing (c :: tail))) (same : middle.context = r.context)
    (acted : middle.action c tail = .ok (.emit [token] count .start)) (left : (c :: tail).drop count = behind) :
    ReadsAs r chars behind token.kind token.text := by
  refine ⟨token, middle.moved c tail (.emit [token] count .start), ?_, rfl, rfl, rfl, rfl, ?_⟩
  · have last := Path.of_step (step_of_action acted)
    simpa [Reader.moved, Reader.emitted, facing, left] using path.trans last
  · rw [← same]
    rfl

/-! ## Operators -/

theorem Between.operator (between : Between r)
    (listed : (text, kind) ∈ Operator.structural ++ Operator.arithmetic) (tail : List Char) :
    ReadsAs r (text.toList ++ ' ' :: tail) (' ' :: tail) kind text := by
  have found := operator?_of_mem listed between.free tail
  have spelled := Operator.spelled _ listed
  cases here : text.toList with
  | nil => exact absurd here (Operator.nonempty _ listed)
  | cons c rest =>
    rw [here] at found spelled
    have printed : Text.isBlank c = false := by
      have first := List.all_eq_true.1 spelled c List.mem_cons_self
      simp only [Operator.spells, Bool.and_eq_true, Bool.not_eq_true'] at first
      exact first.1.1.2
    have acted : r.action c (rest ++ ' ' :: tail) = .ok (.emit
        [⟨⟨r.head, (c :: rest).length⟩, kind, String.ofList (c :: rest)⟩] (c :: rest).length .start) := by
      rw [Reader.action, between.state]
      simp only [startAction, if_neg (ne_feed printed), printed, Bool.false_eq_true, if_false, ← List.cons_append,
        found, List.take_left]
    have left : (c :: (rest ++ ' ' :: tail)).drop (c :: rest).length = ' ' :: tail := by
      rw [← List.cons_append, List.drop_left]
    have read := Path.readsAs .refl rfl acted left
    rwa [← here, String.ofList_toList] at read

/-! ## Words -/

theorem Between.word_begins (between : Between r) (first : Text.isAlphabetic c = true ∨ c = '_')
    (tail : List Char) : r.action c tail = .ok (.keep .unquotedLiteral) := by
  have printed : Text.isBlank c = false := by
    rcases first with letter | rfl
    · exact Text.isBlank_of_isAlphabetic letter
    · decide
  have unread : operator? r.context (c :: tail) = none := by
    refine operator?_eq_none ?_ r.context tail
    rcases first with letter | rfl
    · simp [Operator.spells, letter]
    · decide
  have digitless : c.isDigit = false := by
    rcases first with letter | rfl
    · exact Text.isDigit_of_isAlphabetic letter
    · decide
  have unmarked : c ∉ ['-', '.'] := by
    rcases first with letter | rfl
    · exact Text.not_mem_of_isAlphabetic (by decide) letter
    · decide
  have begins : Text.isAlphabetic c = true ∨ c ∈ wordSymbols := by
    rcases first with letter | rfl
    · exact .inl letter
    · exact .inr (by decide)
  simp only [List.mem_cons, List.not_mem_nil, or_false, not_or] at unmarked
  rw [Reader.action, between.state]
  simp [startAction, ne_feed printed, printed, unread, digitless, unmarked, begins]

theorem word_keeps (state : r.state = .unquotedLiteral) (letter : Text.isAlphabetic c = true)
    (tail : List Char) : r.action c tail = .ok (.keep .unquotedLiteral) := by
  have printed : Text.isBlank c = false := Text.isBlank_of_isAlphabetic letter
  have unmarked : c ∉ '.' :: '@' :: (callMarks ++ wordEnds) := Text.not_mem_of_isAlphabetic (by decide) letter
  simp only [List.mem_cons, List.mem_append, not_or] at unmarked
  obtain ⟨point, sign, call, stop⟩ := unmarked
  rw [Reader.action, state]
  simp [unquotedLiteralAction, printed, point, sign, call, stop]

/-- A word without dots is one name. -/
theorem pathTokens_dotless {start : Nat} {part word : List Char} (dotless : '.' ∉ word) :
    pathTokens start part word = pathPart start (part ++ word) := by
  induction word generalizing part with
  | nil => simp [pathTokens]
  | cons c word ih =>
    rw [List.mem_cons, not_or] at dotless
    rw [pathTokens, if_neg (Ne.symm dotless.1), ih dotless.2, List.append_assoc, List.singleton_append]

/-- Before a blank a word is complete, whatever comes behind the blank. -/
theorem word_ends (state : r.state = .unquotedLiteral) (dotless : '.' ∉ r.text)
    (alone : keyword? (String.ofList r.text) = none →
      pathPart r.start r.text = [r.lexeme (wordKind r.context r.text)]) (tail : List Char) :
    r.action ' ' tail = .ok (.emit [r.lexeme (wordKind r.context r.text)] 0 .start) := by
  rw [word_at_blank state (by decide) (by decide)]
  split_ifs with mark reserved
  · rfl
  · rw [pathTokens_dotless dotless, List.nil_append, alone (by simpa using reserved)]
  · rfl

/-- A word that the context makes no argument is read as what it is. -/
theorem Between.word (between : Between r) (first : Text.isAlphabetic c = true ∨ c = '_')
    (chars : List Char) (letters : ∀ d ∈ chars, Text.isAlphabetic d = true)
    (alone : keyword? (String.ofList (c :: chars)) = none →
      wordKind r.context (c :: chars) = if c :: chars = ['_'] then .implicitLambdaParam else .name)
    (tail : List Char) :
    ReadsAs r (c :: (chars ++ ' ' :: tail)) (' ' :: tail) (wordKind r.context (c :: chars))
      (String.ofList (c :: chars)) := by
  have complete := (between.fresh.begun (between.word_begins first (chars ++ ' ' :: tail))).trans
    (Path.kept [c] (fun front d member => word_keeps rfl (letters d member)) (' ' :: tail))
  have dotless : '.' ∉ c :: chars := by
    rw [List.mem_cons, not_or]
    refine ⟨?_, fun member => absurd (letters _ member) (by decide)⟩
    rintro rfl
    rcases first with letter | other
    · exact absurd letter (by decide)
    · exact absurd other (by decide)
  refine complete.readsAs rfl (word_ends rfl dotless (fun free => ?_) tail) rfl
  rw [lexeme, reading_context, reading_text, List.singleton_append, alone free, pathPart]
  rfl

/-- No implicit parameter begins with a letter. -/
theorem startsImplicit_of_isAlphabetic (letter : Text.isAlphabetic c = true) : startsImplicit (c :: chars) = false := by
  unfold startsImplicit
  split
  · rename_i same
    exact absurd ((List.cons.inj same).1 ▸ letter) (by decide)
  · rename_i same
    exact absurd ((List.cons.inj same).1 ▸ letter) (by decide)
  · rfl

theorem Between.wordKind_letters (between : Between r) (letter : Text.isAlphabetic c = true)
    (read : keyword? (String.ofList (c :: chars)) = some kind ∨
      keyword? (String.ofList (c :: chars)) = none ∧ kind = .name ∧ r.context.inBrackets = true) :
    wordKind r.context (c :: chars) = kind := by
  rw [wordKind, if_neg (by simpa using between.free)]
  rcases read with reserved | ⟨free, rfl, brackets⟩
  · rw [reserved]
  · rw [free]
    simp [startsImplicit_of_isAlphabetic letter, brackets]

/-- A word of letters is reserved or, in brackets, a name. -/
theorem Between.letters (between : Between r) (nonempty : text.toList ≠ [])
    (letters : text.toList.all Text.isAlphabetic = true)
    (read : keyword? text = some kind ∨ keyword? text = none ∧ kind = .name ∧ r.context.inBrackets = true)
    (tail : List Char) : ReadsAs r (text.toList ++ ' ' :: tail) (' ' :: tail) kind text := by
  obtain ⟨word, rfl⟩ : ∃ word, text = String.ofList word := ⟨text.toList, String.ofList_toList.symm⟩
  rw [String.toList_ofList] at nonempty letters ⊢
  cases word with
  | nil => contradiction
  | cons c chars =>
    rw [List.all_cons, Bool.and_eq_true] at letters
    have word := between.wordKind_letters letters.1 read
    rw [← word]
    refine between.word (.inl letters.1) chars (List.all_eq_true.1 letters.2) (fun free => ?_) tail
    have explicit : c :: chars ≠ ['_'] := by
      intro same
      exact absurd ((List.cons.inj same).1 ▸ letters.1) (by decide)
    rw [word, if_neg explicit]
    rcases read with reserved | ⟨_, named, _⟩
    · rw [free] at reserved
      contradiction
    · exact named

theorem Between.implicitParam (between : Between r) (tail : List Char) :
    ReadsAs r ('_' :: ' ' :: tail) (' ' :: tail) .implicitLambdaParam "_" := by
  have free : keyword? "_" = none := by decide
  have word : wordKind r.context ['_'] = .implicitLambdaParam := by
    simp [wordKind, between.free, free, startsImplicit]
  have read := between.word (.inr rfl) [] nofun (fun _ => by rw [word, if_pos rfl]) tail
  rwa [word] at read

/-! ## Numbers -/

theorem Fresh.number_begins (fresh : Fresh r) (digit : c.isDigit = true) (tail : List Char) :
    r.action c tail = .ok (.keep (.number false)) := by
  have printed : Text.isBlank c = false := Text.isBlank_of_isDigit digit
  have unread : operator? r.context (c :: tail) = none :=
    operator?_eq_none (by simp [Operator.spells, digit]) r.context tail
  rw [Reader.action, fresh.state]
  simp [startAction, ne_feed printed, printed, unread, digit]

theorem number_keeps (hasPoint : Bool) (text : List Char) (digit : c.isDigit = true) (tail : List Char) :
    (r.reading (.number hasPoint) text).action c tail = .ok (.keep (.number hasPoint)) := by
  have point : c ≠ '.' := by
    rintro rfl
    exact absurd digit (by decide)
  rw [Reader.action, reading_state]
  simp [numberAction, point, digit]

theorem number_point (text : List Char) (single : tail.head? ≠ some '.') :
    (r.reading (.number false) text).action '.' tail = .ok (.keep (.number true)) := by
  rw [Reader.action, reading_state]
  simp [numberAction, single]

theorem Path.digits (hasPoint : Bool) (front : List Char) (digits : chars.all Char.isDigit = true)
    (behind : List Char) :
    Path ((r.reading (.number hasPoint) front).facing (chars ++ behind)) []
      ((r.reading (.number hasPoint) (front ++ chars)).facing behind) :=
  Path.kept front (fun front d member => number_keeps hasPoint front (List.all_eq_true.1 digits d member)) behind

/-- A reader that takes the characters `front` and some digits behind them for the beginning of a number. -/
def Enters (r : Reader) (front : List Char) : Prop :=
  ∀ digits, digits ≠ [] → digits.all Char.isDigit = true → ∀ behind,
    Path (r.facing (front ++ (digits ++ behind))) [] ((r.reading (.number false) (front ++ digits)).facing behind)

theorem Fresh.enters (fresh : Fresh r) : Enters r [] := by
  intro digits nonempty numerals behind
  cases digits with
  | nil => contradiction
  | cons c digits =>
    rw [List.all_cons, Bool.and_eq_true] at numerals
    exact (fresh.begun (fresh.number_begins numerals.1 _)).trans (Path.digits false [c] numerals.2 behind)

/-- A number is kept in full, if its point is not followed by another one. -/
theorem Enters.numeral {hasPoint : Bool} {front : List Char} (enters : Enters r front)
    (numeral : Numeral hasPoint text) (behind : List Char)
    (single : text.toList.getLast? = some '.' → behind.head? ≠ some '.') :
    Path (r.facing (front ++ (text.toList ++ behind))) []
      ((r.reading (.number hasPoint) (front ++ text.toList)).facing behind) := by
  cases numeral with
  | integer nonempty digits => exact enters _ (by simpa using nonempty) digits behind
  | @float whole fraction nonempty wholes fractions =>
    have undotted : (fraction.toList ++ behind).head? ≠ some '.' := by
      cases here : fraction.toList with
      | nil => exact single (by simp [here])
      | cons d rest =>
        rw [here, List.all_cons, Bool.and_eq_true] at fractions
        rintro point
        rw [List.cons_append, List.head?_cons, Option.some.injEq] at point
        rw [point] at fractions
        exact absurd fractions.1 (by decide)
    have before := enters _ (by simpa using nonempty) wholes ('.' :: (fraction.toList ++ behind))
    have point := Path.keep (number_point (r := r) (front ++ whole.toList) undotted)
    have after := Path.digits (r := r) true (front ++ whole.toList ++ ['.']) fractions behind
    have path := (before.trans point).trans after
    simpa using path

theorem Fresh.numeral {hasPoint : Bool} (fresh : Fresh r) (numeral : Numeral hasPoint text) (behind : List Char)
    (single : behind.head? ≠ some '.') :
    Path (r.facing (text.toList ++ behind)) [] ((r.reading (.number hasPoint) text.toList).facing behind) :=
  fresh.enters.numeral numeral behind fun _ => single

theorem Between.numberKind (between : Between r) (hasPoint : Bool) :
    Reader.numberKind r.context hasPoint = if hasPoint then .float else .integer := by
  simp [Reader.numberKind, between.free]

/-- Before a blank a number is complete. -/
theorem Between.number {hasPoint : Bool} (between : Between r) (numeral : Numeral hasPoint text)
    (tail : List Char) :
    ReadsAs r (text.toList ++ ' ' :: tail) (' ' :: tail) (if hasPoint then .float else .integer) text := by
  have complete := between.fresh.numeral numeral (' ' :: tail) (by simp)
  have acted : (r.reading (.number hasPoint) text.toList).action ' ' tail = .ok (.emit
      [(r.reading (.number hasPoint) text.toList).lexeme (if hasPoint then .float else .integer)] 0 .start) := by
    have letterless : Text.isAlphabetic ' ' = false := by decide
    rw [Reader.action, reading_state, ← between.numberKind]
    simp [numberAction, letterless]
  have read := complete.readsAs rfl acted rfl
  rwa [lexeme, reading_text, String.ofList_toList] at read

/-- The letters of a unit behind a number end before a blank. -/
theorem Between.measured {hasPoint : Bool} {unit : String} {quantity : Quantity} (between : Between r)
    (numeral : Numeral hasPoint text) (known : (unit, quantity) ∈ Quantity.units) (tail : List Char) :
    ReadsAs r (text.toList ++ (unit.toList ++ ' ' :: tail)) (' ' :: tail)
      (if hasPoint then .unitFloat else .unitInteger) (text ++ ":" ++ unit) := by
  obtain ⟨nonempty, letters, lower, measures⟩ := units_written _ known
  dsimp only at nonempty letters lower measures
  have stops : Text.isAlphabetic ' ' = false := by decide
  have run : (unit.toList ++ ' ' :: tail).takeWhile Text.isAlphabetic = unit.toList := by
    rw [List.takeWhile_append_of_pos (List.all_eq_true.1 letters), List.takeWhile_cons, stops]
    simp
  cases here : unit.toList with
  | nil => contradiction
  | cons c rest =>
    rw [here] at letters run
    have letter : Text.isAlphabetic c = true := List.all_eq_true.1 letters c List.mem_cons_self
    have point : c ≠ '.' := by
      rintro rfl
      exact absurd letter (by decide)
    have complete := between.fresh.numeral numeral (c :: (rest ++ ' ' :: tail)) (by simpa using point)
    have acted : (r.reading (.number hasPoint) text.toList).action c (rest ++ ' ' :: tail) = .ok (.emit
        [(r.reading (.number hasPoint) text.toList).measured hasPoint unit] unit.length .start) := by
      have plain : Reader.numberKind r.context hasPoint ≠ .execArg := by
        rw [between.numberKind]
        split <;> decide
      have read : Text.lowerCase (String.ofList
          ((c :: (rest ++ ' ' :: tail)).takeWhile Text.isAlphabetic)) = unit := by
        rw [← List.cons_append, run, ← here, String.ofList_toList, lower]
      rw [Reader.action, reading_state]
      simp only [numberAction, if_neg point, Text.isDigit_of_isAlphabetic letter, read, measures, reading_context,
        letter]
      simp [plain]
    have left : (c :: (rest ++ ' ' :: tail)).drop unit.length = ' ' :: tail := by
      rw [← List.cons_append, ← here, ← String.length_toList, List.drop_left]
    have result := complete.readsAs rfl acted left
    rwa [Reader.measured, reading_text, String.ofList_toList] at result

/-! ## Quotations -/

theorem quotation_keeps (text : List Char) (inside : c ≠ '"') (backslashless : c ≠ '\\') (tail : List Char) :
    (r.reading (.quotedLiteral '"' false) text).action c tail = .ok (.keep (.quotedLiteral '"' false)) := by
  rw [Reader.action, reading_state]
  simp [quotedLiteralAction, inside, backslashless]

theorem Between.quotation_begins (between : Between r) (tail : List Char) :
    r.action '"' tail = .ok (.emit [] 1 (.quotedLiteral '"' false)) := by
  have printed : Text.isBlank '"' = false := by decide
  have letterless : Text.isAlphabetic '"' = false := by decide
  have unread : operator? r.context ('"' :: tail) = none :=
    operator?_eq_none (by decide) r.context tail
  rw [Reader.action, between.state]
  simp [startAction, printed, letterless, unread, wordSymbols]

theorem Between.quotation (between : Between r) (quoteless : '"' ∉ text.toList)
    (backslashless : '\\' ∉ text.toList) (tail : List Char) :
    ReadsAs r ('"' :: (text.toList ++ '"' :: ' ' :: tail)) (' ' :: tail) .quotedString text := by
  obtain ⟨opened, begun⟩ : ∃ opened : Reader, opened = { r with start := r.head + 1 } := ⟨_, rfl⟩
  have first : Path (r.facing ('"' :: (text.toList ++ '"' :: ' ' :: tail))) []
      ((opened.reading (.quotedLiteral '"' false) []).facing (text.toList ++ '"' :: ' ' :: tail)) :=
    begun ▸ Path.of_step (step_of_action (between.quotation_begins _))
  have within := Path.kept (r := opened) [] (fun front c member => quotation_keeps front
    (fun same => quoteless (same ▸ member)) (fun same => backslashless (same ▸ member))) ('"' :: ' ' :: tail)
  have same : opened.context = r.context := begun ▸ rfl
  have acted : (opened.reading (.quotedLiteral '"' false) text.toList).action '"' (' ' :: tail) =
      .ok (.emit [(opened.reading (.quotedLiteral '"' false) text.toList).lexeme .quotedString] 1 .start) := by
    rw [Reader.action, reading_state]
    simp [quotedLiteralAction, same, between.free]
  have read := (first.trans within).readsAs same acted rfl
  rwa [lexeme, reading_text, String.ofList_toList] at read

end CommandScript.Lexer.Reader
