import CommandScript.Proofs.Lexer.Operator
import CommandScript.Proofs.Lexer.Path
import CommandScript.Proofs.Text.Letter

/-!
How far a reader looks ahead. Whatever it looks for, an operator, the letters of a unit or
the second of two dots, is not looked for behind a blank; only behind a bare word all
blanks are passed, line feeds among them. So what a reader does with the characters before
a blank does not depend on what comes behind it, but for such a word.
-/
namespace CommandScript.Lexer.Reader

/-- The same reader with other characters to come. -/
def facing (r : Reader) (rest : List Char) : Reader := { r with rest }

@[simp] theorem facing_state (r : Reader) (rest : List Char) : (r.facing rest).state = r.state := rfl

@[simp] theorem facing_rest (r : Reader) (rest : List Char) : (r.facing rest).rest = rest := rfl

@[simp] theorem facing_head (r : Reader) (rest : List Char) : (r.facing rest).head = r.head := rfl

/-- An action is about the characters that it is given. -/
theorem action_facing (r : Reader) (rest : List Char) (c : Char) (tail : List Char) :
    (r.facing rest).action c tail = r.action c tail := by
  unfold Reader.action
  rw [facing_state]
  cases r.state with
  | start =>
    dsimp only
    unfold startAction
    rfl
  | number hasPoint =>
    dsimp only
    unfold numberAction
    generalize Text.lowerCase (String.ofList ((c :: tail).takeWhile Text.isAlphabetic)) = unit
    cases Quantity.ofUnit? unit <;> rfl
  | _ => rfl

theorem step_facing (r : Reader) (rest : List Char) (c : Char) (tail : List Char) :
    (r.facing rest).step c tail = r.step c tail := by
  unfold step
  rw [action_facing]
  rfl

theorem Path.of_step {r next : Reader} {c : Char} {tail : List Char} {tokens : List Token}
    (done : r.step c tail = .ok (tokens, next)) : Path (r.facing (c :: tail)) tokens next :=
  .single rfl ((r.step_facing (c :: tail) c tail).trans done)

/-- The reader behind a name, a word or a number, with nothing taken of what comes next. -/
def ended (r : Reader) (tokens : List Token) : Reader := r.moved ' ' [] (.emit tokens 0 .start)

/-- A bare word ends before `c`, and to see what follows the word its reader passes all that is left
    of the line, `front`, and the line feed behind it. -/
structure LooksPast (r : Reader) (c : Char) (front : List Char) : Prop where
  state : r.state = .unquotedLiteral
  blank : Text.isBlank c = true
  inline : c ≠ '\n'
  blanks : ∀ d ∈ front, Text.isBlank d = true

variable {r : Reader} {c : Char} {front behind other tail : List Char} {tokens : List Token}

theorem looksPast_facing (rest : List Char) : LooksPast (r.facing rest) c front ↔ LooksPast r c front :=
  ⟨fun past => ⟨past.state, past.blank, past.inline, past.blanks⟩,
    fun past => ⟨past.state, past.blank, past.inline, past.blanks⟩⟩

/-! ## What is looked for -/

/-- All that a reader looks for behind the character `c` is the same in both tails. -/
structure SeesAlike (r : Reader) (c : Char) (tail other : List Char) : Prop where
  operator : operator? r.context (c :: tail) = operator? r.context (c :: other)
  spelled {kind : Kind} {length : Nat} (found : operator? r.context (c :: tail) = some (kind, length)) :
    (c :: tail).take length = (c :: other).take length
  point : tail.head? = some '.' ↔ other.head? = some '.'
  digit : tail.head?.any Char.isDigit = other.head?.any Char.isDigit
  letters : (c :: tail).takeWhile Text.isAlphabetic = (c :: other).takeWhile Text.isAlphabetic
  ahead : r.state = .unquotedLiteral → Reader.ahead c tail = Reader.ahead c other

theorem SeesAlike.point_eq (alike : SeesAlike r c tail other) :
    (tail.head? == some '.') = (other.head? == some '.') := by
  rw [Bool.eq_iff_iff, beq_iff_eq, beq_iff_eq]
  exact alike.point

/-- No operator goes on behind a blank. -/
theorem operator?_blank (blank : Text.isBlank c = true) (context : Context) (front behind : List Char) :
    operator? context (front ++ c :: behind) = operator? context front :=
  operator?_unspelled (by simp [Operator.spells, blank]) context front behind

theorem letterless_of_blank (blank : Text.isBlank c = true) : Text.isAlphabetic c = false := by
  by_contra letter
  rw [Bool.not_eq_false] at letter
  rw [Text.isBlank_of_isAlphabetic letter] at blank
  contradiction

theorem takeWhile_blank (blank : Text.isBlank c = true) (front behind : List Char) :
    (front ++ c :: behind).takeWhile Text.isAlphabetic = front.takeWhile Text.isAlphabetic := by
  induction front with
  | nil => simp [letterless_of_blank blank]
  | cons d front ih => simp [List.takeWhile_cons, ih]

/-- A blank is no second dot. -/
theorem head?_point (blank : Text.isBlank c = true) (front behind : List Char) :
    (front ++ c :: behind).head? = some '.' ↔ front.head? = some '.' := by
  cases front with
  | nil =>
    have other : c ≠ '.' := by
      rintro rfl
      exact absurd blank (by decide)
    simp [other]
  | cons => rfl

theorem head?_digit (blank : Text.isBlank c = true) (front behind : List Char) :
    (front ++ c :: behind).head?.any Char.isDigit = front.head?.any Char.isDigit := by
  cases front with
  | nil =>
    cases digit : c.isDigit with
    | true =>
      rw [Text.isBlank_of_isDigit digit] at blank
      contradiction
    | false => simp [digit]
  | cons => rfl

/-- Behind a blank nothing is looked for, but by a bare word. -/
theorem seesAlike_blank {d e : Char} (blank : Text.isBlank d = true) (blank' : Text.isBlank e = true)
    (ahead : r.state = .unquotedLiteral →
      Reader.ahead c (front ++ d :: behind) = Reader.ahead c (front ++ e :: other)) :
    SeesAlike r c (front ++ d :: behind) (front ++ e :: other) where
  operator := by
    rw [← List.cons_append, ← List.cons_append, operator?_blank blank, operator?_blank blank']
  spelled found := by
    rw [← List.cons_append, operator?_blank blank] at found
    obtain ⟨_, _, _, fits⟩ := operator?_eq_some found
    rw [← List.cons_append, ← List.cons_append, List.take_append_of_le_length fits,
      List.take_append_of_le_length fits]
  point := (head?_point blank front behind).trans (head?_point blank' front other).symm
  digit := (head?_digit blank front behind).trans (head?_digit blank' front other).symm
  letters := by
    rw [← List.cons_append, ← List.cons_append, takeWhile_blank blank, takeWhile_blank blank']
  ahead := ahead

theorem ahead_line (within : ¬(Text.isBlank c = true ∧ c ≠ '\n' ∧ ∀ d ∈ front, Text.isBlank d = true))
    (behind other : List Char) : ahead c (front ++ '\n' :: behind) = ahead c (front ++ '\n' :: other) := by
  unfold ahead
  by_cases spaced : Text.isBlank c = true ∧ c ≠ '\n'
  · obtain ⟨d, member, printed⟩ : ∃ d ∈ front, Text.isBlank d = false := by
      by_contra none
      push Not at none
      exact within ⟨spaced.1, spaced.2, by simpa using none⟩
    obtain ⟨e, found⟩ : ∃ e, front.find? (!Text.isBlank ·) = some e :=
      Option.isSome_iff_exists.1 (List.find?_isSome.2 ⟨d, member, by simp [printed]⟩)
    simp [List.find?_append, found]
  · have direct : (Text.isBlank c && c != '\n') = false := by
      cases blank : Text.isBlank c <;> simp_all
    simp [direct]

/-! ## What is done -/

/-- A reader does the same before two tails in which it sees the same. -/
theorem SeesAlike.action_eq (alike : SeesAlike r c tail other) : r.action c tail = r.action c other := by
  unfold Reader.action
  cases state : r.state with
  | start =>
    dsimp only
    unfold startAction
    rw [← alike.operator, ← alike.digit]
    cases found : operator? r.context (c :: tail) with
    | none => rfl
    | some operator =>
      dsimp only
      rw [alike.spelled found]
  | comment => rfl
  | identifier =>
    dsimp only
    unfold identifierAction
    rw [bne, bne, alike.point_eq]
  | quotedLiteral => rfl
  | quotedArgList => rfl
  | unquotedLiteral =>
    have ahead := alike.ahead state
    unfold Reader.ahead at ahead
    dsimp only
    unfold unquotedLiteralAction
    dsimp only
    rw [ahead, alike.point_eq]
  | number =>
    dsimp only
    unfold numberAction
    rw [alike.letters]
    simp only [alike.point]

/-- At a blank within a line a word ends, and what comes behind the blanks decides what it is. -/
theorem word_at_blank (state : r.state = .unquotedLiteral) (blank : Text.isBlank c = true) (inline : c ≠ '\n')
    (tail : List Char) : r.action c tail =
      if callMarks.contains (Reader.ahead c tail) then
        if (keyword? (String.ofList r.text)).isSome then .ok (.emit [r.lexeme (wordKind r.context r.text)] 0 .start)
        else .ok (.emit (pathTokens r.start [] r.text) 0 .start)
      else .ok (.emit [r.lexeme (wordKind r.context r.text)] 0 .start) := by
  rw [Reader.action, state]
  simp [unquotedLiteralAction, Reader.ahead, blank, inline]

/-- An action takes no blank that comes later. -/
theorem count_le_of_action {d : Char} {count : Nat} {next : State} (blank : Text.isBlank d = true)
    (done : r.action c (front ++ d :: behind) = .ok (.emit tokens count next)) :
    count ≤ (c :: front).length := by
  have acts := acts_of_action done
  have one : 1 ≤ (c :: front).length := by simp
  cases acts with
  | operator state printed found =>
    rw [← List.cons_append, operator?_blank blank] at found
    exact (operator?_eq_some found).choose_spec.2.2
  | numberUnit state plain letter lower known =>
    rw [← List.cons_append, takeWhile_blank blank] at lower
    subst lower
    rw [Quantity.length_of_ofUnit? known]
    exact (List.takeWhile_prefix _).length_le
  | _ => first | exact one | exact Nat.zero_le _

/-- The same step, with the same tokens, before any tail that looks alike behind a blank. -/
theorem step_blank {d : Char} {next : Reader} (blank : Text.isBlank d = true)
    (done : r.step c (front ++ d :: behind) = .ok (tokens, next)) :
    ∃ (middle : Reader) (later : List Char), ∀ rest, SeesAlike r c (front ++ d :: behind) (front ++ rest) →
      r.step c (front ++ rest) = .ok (tokens, middle.facing (later ++ rest)) := by
  cases acted : r.action c (front ++ d :: behind) with
  | error problem => simp [step, acted] at done
  | ok action =>
    obtain ⟨rfl, _⟩ := step_unique (step_of_action acted) done
    have same {rest : List Char} (alike : SeesAlike r c (front ++ d :: behind) (front ++ rest)) :
        r.action c (front ++ rest) = .ok action :=
      alike.action_eq.symm.trans acted
    cases action with
    | keep next => exact ⟨r.moved c [] (.keep next), front, fun rest alike => step_of_action (same alike)⟩
    | newline => exact ⟨r.moved c [] .newline, front, fun rest alike => step_of_action (same alike)⟩
    | emit tokens count next =>
      refine ⟨r.moved c [] (.emit tokens count next), (c :: front).drop count, fun rest alike => ?_⟩
      have split : (c :: (front ++ rest)).drop count = (c :: front).drop count ++ rest :=
        List.drop_append_of_le_length (count_le_of_action blank acted)
      rw [step_of_action (same alike), moved, split]
      rfl

/-- The same step, with the same tokens, whatever comes behind the line. -/
theorem step_line {next : Reader} (within : ¬LooksPast r c front)
    (done : r.step c (front ++ '\n' :: behind) = .ok (tokens, next)) :
    ∃ (middle : Reader) (later : List Char), ∀ other,
      r.step c (front ++ '\n' :: other) = .ok (tokens, middle.facing (later ++ '\n' :: other)) := by
  have feed : Text.isBlank '\n' = true := by decide
  obtain ⟨middle, later, same⟩ := step_blank feed done
  refine ⟨middle, later, fun other => same ('\n' :: other) (seesAlike_blank feed feed fun state => ?_)⟩
  exact ahead_line (fun ⟨blank, inline, blanks⟩ => within ⟨state, blank, inline, blanks⟩) behind other

/-! ## The line feed itself -/

/-- Where a line feed ends a line: between two tokens, or in a comment. -/
def Idle (r : Reader) : Prop := r.state = .start ∨ r.state = .comment

theorem Idle.action_feed (idle : r.Idle) : r.action '\n' tail = .ok .newline := by
  rcases idle with state | state <;> rw [Reader.action, state] <;> rfl

/-- The states in which a line feed ends a token. -/
def EndsAtFeed : State → Prop
  | .identifier | .unquotedLiteral | .number _ => True
  | _ => False

theorem action_feed (state : EndsAtFeed r.state) :
    (∃ tokens, ∀ tail, r.action '\n' tail = .ok (.emit tokens 0 .start)) ∨
      ∃ problem, ∀ tail, r.action '\n' tail = .error problem := by
  have blank : Text.isBlank '\n' = true := by decide
  have letterless : Text.isAlphabetic '\n' = false := by decide
  unfold Reader.action
  cases here : r.state <;> rw [here] at state <;> simp only [EndsAtFeed] at state
  case identifier =>
    by_cases empty : r.text.isEmpty = true
    · exact .inr ⟨.emptyIdentifier, fun tail => by simp [identifierAction, blank, empty]⟩
    · exact .inl ⟨[r.lexeme .name], fun tail => by simp [identifierAction, blank, empty]⟩
  case unquotedLiteral =>
    refine .inl ⟨[r.lexeme (wordKind r.context r.text)], fun tail => ?_⟩
    simp [unquotedLiteralAction, callMarks, wordEnds]
  case number hasPoint =>
    refine .inl ⟨[r.lexeme (numberKind r.context hasPoint)], fun tail => ?_⟩
    simp [numberAction, letterless]

/-- A name, a word or a number ends before a line feed, which is left to the next step. -/
theorem step_feed {next : Reader} (state : EndsAtFeed r.state)
    (done : r.step '\n' behind = .ok (tokens, next)) :
    ∃ middle : Reader, ∀ other, r.step '\n' other = .ok (tokens, middle.facing ('\n' :: other)) := by
  rcases action_feed state with ⟨emitted, acted⟩ | ⟨problem, failed⟩
  · obtain ⟨rfl, _⟩ := step_unique (step_of_action (acted behind)) done
    exact ⟨r.moved '\n' [] (.emit emitted 0 .start), fun other => step_of_action (acted other)⟩
  · rw [step_of_error (failed behind)] at done
    contradiction

theorem Idle.step_feed (idle : r.Idle) (tail : List Char) :
    r.step '\n' tail = .ok (r.emitted .newline, (r.moved '\n' [] .newline).facing tail) :=
  step_of_action idle.action_feed

theorem Idle.step_blank (idle : r.Idle) (blank : Text.isBlank c = true) (inline : c ≠ '\n')
    (tail : List Char) : r.step c tail = .ok ([], (r.moved c [] (.emit [] 1 r.state)).facing tail) := by
  have acted : r.action c tail = .ok (.emit [] 1 r.state) := by
    rcases idle with state | state
    · simp [Reader.action, state, startAction, inline, blank]
    · simp [Reader.action, state, inline]
  exact step_of_action acted

/-- The padding is passed without a token. -/
theorem padding_path (state : r.state = .start) : ∃ last, Path (r.facing padding) [] last ∧
    last.rest = [] ∧ last.context = r.context ∧ last.state = .comment := by
  have idle : r.Idle := .inl state
  obtain ⟨middle, here⟩ : ∃ middle, middle = r.moved ' ' [] (.emit [] 1 r.state) := ⟨_, rfl⟩
  have blank : Path (r.facing padding) [] (middle.facing ['#']) :=
    here ▸ Path.of_step (idle.step_blank (by decide) (by decide) ['#'])
  have acted : middle.action '#' [] = .ok (.emit [] 1 .comment) := by
    have started : middle.state = .start := here ▸ state
    have unread : operator? middle.context ['#'] = none := operator?_eq_none (by decide) middle.context []
    have printed : Text.isBlank '#' = false := by decide
    have letterless : Text.isAlphabetic '#' = false := by decide
    rw [Reader.action, started]
    simp [startAction, printed, unread, letterless, wordSymbols]
  refine ⟨_, blank.trans (Path.of_step (step_of_action acted)), rfl, ?_, rfl⟩
  subst here
  rfl

end CommandScript.Lexer.Reader
