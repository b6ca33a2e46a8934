import CommandScript.Proofs.Lexer.Operator
import CommandScript.Proofs.Lexer.Path
import CommandScript.Proofs.Text.Letter

/-!
Reading character by character, with the states handing characters on to each other.
Between tokens a character that begins an operator, a number or a bare word is not
taken: it is handed on, with the head where it is, and a word, a number or a name hands
back the character that ends it. A relay takes these steps one by one. It never hands
a character on three times, so it comes to the end of every source, and it emits what
a reader emits.
-/
namespace CommandScript.Lexer

/-- A reader between two steps, and the operator that it has found at its head but not taken yet. -/
structure Relay where
  reader : Reader
  operator : Option (Kind × Nat) := none

namespace Reader

/-- The reader that begins a token at its head. -/
def handed (r : Reader) (state : State) : Reader := { r with state, start := r.head, text := [] }

/-- Who takes a character between tokens, if it is left to another state. -/
def handOver? (r : Reader) (c : Char) (tail : List Char) : Option Relay :=
  if Text.isBlank c then none
  else match operator? r.context (c :: tail) with
  | some found => some ⟨r.handed .start, some found⟩
  | none =>
    if c.isDigit || (c == '-' && tail.head?.any Char.isDigit) then some ⟨r.handed (.number false), none⟩
    else if Text.isAlphabetic c || wordSymbols.contains c then some ⟨r.handed .unquotedLiteral, none⟩
    else none

/-- What a reader does with a character that it has to take or to hand back itself. The text is
    still empty at the first character of a word or a number: a dot alone makes no word before it,
    and only there a sign belongs to a number. -/
def relayedAction (r : Reader) (c : Char) (tail : List Char) : Except Problem Action :=
  match r.state with
  | .unquotedLiteral =>
    if r.text.isEmpty && c == '.' && tail.head? != some '.' && wordKind r.context [] == .name then
      .ok (.emit [r.mark .dot '.'] 1 .start)
    else r.unquotedLiteralAction c tail
  | .number hasPoint =>
    if r.text.isEmpty && c == '-' then .ok (.keep (.number hasPoint)) else r.numberAction hasPoint c tail
  | _ => r.action c tail

end Reader

namespace Relay
open Reader

/-- A relay at the beginning of a source. -/
def ofSource (source : String) : Relay := { reader := .ofSource source.toList }

/-- An operator that has been found is taken at once. -/
def takeOperator (r : Reader) (c : Char) (tail : List Char) (kind : Kind) (length : Nat) :
    List Token × Relay :=
  let token : Token := ⟨⟨r.head, length⟩, kind, String.ofList ((c :: tail).take length)⟩
  ([token], ⟨r.moved c tail (.emit [token] (length - 1 + 1) .start), none⟩)

/-- One step on the character `c`, when `tail` comes after it. -/
def step (m : Relay) (c : Char) (tail : List Char) : Except LexError (List Token × Relay) :=
  match m.operator with
  | some (kind, length) => .ok (takeOperator m.reader c tail kind length)
  | none =>
    match if m.reader.state = .start then m.reader.handOver? c tail else none with
    | some next => .ok ([], next)
    | none =>
      match m.reader.relayedAction c tail with
      | .ok action => .ok (m.reader.emitted action, ⟨m.reader.moved c tail action, none⟩)
      | .error problem => .error ⟨problem, m.reader.head, some c, m.reader.state⟩

/-- A step that does not fail. -/
def Steps (m : Relay) (tokens : List Token) (next : Relay) : Prop :=
  ∃ c tail, m.reader.rest = c :: tail ∧ m.step c tail = .ok (tokens, next)

/-- A step that leaves the head where it is, so that the next state gets the same character. -/
def Hands (m next : Relay) : Prop :=
  ∃ tokens, m.Steps tokens next ∧ next.reader.head = m.reader.head ∧ next.reader.rest = m.reader.rest

/-- The next step fails, or moves the head on. -/
def Advances (m : Relay) : Prop :=
  (∃ c tail error, m.reader.rest = c :: tail ∧ m.step c tail = .error error) ∨
    ∃ tokens next, m.Steps tokens next ∧ m.reader.head < next.reader.head ∧
      next.reader.rest.length < m.reader.rest.length

/-- A relay comes to the end of its input or to an error after so many steps, with these tokens. -/
inductive Ends : Relay → Nat → List Token → Option LexError → Prop
  | finished {r : Reader} (rest : r.rest = []) : Ends ⟨r, none⟩ 0 [] r.finish
  | failed {m : Relay} {c : Char} {tail : List Char} {error : LexError} (rest : m.reader.rest = c :: tail)
    (failed : m.step c tail = .error error) : Ends m 1 [] (some error)
  | step {m next : Relay} {tokens later : List Token} {count : Nat} {error : Option LexError}
    (done : m.Steps tokens next) (ends : Ends next count later error) :
    Ends m (count + 1) (tokens ++ later) error

/-! ## One character -/

section
variable {m next : Relay} {r : Reader} {c : Char} {tail : List Char} {tokens : List Token}

/-- An action that takes at least one character. -/
def Takes : Action → Prop
  | .emit _ count _ => 0 < count
  | _ => True

theorem moved_advances {action : Action} (rest : r.rest = c :: tail) (takes : Takes action) :
    r.head < (r.moved c tail action).head ∧ (r.moved c tail action).rest.length < r.rest.length := by
  cases action with
  | keep => simp [moved, head, rest]
  | newline => simp [moved, head, rest]
  | emit tokens count next =>
    have positive : 0 < count := takes
    simp only [moved, head, rest, List.length_drop, List.length_cons, List.length_nil]
    omega

@[simp] theorem handed_head (r : Reader) (state : State) : (r.handed state).head = r.head := rfl

/-- No single dot begins a word before another dot: two dots are an operator in every context. -/
theorem single_of_unread {context : Context} (unread : operator? context ('.' :: tail) = none) :
    tail.head? ≠ some '.' := by
  intro double
  obtain ⟨rest, rfl⟩ := List.head?_eq_some_iff.1 double
  have listed : ("..", Kind.range) ∈ Operator.structural := by decide
  obtain ⟨found, range⟩ := exists_operator?_of_mem listed context rest
  have whole : operator? context ('.' :: '.' :: rest) = some found := range
  rw [unread] at whole
  contradiction

/-- No word is empty where it begins, so it is no implicit parameter. -/
theorem wordKind_nil_ne (context : Context) : wordKind context [] ≠ .implicitLambdaParam := by
  have free : keyword? (String.ofList []) = none := by decide
  rw [wordKind, free]
  simp only [startsImplicit, Bool.false_eq_true, if_false]
  split_ifs <;> decide

/-- A word does not hand back the character that it begins with. -/
theorem word_takes_first (first : Text.isAlphabetic c = true ∨ c ∈ wordSymbols)
    (single : c = '.' → tail.head? ≠ some '.' ∧ wordKind r.context [] ≠ .name) :
    (r.handed .unquotedLiteral).relayedAction c tail = .ok (.keep .unquotedLiteral) := by
  have printed : Text.isBlank c = false := by
    rcases first with letter | symbol
    · exact Text.isBlank_of_isAlphabetic letter
    · have prints : wordSymbols.all (!Text.isBlank ·) = true := by decide
      simpa using List.all_eq_true.1 prints c symbol
  have unmarked : c ∉ '@' :: (callMarks ++ wordEnds) := by
    rcases first with letter | symbol
    · exact Text.not_mem_of_isAlphabetic (by decide) letter
    · have apart : wordSymbols.all (!('@' :: (callMarks ++ wordEnds)).contains ·) = true := by decide
      simpa using List.all_eq_true.1 apart c symbol
  simp only [List.mem_cons, List.mem_append, not_or] at unmarked
  obtain ⟨sign, call, stop⟩ := unmarked
  simp only [relayedAction, handed, unquotedLiteralAction, printed]
  by_cases point : c = '.'
  · obtain ⟨alone, unnamed⟩ := single point
    simp [point, alone, unnamed, wordKind_nil_ne, callMarks, wordEnds]
  · simp [point, sign, call, stop]

/-- A number does not hand back the character that it begins with. -/
theorem number_takes_first (first : c.isDigit = true ∨ c = '-') :
    (r.handed (.number false)).relayedAction c tail = .ok (.keep (.number false)) := by
  rcases first with digit | rfl
  · have point : c ≠ '.' := by
      rintro rfl
      exact absurd digit (by decide)
    simp [relayedAction, handed, numberAction, point, digit]
  · simp [relayedAction, handed]

/-- Between tokens a dot alone is a word of its own where a name is expected. Any other character that
    begins a word is kept for it. -/
theorem word_taken (printed : Text.isBlank c = false) (unread : operator? r.context (c :: tail) = none)
    (numberless : (c.isDigit || (c == '-' && tail.head?.any Char.isDigit)) = false)
    (first : Text.isAlphabetic c = true ∨ c ∈ wordSymbols) : ∃ action, Takes action ∧
      r.startAction c tail = .ok action ∧ (r.handed .unquotedLiteral).relayedAction c tail = .ok action := by
  have feed : c ≠ '\n' := ne_feed printed
  by_cases dot : c = '.' ∧ wordKind r.context [] = .name
  · obtain ⟨rfl, named⟩ := dot
    refine ⟨.emit [r.mark .dot '.'] 1 .start, Nat.one_pos, by simp [startAction, printed, unread, named], ?_⟩
    have single := single_of_unread unread
    simp [relayedAction, handed, single, named]
    rfl
  · refine ⟨.keep .unquotedLiteral, trivial,
      by simp [startAction, feed, printed, unread, numberless, dot, first], ?_⟩
    refine word_takes_first first fun point => ?_
    subst point
    exact ⟨single_of_unread unread, fun named => dot ⟨rfl, named⟩⟩

/-- What a relay can hand a character on to between tokens. -/
inductive HandsOver (r : Reader) (c : Char) (tail : List Char) : Relay → Prop
  | operator {kind : Kind} {length : Nat} (printed : Text.isBlank c = false)
    (found : operator? r.context (c :: tail) = some (kind, length)) :
    HandsOver r c tail ⟨r.handed .start, some (kind, length)⟩
  | number (printed : Text.isBlank c = false) (unread : operator? r.context (c :: tail) = none)
    (first : (c.isDigit || (c == '-' && tail.head?.any Char.isDigit)) = true) :
    HandsOver r c tail ⟨r.handed (.number false), none⟩
  | word (printed : Text.isBlank c = false) (unread : operator? r.context (c :: tail) = none)
    (numberless : (c.isDigit || (c == '-' && tail.head?.any Char.isDigit)) = false)
    (first : Text.isAlphabetic c = true ∨ c ∈ wordSymbols) :
    HandsOver r c tail ⟨r.handed .unquotedLiteral, none⟩

theorem handsOver_of_handOver? (handed : r.handOver? c tail = some next) : HandsOver r c tail next := by
  unfold handOver? at handed
  by_cases blank : Text.isBlank c = true
  · simp [blank] at handed
  have printed : Text.isBlank c = false := by simpa using blank
  rw [printed, if_neg (by decide)] at handed
  cases found : operator? r.context (c :: tail) with
  | some operator =>
    rw [found] at handed
    exact Option.some.inj handed ▸ .operator printed found
  | none =>
    rw [found] at handed
    dsimp only at handed
    split_ifs at handed with number word
    · exact Option.some.inj handed ▸ .number printed found number
    · exact Option.some.inj handed ▸ .word printed found (by simpa using number) (by simpa using word)

/-- One step of a relay that has found no operator and hands nothing over. -/
theorem step_of_relayedAction {action : Action} (alone : m.operator = none)
    (keeps : m.reader.state = .start → m.reader.handOver? c tail = none)
    (acted : m.reader.relayedAction c tail = .ok action) :
    m.step c tail = .ok (m.reader.emitted action, ⟨m.reader.moved c tail action, none⟩) := by
  rw [step, alone, acted]
  by_cases state : m.reader.state = .start
  · simp [state, keeps state]
  · simp [state]

theorem step_of_relayedError {problem : Problem} (alone : m.operator = none)
    (keeps : m.reader.state = .start → m.reader.handOver? c tail = none)
    (failed : m.reader.relayedAction c tail = .error problem) :
    m.step c tail = .error ⟨problem, m.reader.head, some c, m.reader.state⟩ := by
  rw [step, alone, failed]
  by_cases state : m.reader.state = .start
  · simp [state, keeps state]
  · simp [state]

theorem step_of_handOver (alone : m.operator = none) (state : m.reader.state = .start)
    (handed : m.reader.handOver? c tail = some next) : m.step c tail = .ok ([], next) := by
  rw [step, alone, if_pos state, handed]

theorem step_handed {state : State} {action : Action} (other : state ≠ .start)
    (acted : (r.handed state).relayedAction c tail = .ok action) :
    step ⟨r.handed state, none⟩ c tail =
      .ok (r.emitted action, ⟨(r.handed .start).moved c tail action, none⟩) := by
  rw [step_of_relayedAction rfl (fun here => absurd here other) acted]
  cases action <;> rfl

/-- Who gets a character between tokens takes it, as the reader would have done itself. -/
theorem HandsOver.takes (handsOver : HandsOver r c tail next) :
    next.reader.rest = r.rest ∧ next.reader.head = r.head ∧ ∃ action, Takes action ∧
      r.startAction c tail = .ok action ∧
        next.step c tail = .ok (r.emitted action, ⟨(r.handed .start).moved c tail action, none⟩) := by
  cases handsOver with
  | @operator kind length printed found =>
    have positive := operator?_pos found
    refine ⟨rfl, rfl, .emit [⟨⟨r.head, length⟩, kind, String.ofList ((c :: tail).take length)⟩] length .start,
      positive, by simp [startAction, ne_feed printed, printed, found], ?_⟩
    simp [step, takeOperator, emitted, Nat.sub_add_cancel positive]
  | number printed unread first =>
    refine ⟨rfl, rfl, .keep (.number false), trivial,
      by simp [startAction, ne_feed printed, printed, unread, first], ?_⟩
    refine step_handed (by decide) (number_takes_first ?_)
    simp only [Bool.or_eq_true, Bool.and_eq_true, beq_iff_eq] at first
    exact first.imp_right (·.1)
  | word printed unread numberless first =>
    obtain ⟨action, takes, acted, taken⟩ := word_taken printed unread numberless first
    exact ⟨rfl, rfl, action, takes, acted, step_handed (by decide) taken⟩

/-- What a relay does in a state of its own is what its reader does, but for the first character of a
    word or a number, which is taken. -/
theorem action_or_takes {action : Action} (acted : r.relayedAction c tail = .ok action) :
    r.action c tail = .ok action ∨ r.state ≠ .start ∧ Takes action := by
  unfold relayedAction at acted
  rw [Reader.action]
  cases state : r.state <;> rw [state] at acted <;> dsimp only at acted ⊢
  case unquotedLiteral =>
    split_ifs at acted
    · obtain rfl := Except.ok.inj acted
      exact .inr ⟨nofun, Nat.one_pos⟩
    · exact .inl acted
  case number =>
    split_ifs at acted
    · obtain rfl := Except.ok.inj acted
      exact .inr ⟨nofun, trivial⟩
    · exact .inl acted
  all_goals
    rw [Reader.action, state] at acted
    exact .inl acted

/-- A relay that has found no operator takes the character or hands it back to `start`. -/
theorem takes_or_hands_back {action : Action} (acted : r.relayedAction c tail = .ok action) :
    Takes action ∨ r.state ≠ .start ∧ ∃ tokens, action = .emit tokens 0 .start := by
  rcases action_or_takes acted with done | ⟨_, takes⟩
  · cases action with
    | keep => exact .inl trivial
    | newline => exact .inl trivial
    | emit tokens count next =>
      rcases action_progress done with positive | ⟨rfl, other⟩
      · exact .inl positive
      · cases count with
        | zero => exact .inr ⟨other, tokens, rfl⟩
        | succ => exact .inl (Nat.succ_pos _)
  · exact .inl takes

/-! ## Handing on -/

theorem advances_of_takes {action : Action} (rest : m.reader.rest = c :: tail) (takes : Takes action)
    (done : m.step c tail = .ok (tokens, ⟨m.reader.moved c tail action, none⟩)) : m.Advances :=
  .inr ⟨_, _, ⟨c, tail, rest, done⟩, moved_advances rest takes⟩

/-- An operator that has been found is taken. -/
theorem advances_of_operator {operator : Kind × Nat} (rest : m.reader.rest = c :: tail)
    (found : m.operator = some operator) : m.Advances := by
  have done : m.step c tail = .ok (takeOperator m.reader c tail operator.1 operator.2) := by
    rw [step, found]
  exact .inr ⟨_, _, ⟨c, tail, rest, done⟩, moved_advances rest (Nat.succ_pos _)⟩

/-- Who gets a character between tokens moves the head on. -/
theorem advances_of_handOver (rest : r.rest = c :: tail) (handed : r.handOver? c tail = some next) :
    next.Advances := by
  obtain ⟨sameRest, sameHead, action, takes, _, done⟩ := (handsOver_of_handOver? handed).takes
  have further := moved_advances (r := r.handed .start) rest takes
  refine .inr ⟨_, _, ⟨c, tail, sameRest.trans rest, done⟩, ?_, ?_⟩
  · rw [sameHead]
    exact further.1
  · rw [sameRest]
    exact further.2

/-- Between tokens a character is taken, or no token begins with it, or who gets it takes it. -/
theorem start_advances (rest : m.reader.rest = c :: tail) (alone : m.operator = none)
    (state : m.reader.state = .start) : m.Advances ∨ ∃ next, m.Hands next ∧ next.Advances := by
  cases handed : m.reader.handOver? c tail with
  | some next =>
    obtain ⟨sameRest, sameHead, _⟩ := (handsOver_of_handOver? handed).takes
    have done := step_of_handOver alone state handed
    exact .inr ⟨next, ⟨[], ⟨c, tail, rest, done⟩, sameHead, sameRest⟩, advances_of_handOver rest handed⟩
  | none =>
    cases acted : m.reader.relayedAction c tail with
    | error problem => exact .inl (.inl ⟨c, tail, _, rest, step_of_relayedError alone (fun _ => handed) acted⟩)
    | ok action =>
      have done := step_of_relayedAction alone (fun _ => handed) acted
      rcases takes_or_hands_back acted with takes | ⟨other, _⟩
      · exact .inl (advances_of_takes rest takes done)
      · contradiction

/-- A step moves the head on or fails, unless the character is handed on; and then it is taken by the next
    state or by the one behind that, if no error comes first. -/
theorem advances_or_hands (rest : m.reader.rest = c :: tail) : m.Advances ∨
    ∃ next, m.Hands next ∧ (next.Advances ∨ ∃ last, next.Hands last ∧ last.Advances) := by
  cases alone : m.operator with
  | some operator => exact .inl (advances_of_operator rest alone)
  | none =>
    by_cases state : m.reader.state = .start
    · rcases start_advances rest alone state with advances | ⟨next, hands, advances⟩
      · exact .inl advances
      · exact .inr ⟨next, hands, .inl advances⟩
    · have keeps : m.reader.state = .start → m.reader.handOver? c tail = none := fun here => absurd here state
      cases acted : m.reader.relayedAction c tail with
      | error problem => exact .inl (.inl ⟨c, tail, _, rest, step_of_relayedError alone keeps acted⟩)
      | ok action =>
        have done := step_of_relayedAction alone keeps acted
        rcases takes_or_hands_back acted with takes | ⟨_, tokens, rfl⟩
        · exact .inl (advances_of_takes rest takes done)
        · have sameRest : (c :: tail).drop 0 = m.reader.rest := rest.symm
          exact .inr ⟨_, ⟨tokens, ⟨c, tail, rest, done⟩, rfl, sameRest⟩, start_advances rfl rfl rfl⟩

/-- A step has one outcome. -/
theorem Steps.unique {later : List Token} {last : Relay} (steps : m.Steps tokens next)
    (again : m.Steps later last) : tokens = later ∧ next = last := by
  obtain ⟨c, tail, rest, done⟩ := steps
  obtain ⟨d, front, here, other⟩ := again
  obtain ⟨rfl, rfl⟩ := List.cons.inj (rest.symm.trans here)
  exact Prod.mk.inj (Except.ok.inj (done.symm.trans other))

theorem not_advances_of_hands (hands : m.Hands next) : ¬ m.Advances := by
  obtain ⟨tokens, ⟨c, tail, rest, done⟩, sameHead, _⟩ := hands
  rintro (⟨d, front, error, here, failed⟩ | ⟨later, other, steps, further, _⟩)
  · obtain ⟨rfl, rfl⟩ := List.cons.inj (rest.symm.trans here)
    rw [done] at failed
    contradiction
  · obtain ⟨_, rfl⟩ := steps.unique ⟨c, tail, rest, done⟩
    omega

theorem advances_of_hands (hands : m.Hands next) :
    next.Advances ∨ ∃ last, next.Hands last ∧ last.Advances := by
  obtain ⟨tokens, steps, _⟩ := id hands
  obtain ⟨c, tail, rest, _⟩ := id steps
  rcases advances_or_hands rest with advances | ⟨other, ⟨_, again, _⟩, later⟩
  · exact absurd advances (not_advances_of_hands hands)
  · obtain ⟨_, rfl⟩ := steps.unique again
    exact later

open Classical in
/-- What every step of a relay lowers: three for each character, less how often the one at the head has been
    handed on. -/
noncomputable def remaining (m : Relay) : Nat :=
  3 * m.reader.rest.length + if m.Advances then 0 else if ∃ next, m.Hands next ∧ next.Advances then 1 else 2

theorem remaining_lt (steps : m.Steps tokens next) : next.remaining < m.remaining := by
  obtain ⟨c, tail, rest, done⟩ := id steps
  rcases advances_or_hands rest with advances | ⟨other, hands, later⟩
  · rcases advances with ⟨d, front, error, here, failed⟩ | ⟨_, _, again, _, shorter⟩
    · obtain ⟨rfl, rfl⟩ := List.cons.inj (rest.symm.trans here)
      rw [done] at failed
      contradiction
    · obtain ⟨_, rfl⟩ := steps.unique again
      unfold remaining
      split_ifs <;> omega
  · have waits := not_advances_of_hands hands
    obtain ⟨_, again, _, sameRest⟩ := id hands
    obtain ⟨_, rfl⟩ := steps.unique again
    have same : next.reader.rest.length = m.reader.rest.length := congrArg List.length sameRest
    rcases later with advances | ⟨last, further, advances⟩
    · rw [remaining, remaining, if_pos advances, if_neg waits, same]
      split_ifs <;> omega
    · have stays := not_advances_of_hands further
      have twice : ¬ ∃ next, m.Hands next ∧ next.Advances := by
        rintro ⟨after, ⟨_, also, _⟩, taken⟩
        obtain ⟨_, rfl⟩ := steps.unique also
        exact stays taken
      rw [remaining, remaining, if_neg waits, if_neg twice, if_neg stays, if_pos ⟨last, further, advances⟩, same]
      omega

/-! ## What a reader does -/

variable {source : List Char} {error : LexError}

/-- In the middle of a source a word or a number has begun, so nothing is done otherwise. -/
theorem relayedAction_eq (standing : Standing source r) : r.relayedAction c tail = r.action c tail := by
  unfold relayedAction
  rw [Reader.action]
  cases state : r.state <;> dsimp only
  case unquotedLiteral =>
    obtain ⟨begun, _⟩ := standing.suits_of state
    simp [begun]
  case number =>
    obtain ⟨begun, _⟩ := standing.suits_of state
    simp [begun]

/-- What makes a reader fail makes a relay fail. -/
theorem step_of_error (standing : Standing source r) (failed : r.step c tail = .error error) :
    step ⟨r, none⟩ c tail = .error error := by
  unfold Reader.step at failed
  split at failed
  · simp at failed
  rename_i problem acted
  have alone : r.state = .start → r.handOver? c tail = none := by
    intro state
    cases handed : r.handOver? c tail with
    | none => rfl
    | some next =>
      obtain ⟨_, _, action, _, taken, _⟩ := (handsOver_of_handOver? handed).takes
      rw [Reader.action, state] at acted
      rw [taken] at acted
      contradiction
  rw [← Except.error.inj failed]
  exact step_of_relayedError rfl alone ((relayedAction_eq standing).trans acted)

/-- A step of a reader is one of a relay, or two between tokens. -/
theorem steps_of_step {after : Reader} (standing : Standing source r) (rest : r.rest = c :: tail)
    (done : r.step c tail = .ok (tokens, after)) :
    Steps ⟨r, none⟩ tokens ⟨after, none⟩ ∨
      r.state = .start ∧ ∃ middle, Steps ⟨r, none⟩ [] middle ∧ middle.Steps tokens ⟨after, none⟩ := by
  unfold Reader.step at done
  split at done
  · rename_i action acted
    obtain ⟨rfl, rfl⟩ := Prod.mk.inj (Except.ok.inj done)
    by_cases direct : r.state = .start → r.handOver? c tail = none
    · exact .inl ⟨c, tail, rest,
        step_of_relayedAction rfl direct ((relayedAction_eq standing).trans acted)⟩
    · simp only [Classical.not_imp] at direct
      obtain ⟨state, unread⟩ := direct
      obtain ⟨middle, handed⟩ := Option.ne_none_iff_exists'.1 unread
      obtain ⟨sameRest, _, other, _, taken, moved⟩ := (handsOver_of_handOver? handed).takes
      have first : step ⟨r, none⟩ c tail = .ok ([], middle) := step_of_handOver rfl state handed
      have same : r.handed .start = r := by
        have empty : r.text = [] := standing.suits_of state
        rw [Reader.handed, ← standing.start_eq_head state, ← state, ← empty]
      rw [Reader.action, state] at acted
      obtain rfl := Except.ok.inj (taken.symm.trans acted)
      rw [same] at moved
      exact .inr ⟨state, middle, ⟨c, tail, rest, first⟩, ⟨c, tail, sameRest.trans rest, moved⟩⟩
  · simp at done

end

/-- How many steps a relay can still take: three for a character, of which the one that hands it back
    has been taken between tokens. -/
def bound (r : Reader) : Nat := 3 * r.rest.length - if r.state = .start then 1 else 0

/-- A relay comes to the end that its reader comes to, within the bound. -/
theorem ends_run {source : List Char} {r : Reader} (standing : Standing source r) :
    ∃ count ≤ bound r, Ends ⟨r, none⟩ count r.run.1 r.run.2 := by
  induction size : r.size using Nat.strongRecOn generalizing r with
  | ind measure ih =>
  cases rest : r.rest with
  | nil =>
    rw [run_nil rest]
    exact ⟨0, Nat.zero_le _, .finished rest⟩
  | cons c tail =>
    cases done : r.step c tail with
    | error error =>
      rw [run_error rest done]
      refine ⟨1, ?_, .failed rest (step_of_error standing done)⟩
      simp only [bound, rest, List.length_cons]
      split <;> omega
    | ok outcome =>
      obtain ⟨tokens, next⟩ := outcome
      have smaller := size_step_lt rest done
      have onward : Standing source next := by
        obtain ⟨action, acts, _, rfl⟩ := acts_of_step done
        exact standing_moved standing rest acts
      obtain ⟨count, bounded, ends⟩ := ih next.size (size ▸ smaller) onward rfl
      rw [run_ok rest done]
      simp only [bound, Reader.size, rest, List.length_cons] at bounded smaller ⊢
      rcases steps_of_step standing rest done with one | ⟨state, middle, first, second⟩
      · refine ⟨count + 1, ?_, .step one ends⟩
        grind
      · have two : Ends ⟨r, none⟩ (count + 1 + 1) ([] ++ (tokens ++ next.run.1)) next.run.2 :=
          .step first (.step second ends)
        refine ⟨count + 1 + 1, ?_, two⟩
        grind

/-- Reading comes to an end on every source. Whatever the state and the context, a step moves the head on
    or fails, unless it hands the character on, which is taken or found to be wrong within two more steps;
    and there are fewer steps than three for each character of the source and of the padding behind it.
    They give the tokens and the error that the source has. -/
theorem reading_ends (source : String) :
    (∀ m : Relay, m.reader.rest ≠ [] → m.Advances ∨ ∃ next, m.Hands next) ∧
    (∀ m next : Relay, m.Hands next → next.Advances ∨ ∃ last, next.Hands last ∧ last.Advances) ∧
    ∃ count < 3 * (source.length + padding.length), ∃ tokens error,
      (ofSource source).Ends count tokens error ∧
      (TokenStream.ofSource source).toList = tokens.map .ok ++ error.toList.map .error ∧
      tokenize source = error.elim (.ok tokens) .error := by
  refine ⟨fun m nonempty => ?_, fun m next => advances_of_hands, ?_⟩
  · obtain ⟨c, tail, rest⟩ := List.exists_cons_of_ne_nil nonempty
    exact (advances_or_hands rest).imp_right fun ⟨next, hands, _⟩ => ⟨next, hands⟩
  obtain ⟨count, bounded, ends⟩ := ends_run (standing_ofSource source.toList)
  refine ⟨count, ?_, _, _, ends, ?_, ?_⟩
  · simp only [bound, Reader.ofSource, List.length_append, String.length_toList, length_padding, ↓reduceIte]
      at bounded ⊢
    omega
  · rw [TokenStream.toList_eq_items]
    rfl
  · rw [tokenize, lex]
    cases (Reader.ofSource source.toList).run with
    | mk tokens error => cases error <;> rfl

end Relay
end CommandScript.Lexer
