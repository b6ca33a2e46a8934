import CommandScript.Lexer.Machine
import CommandScript.Proofs.Lexer.Bracket
import CommandScript.Proofs.Lexer.Relay

/-!
A machine stands for a relay (`Machine.relay`), and each of its steps agrees with the relay's
(`agrees_step`). Its cursor puts the tokens of a step into the queue one after the other, and a
step that is going to fail finds out before it puts any there: it leaves the cursor as it was.
-/
namespace CommandScript.Lexer

/-- A token that is no bracket is only remembered. -/
theorem Context.after_of_bracketless (context : Context) {kind : Kind} (other : kind ∉ brackets) :
    context.after kind = { context with prev := some kind } := by
  cases kind <;> first | rfl | exact absurd (by decide) other

/-- Whether a state keeps characters for a token. -/
def Node.keeps : Node → Bool
  | start | operator _ _ | comment => false
  | _ => true

/-- The operator that a state has found. -/
def Node.found? : Node → Option (Kind × Nat)
  | operator kind length => some (kind, length)
  | _ => none

/-- What a state asks of its cursor. -/
def Node.Suits : Node → Cursor → Prop
  | operator _ length, k => k.start = k.head ∧ 0 < length ∧ length ≤ k.rest.length
  | quotedArgList _ quote, _ => ∀ opened ∈ quote, opened = '"' ∨ opened = '\''
  | number _ first, k => first = decide (k.start = k.head)
  | _, _ => True

theorem Node.found?_of_keeps {node : Node} (keeps : node.keeps = true) : node.found? = none := by
  cases node with
  | operator => contradiction
  | _ => rfl

namespace Cursor
variable {k : Cursor} {c : Char} {tail : List Char}

/-- A cursor that has put tokens into its queue. -/
def emitted (k : Cursor) (tokens : List Token) : Cursor :=
  { k with context := k.context.afterAll (tokens.map (·.kind)), queue := k.queue ++ tokens }

theorem emitted_nil (k : Cursor) : k.emitted [] = k := by
  simp [emitted, Context.afterAll]

theorem emitted_append (k : Cursor) (tokens later : List Token) :
    (k.emitted tokens).emitted later = k.emitted (tokens ++ later) := by
  simp [emitted, Context.afterAll_append]

theorem next_eq (rest : k.rest = c :: tail) : k.next = tail.head? := by
  rw [next, rest, List.tail_cons]

theorem printed_eq (rest : k.rest = c :: tail) : k.printed = tail.find? (!Text.isBlank ·) := by
  rw [printed, rest, List.tail_cons]

theorem head_lt (rest : k.rest = c :: tail) : k.head < k.data.length := by
  have nonempty : k.data.drop k.head ≠ [] := by
    rw [← Cursor.rest, rest]
    exact List.cons_ne_nil c tail
  simpa using nonempty

theorem drop_succ (rest : k.rest = c :: tail) : k.data.drop (k.head + 1) = tail := by
  rw [← List.drop_drop, ← Cursor.rest, rest, List.drop_one, List.tail_cons]

/-- Where a cursor stands between its start and the end of its input. -/
def Placed (k : Cursor) : Prop := k.start ≤ k.head ∧ k.head ≤ k.data.length

theorem length_pending (placed : k.Placed) : k.pending.length = k.head - k.start := by
  obtain ⟨start_le, head_le⟩ := placed
  rw [pending, textTo, List.length_take, List.length_drop]
  omega

/-- Nothing is pending where the token starts. -/
theorem isEmpty_pending (placed : k.Placed) : k.pending.isEmpty = decide (k.start = k.head) := by
  have start_le := placed.1
  rw [Bool.eq_iff_iff, List.isEmpty_iff_length_eq_zero, length_pending placed, decide_eq_true_iff]
  omega

/-- The character at the head is the last of the text up to the one behind it. -/
theorem textTo_succ (placed : k.Placed) (rest : k.rest = c :: tail) : k.textTo (k.head + 1) = k.pending ++ [c] := by
  have start_le := placed.1
  have split : k.data.drop k.start = k.pending ++ c :: tail := by
    rw [pending, textTo, ← rest, Cursor.rest]
    have behind : k.data.drop k.head = (k.data.drop k.start).drop (k.head - k.start) := by
      rw [List.drop_drop, Nat.add_sub_cancel' start_le]
    rw [behind, List.take_append_drop]
  have length : k.head + 1 - k.start = k.pending.length + 1 := by
    rw [length_pending placed, Nat.sub_add_comm start_le]
  rw [textTo, length, split, List.take_length_add_append]
  rfl

end Cursor

namespace Reading
variable {k next : Cursor} {kind : Kind} {token : Token} {α β : Type} {first : Reading α} {result : α}

theorem run_get (f : Cursor → Reading β) : (get >>= f).run k = (f k).run k := rfl

/-- What comes behind a step goes on with what the step has left. -/
theorem run_then (f : α → Reading β) (done : first.run k = .ok result next) :
    (first >>= f).run k = (f result).run next := by
  rw [EStateM.run_bind, done]

theorem run_emit (other : token.kind ∉ Context.brackets) : (emit token).run k = .ok () (k.emitted [token]) := by
  have context := k.context.after_of_bracketless other
  show EStateM.Result.ok () _ = _
  rw [Cursor.emitted, List.map_singleton, Context.afterAll, List.foldl_cons, List.foldl_nil, context]

theorem run_emitAll {tokens : List Token} (others : ∀ token ∈ tokens, token.kind ∉ Context.brackets) :
    (emitAll tokens).run k = .ok () (k.emitted tokens) := by
  induction tokens generalizing k with
  | nil =>
    rw [Cursor.emitted_nil]
    rfl
  | cons token tokens ih =>
    obtain ⟨other, others⟩ := List.forall_mem_cons.mp others
    rw [emitAll, run_then _ (run_emit other), ih others, Cursor.emitted_append]
    rfl

theorem run_emitPending (other : kind ∉ Context.brackets) : (emitPending kind).run k =
    .ok () (k.emitted [⟨⟨k.start, k.pending.length⟩, kind, String.ofList k.pending⟩]) :=
  run_emit other

theorem run_emitMark (c : Char) (other : kind ∉ Context.brackets) : (emitMark kind c).run k =
    .ok () (k.emitted [⟨⟨k.head, 1⟩, kind, String.ofList [c]⟩]) :=
  run_emit other

end Reading

namespace Machine
variable {m : Machine} {k : Cursor} {c : Char} {tail : List Char}

/-- Where the text of a machine begins. -/
def begins (m : Machine) : Nat := if m.node.keeps then m.cursor.start else m.cursor.head

/-- The reader that a machine stands for. -/
def reader (m : Machine) : Reader where
  state := m.node.state
  context := m.cursor.context
  start := m.begins
  text := (m.cursor.data.drop m.begins).take (m.cursor.head - m.begins)
  rest := m.cursor.rest

/-- The relay that a machine stands for. -/
def relay (m : Machine) : Relay := ⟨m.reader, m.node.found?⟩

/-- A machine in the middle of a source. -/
structure Fits (m : Machine) : Prop where
  placed : m.node.keeps = true → m.cursor.Placed
  suits : m.node.Suits m.cursor

theorem Fits.head_eq (fits : m.Fits) : m.reader.head = m.cursor.head := by
  unfold Reader.head reader begins
  dsimp only
  by_cases keeps : m.node.keeps = true
  · have start_le := (fits.placed keeps).1
    have length := Cursor.length_pending (fits.placed keeps)
    rw [if_pos keeps]
    rw [Cursor.pending, Cursor.textTo] at length
    omega
  · rw [if_neg keeps]
    simp

theorem fits_start (k : Cursor) : Fits ⟨.start, k⟩ := ⟨fun keeps => absurd keeps Bool.false_ne_true, trivial⟩

theorem fits_comment (k : Cursor) : Fits ⟨.comment, k⟩ := ⟨fun keeps => absurd keeps Bool.false_ne_true, trivial⟩

/-- What a state does with a character follows an action of the reader: the machine behind it stands for the
    reader behind the action, and the tokens of the action have been put into the queue. If the action fails
    nothing has been done yet. -/
def Follows (m : Machine) (c : Char) (tail : List Char) (result : EStateM.Result Problem Cursor Move) :
    Except Problem Action → Prop
  | .ok action => ∃ move cursor, result = .ok move cursor ∧ (move.machine cursor).Fits ∧
      (move.machine cursor).relay = ⟨m.reader.moved c tail action, none⟩ ∧
      (move.machine cursor).cursor.queue = m.cursor.queue ++ m.reader.emitted action
  | .error problem => result = .error problem m.cursor

/-- A character is kept for the token being read. -/
theorem follows_keep (fits : m.Fits) (rest : m.cursor.rest = c :: tail) (keeps : m.node.keeps = true) (next : Node)
    (goes : next.keeps = true) (suits : next.Suits { m.cursor with head := m.cursor.head + 1 }) :
    m.Follows c tail (.ok (.advance next) m.cursor) (.ok (.keep next.state)) := by
  have placed := fits.placed keeps
  refine ⟨_, _, rfl, ⟨fun _ => ⟨Nat.le_succ_of_le placed.1, Cursor.head_lt rest⟩, suits⟩, ?_, ?_⟩
  · have text := Cursor.textTo_succ placed rest
    simp only [relay, reader, begins, Move.machine, Reader.moved, goes, keeps, if_true, Node.found?_of_keeps goes,
      Cursor.rest, Cursor.drop_succ rest]
    rw [Cursor.textTo] at text
    rw [text]
    rfl
  · exact (List.append_nil _).symm

/-- Tokens have been put into the queue, and the next one begins behind the head. -/
theorem follows_emit (fits : m.Fits) (rest : m.cursor.rest = c :: tail) {move : Move} {cursor : Cursor}
    {tokens : List Token} {count : Nat} {next : Machine} (goes : move.machine cursor = next)
    (data : next.cursor.data = m.cursor.data) (head : next.cursor.head = m.cursor.head + count)
    (begins : next.begins = next.cursor.head) (free : next.node.found? = none) (nextFits : next.Fits)
    (context : next.cursor.context = m.cursor.context.afterAll (tokens.map (·.kind)))
    (queue : next.cursor.queue = m.cursor.queue ++ tokens) :
    m.Follows c tail (.ok move cursor) (.ok (.emit tokens count next.node.state)) := by
  subst goes
  refine ⟨_, _, rfl, nextFits, ?_, queue⟩
  have behind : (move.machine cursor).cursor.rest = (c :: tail).drop count := by
    rw [Cursor.rest, data, head, ← List.drop_drop, ← Cursor.rest, rest]
  rw [relay, free, reader, Reader.moved, begins, behind, context, fits.head_eq, ← head, Nat.sub_self, List.take_zero]
  rfl

/-- The character at the head ends a token, and is handed back. -/
theorem follows_handBack (fits : m.Fits) (rest : m.cursor.rest = c :: tail) (tokens : List Token) :
    m.Follows c tail (.ok (.reread .start) (m.cursor.emitted tokens)) (.ok (.emit tokens 0 .start)) :=
  follows_emit fits rest rfl rfl rfl rfl rfl (fits_start _) rfl rfl

/-- The character at the head is taken, and no token begins behind it. -/
theorem follows_take (fits : m.Fits) (rest : m.cursor.rest = c :: tail) (tokens : List Token) {next : Node}
    (leaves : next = .start ∨ next = .comment) :
    m.Follows c tail (.ok (.advance next) (m.cursor.emitted tokens)) (.ok (.emit tokens 1 next.state)) := by
  rcases leaves with rfl | rfl
  · exact follows_emit fits rest rfl rfl rfl rfl rfl (fits_start _) rfl rfl
  · exact follows_emit fits rest rfl rfl rfl rfl rfl (fits_comment _) rfl rfl

/-- The character at the head is taken, and the next token begins behind it. -/
theorem follows_begin (fits : m.Fits) (rest : m.cursor.rest = c :: tail) (tokens : List Token) (next : Node)
    (goes : next.keeps = true)
    (suits : next.Suits { m.cursor with head := m.cursor.head + 1, start := m.cursor.head + 1 }) :
    m.Follows c tail (.ok (.advance next) { m.cursor.emitted tokens with start := m.cursor.head + 1 })
      (.ok (.emit tokens 1 next.state)) := by
  refine follows_emit fits rest rfl rfl rfl (if_pos goes) (Node.found?_of_keeps goes) ⟨fun _ => ?_, ?_⟩ rfl rfl
  · exact ⟨Nat.le_refl _, Cursor.head_lt rest⟩
  · cases next with
    | operator => contradiction
    | _ => exact suits

/-- A line feed is taken outside of any token. -/
theorem follows_newline (fits : m.Fits) (rest : m.cursor.rest = c :: tail) :
    m.Follows c tail ((Reading.newline >>= fun _ => pure (.advance .start)).run m.cursor) (.ok .newline) := by
  refine ⟨_, _, rfl, fits_start _, ?_, ?_⟩
  · rw [Reader.moved, fits.head_eq]
    simp [relay, reader, begins, Move.machine, Cursor.rest, Cursor.drop_succ rest, Node.keeps, Node.found?, Node.state]
  · rw [Reader.emitted, fits.head_eq]
    show ite _ _ _ = _
    split_ifs <;> simp_all [reader]

/-! ## One lemma for each state -/

theorem mark_eq (fits : m.Fits) (kind : Kind) (c : Char) :
    m.reader.mark kind c = ⟨⟨m.cursor.head, 1⟩, kind, String.ofList [c]⟩ := by
  rw [Reader.mark, fits.head_eq]

theorem follows_comment (fits : Fits ⟨.comment, k⟩) (rest : k.rest = c :: tail) :
    Follows ⟨.comment, k⟩ c tail ((Reading.comment c).run k) ((reader ⟨.comment, k⟩).relayedAction c tail) := by
  show Follows _ c tail _ (.ok (if c = '\n' then .newline else .emit [] 1 .comment))
  rw [Reading.comment]
  split_ifs with feed
  · exact follows_newline fits rest
  · have taken := follows_take fits rest [] (.inr rfl)
    rwa [Cursor.emitted_nil] at taken

theorem follows_identifier (fits : Fits ⟨.identifier, k⟩) (rest : k.rest = c :: tail) :
    Follows ⟨.identifier, k⟩ c tail ((Reading.identifier c).run k)
      ((reader ⟨.identifier, k⟩).relayedAction c tail) := by
  have placed : k.Placed := fits.placed rfl
  have empty : (reader ⟨.identifier, k⟩).text.isEmpty = decide (k.start = k.head) := Cursor.isEmpty_pending placed
  show Follows _ c tail _ (Reader.identifierAction _ c tail)
  rw [Reading.identifier, Reading.run_get, Reader.identifierAction, empty, Cursor.next_eq rest, mark_eq fits]
  simp only [decide_eq_true_eq]
  split_ifs
  · rfl
  · rw [Reading.run_then _ (Reading.run_emitPending (by decide)),
      Reading.run_then _ (Reading.run_emitMark _ (by decide)), Cursor.emitted_append]
    exact follows_begin fits rest _ .identifier rfl trivial
  · rfl
  · rw [Reading.run_then _ (Reading.run_emitPending (by decide))]
    exact follows_handBack fits rest _
  · rfl
  · exact follows_keep fits rest rfl .identifier rfl trivial

theorem follows_quotedLiteral {quote : Char} {escaped : Bool} (fits : Fits ⟨.quotedLiteral quote escaped, k⟩)
    (rest : k.rest = c :: tail) :
    Follows ⟨.quotedLiteral quote escaped, k⟩ c tail ((Reading.quotedLiteral quote escaped c).run k)
      ((reader ⟨.quotedLiteral quote escaped, k⟩).relayedAction c tail) := by
  show Follows _ c tail _ (.ok (Reader.quotedLiteralAction _ quote escaped c))
  rw [Reading.quotedLiteral, Reading.run_get, Reader.quotedLiteralAction]
  by_cases escapes : (escaped || c = '\\') = true
  · rw [if_pos escapes, if_pos escapes]
    exact follows_keep fits rest rfl (.quotedLiteral quote !escaped) rfl trivial
  rw [if_neg escapes, if_neg escapes]
  by_cases closes : c = quote
  · rw [if_pos closes, if_pos closes, Reading.run_then _ (Reading.run_emitPending ?_)]
    · exact follows_take fits rest _ (.inl rfl)
    · split_ifs <;> decide
  · rw [if_neg closes, if_neg closes]
    obtain rfl : escaped = false := by simp_all
    exact follows_keep fits rest rfl (.quotedLiteral quote false) rfl trivial

theorem run_flushArgument {escaped : Bool} {quote : Option Char} (placed : k.Placed) :
    Reading.flushArgument.run k = .ok () (k.emitted (reader ⟨.quotedArgList escaped quote, k⟩).argument) := by
  have empty : (reader ⟨.quotedArgList escaped quote, k⟩).text.isEmpty = decide (k.start = k.head) :=
    Cursor.isEmpty_pending placed
  rw [Reading.flushArgument, Reading.run_get, Reader.argument, empty]
  by_cases same : k.start = k.head
  · rw [if_neg (not_not_intro same.symm), if_pos (decide_eq_true same), Cursor.emitted_nil]
    rfl
  · have other : k.head ≠ k.start := fun head => same head.symm
    rw [if_pos other, if_neg (by simpa using same)]
    exact Reading.run_emitPending (by decide)

theorem follows_quotedArgList {escaped : Bool} {quote : Option Char} (fits : Fits ⟨.quotedArgList escaped quote, k⟩)
    (rest : k.rest = c :: tail) :
    Follows ⟨.quotedArgList escaped quote, k⟩ c tail ((Reading.quotedArgList escaped quote c).run k)
      ((reader ⟨.quotedArgList escaped quote, k⟩).relayedAction c tail) := by
  have placed : k.Placed := fits.placed rfl
  have quotes : ∀ opened ∈ quote, opened = '"' ∨ opened = '\'' := fits.suits
  show Follows _ c tail _ (.ok (Reader.quotedArgListAction _ escaped quote c))
  unfold Reading.quotedArgList Reader.quotedArgListAction
  rw [Reading.run_get, mark_eq fits]
  by_cases escapes : (escaped || c = '\\') = true
  · rw [if_pos escapes, if_pos escapes]
    exact follows_keep fits rest rfl (.quotedArgList (!escaped) quote) rfl quotes
  rw [if_neg escapes, if_neg escapes]
  cases quote with
  | some opened =>
    have quoted : opened = '"' ∨ opened = '\'' := quotes opened rfl
    dsimp only
    by_cases closes : c = opened
    · subst closes
      rw [if_pos (by simpa using quoted), if_pos rfl, if_pos rfl,
        Reading.run_then _ (Reading.run_emitPending (by decide))]
      exact follows_begin fits rest _ (.quotedArgList false none) rfl nofun
    · have inside := follows_keep fits rest rfl (.quotedArgList false (some opened)) rfl quotes
      have quoting : (some opened).isSome = true := rfl
      rw [if_neg closes, if_neg closes, if_pos quoting]
      split_ifs
      · exact inside
      · exact inside
  | none =>
    have free : (none : Option Char).isSome ≠ true := nofun
    dsimp only
    rw [if_neg free]
    split_ifs with opens bar closes blank
    · have begun := follows_begin fits rest [] (.quotedArgList false (some c)) rfl (by simpa [Node.Suits] using opens)
      rwa [Cursor.emitted_nil] at begun
    · rw [Reading.run_then _ (run_flushArgument placed), Reading.run_then _ (Reading.run_emitMark _ (by decide)),
        Cursor.emitted_append]
      exact follows_begin fits rest _ (.quotedArgList false none) rfl nofun
    · rw [Reading.run_then _ (run_flushArgument placed)]
      exact follows_take fits rest _ (.inl rfl)
    · rw [Reading.run_then _ (run_flushArgument placed)]
      exact follows_begin fits rest _ (.quotedArgList false none) rfl nofun
    · exact follows_keep fits rest rfl (.quotedArgList false none) rfl nofun

/-- Whether a dot comes next that cuts a word. -/
def cuts (context : Context) (word : List Char) (c : Char) (tail : List Char) : Bool :=
  !(Text.isBlank c && c != '\n') && Reader.ahead c tail == '.' &&
    !(Reader.ahead c tail == '.' && tail.head? == some '.') &&
    (wordKind context word == .name || wordKind context word == .implicitLambdaParam)

/-- A dot that is a word of its own cuts the word that has nothing before it. -/
theorem cuts_nil (context : Context) (c : Char) (tail : List Char) :
    cuts context [] c tail = (c == '.' && tail.head? != some '.' && wordKind context [] == .name) := by
  rw [cuts, beq_eq_false_iff_ne.mpr (Relay.wordKind_nil_ne context), Bool.or_false, Reader.ahead]
  cases spaced : Text.isBlank c && c != '\n' with
  | true =>
    have other : c ≠ '.' := by
      rintro rfl
      exact absurd spaced (by decide)
    simp [other]
  | false =>
    by_cases point : c = '.'
    · simp [point, bne]
    · have other : (c == '.') = false := beq_eq_false_iff_ne.mpr point
      simp [other]

theorem follows_unquotedLiteral (fits : Fits ⟨.unquotedLiteral, k⟩) (rest : k.rest = c :: tail) :
    Follows ⟨.unquotedLiteral, k⟩ c tail ((Reading.unquotedLiteral c).run k)
      ((reader ⟨.unquotedLiteral, k⟩).relayedAction c tail) := by
  have other : wordKind k.context k.pending ∉ Context.brackets := wordKind_bracketless _ _
  have text : (reader ⟨.unquotedLiteral, k⟩).text = k.pending := rfl
  have context : (reader ⟨.unquotedLiteral, k⟩).context = k.context := rfl
  have facing : (if (Text.isBlank c && c != '\n') = true then (tail.find? (!Text.isBlank ·)).getD c else c) =
      Reader.ahead c tail := rfl
  have cut : (!(Text.isBlank c && c != '\n') && Reader.ahead c tail == '.' &&
      !(Reader.ahead c tail == '.' && tail.head? == some '.') && (wordKind k.context k.pending == .name ||
      wordKind k.context k.pending == .implicitLambdaParam)) = cuts k.context k.pending c tail := rfl
  unfold Reading.unquotedLiteral Reader.relayedAction Reader.unquotedLiteralAction
  rw [Reading.run_get, mark_eq fits, Cursor.next_eq rest, Cursor.printed_eq rest, text, context]
  show Follows _ c tail _ (if _ then _ else _)
  dsimp only
  -- the relay looks for a lone dot first, the machine for any dot that cuts a word, a lone one among them
  rw [facing, cut, Bool.and_assoc, Bool.and_assoc, ← Bool.and_assoc (c == '.'), ← cuts_nil]
  have alone : (k.pending.isEmpty && cuts k.context [] c tail) =
      (k.pending.isEmpty && cuts k.context k.pending c tail) := by
    cases k.pending <;> rfl
  rw [alone]
  by_cases dot : cuts k.context k.pending c tail = true
  · rw [if_pos dot, if_pos dot, dot, Bool.and_true]
    split_ifs
    · rw [Reading.run_then _ (Reading.run_emitMark _ (by decide))]
      exact follows_take fits rest _ (.inl rfl)
    · rw [Reading.run_then _ (Reading.run_emitPending other),
        Reading.run_then _ (Reading.run_emitMark _ (by decide)), Cursor.emitted_append]
      exact follows_take fits rest _ (.inl rfl)
  · have uncut : ¬ (k.pending.isEmpty && cuts k.context k.pending c tail) = true :=
      fun both => dot (Bool.and_eq_true_iff.mp both).2
    rw [if_neg dot, if_neg dot, if_neg uncut]
    split_ifs
    · rw [Reading.run_then _ (Reading.run_emitPending other)]
      exact follows_handBack fits rest _
    · rw [Reading.run_then _ (Reading.run_emitAll fun token member => (mem_pathTokens token member).1)]
      exact follows_handBack fits rest _
    · rw [Reading.run_then _ (Reading.run_emitPending other)]
      exact follows_handBack fits rest _
    · rfl
    · exact follows_keep fits rest rfl .unquotedLiteral rfl trivial

theorem follows_number {hasPoint first : Bool} (fits : Fits ⟨.number hasPoint first, k⟩) (rest : k.rest = c :: tail) :
    Follows ⟨.number hasPoint first, k⟩ c tail ((Reading.number hasPoint first c).run k)
      ((reader ⟨.number hasPoint first, k⟩).relayedAction c tail) := by
  have placed : k.Placed := fits.placed rfl
  -- the machine remembers whether it has kept anything, the relay looks at what it has kept
  have begun : first = k.pending.isEmpty := fits.suits.trans (Cursor.isEmpty_pending placed).symm
  have keeping (point : Bool) : Follows ⟨.number hasPoint first, k⟩ c tail
      (.ok (.advance (.number point false)) k) (.ok (.keep (.number point))) := by
    refine follows_keep fits rest rfl (.number point false) rfl ?_
    have start_le := placed.1
    simp only [Node.Suits, false_eq_decide_iff]
    omega
  have context : (reader ⟨.number hasPoint first, k⟩).context = k.context := rfl
  show Follows _ c tail _ (if k.pending.isEmpty && c == '-' then .ok (.keep (.number hasPoint))
    else Reader.numberAction _ hasPoint c tail)
  unfold Reading.number Reader.numberAction
  rw [Reading.run_get, Cursor.next_eq rest, rest, ← begun, context]
  dsimp only
  by_cases sign : (first && c == '-') = true
  · have minus : c = '-' := by simp_all
    rw [if_pos sign, if_neg (by simp [minus]), if_pos (by simp [sign])]
    exact keeping hasPoint
  rw [if_neg sign, Bool.eq_false_iff.mpr sign, Bool.or_false]
  have plain : Reader.numberKind k.context hasPoint ∉ Context.brackets := Reader.numberKind_bracketless _ _
  by_cases point : c = '.'
  · rw [if_pos point, if_pos point]
    by_cases double : tail.head? = some '.'
    · rw [if_pos double, if_pos double, Reading.run_then _ (Reading.run_emitPending plain)]
      exact follows_handBack fits rest _
    · rw [if_neg double, if_neg double]
      cases hasPoint with
      | true => rfl
      | false => exact keeping true
  rw [if_neg point, if_neg point]
  by_cases digit : c.isDigit = true
  · rw [if_pos digit, if_pos digit]
    exact keeping hasPoint
  rw [if_neg digit, if_neg digit]
  by_cases letter : (Reader.numberKind k.context hasPoint != .execArg && Text.isAlphabetic c) = true
  · rw [if_pos letter, if_pos letter]
    generalize Text.lowerCase (String.ofList ((c :: tail).takeWhile Text.isAlphabetic)) = unit
    cases Quantity.ofUnit? unit with
    | none => rfl
    | some quantity =>
      have length : k.pending.length + unit.length = k.head + unit.length - k.start := by
        rw [Cursor.length_pending placed, Nat.sub_add_comm placed.1]
      have measured : (reader ⟨.number hasPoint first, k⟩).measured hasPoint unit =
          ⟨⟨k.start, k.head + unit.length - k.start⟩, if hasPoint then .unitFloat else .unitInteger,
            String.ofList k.pending ++ ":" ++ unit⟩ := by
        rw [← length]
        rfl
      dsimp only
      rw [measured, Reading.run_then _ (Reading.run_emit ?_)]
      · exact follows_emit fits rest rfl rfl rfl rfl rfl (fits_start _) rfl rfl
      · show (if hasPoint then Kind.unitFloat else .unitInteger) ∉ Context.brackets
        cases hasPoint <;> decide
  · rw [if_neg letter, if_neg letter, Reading.run_then _ (Reading.run_emitPending plain)]
    exact follows_handBack fits rest _

/-- Between tokens a character that is not handed on is taken. -/
theorem follows_start (fits : Fits ⟨.start, k⟩) (rest : k.rest = c :: tail)
    (alone : (reader ⟨.start, k⟩).handOver? c tail = none) :
    Follows ⟨.start, k⟩ c tail ((Reading.start c).run k) ((reader ⟨.start, k⟩).relayedAction c tail) := by
  have context : (reader ⟨.start, k⟩).context = k.context := rfl
  have begun (next : Node) (goes : next.keeps = true)
      (suits : next.Suits { k with head := k.head + 1, start := k.head + 1 }) : Follows ⟨.start, k⟩ c tail
      (.ok (.advance next) { k with start := k.head + 1 }) (.ok (.emit [] 1 next.state)) := by
    have begins := follows_begin fits rest [] next goes suits
    rwa [Cursor.emitted_nil] at begins
  show Follows _ c tail _ (Reader.startAction _ c tail)
  unfold Reading.start Reader.startAction
  rw [Reading.run_get, rest, context, Cursor.next_eq rest]
  by_cases feed : c = '\n'
  · rw [if_pos feed, if_pos feed]
    exact follows_newline fits rest
  rw [if_neg feed, if_neg feed]
  by_cases blank : Text.isBlank c = true
  · rw [if_pos blank, if_pos blank]
    have takes := follows_take fits rest [] (.inl rfl)
    rwa [Cursor.emitted_nil] at takes
  rw [if_neg blank, if_neg blank]
  unfold Reader.handOver? at alone
  rw [if_neg blank, context] at alone
  cases found : Reader.operator? k.context (c :: tail) with
  | some operator => simp [found] at alone
  | none =>
    rw [found] at alone
    dsimp only at alone ⊢
    split_ifs at alone with number word
    have dotless : (decide (c = '.') && wordKind k.context [] == .name) ≠ true := by
      rintro dot
      obtain rfl : c = '.' := by simp_all
      exact word (by decide)
    rw [if_neg number, if_neg number, if_neg dotless, if_neg word, if_neg word, Reading.opening?]
    split_ifs with first
    · exact follows_emit fits rest rfl rfl rfl rfl rfl (fits_comment _) rfl (List.append_nil _).symm
    · exact begun .identifier rfl trivial
    · exact begun (.quotedLiteral c false) rfl trivial
    · exact begun (.quotedArgList false none) rfl nofun
    · rfl

/-- Between tokens a character is handed on with the head where it is. -/
theorem hands_start (fits : Fits ⟨.start, k⟩) (rest : k.rest = c :: tail) {next : Relay}
    (handed : (reader ⟨.start, k⟩).handOver? c tail = some next) :
    ∃ node, (Reading.start c).run k = .ok (.reread node) { k with start := k.head } ∧
      Fits ⟨node, { k with start := k.head }⟩ ∧ relay ⟨node, { k with start := k.head }⟩ = next := by
  have placed : Cursor.Placed { k with start := k.head } := ⟨Nat.le_refl _, Nat.le_of_lt (Cursor.head_lt rest)⟩
  have kept (state : State) : (reader ⟨.start, k⟩).handed state =
      ⟨state, k.context, k.head, [], k.rest⟩ := by
    rw [Reader.handed, fits.head_eq]
    rfl
  have stands {node : Node} (keeps : node.keeps = true) :
      relay ⟨node, { k with start := k.head }⟩ = ⟨⟨node.state, k.context, k.head, [], k.rest⟩, none⟩ := by
    simp [relay, reader, begins, keeps, Node.found?_of_keeps keeps, Cursor.rest]
  unfold Reading.start
  rw [Reading.run_get, rest, Cursor.next_eq rest]
  cases Relay.handsOver_of_handOver? handed with
  | @operator kind length printed found =>
    have operator : Reader.operator? k.context (c :: tail) = some (kind, length) := found
    obtain ⟨_, _, _, within⟩ := Reader.operator?_eq_some operator
    rw [if_neg (Reader.ne_feed printed), printed, if_neg Bool.false_ne_true, operator, kept]
    have positive : 0 < length := Reader.operator?_pos found
    refine ⟨.operator kind length, rfl, ⟨fun keeps => absurd keeps Bool.false_ne_true, rfl, positive, ?_⟩, ?_⟩
    · show length ≤ k.rest.length
      rw [rest]
      exact within
    · simp [relay, reader, begins, Node.keeps, Node.found?, Node.state, Cursor.rest]
  | number printed unread first =>
    have unread : Reader.operator? k.context (c :: tail) = none := unread
    rw [if_neg (Reader.ne_feed printed), printed, if_neg Bool.false_ne_true, unread, kept]
    dsimp only
    rw [if_pos first]
    exact ⟨.number false true, rfl, ⟨fun _ => placed, by simp [Node.Suits]⟩, stands rfl⟩
  | word printed unread numberless first =>
    have unread : Reader.operator? k.context (c :: tail) = none := unread
    rw [if_neg (Reader.ne_feed printed), printed, if_neg Bool.false_ne_true, unread, kept]
    dsimp only
    rw [numberless, if_neg Bool.false_ne_true, if_pos (by simpa using first)]
    exact ⟨.unquotedLiteral, rfl, ⟨fun _ => placed, trivial⟩, stands rfl⟩

/-- An operator that has been found is taken. -/
theorem follows_operator {kind : Kind} {length : Nat} (fits : Fits ⟨.operator kind length, k⟩)
    (rest : k.rest = c :: tail) :
    Follows ⟨.operator kind length, k⟩ c tail ((Reading.operator kind length).run k)
      (.ok (.emit [⟨⟨k.head, length⟩, kind, String.ofList ((c :: tail).take length)⟩] (length - 1 + 1) .start)) := by
  obtain ⟨start, positive, within⟩ : k.start = k.head ∧ 0 < length ∧ length ≤ k.rest.length := fits.suits
  have text : (k.data.drop k.start).take (k.head + (length - 1) + 1 - k.start) = (c :: tail).take length := by
    have count : k.head + (length - 1) + 1 - k.start = length := by omega
    rw [count, start, ← Cursor.rest, rest]
  have taken : ((c :: tail).take length).length = length := by
    rw [List.length_take, ← rest, Nat.min_eq_left within]
  have context : { { k.context.after kind with prev := k.context.prev } with prev := some kind } =
      k.context.after kind := by
    cases kind <;> rfl
  have run (word : List Char) (spells : (k.data.drop k.start).take (k.head + (length - 1) + 1 - k.start) = word) :
      (Reading.operator kind length).run k = .ok (.advance .start)
        { data := k.data
          head := k.head + (length - 1)
          start := k.start
          context := { { k.context.after kind with prev := k.context.prev } with prev := some kind }
          queue := k.queue ++ [⟨⟨k.start, word.length⟩, kind, String.ofList word⟩] } := by
    subst spells
    rfl
  rw [run _ text, context, taken, start]
  exact follows_emit fits rest rfl rfl (Nat.add_assoc ..) rfl rfl (fits_start _) rfl rfl

/-! ## One step -/

/-- A step of a machine agrees with one of a relay: it ends with a machine that stands for the next relay, and
    has put the same tokens into the queue; or it fails with the same error, and has put nothing there. -/
def Agrees (m : Machine) (result : EStateM.Result LexError Machine Unit) :
    Except LexError (List Token × Relay) → Prop
  | .ok (tokens, next) => ∃ behind, result = .ok () behind ∧ behind.Fits ∧ behind.relay = next ∧
      behind.cursor.queue = m.cursor.queue ++ tokens
  | .error error => ∃ behind, result = .error error behind ∧ behind.cursor = m.cursor

theorem step_of_consumed {move : Move} {cursor : Cursor} (rest : m.cursor.rest = c :: tail)
    (done : (m.node.consume c).run m.cursor = .ok move cursor) : m.step = .ok () (move.machine cursor) := by
  simp only [step, rest, done]

theorem step_of_refused {problem : Problem} {cursor : Cursor} (rest : m.cursor.rest = c :: tail)
    (failed : (m.node.consume c).run m.cursor = .error problem cursor) :
    m.step = .error ⟨problem, cursor.head, cursor.rest.head?, m.node.state⟩ ⟨.start, cursor⟩ := by
  simp only [step, rest, failed]

/-- A machine that follows the action of its reader agrees with its relay. -/
theorem agrees_of_follows (fits : m.Fits) (rest : m.cursor.rest = c :: tail) (free : m.node.found? = none)
    (keeps : m.reader.state = .start → m.reader.handOver? c tail = none)
    (follows : m.Follows c tail ((m.node.consume c).run m.cursor) (m.reader.relayedAction c tail)) :
    m.Agrees m.step (m.relay.step c tail) := by
  cases acted : m.reader.relayedAction c tail with
  | ok action =>
    rw [acted] at follows
    obtain ⟨move, cursor, done, nextFits, stands, queue⟩ := follows
    have stepped : m.relay.step c tail = .ok (m.reader.emitted action, ⟨m.reader.moved c tail action, none⟩) :=
      Relay.step_of_relayedAction free keeps acted
    rw [step_of_consumed rest done, stepped]
    exact ⟨_, rfl, nextFits, stands, queue⟩
  | error problem =>
    rw [acted] at follows
    have failed : (m.node.consume c).run m.cursor = .error problem m.cursor := follows
    have stepped : m.relay.step c tail = .error ⟨problem, m.reader.head, some c, m.reader.state⟩ :=
      Relay.step_of_relayedError free keeps acted
    rw [step_of_refused rest failed, stepped, fits.head_eq, rest]
    exact ⟨_, rfl, rfl⟩

/-- Every step of a machine agrees with its relay. -/
theorem agrees_step (fits : m.Fits) (rest : m.cursor.rest = c :: tail) :
    m.Agrees m.step (m.relay.step c tail) := by
  obtain ⟨node, k⟩ := m
  cases node with
  | start =>
    cases handed : (reader ⟨.start, k⟩).handOver? c tail with
    | none => exact agrees_of_follows fits rest rfl (fun _ => handed) (follows_start fits rest handed)
    | some next =>
      obtain ⟨node, done, nextFits, stands⟩ := hands_start fits rest handed
      have stepped : (relay ⟨.start, k⟩).step c tail = .ok ([], next) := Relay.step_of_handOver rfl rfl handed
      have consumed : (Node.start.consume c).run k = .ok (.reread node) { k with start := k.head } := done
      rw [stepped, step_of_consumed rest consumed]
      exact ⟨_, rfl, nextFits, stands, (List.append_nil _).symm⟩
  | operator kind length =>
    obtain ⟨move, cursor, done, nextFits, stands, queue⟩ := follows_operator fits rest
    have consumed : ((Node.operator kind length).consume c).run k = .ok move cursor := done
    have stepped : (relay ⟨.operator kind length, k⟩).step c tail =
        .ok (Relay.takeOperator (reader ⟨.operator kind length, k⟩) c tail kind length) := rfl
    rw [stepped, step_of_consumed rest consumed, Relay.takeOperator, fits.head_eq]
    exact ⟨_, rfl, nextFits, stands, queue⟩
  | comment =>
    exact agrees_of_follows fits rest rfl (fun here => State.noConfusion here) (follows_comment fits rest)
  | identifier =>
    exact agrees_of_follows fits rest rfl (fun here => State.noConfusion here) (follows_identifier fits rest)
  | quotedLiteral =>
    exact agrees_of_follows fits rest rfl (fun here => State.noConfusion here) (follows_quotedLiteral fits rest)
  | quotedArgList =>
    exact agrees_of_follows fits rest rfl (fun here => State.noConfusion here) (follows_quotedArgList fits rest)
  | unquotedLiteral =>
    exact agrees_of_follows fits rest rfl (fun here => State.noConfusion here) (follows_unquotedLiteral fits rest)
  | number =>
    exact agrees_of_follows fits rest rfl (fun here => State.noConfusion here) (follows_number fits rest)

end Machine
end CommandScript.Lexer
