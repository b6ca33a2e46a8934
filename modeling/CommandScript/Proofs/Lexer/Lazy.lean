import CommandScript.Proofs.Lexer.Machine

/-!
Tokens on demand against all of them at once. Stepped to the end, a machine has put every token of
its source into the queue (`Machine.Exhausts`). A session takes the tokens out as they come: it steps
its machine only when the queue is empty, and drops it, with the queue, at the first error and at the
end of the input. It gives out the same tokens (`Session.gives_of_ends`), since the queue is empty
whenever it is dropped: a step that fails has put nothing there.
-/
namespace CommandScript.Lexer

namespace Machine
variable {m last : Machine} {tokens found : List Token} {error other : Option LexError}

/-- Stepped until its input is exhausted or a step fails, a machine has these tokens in its queue, also
    those of the step that failed, and this error. -/
inductive Exhausts : Machine → List Token → Option LexError → Prop
  | ended {m : Machine} (spent : m.cursor.hasInput = false) : Exhausts m m.cursor.queue m.finish
  | failed {m last : Machine} {error : LexError} (input : m.cursor.hasInput = true)
    (failed : m.step = .error error last) : Exhausts m last.cursor.queue (some error)
  | step {m next : Machine} {tokens : List Token} {error : Option LexError} (input : m.cursor.hasInput = true)
    (done : m.step = .ok () next) (later : Exhausts next tokens error) : Exhausts m tokens error

/-- A machine comes to one end. -/
theorem Exhausts.unique (exhausts : m.Exhausts tokens error) (again : m.Exhausts found other) :
    found = tokens ∧ other = error := by
  induction exhausts with
  | ended spent =>
    cases again with
    | ended => exact ⟨rfl, rfl⟩
    | failed input | step input => exact absurd (input.symm.trans spent) (by decide)
  | failed input failed =>
    cases again with
    | ended spent => exact absurd (input.symm.trans spent) (by decide)
    | failed _ also =>
      obtain ⟨rfl, rfl⟩ := EStateM.Result.error.inj (failed.symm.trans also)
      exact ⟨rfl, rfl⟩
    | step _ done =>
      rw [failed] at done
      contradiction
  | step input done _ ih =>
    cases again with
    | ended spent => exact absurd (input.symm.trans spent) (by decide)
    | failed _ failed =>
      rw [done] at failed
      contradiction
    | step _ also later =>
      obtain ⟨_, rfl⟩ := EStateM.Result.ok.inj (done.symm.trans also)
      exact ih later

theorem hasInput_of_rest {c : Char} {tail : List Char} (rest : m.cursor.rest = c :: tail) :
    m.cursor.hasInput = true :=
  decide_eq_true (Cursor.head_lt rest)

theorem hasInput_of_nil (rest : m.cursor.rest = []) : m.cursor.hasInput = false :=
  decide_eq_false (Nat.not_lt.mpr (List.drop_eq_nil_iff.mp rest))

/-- At the end of its input a machine finds what its reader finds. -/
theorem Fits.finish_eq (fits : m.Fits) : m.finish = m.reader.finish := by
  rw [finish, Reader.finish, fits.head_eq]
  rfl

/-- A machine comes to the end that its relay comes to, with the tokens of the relay behind those that it
    had in its queue. -/
theorem exhausts_of_ends {relay : Relay} {count : Nat} (ends : relay.Ends count tokens error) (fits : m.Fits)
    (stands : m.relay = relay) : m.Exhausts (m.cursor.queue ++ tokens) error := by
  induction ends generalizing m with
  | @finished r rest =>
    obtain ⟨rfl, _⟩ := Relay.mk.inj stands
    rw [List.append_nil, ← fits.finish_eq]
    exact .ended (hasInput_of_nil rest)
  | @failed relay c tail error rest failed =>
    subst stands
    have agrees := agrees_step fits rest
    rw [failed] at agrees
    obtain ⟨last, done, same⟩ := agrees
    rw [List.append_nil, ← same]
    exact .failed (hasInput_of_rest rest) done
  | @step relay next tokens later count error steps _ ih =>
    subst stands
    obtain ⟨c, tail, rest, done⟩ := steps
    have agrees := agrees_step fits rest
    rw [done] at agrees
    obtain ⟨behind, stepped, nextFits, stands, queue⟩ := agrees
    have exhausts := ih nextFits stands
    rw [queue, List.append_assoc] at exhausts
    exact .step (hasInput_of_rest rest) stepped exhausts

/-- A machine with other tokens in its queue. -/
def holding (m : Machine) (queue : List Token) : Machine := { m with cursor := { m.cursor with queue } }

/-- What waits in the queue has nothing to do with where a machine stands. -/
theorem Fits.holding (fits : m.Fits) (queue : List Token) : (m.holding queue).Fits := by
  obtain ⟨node, k⟩ := m
  refine ⟨fits.placed, ?_⟩
  cases node with
  | _ => exact fits.suits

/-- A step of a machine is one of its relay. -/
theorem Fits.steps (fits : m.Fits) (input : m.cursor.hasInput = true) (done : m.step = .ok () last) :
    last.Fits ∧ ∃ tokens, m.relay.Steps tokens last.relay := by
  cases rest : m.cursor.rest with
  | nil => exact absurd (input.symm.trans (hasInput_of_nil rest)) (by decide)
  | cons c tail =>
    have agrees := agrees_step fits rest
    cases stepped : m.relay.step c tail with
    | error error =>
      rw [stepped, done] at agrees
      obtain ⟨_, failed, _⟩ := agrees
      contradiction
    | ok outcome =>
      obtain ⟨tokens, next⟩ := outcome
      rw [stepped, done] at agrees
      obtain ⟨_, same, lastFits, rfl, _⟩ := agrees
      obtain ⟨_, rfl⟩ := EStateM.Result.ok.inj same
      exact ⟨lastFits, tokens, c, tail, rest, stepped⟩

end Machine

/-- A lexer that can be used again and again: the machine on its input, if it has one. -/
structure Session where
  machine : Option { m : Machine // m.Fits } := none

namespace Session
variable {s behind : Session} {m last : Machine} {item : Except LexError Token} {items : List (Except LexError Token)}

/-- A session that is working on the input of a machine. -/
def on (fits : m.Fits) : Session := ⟨some ⟨m, fits⟩⟩

/-- Starts over on a source, whatever the session was working on. -/
def lex (_ : Session) (source : String) : Session := on (Machine.fits_start (.ofSource source))

/-- How much the machine of a session can still do. -/
noncomputable def remaining (s : Session) : Nat := (s.machine.map fun m => m.val.relay.remaining).getD 0

/-- What a call for the next token answers, and the session behind it. -/
def next (s : Session) : Option (Except LexError Token) × Session :=
  match _ : s.machine with
  | none => (none, s)
  | some ⟨m, fits⟩ =>
    match m.cursor.queue with
    | token :: queue => (some (.ok token), on (fits.holding queue))
    | [] =>
      if input : m.cursor.hasInput = true then
        match done : m.step with
        | .ok _ behind => next (on (m := behind) (fits.steps input done).1)
        | .error error _ => (some (.error error), {})
      else (m.finish.map .error, {})
termination_by s.remaining
decreasing_by
  obtain ⟨_, steps⟩ := (fits.steps input done).2
  have smaller := Relay.remaining_lt steps
  simpa only [remaining, on, ‹s.machine = some ⟨m, fits⟩›, Option.map_some, Option.getD_some] using smaller

/-- What the call for the next token answers after `count` other calls. -/
def answer (s : Session) : Nat → Option (Except LexError Token)
  | 0 => s.next.1
  | count + 1 => s.next.2.answer count

/-- What a session gives out: one item a call, and then nothing. -/
def Gives (s : Session) (items : List (Except LexError Token)) : Prop := ∀ count, s.answer count = items[count]?

theorem next_idle : ({} : Session).next = (none, {}) := by
  rw [Session.next]

theorem gives_idle : Gives {} [] := by
  intro count
  induction count with
  | zero => rw [answer, next_idle]; rfl
  | succ count ih =>
    rw [answer, next_idle, ih]
    rfl

theorem gives_cons (next : s.next = (some item, behind)) (later : behind.Gives items) : s.Gives (item :: items) := by
  intro count
  cases count with
  | zero => rw [answer, next]; rfl
  | succ count =>
    rw [answer, next, later count]
    rfl

/-- A session that drops its machine gives out nothing behind its answer. -/
theorem gives_dropped {answer : Option (Except LexError Token)} (next : s.next = (answer, {})) :
    s.Gives answer.toList := by
  cases answer with
  | some item => exact gives_cons next gives_idle
  | none =>
    intro count
    cases count with
    | zero => rw [Session.answer, next]; rfl
    | succ count =>
      rw [Session.answer, next, gives_idle]
      rfl

theorem gives_of_next_eq (same : s.next = behind.next) (gives : behind.Gives items) : s.Gives items := by
  intro count
  rw [← gives count]
  cases count with
  | zero => rw [answer, answer, same]
  | succ count => rw [answer, answer, same]

/-! ## The cases of a call -/

theorem next_queued (fits : m.Fits) {token : Token} {queue : List Token} (queued : m.cursor.queue = token :: queue) :
    (on fits).next = (some (.ok token), on (fits.holding queue)) := by
  rw [next, on]
  simp only [queued]

theorem next_stepped (fits : m.Fits) (lastFits : last.Fits) (empty : m.cursor.queue = [])
    (input : m.cursor.hasInput = true) (done : m.step = .ok () last) : (on fits).next = (on lastFits).next := by
  rw [next, on]
  simp only [empty, dif_pos input]
  split
  · rename_i behind also
    obtain ⟨_, rfl⟩ := EStateM.Result.ok.inj (done.symm.trans also)
    rfl
  · rename_i failed
    rw [done] at failed
    contradiction

theorem next_failed (fits : m.Fits) {error : LexError} (empty : m.cursor.queue = [])
    (input : m.cursor.hasInput = true) (failed : m.step = .error error last) :
    (on fits).next = (some (.error error), {}) := by
  rw [next, on]
  simp only [empty, dif_pos input]
  split
  · rename_i done
    rw [failed] at done
    contradiction
  · rename_i also
    obtain ⟨rfl, _⟩ := EStateM.Result.error.inj (failed.symm.trans also)
    rfl

theorem next_ended (fits : m.Fits) (empty : m.cursor.queue = []) (spent : m.cursor.hasInput = false) :
    (on fits).next = (m.finish.map .error, {}) := by
  rw [next, on]
  simp [empty, spent]

/-- The tokens in the queue come first. -/
theorem gives_queued (fits : m.Fits) (queue : List Token) (gives : (on (fits.holding [])).Gives items) :
    (on (fits.holding queue)).Gives (queue.map .ok ++ items) := by
  induction queue with
  | nil => exact gives
  | cons token queue ih => exact gives_cons (next_queued _ rfl) ih

/-! ## A whole source -/

/-- A session gives out the tokens that its machine has in the queue, those that its relay emits and the error
    that the relay comes to. -/
theorem gives_of_ends {relay : Relay} {count : Nat} {tokens : List Token} {error : Option LexError}
    (ends : relay.Ends count tokens error) {m : Machine} (fits : m.Fits) (stands : m.relay = relay) :
    (on fits).Gives ((m.cursor.queue ++ tokens).map .ok ++ error.toList.map .error) := by
  induction ends generalizing m with
  | @finished r rest =>
    obtain ⟨rfl, _⟩ := Relay.mk.inj stands
    have dropped := gives_dropped (next_ended (fits.holding []) rfl (Machine.hasInput_of_nil rest))
    rw [List.append_nil, ← fits.finish_eq, ← Option.toList_map]
    exact gives_queued fits m.cursor.queue dropped
  | @failed relay c tail error rest failed =>
    subst stands
    have drained := fits.holding []
    have agrees := Machine.agrees_step drained rest
    rw [show (m.holding []).relay.step c tail = .error error from failed] at agrees
    obtain ⟨last, done, _⟩ := agrees
    have dropped := gives_dropped (next_failed drained rfl (Machine.hasInput_of_rest rest) done)
    rw [List.append_nil]
    exact gives_queued fits m.cursor.queue dropped
  | @step relay next tokens later count error steps _ ih =>
    subst stands
    obtain ⟨c, tail, rest, done⟩ := steps
    have drained := fits.holding []
    have agrees := Machine.agrees_step drained rest
    rw [show (m.holding []).relay.step c tail = .ok (tokens, next) from done] at agrees
    obtain ⟨behind, stepped, behindFits, stands, queue⟩ := agrees
    have same := next_stepped drained behindFits rfl (Machine.hasInput_of_rest rest) stepped
    have gives := gives_of_next_eq same (ih behindFits stands)
    rw [queue] at gives
    have whole := gives_queued fits m.cursor.queue gives
    simpa [Machine.holding] using whole

end Session

/-- Tokens on demand are the tokens of the whole run. Whatever a lexer was working on, its machine comes to one
    end on a new source; each call answers with the next token that the machine has put into the queue by then,
    behind the last of them with its error if there is one, and with nothing from then on. The tokens of the
    source are all of them, or there is that error. -/
theorem lazy_eq_eager (session : Session) (source : String) : ∃ tokens error,
    (∀ found last, (Machine.ofSource source).Exhausts found last ↔ found = tokens ∧ last = error) ∧
    (∀ count, (session.lex source).answer count = (tokens.map .ok ++ error.toList.map .error)[count]?) ∧
    (TokenStream.ofSource source).toList = tokens.map .ok ++ error.toList.map .error ∧
    tokenize source = error.elim (.ok tokens) .error := by
  obtain ⟨_, _, ends⟩ := Relay.ends_run (Reader.standing_ofSource source.toList)
  have fits := Machine.fits_start (.ofSource source)
  have exhausts := Machine.exhausts_of_ends ends fits rfl
  refine ⟨_, _, fun found last => ⟨exhausts.unique, ?_⟩, Session.gives_of_ends ends fits rfl, ?_, ?_⟩
  · rintro ⟨rfl, rfl⟩
    exact exhausts
  · rw [TokenStream.toList_eq_items]
    rfl
  · show tokenize source = (lex source).2.elim (.ok (lex source).1) .error
    rw [tokenize]
    cases lex source with
    | mk tokens error => cases error <;> rfl

end CommandScript.Lexer
