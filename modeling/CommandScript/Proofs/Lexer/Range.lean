import CommandScript.Lexer.Checked
import CommandScript.Proofs.Lexer.Lazy
import Mathlib.Logic.Function.Iterate

/-!
A source is read in range. Whatever comes up while it is read, a machine keeps its head in the input or at
its end, and the token that it reads does not start behind the head (`Machine.Reached.ranged`); so each slice
that it takes lies in the input, and a machine that watches its range takes the same steps
(`Machine.step_in_range`).

Most states leave the head to the move behind them (`Reading.Still`). An operator and a unit move it on their
own. The unit moves it by the length of a copy in lower case, which is as long as what was read
(`Quantity.length_of_ofUnit?`).
-/
namespace CommandScript.Lexer

/-! ## What is watched -/

namespace Checked
variable {k : Cursor} {c : Char} {tail : List Char} {α β : Type}

theorem run_slice {start stop : Nat} (ordered : start ≤ stop) (within : stop ≤ k.data.length) :
    (slice start stop).run k = .ok ((k.data.drop start).take (stop - start)) k := by
  show EStateM.run (if _ then _ else _) k = _
  rw [if_pos ⟨ordered, within⟩]
  rfl

theorem run_difference {whole part : Nat} (le : part ≤ whole) : (difference whole part).run k = .ok (whole - part) k := by
  rw [difference, if_pos le]
  rfl

theorem run_textTo {stop : Nat} (ordered : k.start ≤ stop) (within : stop ≤ k.data.length) :
    (textTo stop).run k = .ok (k.textTo stop) k :=
  run_slice ordered within

theorem run_pending (placed : k.Placed) : pending.run k = .ok k.pending k :=
  run_textTo placed.1 placed.2

/-- A step that leaves the cursor as it is. -/
theorem run_read {reading : Checked α} {value : α} (read : reading.run k = .ok value k) (f : α → Checked β) :
    (reading >>= f).run k = (f value).run k := by
  rw [EStateM.run_bind, read]

/-- The input from an offset to its end. -/
theorem run_slice_end {start : Nat} (within : start ≤ k.data.length) :
    (slice start k.data.length).run k = .ok (k.data.drop start) k := by
  rw [run_slice within (Nat.le_refl _), List.take_of_length_le (Nat.le_of_eq List.length_drop)]

theorem run_printed (rest : k.rest = c :: tail) : printed.run k = .ok k.printed k := by
  have behind := run_slice_end (Cursor.head_lt rest)
  rw [Cursor.drop_succ rest] at behind
  rw [Cursor.printed_eq rest]
  exact run_read behind _

theorem run_ahead (rest : k.rest = c :: tail) :
    (ahead c).run k = .ok (if (Text.isBlank c && c != '\n') = true then k.printed.getD c else c) k := by
  rw [ahead]
  split_ifs
  · exact run_read (run_printed rest) _
  · rfl

theorem run_letters (within : k.head ≤ k.data.length) : letters.run k = .ok (k.rest.takeWhile Text.isAlphabetic) k :=
  run_read (run_slice_end within) _

theorem run_get (f : Cursor → Checked β) : (get >>= f).run k = (f k).run k := rfl

theorem run_lift_get (f : Cursor → Reading β) : (lift (get >>= f)).run k = (lift (f k)).run k := rfl

theorem run_lift (reading : Reading α) : (lift reading).run k = match reading.run k with
    | .ok value next => .ok value next
    | .error problem next => .error (.problem problem) next := by
  show EStateM.adaptExcept Halt.problem reading k = _
  rw [EStateM.adaptExcept, EStateM.run]
  cases reading k <;> rfl

/-- What has no range to watch, behind a step that keeps to its own. -/
theorem run_then_lift {x : Checked α} {y : Reading α} {f : α → Checked β} {g : α → Reading β}
    (same : x.run k = (lift y).run k) (later : ∀ value, f value = lift (g value)) :
    (x >>= f).run k = (lift (y >>= g)).run k := by
  obtain rfl : f = fun value => lift (g value) := funext later
  rw [EStateM.run_bind, same]
  rw [run_lift, run_lift, EStateM.run_bind]
  cases y.run k with
  | ok value next => exact run_lift (g value)
  | error problem next => rfl

theorem run_emitPending (placed : k.Placed) (kind : Kind) :
    (emitPending kind).run k = (lift (Reading.emitPending kind)).run k := by
  rw [emitPending, run_read (run_pending placed)]
  rfl

theorem run_flushArgument (placed : k.Placed) : flushArgument.run k = (lift Reading.flushArgument).run k := by
  rw [flushArgument, Reading.flushArgument, run_get, run_lift_get]
  split_ifs
  · exact run_emitPending placed .execArg
  · rfl

theorem run_identifier (placed : k.Placed) (c : Char) : (identifier c).run k = (lift (Reading.identifier c)).run k := by
  rw [identifier, Reading.identifier, run_get, run_lift_get]
  split_ifs
  · rfl
  · exact run_then_lift (run_emitPending placed .name) fun _ => rfl
  · rfl
  · exact run_then_lift (run_emitPending placed .name) fun _ => rfl
  · rfl
  · rfl

theorem run_quotedLiteral (placed : k.Placed) (quote : Char) (escaped : Bool) (c : Char) :
    (quotedLiteral quote escaped c).run k = (lift (Reading.quotedLiteral quote escaped c)).run k := by
  rw [quotedLiteral, Reading.quotedLiteral, run_get, run_lift_get]
  by_cases escapes : (escaped || c = '\\') = true
  · rw [if_pos escapes, if_pos escapes]
    rfl
  rw [if_neg escapes, if_neg escapes]
  by_cases closes : c = quote
  · rw [if_pos closes, if_pos closes]
    exact run_then_lift (run_emitPending placed _) fun _ => rfl
  · rw [if_neg closes, if_neg closes]
    rfl

theorem run_quotedArgList (placed : k.Placed) (escaped : Bool) (quote : Option Char) (c : Char) :
    (quotedArgList escaped quote c).run k = (lift (Reading.quotedArgList escaped quote c)).run k := by
  rw [quotedArgList, Reading.quotedArgList, run_get, run_lift_get]
  split_ifs
  · rfl
  · cases quote with
    | none => rfl
    | some opened =>
      dsimp only
      split_ifs
      · exact run_then_lift (run_emitPending placed .execArg) fun _ => rfl
      · rfl
  · rfl
  · exact run_then_lift (run_flushArgument placed) fun _ => rfl
  · exact run_then_lift (run_flushArgument placed) fun _ => rfl
  · exact run_then_lift (run_flushArgument placed) fun _ => rfl
  · rfl

theorem run_unquotedLiteral (placed : k.Placed) (rest : k.rest = c :: tail) :
    (unquotedLiteral c).run k = (lift (Reading.unquotedLiteral c)).run k := by
  rw [unquotedLiteral, Reading.unquotedLiteral, run_lift_get]
  dsimp only
  rw [run_read (run_ahead rest), run_read (run_pending placed), run_get]
  generalize (if (Text.isBlank c && c != '\n') = true then k.printed.getD c else c) = ahead
  split_ifs
  · rfl
  · exact run_then_lift (run_emitPending placed _) fun _ => rfl
  · exact run_then_lift (run_emitPending placed _) fun _ => rfl
  · exact run_then_lift rfl fun _ => rfl
  · exact run_then_lift (run_emitPending placed _) fun _ => rfl
  · rfl
  · rfl

theorem run_number (placed : k.Placed) (hasPoint first : Bool) (c : Char) :
    (number hasPoint first c).run k = (lift (Reading.number hasPoint first c)).run k := by
  rw [number, Reading.number, run_get, run_lift_get]
  dsimp only
  by_cases point : c = '.'
  · rw [if_pos point, if_pos point]
    split_ifs
    · exact run_then_lift (run_emitPending placed _) fun _ => rfl
    · rfl
    · rfl
  rw [if_neg point, if_neg point]
  by_cases numeral : (c.isDigit || (first && c == '-')) = true
  · rw [if_pos numeral, if_pos numeral]
    rfl
  rw [if_neg numeral, if_neg numeral]
  by_cases letter : (Reader.numberKind k.context hasPoint != .execArg && Text.isAlphabetic c) = true
  · rw [if_pos letter, if_pos letter, run_read (run_letters placed.2)]
    generalize Text.lowerCase (String.ofList (k.rest.takeWhile Text.isAlphabetic)) = unit
    cases Quantity.ofUnit? unit with
    | none => rfl
    | some quantity =>
      have ordered : k.start ≤ k.head + unit.length := Nat.le_add_right_of_le placed.1
      dsimp only
      rw [run_read (run_difference ordered), run_read (run_pending placed)]
      rfl
  · rw [if_neg letter, if_neg letter]
    exact run_then_lift (run_emitPending placed _) fun _ => rfl

theorem run_operator {kind : Kind} {length : Nat} (suits : (Node.operator kind length).Suits k) :
    (operator kind length).run k = (lift (Reading.operator kind length)).run k := by
  obtain ⟨start, positive, within⟩ : k.start = k.head ∧ 0 < length ∧ length ≤ k.rest.length := suits
  rw [Cursor.rest, List.length_drop] at within
  -- the cursor that stands on the last character of the operator
  obtain ⟨moved, there⟩ : ∃ moved : Cursor, moved = { k with
    head := k.head + (length - 1), context := { k.context.after kind with prev := k.context.prev } } := ⟨_, rfl⟩
  have text : (textTo (moved.head + 1)).run moved = .ok (moved.textTo (moved.head + 1)) moved := by
    subst there
    exact run_textTo (by dsimp only; omega) (by dsimp only; omega)
  rw [operator, run_read (run_difference positive)]
  subst there
  exact (run_read text _).trans rfl

/-- A state that keeps to its range does what it does without watching it. -/
theorem run_checked {node : Node} (fits : Machine.Fits ⟨node, k⟩) (rest : k.rest = c :: tail) :
    (node.checked c).run k = (lift (node.consume c)).run k := by
  cases node with
  | start => rfl
  | operator kind length => exact run_operator fits.suits
  | comment => rfl
  | identifier => exact run_identifier (fits.placed rfl) c
  | quotedLiteral quote escaped => exact run_quotedLiteral (fits.placed rfl) quote escaped c
  | quotedArgList escaped quote => exact run_quotedArgList (fits.placed rfl) escaped quote c
  | unquotedLiteral => exact run_unquotedLiteral (fits.placed rfl) rest
  | number hasPoint first => exact run_number (fits.placed rfl) hasPoint first c

end Checked

/-! ## The head -/

namespace Reading
variable {k : Cursor} {c : Char} {tail : List Char} {α β : Type}

/-- Steps that leave the input and the head as they are. -/
def Still (reading : Reading α) : Prop :=
  ∀ k value next, reading.run k = .ok value next → next.data = k.data ∧ next.head = k.head

theorem Still.bind {x : Reading α} {f : α → Reading β} (still : Still x) (later : ∀ value, Still (f value)) :
    Still (x >>= f) := by
  intro k value next done
  rw [EStateM.run_bind] at done
  cases first : x.run k with
  | error problem between =>
    rw [first] at done
    contradiction
  | ok between middle =>
    rw [first] at done
    obtain ⟨data, head⟩ := still k between middle first
    obtain ⟨sameData, sameHead⟩ := later between middle value next done
    exact ⟨sameData.trans data, sameHead.trans head⟩

theorem still_pure (value : α) : Still (pure value) := by
  rintro k _ _ ⟨⟩
  exact ⟨rfl, rfl⟩

theorem still_throw (problem : Problem) : Still (throw problem : Reading α) := by
  rintro k _ _ ⟨⟩

theorem still_get : Still get := by
  rintro k _ _ ⟨⟩
  exact ⟨rfl, rfl⟩

/-- Behind a still step a result is returned. -/
theorem Still.returning {x : Reading α} (still : Still x) (value : β) : Still (x >>= fun _ => pure value) :=
  still.bind fun _ => still_pure value

theorem still_modify {change : Cursor → Cursor} (keeps : ∀ k, (change k).data = k.data ∧ (change k).head = k.head) :
    Still (modify change) := by
  rintro k _ _ ⟨⟩
  exact keeps k

theorem still_startAt (start : Nat) : Still (startAt start) := still_modify fun _ => ⟨rfl, rfl⟩

theorem still_newline : Still newline := still_modify fun _ => ⟨rfl, rfl⟩

theorem still_emit (token : Token) : Still (emit token) := still_modify fun _ => ⟨rfl, rfl⟩

theorem still_emitAll (tokens : List Token) : Still (emitAll tokens) := by
  induction tokens with
  | nil => exact still_pure ()
  | cons token tokens ih => exact (still_emit token).bind fun _ => ih

theorem still_emitPending (kind : Kind) : Still (emitPending kind) := still_get.bind fun _ => still_emit _

theorem still_emitMark (kind : Kind) (c : Char) : Still (emitMark kind c) := still_get.bind fun _ => still_emit _

theorem still_flushArgument : Still flushArgument := by
  refine still_get.bind fun k => ?_
  split_ifs
  · exact still_emitPending .execArg
  · exact still_pure ()

theorem still_start (c : Char) : Still (start c) := by
  refine still_get.bind fun k => ?_
  by_cases feed : c = '\n'
  · rw [if_pos feed]
    exact still_newline.returning _
  rw [if_neg feed]
  by_cases blank : Text.isBlank c = true
  · rw [if_pos blank]
    exact still_pure _
  rw [if_neg blank]
  cases Reader.operator? k.context k.rest with
  | some found => exact (still_startAt _).returning _
  | none =>
    dsimp only
    split_ifs
    · exact (still_startAt _).returning _
    · exact (still_startAt _).returning _
    · cases opening? c with
      | some next => exact (still_startAt _).returning _
      | none => exact still_throw _

theorem still_comment (c : Char) : Still (comment c) := by
  rw [comment]
  split_ifs
  · exact still_newline.returning _
  · exact still_pure _

theorem still_identifier (c : Char) : Still (identifier c) := by
  refine still_get.bind fun k => ?_
  split_ifs
  · exact still_throw _
  · exact (still_emitPending _).bind fun _ => (still_emitMark _ _).bind fun _ => (still_startAt _).returning _
  · exact still_throw _
  · exact (still_emitPending _).returning _
  · exact still_throw _
  · exact still_pure _

theorem still_quotedLiteral (quote : Char) (escaped : Bool) (c : Char) : Still (quotedLiteral quote escaped c) := by
  refine still_get.bind fun k => ?_
  by_cases escapes : (escaped || c = '\\') = true
  · rw [if_pos escapes]
    exact still_pure _
  rw [if_neg escapes]
  by_cases closes : c = quote
  · rw [if_pos closes]
    exact (still_emitPending _).returning _
  · rw [if_neg closes]
    exact still_pure _

theorem still_quotedArgList (escaped : Bool) (quote : Option Char) (c : Char) :
    Still (quotedArgList escaped quote c) := by
  refine still_get.bind fun k => ?_
  split_ifs
  · exact still_pure _
  · cases quote with
    | none => exact (still_startAt _).returning _
    | some opened =>
      dsimp only
      split_ifs
      · exact (still_emitPending _).bind fun _ => (still_startAt _).returning _
      · exact still_pure _
  · exact still_pure _
  · exact still_flushArgument.bind fun _ => (still_emitMark _ _).bind fun _ => (still_startAt _).returning _
  · exact still_flushArgument.returning _
  · exact still_flushArgument.bind fun _ => (still_startAt _).returning _
  · exact still_pure _

theorem still_unquotedLiteral (c : Char) : Still (unquotedLiteral c) := by
  refine still_get.bind fun k => ?_
  dsimp only
  generalize (if (Text.isBlank c && c != '\n') = true then k.printed.getD c else c) = ahead
  split_ifs
  · exact (still_emitMark _ _).returning _
  · exact (still_emitPending _).bind fun _ => (still_emitMark _ _).returning _
  · exact (still_emitPending _).returning _
  · exact (still_emitAll _).returning _
  · exact (still_emitPending _).returning _
  · exact still_throw _
  · exact still_pure _

/-- A step that leaves the input as it is, and the head in it or at its end. -/
def Within (reading : Reading Move) (k : Cursor) : Prop :=
  ∀ move next, reading.run k = .ok move next →
    next.data = k.data ∧ (move.machine next).cursor.head ≤ k.data.length

/-- Where there is a character at the head, it can be taken. -/
theorem Still.within {reading : Reading Move} (still : Still reading) (rest : k.rest = c :: tail) :
    Within reading k := by
  intro move next done
  obtain ⟨data, head⟩ := still k move next done
  have inside := Cursor.head_lt rest
  refine ⟨data, ?_⟩
  cases move with
  | advance =>
    show next.head + 1 ≤ k.data.length
    rwa [head]
  | reread =>
    show next.head ≤ k.data.length
    rw [head]
    exact Nat.le_of_lt inside

theorem within_operator {kind : Kind} {length : Nat} (suits : (Node.operator kind length).Suits k) :
    Within (operator kind length) k := by
  obtain ⟨_, positive, fits⟩ : k.start = k.head ∧ 0 < length ∧ length ≤ k.rest.length := suits
  rw [Cursor.rest, List.length_drop] at fits
  rintro _ _ ⟨⟩
  refine ⟨rfl, ?_⟩
  show k.head + (length - 1) + 1 ≤ k.data.length
  omega

/-- Lower case makes a unit no longer than the letters that it was read from. -/
theorem within_number (rest : k.rest = c :: tail) (hasPoint first : Bool) : Within (number hasPoint first c) k := by
  have ended (kind : Kind) : Within (emitPending kind >>= fun _ => pure (.reread .start)) k :=
    ((still_emitPending kind).returning _).within rest
  have kept (point : Bool) : Within (pure (.advance (.number point false))) k := (still_pure _).within rest
  have refused (problem : Problem) : Within (throw problem) k := (still_throw problem).within rest
  show Within (if _ then _ else _) k
  by_cases point : c = '.'
  · rw [if_pos point]
    split_ifs
    · exact ended _
    · exact refused _
    · exact kept _
  rw [if_neg point]
  by_cases numeral : (c.isDigit || (first && c == '-')) = true
  · rw [if_pos numeral]
    exact kept _
  rw [if_neg numeral]
  by_cases letter : (Reader.numberKind k.context hasPoint != .execArg && Text.isAlphabetic c) = true
  · rw [if_pos letter]
    have letters : (k.rest.takeWhile Text.isAlphabetic).length ≤ k.data.length - k.head := by
      rw [← List.length_drop]
      exact (List.takeWhile_prefix _).length_le
    dsimp only
    cases known : Quantity.ofUnit? (Text.lowerCase (String.ofList (k.rest.takeWhile Text.isAlphabetic))) with
    | none => exact refused _
    | some quantity =>
      have length := Quantity.length_of_ofUnit? known
      generalize Text.lowerCase (String.ofList (k.rest.takeWhile Text.isAlphabetic)) = unit at length
      rintro _ _ ⟨⟩
      refine ⟨rfl, ?_⟩
      show k.head + unit.length ≤ k.data.length
      have inside := Cursor.head_lt rest
      omega
  · rw [if_neg letter]
    exact ended _

end Reading

/-! ## A whole source -/

namespace Machine
variable {m next : Machine} {source : String} {c : Char} {tail : List Char}

/-- A machine in the middle of a source takes the step that a checked one takes. -/
theorem Fits.checkedStep_eq (fits : m.Fits) : m.checkedStep = some m.step := by
  cases rest : m.cursor.rest with
  | nil => simp only [checkedStep, step, rest]
  | cons c tail =>
    simp only [checkedStep, step, rest, Checked.run_checked fits rest, Checked.run_lift]
    cases (m.node.consume c).run m.cursor <;> rfl

/-- A machine whose token starts behind its head is stopped. -/
example : checkedStep ⟨.unquotedLiteral, { Cursor.ofSource "ls" with start := 1 }⟩ = none := rfl

/-- The machines that come up while a source is read: steps are taken, and tokens are taken out of the queue. -/
inductive Reached (source : String) : Machine → Prop
  | begin : Reached source (.ofSource source)
  | step {m next : Machine} (reached : Reached source m) (done : m.step = .ok () next) : Reached source next
  | taken {m : Machine} {token : Token} {queue : List Token} (reached : Reached source m)
    (queued : m.cursor.queue = token :: queue) : Reached source (m.holding queue)

/-- A machine that keeps to its source. -/
structure Ranged (source : String) (m : Machine) : Prop where
  fits : m.Fits
  data : m.cursor.data = source.toList ++ padding
  head_le : m.cursor.head ≤ m.cursor.data.length

theorem Fits.within (fits : m.Fits) (rest : m.cursor.rest = c :: tail) :
    Reading.Within (m.node.consume c) m.cursor := by
  obtain ⟨node, k⟩ := m
  cases node with
  | start => exact (Reading.still_start c).within rest
  | operator kind length => exact Reading.within_operator fits.suits
  | comment => exact (Reading.still_comment c).within rest
  | identifier => exact (Reading.still_identifier c).within rest
  | quotedLiteral quote escaped => exact (Reading.still_quotedLiteral quote escaped c).within rest
  | quotedArgList escaped quote => exact (Reading.still_quotedArgList escaped quote c).within rest
  | unquotedLiteral => exact (Reading.still_unquotedLiteral c).within rest
  | number hasPoint first => exact Reading.within_number rest hasPoint first

theorem ranged_ofSource (source : String) : Ranged source (.ofSource source) :=
  ⟨fits_start _, rfl, Nat.zero_le _⟩

/-- A step keeps to the source. -/
theorem Ranged.step (ranged : Ranged source m) (done : m.step = .ok () next) : Ranged source next := by
  cases rest : m.cursor.rest with
  | nil =>
    simp only [Machine.step, rest] at done
    obtain ⟨_, rfl⟩ := EStateM.Result.ok.inj done
    exact ranged
  | cons c tail =>
    have fits := (ranged.fits.steps (hasInput_of_rest rest) done).1
    simp only [Machine.step, rest] at done
    cases consumed : (m.node.consume c).run m.cursor with
    | error problem cursor =>
      rw [consumed] at done
      contradiction
    | ok move cursor =>
      rw [consumed] at done
      obtain ⟨_, rfl⟩ := EStateM.Result.ok.inj done
      obtain ⟨data, head⟩ := ranged.fits.within rest move cursor consumed
      have kept : (move.machine cursor).cursor.data = m.cursor.data := by
        cases move <;> exact data
      exact ⟨fits, kept.trans ranged.data, Nat.le_trans head (Nat.le_of_eq (congrArg List.length kept.symm))⟩

theorem Ranged.holding (ranged : Ranged source m) (queue : List Token) : Ranged source (m.holding queue) :=
  ⟨ranged.fits.holding queue, ranged.data, ranged.head_le⟩

/-- Every machine that comes up keeps to its source. -/
theorem Reached.ranged (reached : Reached source m) : Ranged source m := by
  induction reached with
  | begin => exact ranged_ofSource source
  | step _ done ih => exact ih.step done
  | taken _ queued ih => exact ih.holding _

theorem Ranged.start_le (ranged : Ranged source m) (begun : m.node ≠ .start) (outside : m.node ≠ .comment) :
    m.cursor.start ≤ m.cursor.head := by
  obtain ⟨node, k⟩ := m
  have placed := ranged.fits.placed
  cases node with
  | start => contradiction
  | comment => contradiction
  | operator => exact Nat.le_of_eq ranged.fits.suits.1
  | _ => exact (placed rfl).1

/-- Whatever comes up while a source is read, the head is in the input or at its end, a token that is being read
    does not start behind the head, and a machine that watches its range takes the same step. -/
theorem step_in_range (reached : Reached source m) :
    m.cursor.data = source.toList ++ padding ∧ m.cursor.head ≤ m.cursor.data.length ∧
      (m.node ≠ .start → m.node ≠ .comment → m.cursor.start ≤ m.cursor.head) ∧ m.checkedStep = some m.step := by
  have ranged := reached.ranged
  exact ⟨ranged.data, ranged.head_le, ranged.start_le, ranged.fits.checkedStep_eq⟩

/-- The unit of a number is read in range. -/
theorem step_in_range_unit : ∃ m : Machine, m = ⟨.number false false, { Cursor.ofSource "2kb" with head := 1 }⟩ ∧
    Reached "2kb" m ∧ m.cursor.data = "2kb".toList ++ padding ∧ m.cursor.head ≤ m.cursor.data.length ∧
      (m.node ≠ .start → m.node ≠ .comment → m.cursor.start ≤ m.cursor.head) ∧ m.checkedStep = some m.step := by
  have begun : Reached "2kb" ⟨.number false true, Cursor.ofSource "2kb"⟩ := .step .begin rfl
  have counted : Reached "2kb" ⟨.number false false, { Cursor.ofSource "2kb" with head := 1 }⟩ := .step begun rfl
  exact ⟨_, rfl, counted, step_in_range counted⟩

end Machine

/-- A session works on machines that come up while a source is read. -/
def Session.Reads (source : String) (s : Session) : Prop := ∀ m ∈ s.machine, m.val.Reached source

theorem Session.reads_on {source : String} {m : Machine} (fits : m.Fits) (reached : m.Reached source) :
    (on fits).Reads source := by
  intro _ member
  rw [← Option.mem_some.mp member]
  exact reached

theorem Session.reads_idle (source : String) : Session.Reads source {} :=
  fun _ member => absurd member (Option.not_mem_none _)

/-- No call for the next token leaves them. -/
theorem Session.Reads.next {source : String} {s : Session} (reads : s.Reads source) : s.next.2.Reads source := by
  fun_induction Session.next s with
  | case1 => exact reads
  | case2 s m fits held token queue queued => exact reads_on _ (.taken (reads ⟨m, fits⟩ held) queued)
  | case3 s m fits held _ _ _ behind done ih => exact ih (reads_on _ (.step (reads ⟨m, fits⟩ held) done))
  | case4 => exact reads_idle source
  | case5 => exact reads_idle source

/-- However often it is asked for a token, a session on a source works on such machines. -/
theorem Session.reads_calls (session : Session) (source : String) (count : Nat) :
    ((fun s : Session => s.next.2)^[count] (session.lex source)).Reads source := by
  induction count with
  | zero => exact reads_on _ .begin
  | succ count ih =>
    rw [Function.iterate_succ_apply']
    exact ih.next

end CommandScript.Lexer
