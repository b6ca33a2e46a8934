import CommandScript.Proofs.Lexer.Bracket
import CommandScript.Proofs.Lexer.Failure

/-!
Where statements end. A line feed inserts a terminator if it is read outside of quotes and
backticks and no parenthesis is open there, whatever token or comment it ends; nothing else
inserts one.
-/
namespace CommandScript.Lexer
open Reader

/-- A reader comes to the line feed at this offset and goes on with it. -/
structure MeetsFeed (source : List Char) (i : Nat) (tokens : List Token) (r : Reader) : Prop where
  path : Path (ofSource source) tokens r
  head : r.head = i
  feed : ∃ tail emitted next, r.rest = '\n' :: tail ∧ r.step '\n' tail = .ok (emitted, next)

/-- The line feed at this offset is read outside of quotes and backticks, and behind the tokens before it no
    parenthesis is open. -/
def EndsStatement (source : List Char) (i : Nat) : Prop :=
  ∃ tokens r, MeetsFeed source i tokens r ∧ ¬ r.state.Quoted ∧
    openBrackets .parenOpen .parenClose (tokens.map (·.kind)) = 0

/-- Among some tokens the terminator for this offset stands behind those that were read before it, which
    leave no parenthesis open, and before those that were read behind it. -/
def Terminates (tokens : List Token) (i : Nat) : Prop :=
  ∃ before after, tokens = before ++ .terminator i :: after ∧
    openBrackets .parenOpen .parenClose (before.map (·.kind)) = 0 ∧
    (∀ token ∈ before, token.span.offset < i ∧ token.span.stop ≤ i) ∧ ∀ token ∈ after, i < token.span.offset

variable {source : List Char} {tokens : List Token} {r : Reader} {i : Nat}

/-! ## A line feed outside of quotes -/

namespace MeetsFeed

theorem here (meets : MeetsFeed source i tokens r) : source[i]? = some '\n' := by
  obtain ⟨path, rfl, tail, _, _, rest, _⟩ := meets
  have standing := path.standing_ofSource
  exact standing.here rest (standing.lt_length rest (by decide) (by decide))

/-- A name, a word or a number hands the line feed on that ends it, and is no bracket. -/
theorem handed_on (meets : MeetsFeed source i tokens r) (ends : EndsAtFeed r.state) :
    ∃ emitted s, MeetsFeed source i (tokens ++ emitted) s ∧ s.Idle ∧
      ∀ kind ∈ emitted.map (·.kind), kind ∉ Context.brackets := by
  obtain ⟨path, head, tail, _, _, rest, done⟩ := meets
  rcases action_feed ends with ⟨emitted, acted⟩ | ⟨problem, failed⟩
  · have idle : (r.moved '\n' tail (.emit emitted 0 .start)).Idle := Or.inl rfl
    refine ⟨emitted, r.moved '\n' tail (.emit emitted 0 .start), ⟨?_, head, ?_⟩, idle, ?_⟩
    · exact path.step rest (step_of_action (acted tail))
    · exact ⟨tail, _, _, rfl, idle.step_feed tail⟩
    · intro kind member
      obtain ⟨token, among, rfl⟩ := List.mem_map.mp member
      have inside : r.state ≠ .start := by
        intro state
        rw [state] at ends
        exact ends
      exact bracketless_of_inside (acts_of_action (acted tail)) inside token among
  · rw [step_of_error (failed tail)] at done
    contradiction

/-- Outside of quotes some reader comes to the line feed when no token is being read. -/
theorem exists_idle (meets : MeetsFeed source i tokens r) (unquoted : ¬ r.state.Quoted) :
    ∃ emitted s, MeetsFeed source i (tokens ++ emitted) s ∧ s.Idle ∧
      ∀ kind ∈ emitted.map (·.kind), kind ∉ Context.brackets := by
  rcases idle_or_endsAtFeed_of_unquoted unquoted with idle | ends
  · exact ⟨[], r, by simpa using meets, idle, by simp⟩
  · exact meets.handed_on ends

/-- A line feed between two tokens or in a comment ends a statement if no parenthesis is open. -/
theorem terminates (meets : MeetsFeed source i tokens r) (idle : r.Idle)
    (statement : openBrackets .parenOpen .parenClose (tokens.map (·.kind)) = 0) :
    Terminates (ofSource source).run.1 i := by
  obtain ⟨path, rfl, tail, _, _, rest, _⟩ := meets
  have standing := path.standing_ofSource
  have parens : r.context.parens = 0 := path.parens_eq.trans statement
  have terminator : r.emitted .newline = [.terminator r.head] := if_pos parens
  have done : r.step '\n' tail = .ok (r.emitted .newline, r.moved '\n' tail .newline) :=
    step_of_action idle.action_feed
  have kept : r.text = [] := idle.elim (standing.suits_of ·) (standing.suits_of ·)
  have start : r.start = r.head := by simp [Reader.head, kept]
  refine ⟨tokens, (r.moved '\n' tail .newline).run.1, ?_, statement, ?_, ?_⟩
  · rw [path.run_eq, run_ok rest done, terminator]
    rfl
  · rw [← start]
    exact path.before
  · intro token member
    have onward := (path.step rest done).standing_ofSource
    exact ((laid_run onward).of_mem member).1

end MeetsFeed

namespace EndsStatement

theorem here (ends : EndsStatement source i) : source[i]? = some '\n' := by
  obtain ⟨_, _, meets, _⟩ := ends
  exact meets.here

/-- A line feed that ends a statement inserts a terminator in its place. -/
theorem terminates (ends : EndsStatement source i) : Terminates (ofSource source).run.1 i := by
  obtain ⟨tokens, r, meets, unquoted, statement⟩ := ends
  obtain ⟨emitted, s, again, idle, others⟩ := meets.exists_idle unquoted
  refine again.terminates idle ?_
  rw [List.map_append, openParens_append others, statement]

/-- Only a line feed that ends a statement inserts a terminator. -/
theorem of_mem {c : Char} {tail : List Char} {action : Action} (path : Path (ofSource source) tokens r)
    (rest : r.rest = c :: tail) (acts : Acts r c tail action) (member : .terminator i ∈ r.emitted action) :
    EndsStatement source i := by
  cases action with
  | keep => simp [emitted] at member
  | emit =>
    have read := (emits_of_mem acts member).isSynthetic_eq
    contradiction
  | newline =>
    obtain ⟨idle, rfl⟩ : r.Idle ∧ c = '\n' := by
      cases acts with
      | newline idle feed => exact ⟨idle, feed⟩
    have head : r.head = i := (congrArg (·.span.offset) (eq_terminator member)).symm
    have statement : r.context.parens = 0 := by
      by_contra nested
      simp [emitted, nested] at member
    exact ⟨tokens, r, ⟨path, head, tail, _, _, rest, step_of_action idle.action_feed⟩, idle.unquoted,
      path.parens_eq.symm.trans statement⟩

end EndsStatement

/-! ## All that is inserted -/

/-- The offsets of the terminators among some tokens, in order and before `stop`. -/
structure Terminated (tokens : List Token) (ends : List Nat) (stop : Nat) : Prop where
  inserted : tokens.filter (·.isSynthetic) = ends.map Token.terminator
  ordered : ends.Pairwise (· < ·)
  before : ∀ i ∈ ends, i < stop

namespace Terminated
variable {ends : List Nat} {stop : Nat}

theorem read {later : List Token} {onward : Nat} (terminated : Terminated tokens ends stop)
    (others : ∀ token ∈ later, token.isSynthetic = false) (le : stop ≤ onward) :
    Terminated (tokens ++ later) ends onward where
  inserted := by
    have none : later.filter (·.isSynthetic) = [] := by simpa using others
    rw [List.filter_append, terminated.inserted, none, List.append_nil]
  ordered := terminated.ordered
  before := fun i member => Nat.lt_of_lt_of_le (terminated.before i member) le

theorem insert (terminated : Terminated tokens ends stop) (le : stop ≤ i) :
    Terminated (tokens ++ [.terminator i]) (ends ++ [i]) (i + 1) where
  inserted := by
    have one : [Token.terminator i].filter (·.isSynthetic) = [i].map Token.terminator := rfl
    rw [List.filter_append, terminated.inserted, one, List.map_append]
  ordered := by
    refine List.pairwise_append.mpr ⟨terminated.ordered, List.pairwise_singleton .., ?_⟩
    intro earlier member last same
    obtain rfl := List.mem_singleton.mp same
    exact Nat.lt_of_lt_of_le (terminated.before earlier member) le
  before := by
    intro earlier member
    rcases List.mem_append.mp member with before | last
    · exact Nat.lt_succ_of_lt (Nat.lt_of_lt_of_le (terminated.before earlier before) le)
    · obtain rfl := List.mem_singleton.mp last
      exact Nat.lt_succ_self _

theorem mem_iff (terminated : Terminated tokens ends stop) : i ∈ ends ↔ .terminator i ∈ tokens := by
  have inserted : .terminator i ∈ tokens.filter (·.isSynthetic) ↔ .terminator i ∈ tokens :=
    List.mem_filter.trans (and_iff_left rfl)
  have listed : .terminator i ∈ ends.map Token.terminator ↔ i ∈ ends := by
    apply List.mem_map_of_injective
    intro first second same
    exact congrArg (·.span.offset) same
  rw [← inserted, terminated.inserted, listed]

end Terminated

namespace Reader

/-- A step inserts at most one terminator, behind all that there are. -/
theorem terminated_moved {c : Char} {tail : List Char} {action : Action} {ends : List Nat}
    (terminated : Terminated tokens ends r.start) (acts : Acts r c tail action) :
    ∃ ends, Terminated (tokens ++ r.emitted action) ends (r.moved c tail action).start := by
  have le : r.start ≤ r.head := Nat.le_add_right ..
  cases action with
  | keep => exact ⟨ends, terminated.read (by simp [emitted]) (Nat.le_refl _)⟩
  | emit emitted count next =>
    refine ⟨ends, terminated.read ?_ (Nat.le_trans le (Nat.le_add_right ..))⟩
    intro token member
    exact (emits_of_mem acts member).isSynthetic_eq
  | newline =>
    rcases r.emitted_newline with none | terminator
    · rw [none]
      exact ⟨ends, terminated.read (by simp) (Nat.le_succ_of_le le)⟩
    · rw [terminator]
      exact ⟨ends ++ [r.head], terminated.insert le⟩

theorem Path.terminated (path : Path (ofSource source) tokens r) : ∃ ends, Terminated tokens ends r.start := by
  induction path with
  | refl => exact ⟨[], rfl, .nil, by simp⟩
  | step path rest done ih =>
    obtain ⟨ends, terminated⟩ := ih
    obtain ⟨action, acts, rfl, rfl⟩ := acts_of_step done
    exact terminated_moved terminated acts

end Reader

theorem TokenStream.endsStatement_iff {source : String} :
    EndsStatement source.toList i ↔ .terminator i ∈ (ofSource source).tokens := by
  constructor
  · intro statement
    obtain ⟨before, after, split, _⟩ := statement.terminates
    rw [tokens_ofSource, lex, split]
    exact List.mem_append_cons_self
  · intro member
    obtain ⟨tokens, r, c, tail, action, path, rest, acts, among⟩ := emitted_of_mem member
    exact .of_mem path rest acts among

/-- Statement terminators are exact. In order, the tokens that are inserted into a source are one for each
    line feed that is read outside of quotes and backticks where no parenthesis is open behind the tokens
    before it; and each stands between what was read before its line feed and what was read behind it. -/
theorem terminators_exact (source : String) : ∃ ends : List Nat,
    (TokenStream.ofSource source).tokens.filter (·.isSynthetic) = ends.map Token.terminator ∧
    ends.Pairwise (· < ·) ∧ (∀ i, i ∈ ends ↔ EndsStatement source.toList i) ∧
    ∀ i ∈ ends, source.toList[i]? = some '\n' ∧ Terminates (TokenStream.ofSource source).tokens i := by
  have whole : (TokenStream.ofSource source).tokens = (ofSource source.toList).run.1 :=
    TokenStream.tokens_ofSource source
  obtain ⟨last, path, _⟩ := exists_path_run (ofSource source.toList)
  obtain ⟨ends, terminated⟩ := path.terminated
  rw [← whole] at terminated
  have exactly (i : Nat) : i ∈ ends ↔ EndsStatement source.toList i :=
    terminated.mem_iff.trans TokenStream.endsStatement_iff.symm
  refine ⟨ends, terminated.inserted, terminated.ordered, exactly, ?_⟩
  intro i member
  have statement := (exactly i).mp member
  exact ⟨statement.here, whole ▸ statement.terminates⟩

end CommandScript.Lexer
