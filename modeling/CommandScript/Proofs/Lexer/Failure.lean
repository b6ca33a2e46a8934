import CommandScript.Proofs.Lexer.Coverage
import CommandScript.Proofs.Lexer.Fidelity
import CommandScript.Proofs.Lexer.Lookahead
import Mathlib.Logic.ExistsUnique

/-!
Why and where a source can not be read. An error names a character of the source; or the name
behind an `@` is empty at the end of the source; or a quotation is open at the end of the padding.
No other state gets past the padding, and nothing else fails on it.
-/
namespace CommandScript.Lexer

/-- Between two quotes or two backticks. -/
def State.Quoted : State → Prop
  | .quotedLiteral _ _ | .quotedArgList _ _ => True
  | _ => False

/-- The states in which a problem can arise. -/
def Problem.ArisesIn : Problem → State → Prop
  | .unimplementedChar, state => state = .start
  | .unexpectedChar, state => state = .identifier ∨ state = .unquotedLiteral ∨ ∃ hasPoint, state = .number hasPoint
  | .unexpectedEnd, state => state.Quoted
  | .emptyIdentifier, state => state = .identifier
  | .unknownUnit _, state => ∃ hasPoint, state = .number hasPoint

/-- Where an error is found. -/
inductive ErrorPlace
  /-- at a character of the source -/
  | inside
  /-- at the blank behind the source -/
  | behind
  /-- at the end of the padding -/
  | ending

/-- What an error says if this is its place. -/
def Located (source : List Char) (error : LexError) : ErrorPlace → Prop
  | .inside => error.offset < source.length ∧ error.found = source[error.offset]? ∧ error.problem ≠ .unexpectedEnd
  | .behind => error.offset = source.length ∧ error.found = some ' ' ∧ error.problem = .emptyIdentifier
  | .ending => error.offset = source.length + padding.length ∧ error.found = none ∧
      error.problem = .unexpectedEnd ∧ error.state.Quoted

namespace Reader
variable {source : List Char} {r : Reader} {c : Char} {tail : List Char} {tokens : List Token} {problem : Problem}
  {error : LexError}

/-! ## Outside of quotations -/

theorem Idle.unquoted (idle : r.Idle) : ¬ r.state.Quoted := by
  rcases idle with state | state <;> simp [state, State.Quoted]

theorem idle_or_endsAtFeed_of_unquoted (unquoted : ¬ r.state.Quoted) : r.Idle ∨ EndsAtFeed r.state := by
  cases state : r.state with
  | start => exact Or.inl (Or.inl state)
  | comment => exact Or.inl (Or.inr state)
  | identifier | unquotedLiteral | number => exact Or.inr trivial
  | quotedLiteral | quotedArgList =>
    rw [state] at unquoted
    exact absurd trivial unquoted

/-! ## One character -/

/-- Why a reader can do nothing with the character `c`, when `tail` comes after it. -/
inductive Fails (r : Reader) (c : Char) (tail : List Char) : Problem → Prop
  | unbegun (opens : r.Opens c tail) (digitless : c.isDigit = false) (letterless : Text.isAlphabetic c = false)
    (others : c ∉ wordSymbols ∧ c ∉ ['#', '@', '"', '\'', backtick]) : Fails r c tail .unimplementedChar
  | nameless (state : r.state = .identifier) (empty : r.text = [])
    (stop : Text.isBlank c = true ∨ c ∈ identifierEnds) : Fails r c tail .emptyIdentifier
  | signInName (state : r.state = .identifier) (sign : c = '@') : Fails r c tail .unexpectedChar
  | signInWord (state : r.state = .unquotedLiteral) (sign : c = '@') : Fails r c tail .unexpectedChar
  | secondPoint (state : r.state = .number true) (point : c = '.') (single : tail.head? ≠ some '.') :
    Fails r c tail .unexpectedChar
  | unknownUnit {hasPoint : Bool} {unit : String} (state : r.state = .number hasPoint)
    (plain : numberKind r.context hasPoint ≠ .execArg) (letter : Text.isAlphabetic c = true)
    (lower : unit = Text.lowerCase (String.ofList ((c :: tail).takeWhile Text.isAlphabetic)))
    (unknown : Quantity.ofUnit? unit = none) : Fails r c tail (.unknownUnit unit)

private theorem start_fails (state : r.state = .start) (failed : r.startAction c tail = .error problem) :
    Fails r c tail problem := by
  unfold startAction at failed
  by_cases feed : c = '\n'
  · simp [feed] at failed
  rw [if_neg feed] at failed
  by_cases blank : Text.isBlank c = true
  · simp [blank] at failed
  rw [if_neg blank] at failed
  split at failed
  · simp at failed
  rename_i unread
  have opens : r.Opens c tail := ⟨state, by simpa using blank, unread⟩
  split_ifs at failed with digit point word hash sign quote list
  obtain rfl := Except.error.inj failed
  simp only [Bool.or_eq_true, not_or, Bool.not_eq_true, List.contains_eq_mem, decide_eq_true_eq] at digit word quote
  refine .unbegun opens digit.1 word.1 ⟨by simpa using word.2, ?_⟩
  simp [hash, sign, quote, list]

private theorem identifier_fails (state : r.state = .identifier)
    (failed : r.identifierAction c tail = .error problem) : Fails r c tail problem := by
  unfold identifierAction at failed
  split_ifs at failed with point empty stop empty double
  · obtain rfl := Except.error.inj failed
    simp only [Bool.and_eq_true, decide_eq_true_eq] at point
    refine .nameless state (by simpa using empty) (.inr ?_)
    rw [point.1]
    decide
  · obtain rfl := Except.error.inj failed
    exact .nameless state (by simpa using empty) (by simpa using stop)
  · obtain rfl := Except.error.inj failed
    exact .signInName state double

private theorem word_fails (state : r.state = .unquotedLiteral)
    (failed : r.unquotedLiteralAction c tail = .error problem) : Fails r c tail problem := by
  unfold unquotedLiteralAction at failed
  dsimp only at failed
  rw [← ahead] at failed
  split_ifs at failed with dot mark reserved stop sign
  obtain rfl := Except.error.inj failed
  exact .signInWord state sign

private theorem number_fails {hasPoint : Bool} (state : r.state = .number hasPoint)
    (failed : r.numberAction hasPoint c tail = .error problem) : Fails r c tail problem := by
  unfold numberAction at failed
  by_cases point : c = '.'
  · simp only [point, ↓reduceIte] at failed
    split_ifs at failed with double decimal
    obtain rfl := Except.error.inj failed
    subst decimal
    exact .secondPoint state point double
  rw [if_neg point] at failed
  by_cases digit : c.isDigit = true
  · simp [digit] at failed
  rw [if_neg digit] at failed
  split_ifs at failed with letter
  simp only [Bool.and_eq_true, bne_iff_ne] at letter
  dsimp only at failed
  split at failed
  · simp at failed
  · rename_i unknown
    obtain rfl := Except.error.inj failed
    exact .unknownUnit state letter.1 letter.2 rfl unknown

/-- Every action that fails does so for one of these reasons. -/
theorem fails_of_action (failed : r.action c tail = .error problem) : Fails r c tail problem := by
  unfold Reader.action at failed
  cases state : r.state <;> rw [state] at failed <;> dsimp only at failed
  case start => exact start_fails state failed
  case identifier => exact identifier_fails state failed
  case unquotedLiteral => exact word_fails state failed
  case number => exact number_fails state failed
  all_goals contradiction

theorem fails_of_step (failed : r.step c tail = .error error) :
    Fails r c tail error.problem ∧ error = ⟨error.problem, r.head, some c, r.state⟩ := by
  unfold step at failed
  split at failed
  · simp at failed
  · rename_i acted
    obtain rfl := Except.error.inj failed
    exact ⟨fails_of_action acted, rfl⟩

theorem Fails.arisesIn (fails : Fails r c tail problem) : problem.ArisesIn r.state := by
  cases fails with
  | unbegun opens => exact opens.state
  | nameless state => exact state
  | signInName state => exact .inl state
  | signInWord state => exact .inr (.inl state)
  | secondPoint state => exact .inr (.inr ⟨_, state⟩)
  | unknownUnit state => exact ⟨_, state⟩

/-- Nothing ends unexpectedly at a character. -/
theorem Fails.ne_unexpectedEnd (fails : Fails r c tail problem) : problem ≠ .unexpectedEnd := by
  cases fails <;> exact Problem.noConfusion

/-- On the padding only an empty name fails, and that at its blank. -/
theorem Fails.of_padding (fails : Fails r c tail problem) (padded : c = ' ' ∨ c = '#') :
    c = ' ' ∧ problem = .emptyIdentifier := by
  cases fails with
  | unbegun opens _ _ others =>
    rcases padded with rfl | rfl
    · exact absurd opens.printed (by decide)
    · exact absurd others.2 (by decide)
  | nameless _ _ stop =>
    rcases padded with rfl | rfl
    · exact ⟨rfl, rfl⟩
    · rcases stop with blank | mark
      · exact absurd blank (by decide)
      · exact absurd mark (by decide)
  | signInName _ sign =>
    subst sign
    exact absurd padded (by decide)
  | signInWord _ sign =>
    subst sign
    exact absurd padded (by decide)
  | secondPoint _ point =>
    subst point
    exact absurd padded (by decide)
  | unknownUnit _ _ letter =>
    obtain ⟨printed, other⟩ := ne_padding_of_isAlphabetic letter
    exact absurd padded (not_or.mpr ⟨printed, other⟩)

/-! ## The end of the input -/

/-- Between tokens there is always something left to read: the last character of the padding opens a
    comment. -/
theorem Path.rest_ne_nil (path : Path (ofSource source) tokens r) (between : r.state = .start) : r.rest ≠ [] := by
  cases path with
  | refl => simp [ofSource, padding]
  | @step r _ c tail tokens emitted path rest done =>
    have standing := path.standing_ofSource
    obtain ⟨action, acts, rfl, rfl⟩ := acts_of_step done
    have standing' := standing_moved standing rest acts
    -- one character is not the last if it is not `#`
    have one (other : c ≠ '#') : tail ≠ [] := by
      have within := standing.two_le rest other
      rintro rfl
      simp [rest] at within
    -- tokens lie in the source, so the padding is left behind them
    have behind {token : Token} (member : token ∈ r.emitted action)
        (stop : token.span.stop = (r.moved c tail action).head) : (r.moved c tail action).rest ≠ [] := by
      have inside := ((laid_emitted standing rest acts).of_mem member).2.1
      have counts := standing'.counts
      intro ended
      rw [ended, ← stop] at counts
      simp at counts
      omega
    cases acts with
    | newline _ feed => exact one (by rw [feed]; decide)
    | blank _ blank =>
      apply one
      rintro rfl
      revert blank
      decide
    | operator => exact behind (List.mem_singleton_self _) rfl
    | dot _ point => exact one (by rw [point]; decide)
    | quotationEnd state closes =>
      have quoted : c = '"' ∨ c = '\'' := closes ▸ standing.suits_of state
      exact one (ne_hash_of_quote quoted)
    | argListEnd _ closes => exact one (by rw [closes]; decide)
    | wordDot _ point => exact one (by rw [point]; decide)
    | numberUnit =>
      refine behind (List.mem_singleton_self _) ?_
      simp [measured, Span.stop, moved, head, Nat.add_assoc]
    | identifierEnd | wordReserved | wordPath | wordEnd | numberRange | numberEnd => simp [moved]
    | _ => simp [moved] at between

/-- At the end of the input a reader is in a comment, or a quotation is open. -/
theorem Path.state_of_nil (path : Path (ofSource source) tokens r) (rest : r.rest = []) :
    r.state = .comment ∨ r.state.Quoted := by
  have suits := path.standing_ofSource.suits
  cases state : r.state with
  | start => exact absurd rest (path.rest_ne_nil state)
  | comment => exact Or.inl rfl
  | quotedLiteral quote escaped => exact Or.inr trivial
  | quotedArgList escaped quote => exact Or.inr trivial
  | identifier | unquotedLiteral | number =>
    rw [state, rest] at suits
    simp [Suits] at suits

/-- What a reader fails on is a character of the source, or the blank behind it. -/
theorem located_of_failed (path : Path (ofSource source) tokens r) (rest : r.rest = c :: tail)
    (failed : r.step c tail = .error error) : Located source error .inside ∨ Located source error .behind := by
  have standing := path.standing_ofSource
  obtain ⟨fails, same⟩ := fails_of_step failed
  have offset : error.offset = r.head := by rw [same]
  have found : error.found = some c := by rw [same]
  by_cases inside : r.head < source.length
  · left
    refine ⟨offset ▸ inside, ?_, fails.ne_unexpectedEnd⟩
    rw [offset, found, standing.here rest inside]
  · right
    have counts := standing.counts
    have first : r.rest[0]? = some c := by simp [rest]
    have late := standing.late first (by simp at counts ⊢; omega)
    obtain ⟨blank, problem⟩ := fails.of_padding (late.symm.imp And.right And.right)
    subst blank
    have two : 2 = r.rest.length := by
      rcases late with ⟨_, hash⟩ | ⟨length, _⟩
      · exact absurd hash (by decide)
      · exact length
    refine ⟨?_, found, problem⟩
    rw [offset]
    simp at counts
    omega

/-- What ends too early is a quotation. -/
theorem located_of_finish (path : Path (ofSource source) tokens r) (rest : r.rest = [])
    (finished : r.finish = some error) : Located source error .ending := by
  have counts := path.standing_ofSource.counts
  unfold finish at finished
  split_ifs at finished with commented
  obtain rfl := Option.some.inj finished
  refine ⟨?_, rfl, rfl, (path.state_of_nil rest).resolve_left commented⟩
  simpa [rest] using counts

end Reader

theorem Located.unique {source : List Char} {error : LexError} {place other : ErrorPlace}
    (located : Located source error place) (again : Located source error other) : place = other := by
  cases place with
  | inside =>
    have before : error.offset < source.length := located.1
    cases other with
    | inside => rfl
    | behind => exact absurd again.1 (Nat.ne_of_lt before)
    | ending => exact absurd again.1 (Nat.ne_of_lt (Nat.lt_add_right _ before))
  | behind =>
    have here : error.offset = source.length := located.1
    cases other with
    | inside => exact absurd here (Nat.ne_of_lt again.1)
    | behind => rfl
    | ending =>
      have last : error.offset = source.length + padding.length := again.1
      rw [length_padding] at last
      omega
  | ending =>
    have last : error.offset = source.length + padding.length := located.1
    rw [length_padding] at last
    cases other with
    | inside =>
      have before : error.offset < source.length := again.1
      omega
    | behind =>
      have here : error.offset = source.length := again.1
      omega
    | ending => rfl

/-- A source that can not be read fails in exactly one place: at a character of the source; or, where an `@`
    has no name behind it, at the blank that follows the source; or, where a quotation is open, at the end of
    the padding. And each problem arises in its own states only. -/
theorem error_located {source : String} {error : LexError} (failed : tokenize source = .error error) :
    (∃! place, Located source.toList error place) ∧ error.problem.ArisesIn error.state := by
  obtain ⟨tokens, last, path, stops⟩ := tokenize_eq_error_iff.mp failed
  cases stops with
  | ended rest finished =>
    have located := Reader.located_of_finish path rest finished
    refine ⟨⟨.ending, located, fun other again => again.unique located⟩, ?_⟩
    rw [located.2.2.1]
    exact located.2.2.2
  | failed rest failed =>
    obtain ⟨fails, same⟩ := Reader.fails_of_step failed
    have state : error.state = last.state := by rw [same]
    refine ⟨?_, state ▸ fails.arisesIn⟩
    rcases Reader.located_of_failed path rest failed with inside | behind
    · exact ⟨.inside, inside, fun other again => again.unique inside⟩
    · exact ⟨.behind, behind, fun other again => again.unique behind⟩

/-- The name behind the `@` is missed at the blank that follows the source. -/
theorem error_located_nameless :
    tokenize "x := @" = .error ⟨.emptyIdentifier, 6, some ' ', .identifier⟩ ∧
      (∃! place, Located "x := @".toList ⟨.emptyIdentifier, 6, some ' ', .identifier⟩ place) ∧
      Problem.ArisesIn .emptyIdentifier .identifier := by
  have done : (Reader.ofSource "x := @".toList).steps 6 = some ([⟨⟨0, 1⟩, .name, "x"⟩, ⟨⟨2, 2⟩, .declare, ":="⟩],
      ⟨.identifier, ⟨some .declare, 0, 0, 0⟩, 6, [], [' ', '#']⟩) := rfl
  have failed : tokenize "x := @" = .error ⟨.emptyIdentifier, 6, some ' ', .identifier⟩ :=
    tokenize_eq_error_iff.mpr ⟨_, _, Reader.path_of_steps done, .failed rfl rfl⟩
  exact ⟨failed, error_located failed⟩

end CommandScript.Lexer
