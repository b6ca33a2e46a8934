import CommandScript.Proofs.Lexer.Emission
import CommandScript.Proofs.Lexer.Failure

/-!
Which tokens go over several lines. Outside of quotations a line feed ends whatever is being read, so
that a reader keeps none (`Inline`). A token whose text has a line feed was read between two quotes or
two backticks (`readQuoted_of_feed`).
-/
namespace CommandScript.Lexer

namespace Reader
variable {source : List Char} {first r : Reader} {c : Char} {tail : List Char} {action : Action} {token : Token}
  {tokens : List Token}

/-- Outside of quotations no line feed has been kept. -/
def Inline (r : Reader) : Prop := ¬ r.state.Quoted → '\n' ∉ r.text

theorem Inline.text_append (inline : r.Inline) (state : ¬ r.state.Quoted) (other : c ≠ '\n') :
    '\n' ∉ r.text ++ [c] := by
  intro member
  rcases List.mem_append.mp member with before | last
  · exact inline state before
  · exact other (List.mem_singleton.mp last).symm

theorem unquoted_of_eq {state : State} (here : r.state = state) (other : ¬ state.Quoted) : ¬ r.state.Quoted :=
  here ▸ other

theorem ne_feed_of_isDigit (digit : c.isDigit = true) : c ≠ '\n' := by
  rintro rfl
  contradiction

/-- What a step keeps outside of a quotation is no line feed. -/
theorem inline_moved (inline : r.Inline) (acts : Acts r c tail action) : (r.moved c tail action).Inline := by
  have start {next : State} (opens : r.Opens c tail) : '\n' ∉ (r.moved c tail (.keep next)).text :=
    inline.text_append (unquoted_of_eq opens.state id) (ne_feed opens.printed)
  have kept {state next : State} (here : r.state = state) (other : ¬ state.Quoted) (inside : c ≠ '\n') :
      '\n' ∉ (r.moved c tail (.keep next)).text :=
    inline.text_append (unquoted_of_eq here other) inside
  intro unquoted
  cases acts with
  | number opens => exact start opens
  | word opens => exact start opens
  | identifierChar state printed => exact kept state id (ne_feed printed)
  | wordChar state printed => exact kept state id (ne_feed printed)
  | numberPoint state point => exact kept state id (by rw [point]; decide)
  | numberDigit state digit => exact kept state id (ne_feed_of_isDigit digit)
  | quotationEscape | quotationChar | argEscape | argQuoted | argChar => exact absurd trivial unquoted
  | _ => simp [moved]

theorem inline_ofSource (source : List Char) : (ofSource source).Inline := by
  intro _ member
  contradiction

theorem Path.inline (path : Path (ofSource source) tokens r) : r.Inline := by
  induction path with
  | refl => exact inline_ofSource source
  | step path rest done ih =>
    obtain ⟨action, acts, rfl, rfl⟩ := acts_of_step done
    exact inline_moved ih acts

/-! ## Tokens -/

theorem operators_inline : ∀ pattern ∈ Operator.structural ++ Operator.arithmetic, '\n' ∉ pattern.1.toList := by
  simp [Operator.structural, Operator.arithmetic]

theorem units_inline : ∀ unit ∈ Quantity.units, '\n' ∉ unit.1.toList := by
  simp [Quantity.units]

theorem inline_pathPart {start : Nat} {part : List Char} (inline : '\n' ∉ part) :
    ∀ token ∈ pathPart start part, '\n' ∉ token.text.toList := by
  intro token member
  unfold pathPart at member
  split_ifs at member with empty implicit
  · contradiction
  · obtain rfl := List.mem_singleton.mp member
    simpa using inline
  · obtain rfl := List.mem_singleton.mp member
    simpa using inline

/-- No part of a path has a line feed that the path has not. -/
theorem inline_pathTokens {start : Nat} {part chars : List Char} (inline : '\n' ∉ part) (later : '\n' ∉ chars) :
    ∀ token ∈ pathTokens start part chars, '\n' ∉ token.text.toList := by
  induction chars generalizing start part with
  | nil => exact inline_pathPart inline
  | cons c chars ih =>
    intro token member
    rw [List.mem_cons, not_or] at later
    rw [pathTokens] at member
    split_ifs at member with point
    · rcases List.mem_append.mp member with before | behind
      · exact inline_pathPart inline token before
      · rcases List.mem_cons.mp behind with rfl | last
        · simp
        · exact ih (List.not_mem_nil) later.2 token last
    · refine ih ?_ later.2 token member
      intro among
      rcases List.mem_append.mp among with before | same
      · exact inline before
      · exact later.1 (List.mem_singleton.mp same)

/-- Only a quoted text or an argument that is emitted in a quotation can have a line feed. -/
theorem quoted_of_emitted (inline : r.Inline) (acts : Acts r c tail action) (member : token ∈ r.emitted action)
    (feed : '\n' ∈ token.text.toList) :
    r.state.Quoted ∧ (token.kind = .quotedString ∨ token.kind = .execArg) := by
  have mark {kind : Kind} (same : token = r.mark kind c) (other : c ≠ '\n') : False := by
    subst same
    simp [Reader.mark, Ne.symm other] at feed
  have lexeme {state : State} {kind : Kind} (here : r.state = state) (other : ¬ state.Quoted)
      (same : token = r.lexeme kind) : False := by
    subst same
    exact inline (unquoted_of_eq here other) (by simpa [Reader.lexeme] using feed)
  have argument {state : State} (here : r.state = state) (quoted : state.Quoted) (among : token ∈ r.argument) :
      r.state.Quoted ∧ (token.kind = .quotedString ∨ token.kind = .execArg) := by
    unfold Reader.argument at among
    split_ifs at among with empty
    · contradiction
    · obtain rfl := List.mem_singleton.mp among
      exact ⟨here ▸ quoted, Or.inr rfl⟩
  cases acts with
  | newline =>
    obtain rfl := eq_terminator member
    contradiction
  | operator _ _ found =>
    obtain rfl := List.mem_singleton.mp member
    obtain ⟨pattern, listed, spelled, _⟩ := operator?_eq_some found
    have none := operators_inline _ listed
    rw [spelled] at none
    exact absurd feed (by simpa using none)
  | dot opens point =>
    exact (mark (List.mem_singleton.mp member) (by rw [point]; decide)).elim
  | identifierDot state _ point =>
    rcases List.mem_cons.mp member with same | later
    · exact (lexeme state id same).elim
    · exact (mark (List.mem_singleton.mp later) (by rw [point]; decide)).elim
  | identifierEnd state => exact (lexeme state id (List.mem_singleton.mp member)).elim
  | quotationEnd state =>
    obtain rfl := List.mem_singleton.mp member
    refine ⟨by rw [state]; trivial, ?_⟩
    by_cases sticky : r.context.prev = some .execArg
    · exact Or.inr (by simp [Reader.lexeme, sticky])
    · exact Or.inl (by simp [Reader.lexeme, sticky])
  | argUnquote state =>
    obtain rfl := List.mem_singleton.mp member
    exact ⟨by rw [state]; trivial, Or.inr rfl⟩
  | argPipe state bar =>
    rcases List.mem_append.mp member with before | same
    · exact argument state trivial before
    · exact (mark (List.mem_singleton.mp same) (by rw [bar]; decide)).elim
  | argListEnd state => exact argument state trivial member
  | argBlank state => exact argument state trivial member
  | wordDot state point =>
    rcases List.mem_cons.mp member with same | later
    · exact (lexeme state id same).elim
    · exact (mark (List.mem_singleton.mp later) (by rw [point]; decide)).elim
  | wordReserved state => exact (lexeme state id (List.mem_singleton.mp member)).elim
  | wordEnd state => exact (lexeme state id (List.mem_singleton.mp member)).elim
  | wordPath state =>
    have kept := inline (unquoted_of_eq state id)
    exact absurd feed (inline_pathTokens List.not_mem_nil kept token member)
  | numberRange state => exact (lexeme state id (List.mem_singleton.mp member)).elim
  | numberEnd state => exact (lexeme state id (List.mem_singleton.mp member)).elim
  | numberUnit state _ _ lower known =>
    subst lower
    obtain rfl := List.mem_singleton.mp member
    have kept := inline (unquoted_of_eq state id)
    have unit := units_inline _ (Quantity.mem_units_of_ofUnit? known)
    simp [measured, kept, unit] at feed
  | _ => contradiction

end Reader

/-- A quoted text or an argument that a reader emits between two quotes or two backticks. -/
def ReadQuoted (source : List Char) (token : Token) : Prop :=
  (token.kind = .quotedString ∨ token.kind = .execArg) ∧
    ∃ tokens r c tail action, Reader.Path (.ofSource source) tokens r ∧ r.rest = c :: tail ∧ r.state.Quoted ∧
      Reader.Acts r c tail action ∧ token ∈ r.emitted action

/-- A token whose text has a line feed was read in a quotation. -/
theorem readQuoted_of_feed {source : String} {token : Token} (member : token ∈ (TokenStream.ofSource source).tokens)
    (feed : '\n' ∈ token.text.toList) : ReadQuoted source.toList token := by
  obtain ⟨tokens, r, c, tail, action, path, rest, acts, among⟩ := TokenStream.emitted_of_mem member
  obtain ⟨quoted, kind⟩ := Reader.quoted_of_emitted path.inline acts among feed
  exact ⟨kind, tokens, r, c, tail, action, path, rest, quoted, acts, among⟩

end CommandScript.Lexer
