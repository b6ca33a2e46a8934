import CommandScript.Proofs.Lexer.Emission
import CommandScript.Proofs.Lexer.Line
import CommandScript.Proofs.Lexer.Writing

/-!
Brackets and command arguments. A reader knows how many brackets are open behind what it has
emitted, whatever line feeds came in between (`Path.inBrackets_iff`). A word is a command only
where none is open, and only a command or a list between backticks makes arguments of what comes
behind it, so without a backtick all of a bracket's inside is read as an expression.
-/
namespace CommandScript.Lexer
variable {source : List Char} {tokens : List Token} {token : Token}

namespace Context

theorem afterAll_append (context : Context) (kinds later : List Kind) :
    context.afterAll (kinds ++ later) = (context.afterAll kinds).afterAll later :=
  List.foldl_append

theorem prev_afterAll (context : Context) (kinds : List Kind) :
    (context.afterAll kinds).prev = kinds.getLast?.or context.prev := by
  rcases List.eq_nil_or_concat kinds with rfl | ⟨earlier, last, rfl⟩
  · rfl
  · rw [List.concat_eq_append, afterAll_append, List.getLast?_concat]
    exact Reader.prev_after (context.afterAll earlier) last

theorem newline_afterAll_newline (context : Context) (kinds : List Kind) :
    (context.newline.afterAll kinds).newline = (context.afterAll kinds).newline := by
  induction kinds generalizing context with
  | nil => rfl
  | cons kind kinds ih =>
    have once : (context.newline.after kind).newline = (context.after kind).newline := by
      cases kind <;> rfl
    calc ((context.newline.after kind).afterAll kinds).newline
        = ((context.newline.after kind).newline.afterAll kinds).newline := (ih _).symm
      _ = ((context.after kind).newline.afterAll kinds).newline := by rw [once]
      _ = ((context.after kind).afterAll kinds).newline := ih _

theorem inBrackets_of_newline {context other : Context} (same : context.newline = other.newline) :
    context.inBrackets = other.inBrackets :=
  show context.newline.inBrackets = other.newline.inBrackets from congrArg inBrackets same

theorem parens_of_newline {context other : Context} (same : context.newline = other.newline) :
    context.parens = other.parens :=
  show context.newline.parens = other.newline.parens from congrArg parens same

end Context

/-- Tokens that are no brackets leave the brackets before them open. -/
theorem newline_afterAll_append {kinds later : List Kind} (others : ∀ kind ∈ later, kind ∉ Context.brackets) :
    (Context.afterAll {} (kinds ++ later)).newline = (Context.afterAll {} kinds).newline := by
  rw [Context.afterAll_append]
  exact Context.newline_afterAll _ others

theorem nested_append_iff {kinds later : List Kind} (others : ∀ kind ∈ later, kind ∉ Context.brackets) :
    Nested (kinds ++ later) ↔ Nested kinds := by
  rw [← inBrackets_iff, ← inBrackets_iff, Context.inBrackets_of_newline (newline_afterAll_append others)]

theorem openParens_append {kinds later : List Kind} (others : ∀ kind ∈ later, kind ∉ Context.brackets) :
    openBrackets .parenOpen .parenClose (kinds ++ later) = openBrackets .parenOpen .parenClose kinds := by
  rw [← (depths_afterAll _).1, ← (depths_afterAll _).1, Context.parens_of_newline (newline_afterAll_append others)]

/-! ## Where a command argument comes from -/

theorem keyword_ne_execArg : ∀ keyword ∈ keywords, keyword.2 ≠ .execArg := by
  decide

/-- A bare word is an argument behind another one, or where no bracket is open. -/
theorem wordKind_eq_execArg {context : Context} {word : List Char} (argument : wordKind context word = .execArg) :
    context.prev = some .execArg ∨ context.inBrackets = false := by
  unfold wordKind at argument
  split at argument
  · rename_i sticky
    exact Or.inl (by simpa using sticky)
  · split at argument
    · rename_i kind found
      exact absurd argument (keyword_ne_execArg _ (Entries.mem_of_lookup found))
    · split_ifs at argument with implicit named
      simp only [Bool.or_eq_true, not_or, Bool.not_eq_true] at named
      exact Or.inr named.1

namespace Reader
variable {r : Reader} {c : Char} {tail : List Char} {action : Action}

theorem numberKind_eq_execArg {context : Context} {hasPoint : Bool}
    (argument : numberKind context hasPoint = .execArg) : context.prev = some .execArg := by
  unfold numberKind at argument
  split_ifs at argument with sticky
  simpa using sticky

theorem numberKind_bracketless (context : Context) (hasPoint : Bool) : numberKind context hasPoint ∉ Context.brackets := by
  unfold numberKind
  split_ifs <;> decide

/-- Brackets are read between two tokens only. -/
theorem bracketless_of_inside (acts : Acts r c tail action) (inside : r.state ≠ .start) :
    ∀ token ∈ r.emitted action, token.kind ∉ Context.brackets := by
  have single {token : Token} (other : token.kind ∉ Context.brackets) :
      ∀ only ∈ [token], only.kind ∉ Context.brackets := List.forall_mem_singleton.mpr other
  have argued : ∀ token ∈ r.argument, token.kind ∉ Context.brackets := by
    unfold argument
    split_ifs
    · simp
    · exact single (show Kind.execArg ∉ Context.brackets by decide)
  have word : wordKind r.context r.text ∉ Context.brackets := wordKind_bracketless _ _
  have point : (r.mark .dot c).kind ∉ Context.brackets := show Kind.dot ∉ Context.brackets by decide
  cases acts with
  | operator state | blank state => exact absurd state inside
  | dot opens => exact absurd opens.state inside
  | newline =>
    intro token member
    obtain rfl := eq_terminator member
    exact show Kind.semicolon ∉ Context.brackets by decide
  | identifierDot => exact List.forall_mem_cons.mpr ⟨show Kind.name ∉ Context.brackets by decide, single point⟩
  | identifierEnd => exact single (show Kind.name ∉ Context.brackets by decide)
  | quotationEnd =>
    apply single
    unfold lexeme
    dsimp only
    split_ifs <;> decide
  | argUnquote => exact single (show Kind.execArg ∉ Context.brackets by decide)
  | argPipe =>
    exact List.forall_mem_append.mpr ⟨argued, single (show Kind.pipe ∉ Context.brackets by decide)⟩
  | argListEnd | argBlank => exact argued
  | wordDot => exact List.forall_mem_cons.mpr ⟨word, single point⟩
  | wordReserved | wordEnd => exact single word
  | wordPath => exact fun token member => (mem_pathTokens token member).1
  | numberRange | numberEnd => exact single (numberKind_bracketless _ _)
  | numberUnit =>
    apply single
    unfold measured
    dsimp only
    split_ifs <;> decide
  | _ => simp [Reader.emitted]

/-- Arguments are not read between two tokens. -/
theorem inside_of_argument (acts : Acts r c tail action) (member : token ∈ r.emitted action)
    (kind : token.kind = .execArg) : r.state ≠ .start := by
  intro between
  cases acts with
  | newline =>
    obtain rfl := eq_terminator member
    contradiction
  | operator _ _ found =>
    obtain rfl := List.mem_singleton.mp member
    obtain ⟨pattern, listed, _⟩ := operator?_eq_some found
    have others : ∀ pattern ∈ Operator.structural ++ Operator.arithmetic, pattern.2 ≠ .execArg := by decide
    exact others _ listed kind
  | dot =>
    obtain rfl := List.mem_singleton.mp member
    contradiction
  | number | word | comment | blank | identifier | quotation | argList => simp [Reader.emitted] at member
  | _ => simp_all

/-- What is read as an argument, outside of a list between backticks, stands behind another argument or
    where no bracket is open. -/
theorem outside_of_argument (acts : Acts r c tail action)
    (unlisted : ∀ escaped quote, r.state ≠ .quotedArgList escaped quote) (member : token ∈ r.emitted action)
    (kind : token.kind = .execArg) : r.context.prev = some .execArg ∨ r.context.inBrackets = false := by
  have inside := inside_of_argument acts member kind
  cases acts with
  | newline =>
    obtain rfl := eq_terminator member
    contradiction
  | operator state => exact absurd state inside
  | dot opens => exact absurd opens.state inside
  | identifierDot =>
    rcases List.mem_pair.mp member with rfl | rfl <;> contradiction
  | identifierEnd =>
    obtain rfl := List.mem_singleton.mp member
    contradiction
  | quotationEnd =>
    obtain rfl := List.mem_singleton.mp member
    left
    by_contra plain
    simp [lexeme, plain] at kind
  | argUnquote state | argPipe state | argListEnd state | argBlank state => exact absurd state (unlisted _ _)
  | wordDot _ _ _ named =>
    rcases List.mem_pair.mp member with rfl | rfl
    · exact wordKind_eq_execArg kind
    · contradiction
  | wordReserved | wordEnd =>
    obtain rfl := List.mem_singleton.mp member
    exact wordKind_eq_execArg kind
  | wordPath =>
    have others : ∀ kind ∈ pathKinds, kind ≠ .execArg := by decide
    exact absurd kind (others _ (kind_pathTokens token member))
  | numberRange | numberEnd =>
    obtain rfl := List.mem_singleton.mp member
    exact Or.inl (numberKind_eq_execArg kind)
  | @numberUnit hasPoint =>
    obtain rfl := List.mem_singleton.mp member
    cases hasPoint <;> contradiction
  | _ => simp [Reader.emitted] at member

/-! ## Up to a place in the source -/

/-- A reader knows the brackets that are open behind the tokens that were emitted. -/
theorem Path.newline_context (path : Path (ofSource source) tokens r) :
    r.context.newline = (Context.afterAll {} (tokens.map (·.kind))).newline := by
  induction path with
  | refl => rfl
  | @step r next c tail tokens emitted path rest done ih =>
    obtain ⟨action, _, rfl, rfl⟩ := acts_of_step done
    rw [List.map_append, Context.afterAll_append, ← Context.newline_afterAll_newline, ← ih,
      Context.newline_afterAll_newline]
    cases action with
    | keep => rfl
    | emit => rfl
    | newline =>
      rcases r.emitted_newline with none | terminator
      · rw [none]
        rfl
      · rw [terminator]
        rfl

theorem Path.parens_eq (path : Path (ofSource source) tokens r) :
    r.context.parens = openBrackets .parenOpen .parenClose (tokens.map (·.kind)) := by
  rw [← (depths_afterAll _).1, Context.parens_of_newline path.newline_context]

theorem Path.inBrackets_iff (path : Path (ofSource source) tokens r) :
    r.context.inBrackets = true ↔ Nested (tokens.map (·.kind)) := by
  rw [← Lexer.inBrackets_iff, Context.inBrackets_of_newline path.newline_context]

/-- Where an argument was the last token of its line, no bracket is open. -/
theorem Path.closed_of_sticky (path : Path (ofSource source) tokens r) (plain : backtick ∉ source)
    (sticky : r.context.prev = some .execArg) : r.context.inBrackets = false := by
  induction path with
  | refl => contradiction
  | @step r next c tail tokens emitted path rest done ih =>
    obtain ⟨action, acts, rfl, rfl⟩ := acts_of_step done
    have unlisted : ∀ escaped quote, r.state ≠ .quotedArgList escaped quote :=
      fun _ _ state => plain (path.backtick_mem state)
    cases action with
    | keep => exact ih sticky
    | newline => contradiction
    | emit emitted count next =>
      have last : (emitted.getLast?.map (·.kind)).or r.context.prev = some .execArg := by
        rw [← List.getLast?_map, ← Context.prev_afterAll]
        exact sticky
      cases newest : emitted.getLast? with
      | none =>
        rw [List.getLast?_eq_none_iff.mp newest] at last ⊢
        exact ih last
      | some token =>
        rw [newest] at last
        have kind : token.kind = .execArg := Option.some.inj last
        have member : token ∈ r.emitted (.emit emitted count next) := List.mem_of_getLast? newest
        have outside : r.context.inBrackets = false := (outside_of_argument acts unlisted member kind).elim ih id
        have same : (r.context.afterAll (emitted.map (·.kind))).newline = r.context.newline := by
          apply Context.newline_afterAll
          exact List.forall_mem_map.mpr (bracketless_of_inside acts (inside_of_argument acts member kind))
        exact (Context.inBrackets_of_newline same).trans outside

end Reader

/-- In a source without a backtick no command argument is read inside of brackets, and all operators can be
    read there. -/
theorem arguments_outside_brackets {source : String} (plain : Reader.backtick ∉ source.toList) :
    (∀ before token after, (TokenStream.ofSource source).tokens = before ++ token :: after →
      token.kind = .execArg → ¬ Nested (before.map (·.kind))) ∧
    ∀ tokens r, Reader.Path (.ofSource source.toList) tokens r → Nested (tokens.map (·.kind)) →
      r.context.prev ≠ some .execArg ∧ Reader.operators r.context = Operator.fullTrie := by
  constructor
  · intro before token after split kind
    obtain ⟨r, c, tail, action, front, behind, ⟨tokens, path, parts⟩, rest, acts, emits⟩ :=
      TokenStream.emitting split
    have member : token ∈ r.emitted action := by
      rw [emits]
      exact List.mem_append_cons_self
    have unlisted : ∀ escaped quote, r.state ≠ .quotedArgList escaped quote :=
      fun _ _ state => plain (path.backtick_mem state)
    have outside : r.context.inBrackets = false :=
      (Reader.outside_of_argument acts unlisted member kind).elim (path.closed_of_sticky plain) id
    -- the tokens before it in its step are no brackets
    have others : ∀ kind ∈ front.map (·.kind), kind ∉ Context.brackets := by
      intro other found
      obtain ⟨earlier, among, rfl⟩ := List.mem_map.mp found
      apply Reader.bracketless_of_inside acts (Reader.inside_of_argument acts member kind)
      rw [emits]
      exact List.mem_append_left _ among
    rw [parts, List.map_append, nested_append_iff others, ← path.inBrackets_iff, outside]
    exact Bool.false_ne_true
  · intro tokens r path nested
    have inside : r.context.inBrackets = true := path.inBrackets_iff.mpr nested
    refine ⟨fun sticky => ?_, by simp [Reader.operators, inside]⟩
    rw [path.closed_of_sticky plain sticky] at inside
    contradiction

/-- The tokens of a name between brackets that do not match, and of the end of its line. -/
def mismatchedLine : List Token :=
  [⟨⟨0, 1⟩, .parenOpen, "("⟩, ⟨⟨1, 1⟩, .squareOpen, "["⟩, ⟨⟨2, 1⟩, .name, "a"⟩, ⟨⟨3, 1⟩, .parenClose, ")"⟩,
    ⟨⟨4, 1⟩, .squareClose, "]"⟩, .terminator 5]

/-- A command is read where each sort of bracket is closed, in whatever order. -/
theorem arguments_outside_mismatched :
    Reader.backtick ∉ "([a)]\nls".toList ∧
      (TokenStream.ofSource "([a)]\nls").tokens = mismatchedLine ++ [⟨⟨6, 2⟩, .execArg, "ls"⟩] ∧
      ¬ Nested (mismatchedLine.map (·.kind)) := by
  have plain : Reader.backtick ∉ "([a)]\nls".toList := by decide
  have done : (Reader.ofSource "([a)]\nls".toList).steps 12 = some (
      mismatchedLine ++ [⟨⟨6, 2⟩, .execArg, "ls"⟩], ⟨.comment, ⟨some .execArg, 0, 0, 0⟩, 10, [], []⟩) := rfl
  have split : (TokenStream.ofSource "([a)]\nls").tokens = mismatchedLine ++ [⟨⟨6, 2⟩, .execArg, "ls"⟩] := by
    rw [TokenStream.tokens_ofSource, lex, (Reader.path_of_steps done).run_eq, Reader.run_nil rfl]
    rfl
  exact ⟨plain, split, (arguments_outside_brackets plain).1 _ _ _ split rfl⟩

end CommandScript.Lexer
