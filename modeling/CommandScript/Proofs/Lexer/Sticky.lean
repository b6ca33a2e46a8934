import CommandScript.Proofs.Lexer.Bracket

/-!
Behind a command argument, up to the end of the line, what is read is an argument too. The reader
remembers the last token of its line (`Path.remembers`) and the brackets that are open
(`Path.inBrackets_iff`), and from these alone it decides what a word, a number, a quotation or an
operator is.
-/
namespace CommandScript.Lexer

/-- The last of some tokens that was read rather than inserted. -/
def lastRead? (tokens : List Token) : Option Token := (tokens.filter fun token => !token.isSynthetic).getLast?

/-- A bare word lies between these offsets, and a call, a declaration or an assignment follows it. -/
structure CalledWord (source : List Char) (start stop : Nat) : Prop where
  word : ∃ tokens r, Reader.Path (.ofSource source) tokens r ∧ r.state = .unquotedLiteral ∧ r.start = start ∧
    r.head = stop
  call : CallFollows (source.drop stop)

/-- How a name can be read behind a command argument: it begins behind an `@`, or it is a part of a word
    that a call, a declaration or an assignment follows. -/
inductive Names (source : List Char) (token : Token) : Prop
  | sign {i : Nat} (opens : Turns source i '@' .start .identifier) (name : token.kind = .name)
    (behind : token.span.offset = i + 1)
  | called {start stop : Nat} (word : CalledWord source start stop) (from_le : start ≤ token.span.offset)
    (le_stop : token.span.stop ≤ stop)

/-- The kinds of numbers and quotations. -/
def valueKinds : List Kind := [.integer, .float, .unitInteger, .unitFloat, .quotedString]

/-- What a token can be that comes behind a command argument on its line, with these tokens before it. -/
structure Sticks (source : List Char) (before : List Token) (token : Token) : Prop where
  valueless : token.kind ∉ valueKinds
  unreserved : keyword? token.text ≠ some token.kind
  names : token.kind ∈ pathKinds → Names source token
  unarithmetic : ¬ Nested (before.map (·.kind)) → token.kind ∉ Operator.arithmetic.map (·.2)

variable {source : List Char} {before tokens : List Token} {token : Token}

namespace Sticks

theorem not_reserved (other : token.kind ∉ keywords.map (·.2)) : keyword? token.text ≠ some token.kind := by
  intro reserved
  apply other
  exact List.mem_map.mpr ⟨_, Entries.mem_of_lookup reserved, rfl⟩

/-- Arguments, terminators and pipes can come anywhere. -/
theorem of_plain (plain : token.kind ∈ [.execArg, .semicolon, .pipe]) : Sticks source before token := by
  have others : ∀ kind ∈ [Kind.execArg, .semicolon, .pipe], kind ∉ valueKinds ∧ kind ∉ keywords.map (·.2) ∧
      kind ∉ pathKinds ∧ kind ∉ Operator.arithmetic.map (·.2) := by decide
  obtain ⟨valueless, unreserved, nameless, unarithmetic⟩ := others _ plain
  exact ⟨valueless, not_reserved unreserved, fun named => absurd named nameless, fun _ => unarithmetic⟩

theorem of_names (kind : token.kind ∈ pathKinds) (names : Names source token) : Sticks source before token := by
  have others : ∀ kind ∈ pathKinds, kind ∉ valueKinds ∧ kind ∉ keywords.map (·.2) ∧
      kind ∉ Operator.arithmetic.map (·.2) := by decide
  obtain ⟨valueless, unreserved, unarithmetic⟩ := others _ kind
  exact ⟨valueless, not_reserved unreserved, fun _ => names, fun _ => unarithmetic⟩

end Sticks

/-! ## What a reader remembers -/

theorem lastRead?_append (tokens later : List Token) :
    lastRead? (tokens ++ later) = (lastRead? later).or (lastRead? tokens) := by
  rw [lastRead?, List.filter_append, List.getLast?_append]
  rfl

theorem lastRead?_eq (read : ∀ token ∈ tokens, token.isSynthetic = false) : lastRead? tokens = tokens.getLast? := by
  have all : (tokens.filter fun token => !token.isSynthetic) = tokens := by
    rw [List.filter_eq_self]
    intro token member
    rw [read token member]
    rfl
  rw [lastRead?, all]

theorem mem_of_lastRead? (last : lastRead? tokens = some token) : token ∈ tokens :=
  (List.mem_filter.mp (List.mem_of_getLast? last)).1

namespace Reader
variable {r : Reader} {c : Char} {tail : List Char} {action : Action} {front behind : List Token}

/-- A reader remembers the kind of the last token that was read, unless a line feed came behind it. -/
theorem Path.remembers (path : Path (ofSource source) tokens r) (last : lastRead? tokens = some token) :
    r.context.prev = some token.kind ∨ ∃ i, token.span.stop ≤ i ∧ i < r.start ∧ source[i]? = some '\n' := by
  induction path with
  | refl => contradiction
  | @step r next c tail tokens emitted path rest done ih =>
    have standing := path.standing_ofSource
    obtain ⟨action, acts, rfl, rfl⟩ := acts_of_step done
    rw [lastRead?_append] at last
    cases action with
    | keep => exact ih last
    | newline =>
      have feed : c = '\n' := by
        cases acts with
        | newline _ feed => exact feed
      subst feed
      have before : lastRead? tokens = some token := by
        rcases r.emitted_newline with none | terminator
        · rw [none] at last
          exact last
        · rw [terminator] at last
          exact last
      have inside := standing.lt_length rest (by decide) (by decide)
      have stop := (path.before token (mem_of_lastRead? before)).2
      exact Or.inr ⟨r.head, Nat.le_trans stop (Nat.le_add_right ..), Nat.lt_succ_self _, standing.here rest inside⟩
    | emit emitted count next =>
      have read : lastRead? emitted = emitted.getLast? := by
        apply lastRead?_eq
        intro token member
        exact (emits_of_mem acts member).isSynthetic_eq
      have prev : (r.moved c tail (.emit emitted count next)).context.prev =
          (emitted.getLast?.map (·.kind)).or r.context.prev := by
        rw [moved, Context.prev_afterAll, List.getLast?_map]
      have onward : r.start ≤ r.head + count := Nat.le_trans (Nat.le_add_right ..) (Nat.le_add_right ..)
      rw [Reader.emitted, read] at last
      rw [prev]
      cases newest : emitted.getLast? with
      | some newest' =>
        rw [newest] at last
        cases last
        exact Or.inl rfl
      | none =>
        rw [newest] at last
        rcases ih last with same | ⟨i, stop, lt, feed⟩
        · exact Or.inl same
        · exact Or.inr ⟨i, stop, Nat.lt_of_lt_of_le lt onward, feed⟩

/-- A name began behind an `@`, or is gone on with behind a dot. -/
theorem Path.identified (path : Path (ofSource source) tokens r) (state : r.state = .identifier) :
    (∃ i, Turns source i '@' .start .identifier ∧ r.start = i + 1) ∨ r.context.prev = some .dot := by
  induction path with
  | refl => contradiction
  | @step r next c tail tokens emitted path rest done ih =>
    have turns := path.turns rest done
    obtain ⟨action, acts, rfl, rfl⟩ := acts_of_step done
    cases acts with
    | identifier opens sign =>
      rw [opens.state, sign] at turns
      exact Or.inl ⟨r.head, turns, rfl⟩
    | identifierDot => exact Or.inr (Context.prev_afterAll ..)
    | identifierChar before => exact ih before
    | _ => cases state

/-! ## Behind an argument -/

theorem wordKind_sticky {context : Context} (sticky : context.prev = some .execArg) (word : List Char) :
    wordKind context word = .execArg := by
  simp [wordKind, sticky]

theorem numberKind_sticky {context : Context} (sticky : context.prev = some .execArg) (hasPoint : Bool) :
    numberKind context hasPoint = .execArg := by
  simp [numberKind, sticky]

/-- What decides about a word is what comes behind it, whatever blanks there are. -/
theorem callFollows_of_ahead (mark : ahead c tail ∈ callMarks) : CallFollows (c :: tail) := by
  have printed := callMarks_printed _ mark
  unfold CallFollows
  by_cases spaced : Text.isBlank c = true ∧ c ≠ '\n'
  · obtain ⟨blank, inline⟩ := spaced
    have past : ahead c tail = (tail.find? (!Text.isBlank ·)).getD c := by simp [ahead, blank, inline]
    rw [List.find?_cons_of_neg (by simp [blank])]
    cases found : tail.find? (!Text.isBlank ·) with
    | none =>
      rw [past, found, Option.getD_none, blank] at printed
      contradiction
    | some d =>
      rw [past, found, Option.getD_some] at mark
      simpa using mark
  · have here : ahead c tail = c := by
      apply ahead_eq
      by_cases blank : Text.isBlank c = true
      · exact Or.inr (Classical.not_not.mp fun inline => spaced ⟨blank, inline⟩)
      · exact Or.inl (eq_false_of_ne_true blank)
    rw [here] at mark printed
    rw [List.find?_cons_of_pos (by simp [printed])]
    simpa using mark

/-- A part of a path belongs to a word that something follows which makes a path of it. -/
theorem called_of_path (path : Path (ofSource source) tokens r) (rest : r.rest = c :: tail)
    (state : r.state = .unquotedLiteral) (mark : ahead c tail ∈ callMarks)
    (part : token ∈ pathTokens r.start [] r.text) : Names source token := by
  have standing := path.standing_ofSource
  have within : padding.length ≤ r.rest.length := (standing.suits_of state).2
  have counts := standing.counts
  have inside : r.head ≤ source.length := by omega
  have left : source.drop r.head ++ padding = c :: tail := by
    rw [← List.drop_append_of_le_length inside, standing.drop_head, rest]
  have call : CallFollows (source.drop r.head) := by
    rw [← callFollows_padded, left]
    exact callFollows_of_ahead mark
  have laid : Laid source r.start (pathTokens r.start [] r.text) (r.start + 0 + r.text.length) :=
    laid_pathTokens standing.reads (by simp only [head] at inside; simpa using inside)
  exact .called ⟨⟨tokens, r, path, state, rfl, rfl⟩, call⟩ (laid.of_mem part).1 (laid.stop_le token part)

/-- The operators that are read behind an argument outside of brackets are not arithmetic. -/
theorem sticks_of_operator (path : Path (ofSource source) tokens r) (sticky : r.context.prev = some .execArg)
    {kind : Kind} {length : Nat} (found : operator? r.context (c :: tail) = some (kind, length)) :
    Sticks source tokens ⟨⟨r.head, length⟩, kind, String.ofList ((c :: tail).take length)⟩ := by
  obtain ⟨pattern, listed, spelled, _⟩ := operator?_eq_some found
  have kinds : ∀ pattern ∈ Operator.structural ++ Operator.arithmetic,
      pattern.2 ∉ valueKinds ∧ pattern.2 ∉ pathKinds ∧ keyword? pattern.1 = none := by decide
  obtain ⟨valueless, nameless, unreserved⟩ := kinds _ listed
  have text : String.ofList ((c :: tail).take length) = pattern := by
    rw [← spelled, String.ofList_toList]
  refine ⟨valueless, ?_, fun named => absurd named nameless, ?_⟩
  · rw [text, unreserved]
    exact (Option.some_ne_none _).symm
  · intro closed
    have outside : r.context.inBrackets = false := eq_false_of_ne_true (mt path.inBrackets_iff.mp closed)
    have structural : operators r.context = Operator.structuralTrie := by simp [operators, outside, sticky]
    have apart : ∀ pattern ∈ Operator.structural, pattern.2 ∉ Operator.arithmetic.map (·.2) := by decide
    rw [operator?_eq_longest, structural] at found
    obtain ⟨read, member, _⟩ := PatternTrie.mem_of_longest found
    exact apart _ member

/-- In a name, the first token that is emitted is a name. -/
theorem name_first (acts : Acts r c tail action) (state : r.state = .identifier)
    (emits : r.emitted action = token :: behind) : token = r.lexeme .name := by
  cases acts with
  | identifierDot | identifierEnd =>
    cases emits
    rfl
  | newline idle =>
    rcases idle with between | comment
    · rw [between] at state
      contradiction
    · rw [comment] at state
      contradiction
  | dot opens =>
    rw [opens.state] at state
    contradiction
  | operator other | quotationEnd other | argUnquote other | argPipe other | argListEnd other | argBlank other
  | wordDot other | wordReserved other | wordPath other | wordEnd other | numberRange other | numberUnit other
  | numberEnd other =>
    rw [other] at state
    contradiction
  | _ => contradiction

/-- The first token of a step behind an argument. -/
theorem sticks_first (path : Path (ofSource source) tokens r) (rest : r.rest = c :: tail)
    (acts : Acts r c tail action) (emits : r.emitted action = token :: behind)
    (sticky : r.context.prev = some .execArg) : Sticks source tokens token := by
  have word (word : List Char) := wordKind_sticky sticky word
  have number (hasPoint : Bool) := numberKind_sticky sticky hasPoint
  cases action with
  | keep => contradiction
  | newline =>
    have member : token ∈ r.emitted .newline := emits ▸ List.mem_cons_self ..
    obtain rfl := eq_terminator member
    exact .of_plain (by simp [Token.terminator])
  | emit emitted count next =>
    have member : token ∈ emitted := by
      have whole : emitted = token :: behind := emits
      rw [whole]
      exact List.mem_cons_self ..
    cases emits_of_mem acts member with
    | operator found => exact sticks_of_operator path sticky found
    | @dot before named =>
      rw [word before] at named
      rcases named with name | implicit
      · contradiction
      · contradiction
    | identifier state =>
      rcases path.identified state with ⟨i, opens, start⟩ | dotted
      · exact .of_names (by simp [lexeme, pathKinds]) (.sign opens rfl start)
      · rw [sticky] at dotted
        contradiction
    | identifierDot state =>
      have name := name_first acts state emits
      exact absurd (congrArg Token.kind name) (by simp [mark, lexeme])
    | quotation => exact .of_plain (by simp [lexeme, sticky])
    | argument => exact .of_plain (by simp [lexeme])
    | pipe => exact .of_plain (by simp [mark])
    | word => exact .of_plain (by simp [lexeme, word])
    | path state mark part => exact .of_names (kind_pathTokens token part) (called_of_path path rest state mark part)
    | @number hasPoint => exact .of_plain (by simp [lexeme, number])
    | @measured hasPoint _ _ _ plain => exact absurd (number hasPoint) plain

/-! ## Behind a token of the same step -/

theorem eq_of_pair {first second : Token} (whole : [first, second] = front ++ token :: behind) (nonempty : front ≠ []) :
    front = [first] ∧ token = second := by
  cases front with
  | nil => contradiction
  | cons one others =>
    cases others with
    | nil =>
      cases whole
      exact ⟨rfl, rfl⟩
    | cons two others => simp at whole

theorem eq_nil_of_single {only : Token} (whole : [only] = front ++ token :: behind) : front = [] := by
  cases front with
  | nil => rfl
  | cons one others => simp at whole

/-- No token comes behind an argument in the same step, but for a pipe. -/
theorem earlier_unlike {emitted : List Token} {count : Nat} {next : State} (acts : Acts r c tail (.emit emitted count next))
    (emits : emitted = front ++ token :: behind) (nonempty : front ≠ []) :
    token.kind = .pipe ∨ ∀ earlier ∈ front, earlier.kind ≠ .execArg := by
  cases acts with
  | identifierDot =>
    obtain ⟨rfl, _⟩ := eq_of_pair emits nonempty
    exact Or.inr (List.forall_mem_singleton.mpr Kind.noConfusion)
  | wordDot _ _ _ named =>
    obtain ⟨rfl, _⟩ := eq_of_pair emits nonempty
    refine Or.inr (List.forall_mem_singleton.mpr ?_)
    show wordKind r.context r.text ≠ .execArg
    rcases named with name | implicit
    · rw [name]
      exact Kind.noConfusion
    · rw [implicit]
      exact Kind.noConfusion
  | argPipe =>
    unfold argument at emits
    split at emits
    · exact absurd (eq_nil_of_single emits) nonempty
    · obtain ⟨_, rfl⟩ := eq_of_pair emits nonempty
      exact Or.inl rfl
  | wordPath =>
    right
    intro earlier member
    have part : earlier ∈ pathTokens r.start [] r.text := by
      rw [emits]
      exact List.mem_append_left _ member
    have others : ∀ kind ∈ pathKinds, kind ≠ .execArg := by decide
    exact others _ (kind_pathTokens earlier part)
  | argListEnd | argBlank =>
    unfold argument at emits
    split at emits
    · simp at emits
    · exact absurd (eq_nil_of_single emits) nonempty
  | operator | dot | identifierEnd | quotationEnd | argUnquote | wordReserved | wordEnd | numberRange | numberUnit
  | numberEnd => exact absurd (eq_nil_of_single emits) nonempty
  | _ => simp at emits

end Reader

/-- Command arguments are sticky: a token behind an argument, with no line feed between the two, is no
    number, quotation or reserved word; it is a part of a name only if that begins with an `@` or if a
    call, a declaration or an assignment follows; and outside of brackets it is no arithmetic operator. -/
theorem arguments_stick {source : String} {before after : List Token} {token argument : Token}
    (split : (TokenStream.ofSource source).tokens = before ++ token :: after)
    (last : lastRead? before = some argument) (kind : argument.kind = .execArg)
    (inline : ∀ i, argument.span.stop ≤ i → i < token.span.offset → source.toList[i]? ≠ some '\n') :
    Sticks source.toList before token := by
  obtain ⟨r, c, tail, action, front, behind, ⟨tokens, path, parts⟩, rest, acts, emits⟩ := TokenStream.emitting split
  have standing := path.standing_ofSource
  have among : token ∈ r.emitted action := by
    rw [emits]
    exact List.mem_append_cons_self
  have from_le : r.start ≤ token.span.offset := ((Reader.laid_emitted standing rest acts).of_mem among).1
  subst parts
  by_cases first : front = []
  · subst first
    rw [List.append_nil] at last ⊢
    rcases path.remembers last with sticky | ⟨i, le, lt, feed⟩
    · rw [kind] at sticky
      exact Reader.sticks_first path rest acts emits sticky
    · exact absurd feed (inline i le (Nat.lt_of_lt_of_le lt from_le))
  · cases action with
    | keep => simp [Reader.emitted] at emits
    | newline =>
      rcases r.emitted_newline with none | terminator
      · rw [none] at emits
        simp at emits
      · rw [terminator] at emits
        exact absurd (Reader.eq_nil_of_single emits) first
    | emit emitted count next =>
      have read : ∀ earlier ∈ front, earlier.isSynthetic = false := by
        intro earlier member
        refine (Reader.emits_of_mem acts ?_).isSynthetic_eq
        have whole : emitted = front ++ token :: behind := emits
        rw [whole]
        exact List.mem_append_left _ member
      rcases Reader.earlier_unlike acts emits first with pipe | unlike
      · exact .of_plain (by simp [pipe])
      · -- the argument would have to be one of these
        rw [lastRead?_append, lastRead?_eq read, List.getLast?_eq_some_getLast first, Option.some_or,
          Option.some.injEq] at last
        exact absurd kind (unlike argument (last ▸ List.getLast_mem first))

/-- A path behind an argument is one because of the bracket that follows it. -/
theorem arguments_stick_call :
    (TokenStream.ofSource "ls a.b (").tokens = [⟨⟨0, 2⟩, .execArg, "ls"⟩] ++ ⟨⟨3, 1⟩, .name, "a"⟩ ::
        [⟨⟨4, 1⟩, .dot, "."⟩, ⟨⟨5, 1⟩, .name, "b"⟩, ⟨⟨7, 1⟩, .parenOpen, "("⟩] ∧
      lastRead? [⟨⟨0, 2⟩, .execArg, "ls"⟩] = some ⟨⟨0, 2⟩, .execArg, "ls"⟩ ∧
      Names "ls a.b (".toList ⟨⟨3, 1⟩, .name, "a"⟩ := by
  have done : (Reader.ofSource "ls a.b (".toList).steps 12 = some (
      [⟨⟨0, 2⟩, .execArg, "ls"⟩, ⟨⟨3, 1⟩, .name, "a"⟩, ⟨⟨4, 1⟩, .dot, "."⟩, ⟨⟨5, 1⟩, .name, "b"⟩,
        ⟨⟨7, 1⟩, .parenOpen, "("⟩], ⟨.comment, ⟨some .parenOpen, 1, 0, 0⟩, 10, [], []⟩) := rfl
  have split : (TokenStream.ofSource "ls a.b (").tokens = [⟨⟨0, 2⟩, .execArg, "ls"⟩] ++ ⟨⟨3, 1⟩, .name, "a"⟩ ::
      [⟨⟨4, 1⟩, .dot, "."⟩, ⟨⟨5, 1⟩, .name, "b"⟩, ⟨⟨7, 1⟩, .parenOpen, "("⟩] := by
    rw [TokenStream.tokens_ofSource, lex, (Reader.path_of_steps done).run_eq, Reader.run_nil rfl]
    rfl
  have last : lastRead? [⟨⟨0, 2⟩, .execArg, "ls"⟩] = some ⟨⟨0, 2⟩, .execArg, "ls"⟩ := rfl
  have inline : ∀ i, 2 ≤ i → i < 3 → "ls a.b (".toList[i]? ≠ some '\n' := by
    intro i le lt
    obtain rfl : i = 2 := by omega
    decide
  exact ⟨split, last, (arguments_stick split last rfl inline).names (by decide)⟩

end CommandScript.Lexer
