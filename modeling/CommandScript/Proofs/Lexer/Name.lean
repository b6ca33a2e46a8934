import CommandScript.Proofs.Lexer.Emission
import CommandScript.Proofs.Lexer.Path

/-!
What names are made of. A name begins behind an `@`, or it is a bare word where a name is
expected, or a part of a word that a call, a declaration or an assignment follows. Only a
bare word that begins with a reserved word keeps a dot, and only a name behind an `@` keeps
characters at which a bare word ends.
-/
namespace CommandScript.Lexer

namespace Reader

/-- The characters at which a bare word ends. -/
def endsWord (c : Char) : Bool := Text.isBlank c || (callMarks ++ wordEnds).contains c

/-- The characters at which a name behind an `@` ends. -/
def endsName (c : Char) : Bool := Text.isBlank c || identifierEnds.contains c

/-- A word with one dot, behind a reserved word. -/
def ReservedDot (word : List Char) : Prop :=
  ∃ reserved rest, (keyword? reserved).isSome = true ∧ '.' ∉ rest ∧ word = reserved.toList ++ '.' :: rest

/-- A name with a dot in it: a bare word, with no call behind it, that begins with a reserved word and a
    dot. -/
structure KeepsDot (source : List Char) (token : Token) : Prop where
  word : ∃ tokens r c tail, Path (ofSource source) tokens r ∧ r.state = .unquotedLiteral ∧ r.rest = c :: tail ∧
    r.start = token.span.offset ∧ r.head = token.span.stop ∧ ahead c tail ∉ callMarks
  reserved : ReservedDot token.text.toList

variable {source : List Char} {r : Reader} {c : Char} {tail : List Char} {tokens : List Token} {token : Token}
  {context : Context} {word : List Char}

/-! ## How a name comes about -/

/-- How a reader comes to emit a name before the character `c`. -/
inductive MakesName (r : Reader) (c : Char) (tail : List Char) : Token → Prop
  | sign (state : r.state = .identifier) (stop : endsName c = true) : MakesName r c tail (r.lexeme .name)
  | word (state : r.state = .unquotedLiteral) (named : wordKind r.context r.text = .name)
    (uncalled : ahead c tail ∉ callMarks) : MakesName r c tail (r.lexeme .name)
  | part {token : Token} (state : r.state = .unquotedLiteral) (part : token ∈ pathTokens r.start [] r.text) :
    MakesName r c tail token

/-- No reserved word has a dot, and none is read as a name. -/
theorem keywords_nameless : ∀ keyword ∈ keywords, '.' ∉ keyword.1.toList ∧ keyword.2 ≠ .name := by
  decide

theorem operators_nameless : ∀ pattern ∈ Operator.structural ++ Operator.arithmetic, pattern.2 ≠ .name := by
  decide

/-- A bare word is a name if it is not reserved and no implicit parameter, where a name is expected. -/
theorem wordKind_eq_name_iff : wordKind context word = .name ↔ context.prev ≠ some .execArg ∧
    keyword? (String.ofList word) = none ∧ startsImplicit word = false ∧
      (context.inBrackets || context.prev.any precedesName) = true := by
  unfold wordKind
  cases reserved : keyword? (String.ofList word) with
  | none =>
    dsimp only
    split_ifs <;> simp_all
  | some kind =>
    have other : kind ≠ .name := (keywords_nameless _ (Entries.mem_of_lookup reserved)).2
    dsimp only
    split_ifs <;> simp [other]

/-- All names of an action come about in one of these ways. -/
theorem makesName_of_mem {action : Action} (acts : Acts r c tail action) (member : token ∈ r.emitted action)
    (name : token.kind = .name) : MakesName r c tail token := by
  cases action with
  | keep => contradiction
  | newline =>
    obtain rfl := eq_terminator member
    contradiction
  | emit =>
    cases emits_of_mem acts member with
    | operator found =>
      obtain ⟨pattern, listed, _⟩ := operator?_eq_some found
      exact absurd name (operators_nameless _ listed)
    | identifier state _ stop => exact .sign state (by simpa [endsName] using stop)
    | quotation =>
      simp only [lexeme] at name
      split_ifs at name
    | word state reserved =>
      have named : wordKind r.context r.text = .name := name
      have uncalled : ahead c tail ∉ callMarks := by
        intro mark
        have some := reserved mark
        rw [(wordKind_eq_name_iff.mp named).2.1] at some
        contradiction
      rw [named]
      exact .word state named uncalled
    | path state _ part => exact .part state part
    | @number hasPoint =>
      simp only [lexeme, numberKind] at name
      split_ifs at name
    | @measured hasPoint =>
      simp only [measured] at name
      split_ifs at name
    | _ => contradiction

/-! ## Behind an `@` -/

/-- What has been read behind an `@` is all of it a name. -/
theorem Path.signed (path : Path (ofSource source) tokens r) (state : r.state = .identifier) :
    ∀ d ∈ r.text, endsName d = false := by
  induction path with
  | refl => contradiction
  | @step r next c tail tokens emitted path rest done ih =>
    obtain ⟨action, acts, rfl, rfl⟩ := acts_of_step done
    cases acts with
    | identifier | identifierDot => simp [moved]
    | identifierChar before printed inside =>
      intro d member
      rcases List.mem_append.mp member with kept | new
      · exact ih before d kept
      · obtain rfl := List.mem_singleton.mp new
        simp [endsName, printed, inside]
    | _ => cases state

/-- A dot where a name is expected begins no word. -/
theorem not_word_of_dot (opens : r.Opens '.' tail) (named : wordKind r.context [] = .name) :
    r.action '.' tail = .ok (.emit [r.mark .dot '.'] 1 .start) := by
  have digitless : ('.' : Char).isDigit = false := by decide
  rw [Reader.action, opens.state]
  simp [startAction, opens.printed, opens.unread, digitless, named]

/-- Where a name is expected, a bare word that is neither a name nor an implicit parameter is reserved. -/
theorem reserved_of_kind (named : wordKind context [] = .name) (unnamed : wordKind context word ≠ .name)
    (explicit : wordKind context word ≠ .implicitLambdaParam) : (keyword? (String.ofList word)).isSome = true := by
  obtain ⟨free, _, _, expected⟩ := wordKind_eq_name_iff.mp named
  by_contra unreserved
  rw [Option.not_isSome_iff_eq_none] at unreserved
  by_cases implicit : startsImplicit word = true
  · exact explicit (by simp [wordKind, free, unreserved, implicit])
  · exact unnamed (wordKind_eq_name_iff.mpr ⟨free, unreserved, by simpa using implicit, expected⟩)

/-- Where a word is a name, a name is expected. -/
theorem wordKind_nil_of_name (named : wordKind context word = .name) : wordKind context [] = .name := by
  obtain ⟨free, _, _, expected⟩ := wordKind_eq_name_iff.mp named
  exact wordKind_eq_name_iff.mpr ⟨free, by decide, rfl, expected⟩

/-- Where names are expected, a word has at most one dot, and only behind a reserved word. -/
theorem Path.dotted (path : Path (ofSource source) tokens r) (state : r.state = .unquotedLiteral)
    (named : wordKind r.context [] = .name) : '.' ∉ r.text ∨ ReservedDot r.text := by
  induction path with
  | refl => contradiction
  | @step r next c tail tokens emitted path rest done ih =>
    have standing := path.standing_ofSource
    obtain ⟨action, acts, rfl, rfl⟩ := acts_of_step done
    cases acts with
    | word opens digitless first =>
      have empty : r.text = [] := standing.suits_of opens.state
      left
      rw [moved, empty]
      rintro point
      obtain rfl : '.' = c := by simpa using point
      have begun := step_of_action (not_word_of_dot opens named)
      obtain ⟨_, same⟩ := step_unique done begun
      rw [same] at state
      contradiction
    | wordChar before printed inside undotted =>
      have earlier : '.' ∉ r.text ∨ ReservedDot r.text := ih before named
      by_cases point : c = '.'
      · -- the word so far is no name, so it is reserved, and has no dot
        obtain ⟨_, unnamed, explicit⟩ := undotted point
        have reserved := reserved_of_kind named unnamed explicit
        right
        exact ⟨String.ofList r.text, [], reserved, by simp, by simp [moved, point]⟩
      · have other : ('.' : Char) ≠ c := fun same => point same.symm
        rcases earlier with dotless | ⟨reserved, rest, known, later, whole⟩
        · left
          simp [moved, dotless, other]
        · right
          exact ⟨reserved, rest ++ [c], known, by simp [later, other], by simp [moved, whole]⟩
    | _ => cases state

/-- A path is cut at all of its dots. -/
theorem pathTokens_cut {start : Nat} {part chars : List Char} (dotless : '.' ∉ part) :
    ∀ token ∈ pathTokens start part chars, token.kind = .name → '.' ∉ token.text.toList := by
  have cut {start : Nat} {part : List Char} (dotless : '.' ∉ part) :
      ∀ token ∈ pathPart start part, '.' ∉ token.text.toList := by
    intro token member
    unfold pathPart at member
    split_ifs at member with empty implicit
    · contradiction
    · obtain rfl := List.mem_singleton.mp member
      simpa using dotless
    · obtain rfl := List.mem_singleton.mp member
      simpa using dotless
  induction chars generalizing start part with
  | nil => exact fun token member _ => cut dotless token member
  | cons c chars ih =>
    intro token member name
    rw [pathTokens] at member
    split_ifs at member with point
    · rcases List.mem_append.mp member with before | behind
      · exact cut dotless token before
      · rcases List.mem_cons.mp behind with rfl | later
        · contradiction
        · exact ih (by simp) token later name
    · have other : ('.' : Char) ≠ c := fun same => point same.symm
      exact ih (by simp [dotless, other]) token member name

end Reader

open Reader

/-- No name has a dot in it, whether it begins behind an `@`, is a bare word or is a part of one before a
    call; but for a bare word that begins with a reserved word and a dot, and no call behind it. -/
theorem name_dotless {source : String} {token : Token} (member : token ∈ (TokenStream.ofSource source).tokens)
    (name : token.kind = .name) : '.' ∉ token.text.toList ∨ KeepsDot source.toList token := by
  obtain ⟨tokens, r, c, tail, action, path, rest, acts, emitted⟩ := TokenStream.emitted_of_mem member
  cases makesName_of_mem acts emitted name with
  | sign state stop =>
    left
    rw [lexeme, String.toList_ofList]
    intro point
    have ends : endsName '.' = true := by decide
    rw [path.signed state '.' point] at ends
    contradiction
  | word state named uncalled =>
    rw [lexeme, String.toList_ofList]
    rcases path.dotted state (wordKind_nil_of_name named) with dotless | reserved
    · exact Or.inl dotless
    · right
      refine ⟨⟨tokens, r, c, tail, path, state, rest, rfl, rfl, uncalled⟩, ?_⟩
      simpa [lexeme] using reserved
  | part state part => exact Or.inl (pathTokens_cut (by simp) token part name)

/-- Only its second dot cuts a path that begins with a reserved word. -/
theorem name_dotless_reserved :
    (⟨⟨1, 4⟩, .name, "in.x"⟩ : Token) ∈ (TokenStream.ofSource "(in.x.y)").tokens ∧
      ('.' ∉ "in.x".toList ∨ KeepsDot "(in.x.y)".toList ⟨⟨1, 4⟩, .name, "in.x"⟩) := by
  have done : (ofSource "(in.x.y)".toList).steps 11 = some (
      [⟨⟨0, 1⟩, .parenOpen, "("⟩, ⟨⟨1, 4⟩, .name, "in.x"⟩, ⟨⟨5, 1⟩, .dot, "."⟩, ⟨⟨6, 1⟩, .name, "y"⟩,
        ⟨⟨7, 1⟩, .parenClose, ")"⟩], ⟨.comment, ⟨some .parenClose, 0, 0, 0⟩, 10, [], []⟩) := rfl
  have member : (⟨⟨1, 4⟩, .name, "in.x"⟩ : Token) ∈ (TokenStream.ofSource "(in.x.y)").tokens := by
    rw [TokenStream.tokens_ofSource, lex, (path_of_steps done).run_eq]
    simp
  exact ⟨member, name_dotless member rfl⟩

/-- The same path is one name with a dot, and cut at its dot if a call follows. -/
theorem reserved_path_not_cut :
    tokenize "(for.x )" =
        .ok [⟨⟨0, 1⟩, .parenOpen, "("⟩, ⟨⟨1, 5⟩, .name, "for.x"⟩, ⟨⟨7, 1⟩, .parenClose, ")"⟩] ∧
      tokenize "(for.x())" =
        .ok [⟨⟨0, 1⟩, .parenOpen, "("⟩, ⟨⟨1, 3⟩, .name, "for"⟩, ⟨⟨4, 1⟩, .dot, "."⟩, ⟨⟨5, 1⟩, .name, "x"⟩,
          ⟨⟨6, 1⟩, .parenOpen, "("⟩, ⟨⟨7, 1⟩, .parenClose, ")"⟩, ⟨⟨8, 1⟩, .parenClose, ")"⟩] ∧
      '.' ∈ "for.x".toList := by
  have whole : (ofSource "(for.x )".toList).steps 11 = some (
      [⟨⟨0, 1⟩, .parenOpen, "("⟩, ⟨⟨1, 5⟩, .name, "for.x"⟩, ⟨⟨7, 1⟩, .parenClose, ")"⟩],
      ⟨.comment, ⟨some .parenClose, 0, 0, 0⟩, 10, [], []⟩) := rfl
  have called : (ofSource "(for.x())".toList).steps 12 = some (
      [⟨⟨0, 1⟩, .parenOpen, "("⟩, ⟨⟨1, 3⟩, .name, "for"⟩, ⟨⟨4, 1⟩, .dot, "."⟩, ⟨⟨5, 1⟩, .name, "x"⟩,
        ⟨⟨6, 1⟩, .parenOpen, "("⟩, ⟨⟨7, 1⟩, .parenClose, ")"⟩, ⟨⟨8, 1⟩, .parenClose, ")"⟩],
      ⟨.comment, ⟨some .parenClose, 0, 0, 0⟩, 11, [], []⟩) := rfl
  exact ⟨tokenize_of_steps whole rfl rfl, tokenize_of_steps called rfl rfl, by decide⟩

end CommandScript.Lexer
