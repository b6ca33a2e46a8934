import CommandScript.Proofs.Lexer.Between

/-!
Writing tokens down. Inside of brackets a token can be told from its own text, whatever
stands beside it, so tokens that are written down with blanks between them are read again
as what they are (`tokenize_written`).
-/
namespace CommandScript.Lexer

namespace Reader
variable {r : Reader}

/-- A token that can be written down is read again, before a blank. A name is one in brackets only. -/
theorem Between.written {token : Token} (between : Between r) (writable : Writable token.kind token.text)
    (nested : token.kind = .name → r.context.inBrackets = true) (tail : List Char) :
    ReadsAs r (token.written.toList ++ ' ' :: tail) (' ' :: tail) token.kind token.text := by
  obtain ⟨span, kind, text⟩ := token
  dsimp only at writable nested ⊢
  cases writable with
  | name nonempty letters free =>
    exact between.letters (by simpa using nonempty) letters (.inr ⟨free, rfl, nested rfl⟩) tail
  | reserved listed =>
    obtain ⟨nonempty, letters, reserved, verbatim⟩ := keywords_written _ listed
    rw [Token.written_eq_text verbatim]
    exact between.letters nonempty letters (.inl reserved) tail
  | implicitParam => simpa [Token.written] using between.implicitParam tail
  | @number hasPoint _ numeral =>
    have read := between.number numeral tail
    cases hasPoint <;> exact read
  | @measured hasPoint value unit quantity numeral known =>
    rw [written_measured span numeral known, List.append_assoc]
    exact between.measured numeral known tail
  | quotation quoteless backslashless =>
    simpa [Token.written] using between.quotation quoteless backslashless tail
  | operator listed =>
    rw [Token.written_eq_text (operators_written _ listed)]
    exact between.operator listed tail

/-! ## Tokens with blanks between them -/

theorem prev_after (context : Context) (kind : Kind) : (context.after kind).prev = some kind := by
  cases kind <;> rfl

/-- What stands behind a word on its line: the other words, a blank before each of them, and the padding. -/
def spacedBehind (words : List String) : List Char :=
  words.flatMap (fun word => ' ' :: word.toList) ++ padding

theorem spacedBehind_cons (word : String) (words : List String) :
    spacedBehind (word :: words) = ' ' :: (word.toList ++ spacedBehind words) := by
  simp [spacedBehind]

theorem join_spaced (word : String) (words : List String) :
    (" ".intercalate (word :: words)).toList ++ padding = word.toList ++ spacedBehind words := by
  induction words generalizing word with
  | nil => simp [spacedBehind]
  | cons next words ih =>
    have later := ih next
    rw [String.toList_intercalate] at later ⊢
    rw [spacedBehind_cons, ← later]
    simp [List.intercalate_cons_cons]

/-- What is written behind a token: the other tokens, a blank before each of them, and the padding. -/
def writtenBehind (tokens : List Token) : List Char :=
  tokens.flatMap (fun token => ' ' :: token.written.toList) ++ padding

theorem writtenBehind_eq (tokens : List Token) : writtenBehind tokens = spacedBehind (tokens.map Token.written) := by
  simp [writtenBehind, spacedBehind, List.flatMap_map]

theorem writtenBehind_cons (token : Token) (tokens : List Token) :
    writtenBehind (token :: tokens) = ' ' :: (token.written.toList ++ writtenBehind tokens) := by
  simp [writtenBehind]

theorem exists_writtenBehind (tokens : List Token) : ∃ tail, writtenBehind tokens = ' ' :: tail := by
  cases tokens with
  | nil => exact ⟨['#'], rfl⟩
  | cons token tokens => exact ⟨_, writtenBehind_cons token tokens⟩

theorem join_written (token : Token) (tokens : List Token) :
    (" ".intercalate ((token :: tokens).map Token.written)).toList ++ padding =
      token.written.toList ++ writtenBehind tokens := by
  rw [writtenBehind_eq]
  exact join_spaced token.written (tokens.map Token.written)

/-- A token and those behind it are read again, if those behind it are. -/
theorem Between.written_cons {token : Token} {tokens : List Token} (between : Between r)
    (writable : Writable token.kind token.text)
    (nested : token.kind = .name → r.context.inBrackets = true)
    (behind : ∀ next : Reader, Between next → next.context = r.context.after token.kind → ∃ read last,
      Path (next.facing (writtenBehind tokens)) read last ∧ last.rest = [] ∧ last.state = .comment ∧
        read.map Token.said = tokens.map Token.said) :
    ∃ read last, Path (r.facing (token.written.toList ++ writtenBehind tokens)) read last ∧ last.rest = [] ∧
      last.state = .comment ∧ read.map Token.said = (token :: tokens).map Token.said := by
  obtain ⟨tail, blank⟩ := exists_writtenBehind tokens
  obtain ⟨first, next, path, kind, text, state, empty, context⟩ := between.written writable nested tail
  rw [← blank] at path
  have free : next.context.prev ≠ some .execArg := by
    rw [context, prev_after, ne_eq, Option.some.injEq]
    exact writable.ne_execArg
  obtain ⟨read, last, onward, rest, ended, same⟩ := behind next ⟨state, empty, free⟩ context
  refine ⟨first :: read, last, path.trans onward, rest, ended, ?_⟩
  simp [same, Token.said, kind, text]

/-- Tokens that are written down in brackets, a blank before each, are read again up to the end. -/
theorem Between.written_all {tokens : List Token} (between : Between r)
    (writable : ∀ token ∈ tokens, Writable token.kind token.text)
    (nested : ∀ count < tokens.length,
      (r.context.afterAll ((tokens.take count).map (·.kind))).inBrackets = true) :
    ∃ read last, Path (r.facing (writtenBehind tokens)) read last ∧ last.rest = [] ∧ last.state = .comment ∧
      read.map Token.said = tokens.map Token.said := by
  induction tokens generalizing r with
  | nil =>
    obtain ⟨last, path, rest, _, state⟩ := padding_path between.state
    exact ⟨[], last, path, rest, state, rfl⟩
  | cons token tokens ih =>
    have idle : r.Idle := .inl between.state
    obtain ⟨begun, here⟩ : ∃ begun, begun = r.moved ' ' [] (.emit [] 1 r.state) := ⟨_, rfl⟩
    have blank : Path (r.facing (writtenBehind (token :: tokens))) []
        (begun.facing (token.written.toList ++ writtenBehind tokens)) := by
      rw [writtenBehind_cons]
      exact here ▸ Path.of_step (idle.step_blank (by decide) (by decide) _)
    have again : Between begun := here ▸ ⟨between.state, rfl, between.free⟩
    have same : begun.context = r.context := here ▸ rfl
    have brackets : begun.context.inBrackets = true := same ▸ nested 0 (Nat.succ_pos _)
    obtain ⟨read, last, path, rest, ended, said⟩ := again.written_cons (writable token List.mem_cons_self)
      (fun _ => brackets) fun next between context => ih between
        (fun other member => writable other (List.mem_cons_of_mem _ member)) fun count less => by
          rw [context, same]
          exact nested (count + 1) (Nat.succ_lt_succ less)
    exact ⟨read, last, blank.trans path, rest, ended, said⟩

end Reader

/-! ## Brackets -/

/-- A context counts the brackets that are open. -/
theorem depths_afterAll (kinds : List Kind) :
    (Context.afterAll {} kinds).parens = openBrackets .parenOpen .parenClose kinds ∧
      (Context.afterAll {} kinds).curlies = openBrackets .curlyOpen .curlyClose kinds ∧
        (Context.afterAll {} kinds).squares = openBrackets .squareOpen .squareClose kinds := by
  induction kinds using List.reverseRecOn with
  | nil => exact ⟨rfl, rfl, rfl⟩
  | append_singleton kinds kind ih =>
    obtain ⟨parens, curlies, squares⟩ := ih
    have last : Context.afterAll {} (kinds ++ [kind]) = (Context.afterAll {} kinds).after kind := by
      simp [Context.afterAll]
    rw [last, openBrackets_append_singleton, openBrackets_append_singleton, openBrackets_append_singleton,
      ← parens, ← curlies, ← squares]
    cases kind <;> exact ⟨rfl, rfl, rfl⟩

theorem inBrackets_iff (kinds : List Kind) : (Context.afterAll {} kinds).inBrackets = true ↔ Nested kinds := by
  obtain ⟨parens, curlies, squares⟩ := depths_afterAll kinds
  simp [Context.inBrackets, Nested, parens, curlies, squares, or_assoc]

open Reader in
/-- Tokens that are written down in brackets, with a blank between each two, are read again: the first
    is a bracket that opens, and up to the last token some bracket is open. -/
theorem tokenize_written {tokens : List Token}
    (opening : ∃ first ∈ tokens.head?, first.kind ∈ [.parenOpen, .curlyOpen, .squareOpen])
    (nested : ∀ count < tokens.length, 0 < count → Nested ((tokens.take count).map (·.kind)))
    (writable : ∀ token ∈ tokens, Writable token.kind token.text) :
    ∃ read, tokenize (" ".intercalate (tokens.map Token.written)) = .ok read ∧
      read.map Token.said = tokens.map Token.said := by
  obtain ⟨first, isFirst, opens⟩ := opening
  cases tokens with
  | nil => simp at isFirst
  | cons token tokens =>
    obtain rfl : token = first := by simpa using isFirst
    have source : ofSource (" ".intercalate ((token :: tokens).map Token.written)).toList =
        (ofSource []).facing (token.written.toList ++ writtenBehind tokens) := by
      rw [ofSource, join_written]
      rfl
    have between : Between (ofSource []) := ⟨rfl, rfl, by simp [ofSource]⟩
    obtain ⟨read, last, path, rest, ended, said⟩ := between.written_cons (writable token List.mem_cons_self)
      (fun named => absurd opens (by rw [named]; decide)) (fun next between context => between.written_all
        (fun other member => writable other (List.mem_cons_of_mem _ member)) fun count less => by
          rw [context]
          exact (inBrackets_iff _).2 (nested (count + 1) (Nat.succ_lt_succ less) (Nat.succ_pos _)))
    exact ⟨read, tokenize_eq_ok_iff.2 ⟨last, source ▸ path, rest, ended⟩, said⟩

/-- The tokens of `( f ( 45kb , _ ) + "x y" )`. -/
def writtenCall : List Token :=
  [⟨⟨0, 1⟩, .parenOpen, "("⟩, ⟨⟨2, 1⟩, .name, "f"⟩, ⟨⟨4, 1⟩, .parenOpen, "("⟩, ⟨⟨6, 4⟩, .unitInteger, "45:kb"⟩,
    ⟨⟨11, 1⟩, .comma, ","⟩, ⟨⟨13, 1⟩, .implicitLambdaParam, "_"⟩, ⟨⟨15, 1⟩, .parenClose, ")"⟩,
    ⟨⟨17, 1⟩, .plus, "+"⟩, ⟨⟨20, 3⟩, .quotedString, "x y"⟩, ⟨⟨25, 1⟩, .parenClose, ")"⟩]

theorem tokenize_written_call : " ".intercalate (writtenCall.map Token.written) = "( f ( 45kb , _ ) + \"x y\" )" ∧
    (∃ first ∈ writtenCall.head?, first.kind ∈ [.parenOpen, .curlyOpen, .squareOpen]) ∧
    (∀ count < writtenCall.length, 0 < count → Nested ((writtenCall.take count).map (·.kind))) ∧
    (∀ token ∈ writtenCall, Writable token.kind token.text) ∧
    ∃ read, tokenize (" ".intercalate (writtenCall.map Token.written)) = .ok read ∧
      read.map Token.said = writtenCall.map Token.said := by
  have opening : ∃ first ∈ writtenCall.head?, first.kind ∈ [.parenOpen, .curlyOpen, .squareOpen] :=
    ⟨_, rfl, by decide⟩
  have nested : ∀ count < writtenCall.length, 0 < count → Nested ((writtenCall.take count).map (·.kind)) := by
    decide
  have writable : ∀ token ∈ writtenCall, Writable token.kind token.text := by
    have size : Writable .unitInteger ("45" ++ ":" ++ "kb") :=
      .measured (.integer (by decide) (by decide)) (by decide : ("kb", Quantity.size) ∈ Quantity.units)
    simp only [writtenCall, List.forall_mem_cons]
    exact ⟨.operator (by decide), .name (by decide) (by decide) (by decide), .operator (by decide), size,
      .operator (by decide), .implicitParam, .operator (by decide), .operator (by decide),
      .quotation (by decide) (by decide), .operator (by decide), nofun⟩
  exact ⟨by decide, opening, nested, writable, tokenize_written opening nested writable⟩

end CommandScript.Lexer
