import CommandScript.Proofs.Lexer.Fidelity
import CommandScript.Proofs.Lexer.LastWord
import CommandScript.Proofs.Lexer.Shift

/-!
Two sources one behind the other, with a line feed between them. The tokens of the first
come first, but for its last word; and if it leaves no bracket open, what comes behind them
is what the second would be alone.
-/
namespace CommandScript.Lexer
namespace Reader
variable {source behind : List Char} {r last : Reader} {c : Char} {tail : List Char} {tokens : List Token}

/-! ## Where tokens begin -/

/-- A token begins before the place where its step goes on. -/
theorem offset_lt_of_emitted {action : Action} (standing : Standing source r) (acts : Acts r c tail action) :
    ∀ token ∈ r.emitted action, token.span.offset < (r.moved c tail action).start := by
  have le : r.start ≤ r.head := Nat.le_add_right ..
  have lt (nonempty : r.text ≠ []) : r.start < r.head :=
    Nat.lt_add_of_pos_right (List.length_pos_iff.2 nonempty)
  have lexed (kind : Kind) {stop : Nat} (before : r.start < stop) :
      ∀ token ∈ [r.lexeme kind], token.span.offset < stop := by
    intro token member
    obtain rfl := List.mem_singleton.1 member
    exact before
  have marked (kind : Kind) : ∀ token ∈ [r.mark kind c], token.span.offset < r.head + 1 := by
    intro token member
    obtain rfl := List.mem_singleton.1 member
    exact Nat.lt_succ_self _
  have argued : ∀ token ∈ r.argument, token.span.offset < r.head + 1 := by
    unfold argument
    split_ifs
    · simp
    · exact lexed .execArg (Nat.lt_succ_of_le le)
  have both {front behind : List Token} {stop : Nat} (first : ∀ token ∈ front, token.span.offset < stop)
      (second : ∀ token ∈ behind, token.span.offset < stop) :
      ∀ token ∈ front ++ behind, token.span.offset < stop := by
    intro token member
    exact (List.mem_append.1 member).elim (first token) (second token)
  cases acts with
  | newline =>
    intro token member
    simp only [Reader.emitted] at member
    split_ifs at member
    · obtain rfl := List.mem_singleton.1 member
      exact Nat.lt_succ_self _
    · simp at member
  | operator state printed found =>
    intro token member
    obtain rfl := List.mem_singleton.1 member
    exact Nat.lt_add_of_pos_right (operator?_pos found)
  | dot => exact marked .dot
  | identifierDot => exact both (lexed .name (Nat.lt_succ_of_le le)) (marked .dot)
  | identifierEnd state nonempty => exact lexed .name (lt nonempty)
  | quotationEnd => exact lexed _ (Nat.lt_succ_of_le le)
  | argUnquote => exact lexed .execArg (Nat.lt_succ_of_le le)
  | argPipe => exact both argued (marked .pipe)
  | argListEnd => exact argued
  | argBlank => exact argued
  | wordDot => exact both (lexed _ (Nat.lt_succ_of_le le)) (marked .dot)
  | wordReserved state => exact lexed _ (lt (standing.suits_of state).1)
  | wordPath => exact fun token member => (mem_pathTokens token member).2
  | wordEnd state => exact lexed _ (lt (standing.suits_of state).1)
  | numberRange state => exact lexed _ (lt (standing.suits_of state).1)
  | numberUnit state =>
    intro token member
    obtain rfl := List.mem_singleton.1 member
    exact Nat.lt_add_right _ (lt (standing.suits_of state).1)
  | numberEnd state => exact lexed _ (lt (standing.suits_of state).1)
  | _ => simp [Reader.emitted]

/-- What has been emitted lies before the reader. -/
theorem Path.before (path : Path (ofSource source) tokens r) :
    ∀ token ∈ tokens, token.span.offset < r.start ∧ token.span.stop ≤ r.start := by
  induction path with
  | refl => simp
  | @step r next c tail tokens emitted path rest done ih =>
    have standing := path.standing_ofSource
    obtain ⟨action, acts, rfl, rfl⟩ := acts_of_step done
    have laid := laid_emitted standing rest acts
    intro token member
    rcases List.mem_append.1 member with before | new
    · obtain ⟨lt, le⟩ := ih token before
      exact ⟨Nat.lt_of_lt_of_le lt laid.le, Nat.le_trans le laid.le⟩
    · exact ⟨offset_lt_of_emitted standing acts token new, laid.stop_le token new⟩

/-! ## Two sources one behind the other -/

/-- The padding makes no call. -/
theorem callFollows_padded : CallFollows (behind ++ padding) ↔ CallFollows behind := by
  have hash : padding.find? (!Text.isBlank ·) = some '#' := by decide
  have unmarked : '#' ∉ callMarks := by decide
  unfold CallFollows
  rw [List.find?_append, hash]
  cases behind.find? (!Text.isBlank ·) with
  | some d => rfl
  | none => simpa using unmarked

theorem Reread.unpadded {first : Reader} {tokens' : List Token}
    (reread : Reread first (behind ++ padding) tokens tokens') : Reread first behind tokens tokens' := by
  cases reread with
  | same settled => exact .same fun call => settled (callFollows_padded.2 call)
  | called path last call whole => exact .called path last (callFollows_padded.1 call) whole

/-- The reader `feed` at the last line feed of a source that can be read, with the tokens that come
    before it if that is all, and those if there is more. -/
structure Meets (a b : List Char) (tokens : List Token) (last : Reader) (before before' : List Token)
    (feed : Reader) : Prop where
  path : Path (ofSource (a ++ '\n' :: b)) (before' ++ feed.emitted .newline)
    ((feed.moved '\n' [] .newline).facing (b ++ padding))
  head : feed.head = a.length
  earlier : ∀ token ∈ before', token.span.offset < a.length ∧ token.span.stop ≤ a.length
  reread : Reread (ofSource (a ++ ['\n'])) b before before'
  whole : tokens = before ++ feed.emitted .newline
  context : last.context = feed.context.newline

theorem ofSource_line (a b : List Char) :
    ofSource (a ++ '\n' :: b) = (ofSource []).facing (a ++ '\n' :: (b ++ padding)) := by
  simp [ofSource, facing]

theorem Ends.meets {a : List Char} (ends : Ends (a ++ ['\n']) tokens last) (b : List Char) :
    ∃ before before' feed, Meets a b tokens last before before' feed := by
  have standing := Reader.standing_ofSource (a ++ ['\n'])
  obtain ⟨whole, rest, ended⟩ := ends
  rw [ofSource_line a []] at standing whole
  obtain ⟨before, before', feed, feed', path, path', abreast, reread⟩ :=
    readsLine standing whole rest ended (b ++ padding)
  -- behind the line feed only the padding is left
  have fed := path.trans (Path.of_step (abreast.idle.step_feed padding))
  obtain ⟨padded, passed, padrest, context, _⟩ :=
    padding_path (r := feed.moved '\n' [] .newline) rfl
  obtain ⟨later, onward, split⟩ := (fed.trans passed).onward whole rest
  obtain ⟨rfl, rfl⟩ := onward.eq_of_nil padrest
  have counts := (path.standing standing).counts
  have head : feed.head = a.length := by
    simp only [facing_head, facing_rest, List.length_append, List.length_cons, List.length_nil,
      length_padding] at counts
    omega
  have fed' := path'.trans (Path.of_step (abreast.idle'.step_feed (b ++ padding)))
  rw [← ofSource_line] at path' fed'
  rw [abreast.emitted_feed, abreast.moved_feed] at fed'
  refine ⟨before, before', feed, fed', head, ?_, ?_, ?_, context⟩
  · intro token member
    have le : feed'.start ≤ a.length := by
      rw [← head, ← abreast.head]
      exact Nat.le_add_right ..
    obtain ⟨lt, stop⟩ := path'.before token member
    exact ⟨Nat.lt_of_lt_of_le lt le, Nat.le_trans stop le⟩
  · rw [ofSource_line a []]
    exact reread.unpadded
  · simpa using split

end Reader

open Reader

theorem toList_line (a b : String) : (a ++ "\n" ++ b).toList = a.toList ++ '\n' :: b.toList := by
  simp

/-- Whatever comes behind a source that ends with a line feed, the tokens of the source come first;
    only its last word becomes a path of names if a call follows it. -/
theorem tokens_line {a b : String} {tokens : List Token} (done : tokenize (a ++ "\n") = .ok tokens) :
    ∃ tokens', tokens' <+: (TokenStream.ofSource (a ++ "\n" ++ b)).tokens ∧
      Reread (ofSource (a ++ "\n").toList) b.toList tokens tokens' := by
  obtain ⟨last, ends⟩ := tokenize_eq_ok_iff.1 done
  have source : (a ++ "\n").toList = a.toList ++ ['\n'] := by simp
  rw [source] at ends ⊢
  obtain ⟨before, before', feed, meets⟩ := ends.meets b.toList
  refine ⟨before' ++ feed.emitted .newline, ?_, meets.whole ▸ meets.reread.append _⟩
  rw [TokenStream.tokens_ofSource, lex, toList_line, meets.path.run_eq]
  exact List.prefix_append _ _

/-- A word and a blank, with a call on the line behind it. -/
theorem tokens_line_call :
    tokenize ("ls " ++ "\n") = .ok [⟨⟨0, 2⟩, .execArg, "ls"⟩, .terminator 3] ∧
      ∃ tokens', tokens' <+: (TokenStream.ofSource ("ls " ++ "\n" ++ "(x)")).tokens ∧
        Reread (ofSource ("ls " ++ "\n").toList) "(x)".toList
          [⟨⟨0, 2⟩, .execArg, "ls"⟩, .terminator 3] tokens' := by
  have done : (ofSource ("ls " ++ "\n").toList).steps 7 = some (
      [⟨⟨0, 2⟩, .execArg, "ls"⟩, .terminator 3], ⟨.comment, ⟨none, 0, 0, 0⟩, 6, [], []⟩) := rfl
  have read := tokenize_of_steps done rfl rfl
  exact ⟨read, tokens_line read⟩

/-- The first token is not what it was: the call makes a name of the command. -/
theorem command_lost_to_call :
    tokenize ("ls " ++ "\n") = .ok [⟨⟨0, 2⟩, .execArg, "ls"⟩, .terminator 3] ∧
      tokenize ("ls " ++ "\n" ++ "(x)") = .ok [⟨⟨0, 2⟩, .name, "ls"⟩, .terminator 3,
        ⟨⟨4, 1⟩, .parenOpen, "("⟩, ⟨⟨5, 1⟩, .name, "x"⟩, ⟨⟨6, 1⟩, .parenClose, ")"⟩] ∧
      ¬[⟨⟨0, 2⟩, .execArg, "ls"⟩, .terminator 3] <+:
        (TokenStream.ofSource ("ls " ++ "\n" ++ "(x)")).tokens := by
  have alone : (ofSource ("ls " ++ "\n").toList).steps 7 = some (
      [⟨⟨0, 2⟩, .execArg, "ls"⟩, .terminator 3], ⟨.comment, ⟨none, 0, 0, 0⟩, 6, [], []⟩) := rfl
  have called : (ofSource ("ls " ++ "\n" ++ "(x)").toList).steps 11 = some (
      [⟨⟨0, 2⟩, .name, "ls"⟩, .terminator 3, ⟨⟨4, 1⟩, .parenOpen, "("⟩, ⟨⟨5, 1⟩, .name, "x"⟩,
        ⟨⟨6, 1⟩, .parenClose, ")"⟩], ⟨.comment, ⟨some .parenClose, 0, 0, 0⟩, 9, [], []⟩) := rfl
  refine ⟨tokenize_of_steps alone rfl rfl, tokenize_of_steps called rfl rfl, ?_⟩
  rw [TokenStream.tokens_ofSource, lex, (path_of_steps called).run_eq]
  intro first
  have same := (List.cons_prefix_cons.1 first).1
  simp at same

/-- Behind a line feed where no bracket is open, a source is read as if nothing came before it. -/
theorem toList_behind_line {a : String} {tokens : List Token} {last : Reader}
    (ends : Ends (a ++ "\n").toList tokens last) (closed : last.context.inBrackets = false) (b : String) :
    ∃ front, (∀ token ∈ front, token.span.offset < a.length ∧ token.span.stop ≤ a.length) ∧
      (TokenStream.ofSource (a ++ "\n" ++ b)).toList = (front ++ [.terminator a.length]).map .ok ++
        (TokenStream.ofSource b).toList.map (TokenStream.shiftItem (a.length + 1)) := by
  have source : (a ++ "\n").toList = a.toList ++ ['\n'] := by simp
  rw [source] at ends
  obtain ⟨before, before', feed, meets⟩ := ends.meets b.toList
  have head : feed.head = a.length := meets.head.trans String.length_toList
  have context := meets.context
  have empty : feed.context.newline = {} := by
    rw [← context]
    exact Context.eq_empty (by rw [context]; rfl) closed
  have parens : feed.context.parens = 0 := congrArg Context.parens empty
  have terminates : feed.emitted .newline = [.terminator a.length] := by
    rw [emitted, if_pos parens, head]
  have alone : (feed.moved '\n' [] .newline).facing (b.toList ++ padding) =
      (ofSource b.toList).shift (a.length + 1) := by
    simp [moved, facing, shift, ofSource, empty, head]
  have path := meets.path
  rw [← toList_line, terminates, alone] at path
  refine ⟨before', fun token member => ?_, ?_⟩
  · rw [← String.length_toList]
    exact meets.earlier token member
  · rw [TokenStream.toList_of_path path, TokenStream.readerItems_shift,
      TokenStream.toList_of_path (.refl)]
    rfl

/-- A call on its own line, read as if the word before it were not there. -/
theorem toList_behind_line_call :
    Ends ("ls " ++ "\n").toList [⟨⟨0, 2⟩, .execArg, "ls"⟩, .terminator 3]
        ⟨.comment, ⟨none, 0, 0, 0⟩, 6, [], []⟩ ∧
      Context.inBrackets ⟨none, 0, 0, 0⟩ = false ∧
      ∃ front, (∀ token ∈ front, token.span.offset < "ls ".length ∧ token.span.stop ≤ "ls ".length) ∧
        (TokenStream.ofSource ("ls " ++ "\n" ++ "(x)")).toList =
          (front ++ [.terminator "ls ".length]).map .ok ++
            (TokenStream.ofSource "(x)").toList.map (TokenStream.shiftItem ("ls ".length + 1)) := by
  have done : (ofSource ("ls " ++ "\n").toList).steps 7 = some (
      [⟨⟨0, 2⟩, .execArg, "ls"⟩, .terminator 3], ⟨.comment, ⟨none, 0, 0, 0⟩, 6, [], []⟩) := rfl
  have ends : Ends ("ls " ++ "\n").toList [⟨⟨0, 2⟩, .execArg, "ls"⟩, .terminator 3]
      ⟨.comment, ⟨none, 0, 0, 0⟩, 6, [], []⟩ := ⟨path_of_steps done, rfl, rfl⟩
  exact ⟨ends, rfl, toList_behind_line ends rfl "(x)"⟩

end CommandScript.Lexer
