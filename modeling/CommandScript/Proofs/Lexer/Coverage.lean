import CommandScript.Proofs.Lexer.Path

/-!
No significant character is lost. The tokens of a source that can be read cover all of it
but blanks, comments, the signs of names, the quotes of quotations and the backticks of
argument lists. What a list of arguments leaves out is said elsewhere.
-/
namespace CommandScript

/-- Whether the character at an offset is in a span. -/
def Span.covers (span : Span) (i : Nat) : Bool := span.offset ≤ i && i < span.stop

@[simp] theorem Span.covers_iff {span : Span} {i : Nat} :
    span.covers i = true ↔ span.offset ≤ i ∧ i < span.stop := by
  simp [covers]

namespace Lexer
open Reader

/-- In the state `before` a reader of this source meets the character `c` at this offset, and its
    step leads to the state `after`. -/
def Turns (source : List Char) (i : Nat) (c : Char) (before after : State) : Prop :=
  ∃ tokens r tail emitted next, Path (ofSource source) tokens r ∧ r.state = before ∧ r.head = i ∧
    r.rest = c :: tail ∧ r.step c tail = .ok (emitted, next) ∧ next.state = after

/-- A list of command arguments takes the character at this offset. -/
def ReadInArgList (source : List Char) (i : Nat) : Prop :=
  ∃ c escaped quote after, Turns source i c (.quotedArgList escaped quote) after

/-- The `#` at `first` opens a comment, and the character at `i` comes before the end of its line. -/
def Comments (source : List Char) (first i : Nat) : Prop :=
  Turns source first '#' .start .comment ∧ first ≤ i ∧
    ∀ k, first ≤ k → k ≤ i → source[k]? ≠ some '\n'

/-- What a character may be that is in no token. -/
inductive Insignificant (source : List Char) (i : Nat) : Prop
  | blank {c : Char} (here : source[i]? = some c) (blank : Text.isBlank c = true)
  | comment {first : Nat} (comments : Comments source first i)
  | sign (opens : Turns source i '@' .start .identifier)
  | openingQuote {quote : Char} (opens : Turns source i quote .start (.quotedLiteral quote false))
  | closingQuote {quote : Char} (closes : Turns source i quote (.quotedLiteral quote false) .start)
  | openingBacktick (opens : Turns source i backtick .start (.quotedArgList false none))

variable {source : List Char} {i : Nat}

/-! ## What the tokens of a step cover -/

theorem pathPart_cover {start : Nat} {part : List Char} (from_le : start ≤ i)
    (lt : i < start + part.length) : ∃ token ∈ pathPart start part, token.span.covers i = true := by
  have nonempty : part.isEmpty = false := by
    cases part with
    | nil => exact absurd from_le (Nat.not_le.2 lt)
    | cons => rfl
  unfold pathPart
  rw [nonempty]
  exact ⟨_, List.mem_singleton_self _, Span.covers_iff.2 ⟨from_le, lt⟩⟩

theorem pathTokens_cover {start : Nat} {part chars : List Char} (from_le : start ≤ i)
    (lt : i < start + part.length + chars.length) :
    ∃ token ∈ pathTokens start part chars, token.span.covers i = true := by
  induction chars generalizing start part with
  | nil => exact pathPart_cover from_le lt
  | cons c chars ih =>
    simp only [List.length_cons] at lt
    rw [pathTokens]
    split_ifs with point
    · rcases Nat.lt_trichotomy i (start + part.length) with inside | rfl | behind
      · obtain ⟨token, member, covers⟩ := pathPart_cover from_le inside
        exact ⟨token, List.mem_append_left _ member, covers⟩
      · exact ⟨⟨⟨start + part.length, 1⟩, .dot, "."⟩, by simp, by simp [Span.stop]⟩
      · have lt : i < start + part.length + 1 + ([] : List Char).length + chars.length := by
          simp only [List.length_nil]
          omega
        obtain ⟨token, member, covers⟩ := ih behind lt
        exact ⟨token, by simp [member], covers⟩
    · exact ih from_le (by simp; omega)

namespace Reader
variable {r : Reader} {c : Char} {tail : List Char} {tokens : List Token} {action : Action}

theorem lexeme_covers (kind : Kind) (from_le : r.start ≤ i) (lt : i < r.head) :
    (r.lexeme kind).span.covers i = true :=
  Span.covers_iff.2 ⟨from_le, lt⟩

theorem mark_covers (kind : Kind) : (r.mark kind c).span.covers r.head = true := by
  simp [mark, Span.stop]

theorem Standing.ne_feed (standing : Standing source r) (rest : r.rest = c :: tail)
    (inline : c ≠ '\n') : source[r.head]? ≠ some '\n' := by
  intro feed
  have inside : r.head < source.length := (List.getElem?_eq_some_iff.1 feed).1
  rw [standing.here rest inside] at feed
  exact inline (Option.some.inj feed)

/-! ## What came before -/

/-- A comment goes on, or a `#` opens it. -/
theorem comment_entered (acts : Acts r c tail action)
    (entered : (r.moved c tail action).state = .comment) :
    action = .emit [] 1 .comment ∧ (r.state = .start ∧ c = '#' ∨ r.state = .comment ∧ c ≠ '\n') := by
  cases acts <;> try (simp [moved] at entered)
  case comment opens first => exact ⟨rfl, .inl ⟨opens.state, first⟩⟩
  case commented state inline => exact ⟨rfl, .inr ⟨state, inline⟩⟩

/-- A list of arguments goes on, or a backtick opens it. Within it, text is kept or let go. -/
theorem argList_entered {escaped : Bool} {quote : Option Char} (acts : Acts r c tail action)
    (entered : (r.moved c tail action).state = .quotedArgList escaped quote) :
    (∃ before opened, r.state = .quotedArgList before opened ∧
      ((r.moved c tail action).text = [] ∨ ∃ next, action = .keep next)) ∨
    (r.state = .start ∧ c = backtick ∧ action = .emit [] 1 (.quotedArgList false none)) := by
  cases acts <;> try (simp [moved] at entered)
  case argList opens first => exact .inr ⟨opens.state, first, rfl⟩
  all_goals refine .inl ⟨_, _, ‹_›, ?_⟩
  all_goals first
    | exact .inl rfl
    | exact .inr ⟨_, rfl⟩

theorem Path.turns (path : Path (ofSource source) tokens r) (rest : r.rest = c :: tail)
    {emitted : List Token} {next : Reader} (done : r.step c tail = .ok (emitted, next)) :
    Turns source r.head c r.state next.state :=
  ⟨tokens, r, tail, emitted, next, path, rfl, rfl, rest, done, rfl⟩

/-- A reader is in a comment since some `#`, and no line has ended in between. -/
theorem Path.commented (path : Path (ofSource source) tokens r) (state : r.state = .comment) :
    ∃ first < r.head, Turns source first '#' .start .comment ∧
      ∀ k, first ≤ k → k < r.head → source[k]? ≠ some '\n' := by
  induction path with
  | refl => simp [ofSource] at state
  | @step r next c tail tokens emitted path rest done ih =>
    have turns := path.turns rest done
    have standing := path.standing_ofSource
    obtain ⟨action, acts, rfl, rfl⟩ := acts_of_step done
    obtain ⟨rfl, opened⟩ := comment_entered acts state
    have head : (r.moved c tail (.emit [] 1 .comment)).head = r.head + 1 := rfl
    rw [head]
    rcases opened with ⟨before, rfl⟩ | ⟨before, inline⟩
    · rw [before, state] at turns
      refine ⟨r.head, Nat.lt_succ_self _, turns, fun k le lt => ?_⟩
      obtain rfl : k = r.head := by omega
      exact standing.ne_feed rest (by decide)
    · obtain ⟨first, lt, opens, inlines⟩ := ih before
      refine ⟨first, Nat.lt_succ_of_lt lt, opens, fun k le lt => ?_⟩
      rcases Nat.lt_succ_iff_lt_or_eq.1 lt with earlier | rfl
      · exact inlines k le earlier
      · exact standing.ne_feed rest inline

/-- A list of arguments has taken all that a reader in it keeps. -/
theorem Path.listed (path : Path (ofSource source) tokens r) {escaped : Bool} {quote : Option Char}
    (state : r.state = .quotedArgList escaped quote) (from_le : r.start ≤ i) (lt : i < r.head) :
    ReadInArgList source i := by
  induction path generalizing escaped quote with
  | refl => simp [ofSource] at state
  | @step r next c tail tokens emitted path rest done ih =>
    have turns := path.turns rest done
    obtain ⟨action, acts, rfl, rfl⟩ := acts_of_step done
    rcases argList_entered acts state with ⟨before, opened, inside, empty | ⟨next, rfl⟩⟩ | ⟨_, _, rfl⟩
    · simp only [head, empty, List.length_nil] at lt
      omega
    · have lt : i < r.head + 1 := by simpa [moved, head, Nat.add_assoc] using lt
      rcases Nat.lt_succ_iff_lt_or_eq.1 lt with earlier | rfl
      · exact ih inside from_le earlier
      · rw [inside] at turns
        exact ⟨c, before, opened, _, turns⟩
    · simp only [moved, head, List.length_nil] at from_le lt
      omega

/-- Without a backtick there is no list of arguments. -/
theorem Path.backtick_mem (path : Path (ofSource source) tokens r) {escaped : Bool}
    {quote : Option Char} (state : r.state = .quotedArgList escaped quote) : backtick ∈ source := by
  induction path generalizing escaped quote with
  | refl => simp [ofSource] at state
  | @step r next c tail tokens emitted path rest done ih =>
    have standing := path.standing_ofSource
    obtain ⟨action, acts, rfl, rfl⟩ := acts_of_step done
    rcases argList_entered acts state with ⟨before, opened, inside, _⟩ | ⟨_, rfl, _⟩
    · exact ih inside
    · have inside := standing.lt_length rest (by decide) (by decide)
      exact List.mem_of_getElem? (standing.here rest inside)

end Reader

theorem ReadInArgList.backtick_mem (listed : ReadInArgList source i) : backtick ∈ source := by
  obtain ⟨c, escaped, quote, after, tokens, r, tail, emitted, next, path, state, _⟩ := listed
  exact path.backtick_mem state

/-! ## One step, then all of them -/

/-- A character is in one of these tokens, or a list of arguments takes it, or it has no meaning of
    its own. -/
def Accounted (source : List Char) (tokens : List Token) (i : Nat) : Prop :=
  (∃ token ∈ tokens, token.span.covers i = true) ∨ ReadInArgList source i ∨ Insignificant source i

theorem Accounted.mono {tokens later : List Token} (accounted : Accounted source tokens i)
    (sub : tokens ⊆ later) : Accounted source later i :=
  accounted.imp_left fun ⟨token, member, covers⟩ => ⟨token, sub member, covers⟩

namespace Reader
variable {r : Reader} {c : Char} {tail : List Char} {tokens : List Token} {action : Action}

/-- A step that goes on behind some characters accounts for each of them. -/
theorem accounted_emitted (path : Path (ofSource source) tokens r) (rest : r.rest = c :: tail)
    (done : r.step c tail = .ok (r.emitted action, r.moved c tail action))
    (acts : Acts r c tail action) (inside : i < source.length) (from_le : r.start ≤ i)
    (lt : i < (r.moved c tail action).start) : Accounted source (r.emitted action) i := by
  have standing := path.standing_ofSource
  have turns := path.turns rest done
  -- the text kept makes a token, and the step takes `c` besides
  have lexed (kind : Kind) (member : r.lexeme kind ∈ r.emitted action) (before : i < r.head) :
      Accounted source (r.emitted action) i :=
    .inl ⟨_, member, lexeme_covers kind from_le before⟩
  have marked (kind : Kind) (member : r.mark kind c ∈ r.emitted action) (last : i = r.head) :
      Accounted source (r.emitted action) i :=
    .inl ⟨_, member, last ▸ mark_covers kind⟩
  have blanked (blank : Text.isBlank c = true) (last : i = r.head) :
      Accounted source (r.emitted action) i := by
    subst last
    exact .inr (.inr (.blank (standing.here rest inside) blank))
  have listed {escaped : Bool} {quote : Option Char} (state : r.state = .quotedArgList escaped quote)
      (le : i ≤ r.head) : Accounted source (r.emitted action) i := by
    refine .inr (.inl ?_)
    rcases Nat.lt_or_eq_of_le le with before | rfl
    · exact path.listed state from_le before
    · exact ⟨c, _, _, _, state ▸ turns⟩
  have alone (kept : r.text = []) (le : i ≤ r.head) : i = r.head := by
    simp only [head, kept, List.length_nil] at le ⊢
    omega
  cases acts with
  | newline state feed =>
    have kept : r.text = [] := state.elim (standing.suits_of ·) (standing.suits_of ·)
    exact blanked (by rw [feed]; decide) (alone kept (Nat.lt_succ_iff.1 lt))
  | blank state blank => exact blanked blank (alone (standing.suits_of state) (Nat.lt_succ_iff.1 lt))
  | operator state printed found =>
    have lt : i < r.head + _ := lt
    rw [standing.start_eq_head state] at from_le
    exact .inl ⟨_, List.mem_singleton_self _, Span.covers_iff.2 ⟨from_le, lt⟩⟩
  | number => exact absurd from_le (Nat.not_le.2 lt)
  | dot opens =>
    exact marked .dot (List.mem_singleton_self _) (alone (standing.suits_of opens.state) (Nat.lt_succ_iff.1 lt))
  | word => exact absurd from_le (Nat.not_le.2 lt)
  | comment opens first =>
    obtain rfl := alone (standing.suits_of opens.state) (Nat.lt_succ_iff.1 lt)
    rw [opens.state, first] at turns
    refine .inr (.inr (.comment ⟨turns, Nat.le_refl _, fun k le ge => ?_⟩))
    obtain rfl : k = r.head := Nat.le_antisymm ge le
    exact standing.ne_feed rest (by rw [first]; decide)
  | identifier opens first =>
    obtain rfl := alone (standing.suits_of opens.state) (Nat.lt_succ_iff.1 lt)
    rw [opens.state, first] at turns
    exact .inr (.inr (.sign turns))
  | quotation opens =>
    obtain rfl := alone (standing.suits_of opens.state) (Nat.lt_succ_iff.1 lt)
    rw [opens.state] at turns
    exact .inr (.inr (.openingQuote turns))
  | argList opens first =>
    obtain rfl := alone (standing.suits_of opens.state) (Nat.lt_succ_iff.1 lt)
    rw [opens.state, first] at turns
    exact .inr (.inr (.openingBacktick turns))
  | commented state inline =>
    obtain rfl := alone (standing.suits_of state) (Nat.lt_succ_iff.1 lt)
    obtain ⟨first, before, opens, inlines⟩ := path.commented state
    refine .inr (.inr (.comment ⟨opens, Nat.le_of_lt before, fun k le ge => ?_⟩))
    rcases Nat.lt_or_eq_of_le ge with earlier | rfl
    · exact inlines k le earlier
    · exact standing.ne_feed rest inline
  | identifierDot =>
    rcases Nat.lt_succ_iff_lt_or_eq.1 lt with before | last
    · exact lexed .name (by simp [Reader.emitted]) before
    · exact marked .dot (by simp [Reader.emitted]) last
  | identifierEnd => exact lexed .name (List.mem_singleton_self _) lt
  | identifierChar => exact absurd from_le (Nat.not_le.2 lt)
  | quotationEscape => exact absurd from_le (Nat.not_le.2 lt)
  | quotationEnd state closes =>
    rcases Nat.lt_succ_iff_lt_or_eq.1 lt with before | rfl
    · exact lexed _ (List.mem_singleton_self _) before
    · rw [state, closes] at turns
      exact .inr (.inr (.closingQuote turns))
  | quotationChar => exact absurd from_le (Nat.not_le.2 lt)
  | argEscape => exact absurd from_le (Nat.not_le.2 lt)
  | argUnquote state => exact listed state (Nat.lt_succ_iff.1 lt)
  | argQuoted => exact absurd from_le (Nat.not_le.2 lt)
  | argQuote state => exact listed state (Nat.lt_succ_iff.1 lt)
  | argPipe state => exact listed state (Nat.lt_succ_iff.1 lt)
  | argListEnd state => exact listed state (Nat.lt_succ_iff.1 lt)
  | argBlank state => exact listed state (Nat.lt_succ_iff.1 lt)
  | argChar => exact absurd from_le (Nat.not_le.2 lt)
  | wordDot =>
    rcases Nat.lt_succ_iff_lt_or_eq.1 lt with before | last
    · exact lexed _ (List.mem_cons_self ..) before
    · exact marked .dot (by simp [Reader.emitted]) last
  | wordReserved => exact lexed _ (List.mem_singleton_self _) lt
  | wordPath =>
    have lt : i < r.start + ([] : List Char).length + r.text.length := lt
    obtain ⟨token, member, covers⟩ := pathTokens_cover from_le lt
    exact .inl ⟨token, member, covers⟩
  | wordEnd => exact lexed _ (List.mem_singleton_self _) lt
  | wordChar => exact absurd from_le (Nat.not_le.2 lt)
  | numberRange => exact lexed _ (List.mem_singleton_self _) lt
  | numberPoint => exact absurd from_le (Nat.not_le.2 lt)
  | numberDigit => exact absurd from_le (Nat.not_le.2 lt)
  | numberUnit =>
    refine .inl ⟨_, List.mem_singleton_self _, Span.covers_iff.2 ⟨from_le, ?_⟩⟩
    simpa [measured, Span.stop, moved, head, Nat.add_assoc] using lt
  | numberEnd => exact lexed _ (List.mem_singleton_self _) lt

/-- A path accounts for all characters up to where it leads. -/
theorem Path.accounted (path : Path (ofSource source) tokens r) (inside : i < source.length)
    (lt : i < r.start) : Accounted source tokens i := by
  induction path with
  | refl => simp [ofSource] at lt
  | @step r next c tail tokens emitted path rest done ih =>
    rcases Nat.lt_or_ge i r.start with before | from_le
    · exact (ih before).mono (List.subset_append_left ..)
    · obtain ⟨action, acts, rfl, rfl⟩ := acts_of_step done
      exact (accounted_emitted path rest done acts inside from_le lt).mono (List.subset_append_right ..)

end Reader

/-- A character of a source that can be read is in a token, unless a list of arguments takes it or
    it is insignificant. -/
theorem insignificant_of_uncovered {source : String} {tokens : List Token}
    (done : tokenize source = .ok tokens) {i : Nat} (inside : i < source.length)
    (uncovered : ∀ token ∈ tokens, token.span.covers i = false)
    (unlisted : ¬ ReadInArgList source.toList i) : Insignificant source.toList i := by
  obtain ⟨last, ends⟩ := tokenize_eq_ok_iff.1 done
  have standing := ends.path.standing_ofSource
  rw [← String.length_toList] at inside
  have kept : last.text = [] := standing.suits_of ends.state
  have behind : i < last.start := by
    have counts := standing.counts
    simp only [head, kept, ends.rest, List.length_nil] at counts
    omega
  rcases ends.path.accounted inside behind with ⟨token, member, covers⟩ | listed | insignificant
  · rw [uncovered token member] at covers
    contradiction
  · exact absurd listed unlisted
  · exact insignificant

/-- The quote before the `a`: neither a blank nor in a comment, and yet in no token. -/
theorem insignificant_quote :
    tokenize "x := 'a' # c" = .ok [⟨⟨0, 1⟩, .name, "x"⟩, ⟨⟨2, 2⟩, .declare, ":="⟩,
        ⟨⟨6, 1⟩, .quotedString, "a"⟩] ∧
      backtick ∉ "x := 'a' # c".toList ∧ Insignificant "x := 'a' # c".toList 5 := by
  have done : (ofSource "x := 'a' # c".toList).steps 14 = some ([⟨⟨0, 1⟩, .name, "x"⟩,
      ⟨⟨2, 2⟩, .declare, ":="⟩, ⟨⟨6, 1⟩, .quotedString, "a"⟩],
      ⟨.comment, ⟨some .quotedString, 0, 0, 0⟩, 14, [], []⟩) := rfl
  have read := tokenize_of_steps done rfl rfl
  have unlisted : backtick ∉ "x := 'a' # c".toList := by decide
  exact ⟨read, unlisted,
    insignificant_of_uncovered read (by decide) (by decide) fun listed => unlisted listed.backtick_mem⟩

end Lexer
end CommandScript
