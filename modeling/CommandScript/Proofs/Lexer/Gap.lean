import CommandScript.Proofs.Lexer.Failure
import CommandScript.Proofs.Lexer.Line

/-!
One source, read with some blanks between two characters and read again with other blanks
there. Outside of quotations and comments both give the same tokens and fail in the same
way: which blanks there are, and how many, only moves what comes behind them.
-/
namespace CommandScript.Lexer

/-- Blanks within a line. -/
structure Gap (gap : List Char) : Prop where
  nonempty : gap ≠ []
  blanks : ∀ c ∈ gap, Text.isBlank c = true
  inline : '\n' ∉ gap

/-- Where an item of a stream stands in the source. -/
def TokenStream.place : Except LexError Token → Nat
  | .ok token => token.span.offset
  | .error error => error.offset

/-- The items of a source with a gap at this offset, and those of the same source with another gap there. -/
inductive Respaced (offset : Nat) (gap gap' : List Char) :
    List (Except LexError Token) → List (Except LexError Token) → Prop
  /-- what comes behind the gap moves with it -/
  | passed {before : List Token} {behind : List (Except LexError Token)}
    (earlier : ∀ token ∈ before, token.span.offset < offset ∧ token.span.stop ≤ offset)
    (later : ∀ item ∈ behind, offset ≤ TokenStream.place item) :
    Respaced offset gap gap' (before.map .ok ++ behind.map (TokenStream.shiftItem gap.length))
      (before.map .ok ++ behind.map (TokenStream.shiftItem gap'.length))
  /-- the first blank of the gap can not be read -/
  | failed {before : List Token} {problem : Problem} {state : State}
    (earlier : ∀ token ∈ before, token.span.offset < offset ∧ token.span.stop ≤ offset) :
    Respaced offset gap gap' (before.map .ok ++ [.error ⟨problem, offset, gap.head?, state⟩])
      (before.map .ok ++ [.error ⟨problem, offset, gap'.head?, state⟩])

namespace Reader

/-- Reading comes to this offset of a source, and is not in a quotation or in a comment there. -/
def UnquotedAt (source : List Char) (offset : Nat) : Prop :=
  ∃ tokens r, Path (ofSource source) tokens r ∧ r.head = offset ∧ ¬r.state.Quoted ∧ r.state ≠ .comment

variable {source : List Char} {r first next last : Reader} {c d e mark : Char} {front behind tail : List Char}
  {gap gap' : List Char} {tokens emitted : List Token}

/-! ## Before the gap -/

theorem find?_blanks (blanks : ∀ c ∈ gap, Text.isBlank c = true) : gap.find? (!Text.isBlank ·) = none := by
  simpa using blanks

/-- Behind a bare word all of a gap is looked past. -/
theorem ahead_gap (between : Gap gap) (between' : Gap gap') (c : Char) (front behind : List Char) :
    ahead c (front ++ (gap ++ behind)) = ahead c (front ++ (gap' ++ behind)) := by
  simp only [ahead, List.find?_append, find?_blanks between.blanks, find?_blanks between'.blanks]

theorem seesAlike_gap (between : Gap gap) (between' : Gap gap') :
    SeesAlike r c (front ++ (gap ++ behind)) (front ++ (gap' ++ behind)) := by
  have ahead := ahead_gap between between' c front behind
  obtain ⟨d, more, rfl⟩ := List.exists_cons_of_ne_nil between.nonempty
  obtain ⟨e, more', rfl⟩ := List.exists_cons_of_ne_nil between'.nonempty
  exact seesAlike_blank (between.blanks d List.mem_cons_self) (between'.blanks e List.mem_cons_self)
    fun _ => ahead

/-- A step before the gap is the same step before another one. -/
theorem step_before_gap (between : Gap gap) (done : r.step c (front ++ (gap ++ behind)) = .ok (emitted, next)) :
    ∃ (middle : Reader) (later : List Char), ∀ gap', Gap gap' →
      r.step c (front ++ (gap' ++ behind)) = .ok (emitted, middle.facing (later ++ (gap' ++ behind))) := by
  obtain ⟨d, more, rfl⟩ := List.exists_cons_of_ne_nil between.nonempty
  obtain ⟨middle, later, same⟩ := step_blank (between.blanks d List.mem_cons_self) done
  exact ⟨middle, later, fun gap' between' => same (gap' ++ behind) (seesAlike_gap between between')⟩

/-! ## At the gap -/

/-- A blank within a line, and the first character behind the blanks. -/
structure Spaced (mark c : Char) (tail : List Char) : Prop where
  blank : Text.isBlank c = true
  inline : c ≠ '\n'
  ahead : ahead c tail = mark

theorem spaced_of_gap (between : Gap (c :: gap)) (found : behind.find? (!Text.isBlank ·) = some mark) :
    Spaced mark c (gap ++ behind) := by
  have blank : Text.isBlank c = true := between.blanks c List.mem_cons_self
  have inline : c ≠ '\n' := fun feed => between.inline (feed ▸ List.mem_cons_self)
  have blanks : ∀ d ∈ gap, Text.isBlank d = true := by
    intro d member
    exact between.blanks d (List.mem_cons_of_mem _ member)
  refine ⟨blank, inline, ?_⟩
  simp [Reader.ahead, blank, inline, find?_blanks blanks, found]

/-- Any blank within a line ends a name, a word or a number in the same way, if the same character comes
    behind the blanks. -/
theorem action_spaced (state : EndsAtFeed r.state) (mark : Char) :
    (∃ tokens, ∀ c tail, Spaced mark c tail → r.action c tail = .ok (.emit tokens 0 .start)) ∨
      ∃ problem, ∀ c tail, Spaced mark c tail → r.action c tail = .error problem := by
  have pointless {c : Char} (blank : Text.isBlank c = true) : c ≠ '.' := by
    rintro rfl
    exact absurd blank (by decide)
  cases here : r.state <;> rw [here] at state <;> simp only [EndsAtFeed] at state
  case identifier =>
    by_cases empty : r.text.isEmpty = true
    · refine .inr ⟨.emptyIdentifier, fun c tail spaced => ?_⟩
      rw [Reader.action, here]
      simp [identifierAction, pointless spaced.blank, spaced.blank, empty]
    · refine .inl ⟨[r.lexeme .name], fun c tail spaced => ?_⟩
      rw [Reader.action, here]
      simp [identifierAction, pointless spaced.blank, spaced.blank, empty]
  case unquotedLiteral =>
    left
    by_cases marked : callMarks.contains mark = true
    · by_cases reserved : (keyword? (String.ofList r.text)).isSome = true
      · refine ⟨[r.lexeme (wordKind r.context r.text)], fun c tail spaced => ?_⟩
        rw [word_at_blank here spaced.blank spaced.inline, spaced.ahead, if_pos marked, if_pos reserved]
      · refine ⟨pathTokens r.start [] r.text, fun c tail spaced => ?_⟩
        rw [word_at_blank here spaced.blank spaced.inline, spaced.ahead, if_pos marked, if_neg reserved]
    · refine ⟨[r.lexeme (wordKind r.context r.text)], fun c tail spaced => ?_⟩
      rw [word_at_blank here spaced.blank spaced.inline, spaced.ahead, if_neg marked]
  case number hasPoint =>
    refine .inl ⟨[r.lexeme (numberKind r.context hasPoint)], fun c tail spaced => ?_⟩
    have digitless : c.isDigit = false := by
      by_contra digit
      rw [Bool.not_eq_false] at digit
      exact absurd spaced.blank (by simp [Text.isBlank_of_isDigit digit])
    rw [Reader.action, here]
    simp [numberAction, pointless spaced.blank, digitless, letterless_of_blank spaced.blank]

/-- The same step on the first blank of any gap, with the same tokens or the same problem. -/
theorem step_at_gap (state : EndsAtFeed r.state) (found : behind.find? (!Text.isBlank ·) = some mark) :
    (∃ tokens, ∀ c gap, Gap (c :: gap) →
        r.step c (gap ++ behind) = .ok (tokens, (r.ended tokens).facing (c :: gap ++ behind))) ∨
      ∃ problem, ∀ c gap, Gap (c :: gap) →
        r.step c (gap ++ behind) = .error ⟨problem, r.head, some c, r.state⟩ := by
  rcases action_spaced state mark with ⟨tokens, acted⟩ | ⟨problem, failed⟩
  · left
    refine ⟨tokens, fun c gap between => ?_⟩
    exact step_of_action (acted c (gap ++ behind) (spaced_of_gap between found))
  · right
    refine ⟨problem, fun c gap between => ?_⟩
    exact step_of_error (failed c (gap ++ behind) (spaced_of_gap between found))

/-- Only at the end of a name, a word or a number is a character left to the next step. -/
theorem endsAtFeed_of_left (done : r.step c tail = .ok (tokens, next))
    (left : (c :: tail).length ≤ next.rest.length) : EndsAtFeed r.state := by
  obtain ⟨action, acts, rfl, rfl⟩ := acts_of_step done
  cases acts with
  | operator state printed read =>
    have taken := operator?_pos read
    simp only [moved, List.length_drop, List.length_cons] at left
    omega
  | identifierEnd state | wordReserved state | wordPath state | wordEnd state | numberRange state
  | numberUnit state | numberEnd state =>
    rw [state]
    trivial
  | _ => exact absurd left (by simp [moved])

/-- A path that does not lead into the gap is the same path, whichever the gap is. -/
theorem Path.respaced (between : Gap gap) (found : behind.find? (!Text.isBlank ·) = some mark)
    (path : Path first tokens last) (rest : first.rest = front ++ (gap ++ behind))
    (before : (gap ++ behind).length ≤ last.rest.length) :
    ∃ (middle : Reader) (later : List Char), last = middle.facing (later ++ (gap ++ behind)) ∧
      ∀ gap', Gap gap' →
        Path (first.facing (front ++ (gap' ++ behind))) tokens (middle.facing (later ++ (gap' ++ behind))) := by
  induction path with
  | refl => exact ⟨first, front, by rw [← rest, facing], fun _ _ => .refl⟩
  | @step r next c tail tokens emitted path here done ih =>
    have onward := (Path.single here done).rest_le
    obtain ⟨middle, later, rfl, same⟩ := ih (Nat.le_trans before onward)
    rw [step_facing] at done
    rw [facing_rest] at here
    cases later with
    | cons d later =>
      obtain ⟨rfl, rfl⟩ := List.cons.inj here
      obtain ⟨following, left, alike⟩ := step_before_gap between done
      obtain ⟨_, rfl⟩ := step_unique (alike gap between) done
      refine ⟨following, left, rfl, ?_⟩
      intro gap' between'
      exact (same gap' between').trans (Path.of_step (alike gap' between'))
    | nil =>
      -- nothing of the gap is taken, so this step ends the token before it
      rw [List.nil_append] at here
      rw [here] at before
      obtain ⟨d, more, rfl⟩ := List.exists_cons_of_ne_nil between.nonempty
      rcases step_at_gap (endsAtFeed_of_left done before) found with ⟨ended, alike⟩ | ⟨problem, fails⟩
      · obtain ⟨rfl, rfl⟩ := List.cons.inj here
        obtain ⟨rfl, rfl⟩ := step_unique (alike d more between) done
        refine ⟨middle.ended ended, [], rfl, ?_⟩
        intro gap' between'
        obtain ⟨e, more', rfl⟩ := List.exists_cons_of_ne_nil between'.nonempty
        exact (same _ between').trans (Path.of_step (alike e more' between'))
      · obtain ⟨rfl, rfl⟩ := List.cons.inj here
        have failed := (fails d more between).symm.trans done
        contradiction

/-! ## Behind the gap -/

/-- Between two tokens a gap is passed without a token, and what comes behind it is read as if there were
    no gap, only further on. -/
theorem Path.past_gap (between : Gap gap) (state : r.state = .start) (empty : r.text = []) (behind : List Char) :
    Path (r.facing (gap ++ behind)) [] ((r.facing behind).shift gap.length) := by
  obtain ⟨nonempty, blanks, inline⟩ := between
  clear nonempty
  induction gap generalizing r with
  | nil => exact .refl
  | cons c gap ih =>
    have idle : r.Idle := .inl state
    have blank : Text.isBlank c = true := blanks c List.mem_cons_self
    have within : c ≠ '\n' := fun feed => inline (feed ▸ List.mem_cons_self)
    have first := Path.of_step (idle.step_blank blank within (gap ++ behind))
    have others := ih (r := r.moved c [] (.emit [] 1 r.state)) state rfl
      (fun d member => blanks d (List.mem_cons_of_mem _ member)) fun feed => inline (List.mem_cons_of_mem _ feed)
    have same : ((r.moved c [] (.emit [] 1 r.state)).facing behind).shift gap.length =
        (r.facing behind).shift (c :: gap).length := by
      have onward : r.start + 0 + 1 + gap.length = r.start + (gap.length + 1) := by omega
      simp only [shift, facing, moved, Reader.head, empty, state, List.length_nil, List.length_cons,
        List.map_nil, Context.afterAll, List.foldl_nil, onward]
    rw [← same]
    exact first.trans others

theorem Path.start_le (path : Path first tokens last) (standing : Standing source first) :
    first.start ≤ last.start := by
  induction path with
  | refl => exact Nat.le_refl _
  | step path rest done ih =>
    obtain ⟨action, acts, rfl, rfl⟩ := acts_of_step done
    exact Nat.le_trans ih (laid_emitted (path.standing standing) rest acts).le

/-- What is left for a reader to give out stands behind its start. -/
theorem start_le_place (standing : Standing source r) :
    ∀ item ∈ TokenStream.readerItems (some r), r.start ≤ TokenStream.place item := by
  intro item member
  rcases List.mem_append.1 member with read | failed
  · obtain ⟨token, among, rfl⟩ := List.mem_map.1 read
    exact ((laid_run standing).of_mem among).1
  · obtain ⟨error, stop, rfl⟩ := List.mem_map.1 failed
    obtain ⟨last, path, stops⟩ := exists_path_run r
    have onward : r.start ≤ last.head := Nat.le_trans (path.start_le standing) (Nat.le_add_right ..)
    rw [Option.mem_toList] at stop
    rw [stop] at stops
    cases stops with
    | ended rest finished =>
      unfold finish at finished
      split_ifs at finished
      obtain rfl := Option.some.inj finished
      exact onward
    | failed rest failed =>
      rw [(fails_of_step failed).2]
      exact onward

/-! ## Whole sources -/

/-- The reader that comes to the gap between `a` and `b`, whichever the gap is. -/
structure MeetsGap (a b : List Char) (tokens : List Token) (r : Reader) : Prop where
  path : ∀ gap, Gap gap → Path (ofSource (a ++ gap ++ b)) tokens (r.facing (gap ++ (b ++ padding)))
  head : r.head = a.length

variable {a b : List Char}

/-- Behind every gap something is printed, and be it the padding. -/
theorem exists_printed (b : List Char) : ∃ mark, (b ++ padding).find? (!Text.isBlank ·) = some mark := by
  apply Option.isSome_iff_exists.1
  have printed : Text.isBlank '#' = false := by decide
  exact List.find?_isSome.2 ⟨'#', by simp [padding], by simp [printed]⟩

theorem meetsGap_of_path (between : Gap gap) (path : Path (ofSource (a ++ gap ++ b)) tokens last)
    (head : last.head = a.length) :
    ∃ middle, last = middle.facing (gap ++ (b ++ padding)) ∧ MeetsGap a b tokens middle := by
  have standing := path.standing_ofSource
  have counts := standing.counts
  simp only [List.length_append, length_padding, head] at counts
  have left : last.rest.length = (gap ++ (b ++ padding)).length := by
    simp only [List.length_append, length_padding]
    omega
  obtain ⟨mark, found⟩ := exists_printed b
  have whole (gap' : List Char) :
      ofSource (a ++ gap' ++ b) = (ofSource []).facing (a ++ (gap' ++ (b ++ padding))) := by
    simp [ofSource, facing]
  rw [whole] at path
  obtain ⟨middle, later, rfl, same⟩ := path.respaced between found rfl (Nat.le_of_eq left.symm)
  have arrived : later = [] := by
    rw [facing_rest, List.length_append] at left
    exact List.length_eq_zero_iff.1 (by omega)
  subst arrived
  refine ⟨middle, rfl, fun gap' between' => ?_, head⟩
  rw [whole]
  exact same gap' between'

/-- A name, a word or a number that comes to a gap ends there, or the first blank can not be read. -/
theorem MeetsGap.ended (meets : MeetsGap a b tokens r) (state : EndsAtFeed r.state) :
    (∃ tokens', MeetsGap a b (tokens ++ tokens') (r.ended tokens')) ∨
      ∃ problem, ∀ gap, Gap gap →
        Stops (r.facing (gap ++ (b ++ padding))) (some ⟨problem, a.length, gap.head?, r.state⟩) := by
  obtain ⟨mark, found⟩ := exists_printed b
  rcases step_at_gap state found with ⟨tokens', done⟩ | ⟨problem, failed⟩
  · left
    refine ⟨tokens', fun gap between => ?_, meets.head⟩
    obtain ⟨c, more, rfl⟩ := List.exists_cons_of_ne_nil between.nonempty
    exact (meets.path _ between).trans (Path.of_step (done c more between))
  · right
    refine ⟨problem, fun gap between => ?_⟩
    obtain ⟨c, more, rfl⟩ := List.exists_cons_of_ne_nil between.nonempty
    refine .failed rfl ?_
    rw [step_facing, List.append_eq, failed c more between, meets.head]
    rfl

theorem MeetsGap.earlier (meets : MeetsGap a b tokens r) (between : Gap gap) :
    ∀ token ∈ tokens, token.span.offset < a.length ∧ token.span.stop ≤ a.length := by
  intro token member
  have le : r.start ≤ a.length := meets.head ▸ Nat.le_add_right ..
  obtain ⟨lt, stop⟩ := (meets.path gap between).before token member
  exact ⟨Nat.lt_of_lt_of_le lt le, Nat.le_trans stop le⟩

/-- Between two tokens the reader could as well stand where the gap is left out. -/
theorem MeetsGap.standing (meets : MeetsGap a b tokens r) (state : r.state = .start) (empty : r.text = []) :
    Standing (a ++ b) (r.facing (b ++ padding)) where
  reads := by
    have start : r.start = a.length := by simpa [Reader.head, empty] using meets.head
    simp [facing, empty, start]
  counts := by
    simp only [facing_head, facing_rest, meets.head, List.length_append, length_padding]
    omega
  suits := by
    rw [facing_state, state]
    exact empty

end Reader

open Reader
variable {a b gap gap' : String} {tokens : List Token} {r : Reader}

theorem toList_gap (a gap b : String) : (a ++ gap ++ b).toList = a.toList ++ gap.toList ++ b.toList := by
  simp

/-- Between two tokens, what comes behind a gap is read as if there were no gap, only further on. -/
theorem respaced_of_start (between : Gap gap.toList) (between' : Gap gap'.toList)
    (meets : MeetsGap a.toList b.toList tokens r) (state : r.state = .start) :
    Respaced a.toList.length gap.toList gap'.toList (TokenStream.ofSource (a ++ gap ++ b)).toList
      (TokenStream.ofSource (a ++ gap' ++ b)).toList := by
  have empty : r.text = [] := (meets.path _ between).standing_ofSource.suits_of state
  have passed {gap : String} (between : Gap gap.toList) : (TokenStream.ofSource (a ++ gap ++ b)).toList =
      tokens.map .ok ++ (TokenStream.readerItems (some (r.facing (b.toList ++ padding)))).map
        (TokenStream.shiftItem gap.toList.length) := by
    have path := (meets.path _ between).trans (Path.past_gap between state empty (b.toList ++ padding))
    rw [List.append_nil, ← toList_gap] at path
    rw [TokenStream.toList_of_path path, TokenStream.readerItems_shift]
  rw [passed between, passed between']
  refine .passed (meets.earlier between) ?_
  have start : a.toList.length = r.start := by simpa [Reader.head, empty] using meets.head.symm
  rw [start]
  exact start_le_place (meets.standing state empty)

/-- Outside of quotations and comments it does not matter which blanks stand between two characters, nor
    how many: the tokens before them stay where they are, and all that comes behind them moves with them. -/
theorem toList_respaced (between : Gap gap.toList) (between' : Gap gap'.toList)
    (unquoted : UnquotedAt (a ++ gap ++ b).toList a.length) :
    Respaced a.length gap.toList gap'.toList (TokenStream.ofSource (a ++ gap ++ b)).toList
      (TokenStream.ofSource (a ++ gap' ++ b)).toList := by
  rw [← String.length_toList (s := a)] at unquoted ⊢
  obtain ⟨tokens, last, path, head, unquoted, uncommented⟩ := unquoted
  rw [toList_gap] at path
  obtain ⟨r, rfl, meets⟩ := meetsGap_of_path between path head
  have places : r.state = .start ∨ EndsAtFeed r.state := by
    rcases idle_or_endsAtFeed_of_unquoted unquoted with (start | commented) | ends
    · exact .inl start
    · exact absurd commented uncommented
    · exact .inr ends
  rcases places with start | ends
  · exact respaced_of_start between between' meets start
  rcases meets.ended ends with ⟨tokens', ended⟩ | ⟨problem, fails⟩
  · exact respaced_of_start between between' ended rfl
  · have failed {gap : String} (between : Gap gap.toList) : (TokenStream.ofSource (a ++ gap ++ b)).toList =
        tokens.map .ok ++ [.error ⟨problem, a.toList.length, gap.toList.head?, r.state⟩] := by
      have path := meets.path _ between
      rw [← toList_gap] at path
      rw [TokenStream.toList_of_path path, TokenStream.readerItems, (fails _ between).run_eq]
      rfl
    rw [failed between, failed between']
    exact .failed (meets.earlier between)

/-- A second blank before its parenthesis moves a call, and leaves it a call. -/
theorem toList_respaced_call : Gap " ".toList ∧ Gap "\t ".toList ∧
    UnquotedAt ("ls" ++ " " ++ "(x)").toList "ls".length ∧
    Respaced "ls".length " ".toList "\t ".toList (TokenStream.ofSource ("ls" ++ " " ++ "(x)")).toList
      (TokenStream.ofSource ("ls" ++ "\t " ++ "(x)")).toList := by
  have blank : Gap " ".toList := ⟨by decide, List.all_eq_true.mp (by decide), by decide⟩
  have tabbed : Gap "\t ".toList := ⟨by decide, List.all_eq_true.mp (by decide), by decide⟩
  have read : (ofSource ("ls" ++ " " ++ "(x)").toList).steps 2 = some ([],
      ⟨.unquotedLiteral, {}, 0, ['l', 's'], [' ', '(', 'x', ')', ' ', '#']⟩) := rfl
  have unquoted : UnquotedAt ("ls" ++ " " ++ "(x)").toList "ls".length :=
    ⟨_, _, path_of_steps read, rfl, not_false, State.noConfusion⟩
  exact ⟨blank, tabbed, unquoted, toList_respaced blank tabbed unquoted⟩

end CommandScript.Lexer
