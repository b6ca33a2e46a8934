import CommandScript.Proofs.Lexer.Standing
import CommandScript.Proofs.Lexer.Stream

/-!
Tokens say what they were read from. Every token of a stream lies in the source,
behind the tokens before it, and its text is the source text of its span. Only an
inserted terminator stands for a line feed that it does not contain, and only the
unit of a number is written anew.
-/
namespace CommandScript

/-- The characters of a source in a span. -/
def Span.slice (span : Span) (source : List Char) : List Char :=
  (source.drop span.offset).take span.length

theorem Span.offset_le_stop (span : Span) : span.offset ≤ span.stop := Nat.le_add_right ..

namespace Lexer

/-- A number and the whole run of letters behind it, which the token's text gives in lower case
    after a colon. -/
def Measures (source : List Char) (token : Token) : Prop :=
  ∃ value letters, token.span.slice source = value ++ letters ∧
    value ≠ [] ∧ (∀ c ∈ value, isNumeral c = true) ∧ letters ≠ [] ∧
    letters = (source.drop (token.span.offset + value.length)).takeWhile Text.isAlphabetic ∧
    token.text = String.ofList value ++ ":" ++ Text.lowerCase (String.ofList letters)

/-- What the text of a token has to do with the source. -/
def Faithful (source : List Char) (token : Token) : Prop :=
  if token.isSynthetic then
    token.text = "" ∧ token.span.length = 0 ∧ source[token.span.offset]? = some '\n'
  else if token.kind = .unitInteger ∨ token.kind = .unitFloat then Measures source token
  else token.text = String.ofList (token.span.slice source)

/-- Faithful tokens that lie one behind another between two offsets of a source. -/
inductive Laid (source : List Char) : Nat → List Token → Nat → Prop
  | nil {start stop : Nat} (le : start ≤ stop) : Laid source start [] stop
  | cons {start stop : Nat} {token : Token} {tokens : List Token} (le : start ≤ token.span.offset)
    (within : token.span.stop ≤ source.length) (faithful : Faithful source token)
    (later : Laid source token.span.stop tokens stop) : Laid source start (token :: tokens) stop

variable {source : List Char}

namespace Laid
variable {start middle stop : Nat} {tokens later : List Token} {token : Token}

theorem le (laid : Laid source start tokens stop) : start ≤ stop := by
  induction laid with
  | nil le => exact le
  | cons le _ _ _ ih => exact Nat.le_trans le (Nat.le_trans (Span.offset_le_stop _) ih)

theorem single (le : start ≤ token.span.offset) (within : token.span.stop ≤ source.length)
    (faithful : Faithful source token) (fits : token.span.stop ≤ stop) :
    Laid source start [token] stop :=
  cons le within faithful (nil fits)

theorem append (laid : Laid source start tokens middle) (behind : Laid source middle later stop) :
    Laid source start (tokens ++ later) stop := by
  induction laid with
  | nil le =>
    cases behind with
    | nil le' => exact nil (Nat.le_trans le le')
    | cons le' within faithful later => exact cons (Nat.le_trans le le') within faithful later
  | cons le within faithful _ ih => exact cons le within faithful (ih behind)

theorem extend (laid : Laid source start tokens middle) (le : middle ≤ stop) :
    Laid source start tokens stop := by
  simpa using laid.append (.nil le)

theorem of_mem (laid : Laid source start tokens stop) (member : token ∈ tokens) :
    start ≤ token.span.offset ∧ token.span.stop ≤ source.length ∧ Faithful source token := by
  induction laid with
  | nil => simp at member
  | cons le within faithful _ ih =>
    rcases List.mem_cons.1 member with rfl | later
    · exact ⟨le, within, faithful⟩
    · obtain ⟨behind, rest⟩ := ih later
      exact ⟨Nat.le_trans le (Nat.le_trans (Span.offset_le_stop _) behind), rest⟩

theorem stop_le (laid : Laid source start tokens stop) : ∀ token ∈ tokens, token.span.stop ≤ stop := by
  induction laid with
  | nil => simp
  | cons _ _ _ later ih =>
    intro token member
    rcases List.mem_cons.1 member with rfl | behind
    · exact later.le
    · exact ih token behind

theorem pairwise (laid : Laid source start tokens stop) :
    tokens.Pairwise fun a b => a.span.stop ≤ b.span.offset := by
  induction laid with
  | nil => exact .nil
  | cons _ _ _ later ih => exact .cons (fun token member => (later.of_mem member).1) ih

end Laid

/-! ## Tokens of one step -/

/-- Neither inserted nor measured. -/
def Verbatim (kind : Kind) (text : List Char) : Prop :=
  kind ≠ .unitInteger ∧ kind ≠ .unitFloat ∧ (kind = .semicolon → text ≠ [])

theorem slice_of_drop {offset : Nat} {text rest : List Char}
    (reads : (source ++ padding).drop offset = text ++ rest)
    (within : offset + text.length ≤ source.length) :
    Span.slice ⟨offset, text.length⟩ source = text := by
  have before : offset ≤ source.length := Nat.le_trans (Nat.le_add_right ..) within
  have fits : text.length ≤ (source.drop offset).length := by
    rw [List.length_drop]
    omega
  rw [List.drop_append_of_le_length before] at reads
  calc (source.drop offset).take text.length
      = (source.drop offset ++ padding).take text.length := (List.take_append_of_le_length fits).symm
    _ = (text ++ rest).take text.length := by rw [reads]
    _ = text := List.take_left

/-- A token with the text that is read at its offset. -/
theorem laid_verbatim {offset stop : Nat} {rest : List Char} (kind : Kind) (text : List Char)
    (verbatim : Verbatim kind text) (reads : (source ++ padding).drop offset = text ++ rest)
    (within : offset + text.length ≤ source.length) (fits : offset + text.length ≤ stop) :
    Laid source offset [⟨⟨offset, text.length⟩, kind, String.ofList text⟩] stop := by
  obtain ⟨integer, float, nonempty⟩ := verbatim
  refine .single (Nat.le_refl _) within ?_ fits
  have read : Token.isSynthetic ⟨⟨offset, text.length⟩, kind, String.ofList text⟩ = false := by
    simp only [Token.isSynthetic, Bool.and_eq_false_iff, beq_eq_false_iff_ne]
    by_cases terminator : kind = .semicolon
    · right
      simpa using nonempty terminator
    · exact .inl terminator
  simp [Faithful, read, integer, float, slice_of_drop reads within]

theorem keyword_verbatim : ∀ keyword ∈ keywords, keyword.2 ≠ .unitInteger ∧
    keyword.2 ≠ .unitFloat ∧ keyword.2 ≠ .semicolon := by
  decide

theorem operators_verbatim : ∀ pattern ∈ Operator.structural ++ Operator.arithmetic,
    pattern.2 ≠ .unitInteger ∧ pattern.2 ≠ .unitFloat := by
  decide

theorem verbatim_wordKind (context : Context) (word text : List Char) :
    Verbatim (wordKind context word) text := by
  unfold wordKind
  split
  · simp [Verbatim]
  · split
    · rename_i kind found
      obtain ⟨integer, float, read⟩ := keyword_verbatim _ (Entries.mem_of_lookup found)
      exact ⟨integer, float, fun terminator => absurd terminator read⟩
    · split_ifs <;> simp [Verbatim]

theorem verbatim_numberKind (context : Context) (hasPoint : Bool) (text : List Char) :
    Verbatim (Reader.numberKind context hasPoint) text := by
  unfold Reader.numberKind
  split_ifs <;> simp [Verbatim]

theorem verbatim_quotation (context : Context) (text : List Char) :
    Verbatim (if context.prev == some .execArg then .execArg else .quotedString) text := by
  split_ifs <;> simp [Verbatim]

theorem laid_pathPart {start : Nat} {part rest : List Char}
    (reads : (source ++ padding).drop start = part ++ rest) (within : start + part.length ≤ source.length) :
    Laid source start (pathPart start part) (start + part.length) := by
  unfold pathPart
  split_ifs
  · exact .nil (Nat.le_add_right ..)
  all_goals exact laid_verbatim _ _ (by simp [Verbatim]) reads within (Nat.le_refl _)

/-- The parts of a path and the dots between them lie where the path was read. -/
theorem laid_pathTokens {start : Nat} {part chars rest : List Char}
    (reads : (source ++ padding).drop start = part ++ chars ++ rest)
    (within : start + part.length + chars.length ≤ source.length) :
    Laid source start (pathTokens start part chars) (start + part.length + chars.length) := by
  induction chars generalizing start part with
  | nil => exact laid_pathPart (by simpa using reads) within
  | cons c chars ih =>
    simp only [List.length_cons] at within ⊢
    rw [pathTokens]
    split_ifs with point
    · subst point
      have behind : (source ++ padding).drop (start + part.length) = ['.'] ++ (chars ++ rest) := by
        rw [← List.drop_drop, reads]
        simp
      have later : (source ++ padding).drop (start + part.length + 1) = [] ++ chars ++ rest := by
        rw [← List.drop_drop, behind]
        rfl
      have dot : Laid source (start + part.length) [⟨⟨start + part.length, 1⟩, .dot, "."⟩]
          (start + part.length + 1) :=
        laid_verbatim .dot ['.'] (by simp [Verbatim]) behind (by simp; omega) (Nat.le_refl _)
      have before : (source ++ padding).drop start = part ++ '.' :: (chars ++ rest) := by
        simpa using reads
      have front := laid_pathPart before (by omega)
      have back := ih later (by simp; omega)
      have stops : start + part.length + (chars.length + 1) =
          start + part.length + 1 + ([] : List Char).length + chars.length := by
        simp; omega
      rw [stops]
      exact front.append (dot.append back)
    · have longer : start + (part ++ [c]).length + chars.length =
          start + part.length + (chars.length + 1) := by
        simp; omega
      rw [← longer]
      exact ih (by simpa using reads) (by omega)

namespace Reader
variable {r : Reader} {c : Char} {tail : List Char}

theorem laid_lexeme (standing : Standing source r) (within : padding.length ≤ r.rest.length)
    (kind : Kind) (verbatim : Verbatim kind r.text) : Laid source r.start [r.lexeme kind] r.head := by
  have counts := standing.counts
  have inside : r.start + r.text.length ≤ source.length := by
    simp only [head] at counts
    omega
  exact laid_verbatim kind r.text verbatim standing.reads inside (Nat.le_refl _)

theorem laid_mark (standing : Standing source r) (rest : r.rest = c :: tail)
    (printed : c ≠ ' ') (other : c ≠ '#') (kind : Kind) (verbatim : Verbatim kind [c]) :
    Laid source r.head [r.mark kind c] (r.head + 1) := by
  have counts := standing.counts
  have within := standing.inside rest printed other
  have reads : (source ++ padding).drop r.head = [c] ++ tail := by rw [standing.drop_head, rest]; rfl
  exact laid_verbatim kind [c] verbatim reads (by simp [rest] at counts within ⊢; omega) (Nat.le_refl _)

theorem laid_argument (standing : Standing source r) (within : padding.length ≤ r.rest.length) :
    Laid source r.start r.argument r.head := by
  unfold argument
  split_ifs
  · exact .nil (Nat.le_add_right ..)
  · exact laid_lexeme standing within _ (by simp [Verbatim])

theorem laid_terminator (standing : Standing source r) (rest : r.rest = '\n' :: tail) :
    Laid source r.start [.terminator r.head] (r.head + 1) := by
  have before := standing.lt_length rest (by decide) (by decide)
  have feed : source[r.head]? = some '\n' := standing.here rest before
  refine .single (Nat.le_add_right ..) (Nat.le_of_lt before) ?_ (Nat.le_succ _)
  simpa [Faithful, Token.terminator, Token.isSynthetic, Span.emptyAt] using feed

/-- What does not go on over a blank ends with the source. -/
theorem takeWhile_padded {goesOn : Char → Bool} (stops : goesOn ' ' = false) (chars : List Char) :
    (chars ++ padding).takeWhile goesOn = chars.takeWhile goesOn := by
  rw [List.takeWhile_append]
  split_ifs with whole
  · rw [padding, List.takeWhile_cons_of_neg (by simp [stops]), List.append_nil,
      (List.takeWhile_prefix _).eq_of_length whole]
  · rfl

/-- The letters behind a number lie in the source, and all of them are taken. -/
theorem letters_behind (standing : Standing source r) (rest : r.rest = c :: tail)
    (letter : Text.isAlphabetic c = true) {letters : List Char}
    (run : letters = r.rest.takeWhile Text.isAlphabetic) :
    letters ≠ [] ∧ r.head + letters.length ≤ source.length ∧
      letters = (source.drop r.head).takeWhile Text.isAlphabetic := by
  have front : letters <+: r.rest := run ▸ List.takeWhile_prefix _
  have nonempty : letters ≠ [] := by simp [run, rest, letter]
  have within : r.head + letters.length ≤ source.length := by
    refine standing.taken front.length_le (List.length_pos_iff.2 nonempty) ?_
    intro d member
    rw [← List.prefix_iff_eq_take.1 front, run] at member
    exact ne_padding_of_isAlphabetic (List.all_eq_true.1 List.all_takeWhile d member)
  refine ⟨nonempty, within, ?_⟩
  rw [run, ← standing.drop_head, List.drop_append_of_le_length (by omega),
    takeWhile_padded (by decide)]

theorem laid_measured (standing : Standing source r) (rest : r.rest = c :: tail)
    (texts : ∀ d ∈ r.text, isNumeral d = true) (nonempty : r.text ≠ [])
    (letter : Text.isAlphabetic c = true) (hasPoint : Bool) {unit : String} {quantity : Quantity}
    (lower : unit = Text.lowerCase (String.ofList (r.rest.takeWhile Text.isAlphabetic)))
    (known : Quantity.ofUnit? unit = some quantity) :
    Laid source r.start [r.measured hasPoint unit] (r.head + unit.length) := by
  obtain ⟨letters, run⟩ : ∃ letters, letters = r.rest.takeWhile Text.isAlphabetic := ⟨_, rfl⟩
  obtain ⟨lettered, within, whole⟩ := letters_behind standing rest letter run
  rw [← run] at lower
  have length : unit.length = letters.length := by
    subst lower
    exact Quantity.length_of_ofUnit? known
  have reads : (source ++ padding).drop r.start =
      (r.text ++ letters) ++ r.rest.dropWhile Text.isAlphabetic := by
    rw [standing.reads, List.append_assoc, run, List.takeWhile_append_dropWhile]
  have sliced : (r.measured hasPoint unit).span.slice source = r.text ++ letters := by
    have read := slice_of_drop reads (by simpa [head, Nat.add_assoc] using within)
    rwa [List.length_append, ← length] at read
  have measures : Measures source (r.measured hasPoint unit) :=
    ⟨r.text, letters, sliced, nonempty, texts, lettered, whole, by rw [lower]; rfl⟩
  have stops : (r.measured hasPoint unit).span.stop = r.head + unit.length := (Nat.add_assoc ..).symm
  refine .single (Nat.le_refl _) (by omega) ?_ (Nat.le_of_eq stops)
  cases hasPoint <;> simpa [Faithful, measured, Token.isSynthetic] using measures

theorem laid_operator (standing : Standing source r) (rest : r.rest = c :: tail)
    (state : r.state = .start) {kind : Kind} {length : Nat}
    (found : operator? r.context (c :: tail) = some (kind, length)) :
    Laid source r.start [⟨⟨r.head, length⟩, kind, String.ofList ((c :: tail).take length)⟩]
      (r.head + length) := by
  rw [← rest] at found ⊢
  obtain ⟨pattern, member, spelled, fits⟩ := operator?_eq_some found
  have others := operators_inside _ member
  obtain ⟨integer, float⟩ := operators_verbatim _ member
  have positive : 0 < length := operator?_pos found
  have within := standing.taken fits positive (by rwa [← spelled])
  have taken : (r.rest.take length).length = length := by simp [fits]
  have reads : (source ++ padding).drop r.head = r.rest.take length ++ r.rest.drop length := by
    rw [standing.drop_head, List.take_append_drop]
  have nonempty : r.rest.take length ≠ [] := List.length_pos_iff.1 (by omega)
  have laid := laid_verbatim kind _ ⟨integer, float, fun _ => nonempty⟩ reads (by omega) (Nat.le_refl _)
  rw [taken] at laid
  rw [standing.start_eq_head state]
  exact laid

/-- The tokens of one step lie between the places where the reader stands before and after it. -/
theorem laid_emitted {action : Action} (standing : Standing source r) (rest : r.rest = c :: tail)
    (acts : Acts r c tail action) :
    Laid source r.start (r.emitted action) (r.moved c tail action).start := by
  have onward (count : Nat) : r.start ≤ r.head + count := by unfold head; omega
  cases acts with
  | newline state feed =>
    subst feed
    unfold emitted
    dsimp only
    split_ifs
    · exact laid_terminator standing rest
    · exact .nil (onward 1)
  | blank => exact .nil (onward 1)
  | operator state printed found => exact laid_operator standing rest state found
  | number => exact .nil (Nat.le_refl _)
  | dot opens point =>
    subst point
    rw [standing.start_eq_head opens.state]
    exact laid_mark standing rest (by decide) (by decide) _ (by simp [Verbatim])
  | word => exact .nil (Nat.le_refl _)
  | comment => exact .nil (onward 1)
  | identifier => exact .nil (onward 1)
  | quotation => exact .nil (onward 1)
  | argList => exact .nil (onward 1)
  | commented => exact .nil (onward 1)
  | identifierDot state nonempty point =>
    subst point
    have front := laid_lexeme standing (standing.suits_of state) .name (by simp [Verbatim])
    exact front.append
      (laid_mark standing rest (by decide) (by decide) _ (by simp [Verbatim]))
  | identifierEnd state => exact laid_lexeme standing (standing.suits_of state) _ (by simp [Verbatim])
  | identifierChar => exact .nil (Nat.le_refl _)
  | quotationEscape => exact .nil (Nat.le_refl _)
  | quotationEnd state closes =>
    have quoted : c = '"' ∨ c = '\'' := closes ▸ standing.suits_of state
    have within := standing.two_le rest (ne_hash_of_quote quoted)
    exact (laid_lexeme standing within _ (verbatim_quotation ..)).extend (Nat.le_succ _)
  | quotationChar => exact .nil (Nat.le_refl _)
  | argEscape => exact .nil (Nat.le_refl _)
  | argUnquote state closes =>
    have quoted : c = '"' ∨ c = '\'' := closes ▸ standing.suits_of state _ rfl
    have within := standing.two_le rest (ne_hash_of_quote quoted)
    exact (laid_lexeme standing within .execArg (by simp [Verbatim])).extend (Nat.le_succ _)
  | argQuoted => exact .nil (Nat.le_refl _)
  | argQuote => exact .nil (onward 1)
  | argPipe state bar =>
    subst bar
    exact (laid_argument standing (standing.two_le rest (by decide))).append
      (laid_mark standing rest (by decide) (by decide) _ (by simp [Verbatim]))
  | argListEnd state closes =>
    subst closes
    exact (laid_argument standing (standing.two_le rest (by decide))).extend (Nat.le_succ _)
  | argBlank state blank =>
    have other : c ≠ '#' := by
      rintro rfl
      revert blank
      decide
    exact (laid_argument standing (standing.two_le rest other)).extend (Nat.le_succ _)
  | argChar => exact .nil (Nat.le_refl _)
  | wordDot state point =>
    subst point
    have verbatim := verbatim_wordKind r.context r.text r.text
    have front := laid_lexeme standing (standing.suits_of state).2 _ verbatim
    exact front.append
      (laid_mark standing rest (by decide) (by decide) _ (by simp [Verbatim]))
  | wordReserved state => exact laid_lexeme standing (standing.suits_of state).2 _ (verbatim_wordKind ..)
  | wordPath state =>
    have counts := standing.counts
    have within := (standing.suits_of state).2
    have laid : Laid source r.start (pathTokens r.start [] r.text) (r.start + 0 + r.text.length) :=
      laid_pathTokens standing.reads (by simp only [head] at counts; simp; omega)
    exact laid
  | wordEnd state => exact laid_lexeme standing (standing.suits_of state).2 _ (verbatim_wordKind ..)
  | wordChar => exact .nil (Nat.le_refl _)
  | numberRange state => exact laid_lexeme standing (standing.suits_of state).2.2 _ (verbatim_numberKind ..)
  | numberPoint => exact .nil (Nat.le_refl _)
  | numberDigit => exact .nil (Nat.le_refl _)
  | numberUnit state plain letter lower known =>
    obtain ⟨nonempty, texts, _⟩ := standing.suits_of state
    rw [← rest] at lower
    exact laid_measured standing rest texts nonempty letter _ lower known
  | numberEnd state => exact laid_lexeme standing (standing.suits_of state).2.2 _ (verbatim_numberKind ..)

/-- All tokens that a reader emits lie in the source, from its start on. -/
theorem laid_run (standing : Standing source r) :
    Laid source r.start r.run.1 (source.length + padding.length) := by
  fun_induction run r with
  | case1 r => exact .nil standing.start_le
  | case2 r => exact .nil standing.start_le
  | case3 r c tail rest tokens next done later error ran ih =>
    obtain ⟨action, acts, rfl, rfl⟩ := acts_of_step done
    have behind := ih (standing_moved standing rest acts)
    rw [ran] at behind
    exact (laid_emitted standing rest acts).append behind

end Reader

/-- For every source: the spans of its tokens lie in the source, one behind another, and each token
    is faithful to what stands there. -/
theorem tokens_faithful (source : String) :
    (TokenStream.ofSource source).tokens.Pairwise (fun a b => a.span.stop ≤ b.span.offset) ∧
      ∀ token ∈ (TokenStream.ofSource source).tokens,
        token.span.stop ≤ source.length ∧ Faithful source.toList token := by
  rw [TokenStream.tokens_ofSource, ← String.length_toList]
  have laid := Reader.laid_run (Reader.standing_ofSource source.toList)
  refine ⟨laid.pairwise, ?_⟩
  intro token member
  exact (laid.of_mem member).2

end Lexer
end CommandScript
