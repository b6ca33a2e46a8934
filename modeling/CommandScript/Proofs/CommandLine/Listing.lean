import CommandScript.CommandLine.Listing
import CommandScript.Proofs.Lexer.LineFeed
import Mathlib.Algebra.GroupWithZero.Nat

/-!
The lines of a listing. In the debug format every token is printed on one line, since a quoted text
has no line feed of its own (`Text.quoted_inline`). In the plain format the text stands as it is, and a
quotation is printed over as many lines as it was read from (`count_render`).
-/
namespace CommandScript

namespace Text

theorem digitChar_ne_feed : ∀ digit < 16, Nat.digitChar digit ≠ '\n' := by decide

theorem toDigits_inline {base : Nat} (more : 1 < base) (small : base ≤ 16) (n : Nat) : '\n' ∉ base.toDigits n := by
  induction n using Nat.strongRecOn with
  | ind n ih =>
    by_cases last : n < base
    · rw [Nat.toDigits_of_lt_base last, List.mem_singleton]
      exact Ne.symm (digitChar_ne_feed n (Nat.lt_of_lt_of_le last small))
    · have positive : 0 < n := by omega
      have digit : n % base < 16 := Nat.lt_of_lt_of_le (Nat.mod_lt n (by omega)) small
      rw [Nat.toDigits_of_base_le more (Nat.le_of_not_lt last), List.mem_append, List.mem_singleton, not_or]
      exact ⟨ih (n / base) (Nat.div_lt_self positive more), Ne.symm (digitChar_ne_feed _ digit)⟩

/-- A line feed is escaped, and no other character is written with one. -/
theorem escapeChar_inline (quote c : Char) : '\n' ∉ escapeChar quote c := by
  unfold escapeChar
  split_ifs with zero tab back feed escaped hidden
  · decide
  · decide
  · decide
  · decide
  · simp [Ne.symm feed]
  · simpa [escapeCodePoint] using toDigits_inline (by decide) (by decide) c.toNat
  · simp [Ne.symm feed]

/-- A quoted text is one line. -/
theorem quoted_inline (s : String) : '\n' ∉ (quoted s).toList := by
  simp only [quoted, enclose, String.toList_ofList, List.cons_append, List.mem_cons, List.mem_append, List.mem_flatMap,
    List.not_mem_nil, or_false, not_or, not_exists, not_and]
  exact ⟨by decide, fun c _ => escapeChar_inline '"' c, by decide⟩

end Text

theorem Kind.label_inline (kind : Kind) : '\n' ∉ kind.label.toList := by
  cases kind <;> decide

theorem Span.toString_inline (span : Span) : '\n' ∉ (toString span).toList := by
  have digits (n : Nat) : '\n' ∉ (toString n).toList := by
    have written : (toString n).toList = Nat.toDigits 10 n := by simp [toString, Nat.repr]
    rw [written]
    exact Text.toDigits_inline (by decide) (by decide) n
  have ends : (toString span).toList = (toString span.offset).toList ++ "..".toList ++ (toString span.stop).toList := by
    change (toString span.offset ++ ".." ++ toString span.stop).toList = _
    rw [String.toList_append, String.toList_append]
  rw [ends, List.mem_append, List.mem_append, not_or, not_or]
  exact ⟨⟨digits span.offset, by decide⟩, digits span.stop⟩

namespace CommandLine

/-- Whether anything is printed for a token. -/
def Style.shows (style : Style) (token : Token) : Bool := !(style.skipSynthetic && token.isSynthetic)

/-- What comes out when each of some lines is printed with a line feed behind it. -/
def printed (lines : List String) : List Char := lines.flatMap fun line => line.toList ++ ['\n']

/-- How many line feeds are in the text that a token is printed with. -/
def Format.feeds (format : Format) (token : Token) : Nat :=
  if format = .plain then token.text.toList.count '\n' else 0

variable {token : Token} {style : Style} {line : String}

/-- What is printed for a token has the line feeds of its text in the plain format, and none in the other. -/
theorem count_render (format : Format) (token : Token) :
    (format.render token).toList.count '\n' = format.feeds token := by
  have label := List.count_eq_zero_of_not_mem token.kind.label_inline
  cases format with
  | plain => simp [Format.render, Format.feeds, String.toList_append, List.count_append, label]
  | debug =>
    have text := List.count_eq_zero_of_not_mem (Text.quoted_inline token.text)
    have span := List.count_eq_zero_of_not_mem token.span.toString_inline
    simp [Format.render, Format.feeds, Token.bracketed, String.toList_append, List.count_append, label, text, span]

theorem line?_eq (style : Style) (token : Token) :
    style.line? token = if style.shows token then some (style.format.render token) else none := by
  unfold Style.line? Style.shows
  cases style.skipSynthetic && token.isSynthetic with
  | false => rfl
  | true => rfl

/-- One line is printed for each token that is shown, and one more for each line feed in its text. -/
theorem count_printed (style : Style) (tokens : List Token) :
    (printed (tokens.filterMap style.line?)).count '\n' =
      (tokens.filter style.shows).length + ((tokens.filter style.shows).map style.format.feeds).sum := by
  induction tokens with
  | nil => rfl
  | cons token tokens ih =>
    rw [List.filterMap_cons, line?_eq]
    by_cases shown : style.shows token = true
    · rw [if_pos shown, List.filter_cons_of_pos shown]
      simp only [printed, List.flatMap_cons, List.count_append, List.length_cons, List.map_cons, List.sum_cons] at ih ⊢
      rw [ih, count_render]
      simp
      omega
    · rw [if_neg shown, List.filter_cons_of_neg shown]
      exact ih

theorem feed_mem_line_iff (printed : style.line? token = some line) :
    '\n' ∈ line.toList ↔ style.format = .plain ∧ '\n' ∈ token.text.toList := by
  rw [line?_eq] at printed
  split_ifs at printed
  obtain rfl := Option.some.inj printed
  rw [← List.count_pos_iff, count_render, Format.feeds]
  split_ifs with plain
  · simp [plain]
  · simp [plain]

/-- For every source: what is printed for a token goes over several lines if its text does, in the plain
    format, and never in the debug format; and only what was read in a quotation goes over several lines. So
    a source is printed in one line for each token that is shown, and one more for each line feed in the
    quotations that are printed plain. -/
theorem printed_over_lines (source : Source) (style : Style) :
    let tokens := (Lexer.TokenStream.ofSource source.text).tokens
    let shown := tokens.filter style.shows
    (∀ token ∈ tokens, ∀ line, style.line? token = some line →
      ('\n' ∈ line.toList ↔ style.format = .plain ∧ '\n' ∈ token.text.toList)) ∧
      (∀ token ∈ tokens, '\n' ∈ token.text.toList → Lexer.ReadQuoted source.text.toList token) ∧
      (printed (source.listing style).1).count '\n' = shown.length + (shown.map style.format.feeds).sum := by
  intro tokens shown
  refine ⟨fun token _ line printed => feed_mem_line_iff printed, ?_, ?_⟩
  · intro token member feed
    exact Lexer.readQuoted_of_feed member feed
  · have listed : (source.listing style).1 = tokens.filterMap style.line? := by
      change _ = (Lexer.TokenStream.ofSource source.text).tokens.filterMap style.line?
      rw [Lexer.TokenStream.tokens_ofSource]
      rfl
    rw [listed]
    exact count_printed style tokens

/-- A text that goes over two lines. -/
def twoLines : Source := ⟨"script", "\"a\nb\""⟩

/-- The token of this text. -/
def twoLineToken : Token := ⟨⟨1, 3⟩, .quotedString, "a\nb"⟩

theorem tokens_twoLines : (Lexer.TokenStream.ofSource twoLines.text).tokens = [twoLineToken] := by
  have done : (Lexer.Reader.ofSource twoLines.text.toList).steps 7 =
      some ([twoLineToken], ⟨.comment, ⟨some .quotedString, 0, 0, 0⟩, 7, [], []⟩) := rfl
  have ends : Lexer.Reader.Ends twoLines.text.toList [twoLineToken] ⟨.comment, ⟨some .quotedString, 0, 0, 0⟩, 7, [], []⟩ :=
    ⟨Lexer.Reader.path_of_steps done, rfl, rfl⟩
  rw [Lexer.TokenStream.tokens_ofSource, Lexer.lex, ends.run_eq]

theorem printed_over_lines_plain :
    Lexer.ReadQuoted twoLines.text.toList twoLineToken ∧
      '\n' ∈ (Format.plain.render twoLineToken).toList ∧ '\n' ∉ (Format.debug.render twoLineToken).toList ∧
      (printed (twoLines.listing {}).1).count '\n' = 2 := by
  have member : twoLineToken ∈ (Lexer.TokenStream.ofSource twoLines.text).tokens := by simp [tokens_twoLines]
  have feed : '\n' ∈ twoLineToken.text.toList := by decide
  obtain ⟨plain, quoted, count⟩ := printed_over_lines twoLines {}
  obtain ⟨debug, _⟩ := printed_over_lines twoLines { format := .debug }
  refine ⟨quoted twoLineToken member feed, (plain _ member _ rfl).mpr ⟨rfl, feed⟩, ?_, ?_⟩
  · intro torn
    exact absurd ((debug _ member _ rfl).mp torn).1 (by decide)
  · rw [count, tokens_twoLines]
    decide

/-- A token is printed over two lines. -/
theorem quotation_not_one_line :
    ¬ ∀ token ∈ (Lexer.TokenStream.ofSource twoLines.text).tokens, ∀ line, ({} : Style).line? token = some line →
      '\n' ∉ line.toList := by
  intro oneLine
  have member : twoLineToken ∈ (Lexer.TokenStream.ofSource twoLines.text).tokens := by simp [tokens_twoLines]
  exact oneLine twoLineToken member "QUOTED_STRING 'a\nb'" rfl (by decide)

end CommandLine
end CommandScript
