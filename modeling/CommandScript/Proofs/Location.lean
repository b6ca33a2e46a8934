import CommandScript.CommandLine.Listing
import CommandScript.Proofs.Lexer.Failure
import Mathlib.Algebra.GroupWithZero.Nat

/-!
Locations and offsets. A location is counted on character by character; here it is compared with the
lines of the text, as they are when the text is split at its line feeds. An offset up to the end of the
text is the number of characters before its location (`marks_location`), so that no two offsets share a
location and locations come in the order of their offsets. The location of an error is that of the
character that could not be read, or the end of the text (`namesCharacter_location`).
-/
namespace CommandScript

/-- The lines of a text, without the line feeds between them. -/
def linesOf (text : List Char) : List (List Char) := text.splitOn '\n'

/-- The number of characters in some lines and of the line feeds that end them. -/
def charactersIn (lines : List (List Char)) : Nat := (lines.map (·.length + 1)).sum

namespace Location

/-- Locations come line by line, and in a line by their columns. -/
def Before (a b : Location) : Prop := a.line < b.line ∨ a.line = b.line ∧ a.column < b.column

/-- A location is that of an offset: there is a line with its number, its column is in this line or right
    behind it, and the lines before it and the column make up the offset. -/
structure Marks (here : Location) (text : List Char) (offset : Nat) : Prop where
  numbered : 0 < here.line
  inside : ∃ line, (linesOf text)[here.line - 1]? = some line ∧ here.column ≤ line.length
  counts : charactersIn ((linesOf text).take (here.line - 1)) + here.column = offset

end Location

/-! ## Lines of a text -/

section
variable {text rest : List Char} {c : Char} {lines : List (List Char)}

theorem linesOf_nil : linesOf [] = [[]] := List.splitOn_nil _

theorem linesOf_feed (rest : List Char) : linesOf ('\n' :: rest) = [] :: linesOf rest := by
  simp [linesOf, List.splitOn, List.splitOnP_cons_eq_if_modifyHead]

/-- A character that is no line feed comes into the first line. -/
theorem linesOf_cons (inline : c ≠ '\n') (rest : List Char) :
    ∃ first later, linesOf rest = first :: later ∧ linesOf (c :: rest) = (c :: first) :: later := by
  obtain ⟨first, later, whole⟩ := List.exists_cons_of_ne_nil (List.splitOn_ne_nil '\n' rest)
  refine ⟨first, later, whole, ?_⟩
  have split : linesOf (c :: rest) = (linesOf rest).modifyHead (c :: ·) := by
    simp [linesOf, List.splitOn, List.splitOnP_cons_eq_if_modifyHead, inline]
  rw [split, linesOf, whole]
  rfl

theorem charactersIn_cons (line : List Char) (lines : List (List Char)) :
    charactersIn (line :: lines) = line.length + 1 + charactersIn lines := by
  simp [charactersIn]

theorem charactersIn_append (lines later : List (List Char)) :
    charactersIn (lines ++ later) = charactersIn lines + charactersIn later := by
  simp [charactersIn]

/-- A line and its line feed are among the characters of all lines up to a later one. -/
theorem charactersIn_take_lt {line : List Char} {number later : Nat} (found : lines[number]? = some line)
    (lt : number < later) :
    charactersIn (lines.take number) + line.length < charactersIn (lines.take later) := by
  obtain ⟨further, rfl⟩ : ∃ further, later = number + 1 + further := ⟨later - (number + 1), by omega⟩
  rw [List.take_add, List.take_add_one, found, charactersIn_append, charactersIn_append]
  simp only [Option.toList_some, charactersIn_cons]
  omega

end

/-! ## Where characters lead -/

namespace Location

/-- Characters lead from any location on as they lead from the first one: the column is kept only as
    long as no line feed has come. -/
theorem foldl_after (origin : Location) (chars : List Char) :
    let here := chars.foldl after first
    0 < here.line ∧ chars.foldl after origin =
      ⟨origin.line + (here.line - 1), if here.line = 1 then origin.column + here.column else here.column⟩ := by
  intro here
  induction chars using List.reverseRecOn with
  | nil => simp [here, first]
  | append_singleton chars c ih =>
    obtain ⟨positive, moved⟩ := ih
    simp only [here, List.foldl_append, List.foldl_cons, List.foldl_nil] at moved ⊢
    rw [moved]
    by_cases feed : c = '\n'
    · simp only [after, feed, ↓reduceIte]
      refine ⟨Nat.succ_pos _, ?_⟩
      rw [if_neg (by omega)]
      simp
      omega
    · simp only [after, feed, ↓reduceIte]
      refine ⟨positive, ?_⟩
      split_ifs
      · simp [Nat.add_assoc]
      · rfl

variable {text rest : List Char} {c : Char} {offset other : Nat} {here there : Location}

theorem Marks.feed (marks : here.Marks rest offset) :
    Marks ⟨here.line + 1, here.column⟩ ('\n' :: rest) (offset + 1) := by
  obtain ⟨positive, ⟨line, found, column⟩, counts⟩ := marks
  have number : here.line + 1 - 1 = here.line - 1 + 1 := by omega
  refine ⟨Nat.succ_pos _, ⟨line, ?_, column⟩, ?_⟩
  · rw [linesOf_feed, number]
    exact found
  · rw [linesOf_feed, number, List.take_succ_cons, charactersIn_cons]
    simp only [List.length_nil]
    omega

theorem Marks.cons (marks : here.Marks rest offset) (inline : c ≠ '\n') :
    Marks ⟨here.line, if here.line = 1 then here.column + 1 else here.column⟩ (c :: rest) (offset + 1) := by
  obtain ⟨positive, ⟨line, found, column⟩, counts⟩ := marks
  obtain ⟨first, later, whole, split⟩ := linesOf_cons inline rest
  rw [whole] at found counts
  by_cases one : here.line = 1
  · simp only [one, ↓reduceIte, Nat.sub_self, List.take_zero] at found counts ⊢
    obtain rfl : first = line := by simpa using found
    refine ⟨Nat.one_pos, ⟨c :: first, by simp [split], by simpa using column⟩, ?_⟩
    simp only [Nat.sub_self, List.take_zero]
    omega
  · obtain ⟨number, same⟩ : ∃ number, here.line - 1 = number + 1 := ⟨here.line - 2, by omega⟩
    simp only [one, ↓reduceIte]
    rw [same] at found counts
    refine ⟨positive, ⟨line, ?_, column⟩, ?_⟩
    · simp only [same, split]
      exact found
    · simp only [same, split, List.take_succ_cons, charactersIn_cons, List.length_cons] at counts ⊢
      omega

/-- Every offset up to the end of a text has a location. -/
theorem marks_after (within : offset ≤ text.length) :
    Marks ((text.take offset).foldl after first) text offset := by
  induction text generalizing offset with
  | nil =>
    obtain rfl : offset = 0 := Nat.le_zero.mp within
    exact ⟨Nat.one_pos, ⟨[], by simp [linesOf_nil, first], Nat.zero_le _⟩, rfl⟩
  | cons c rest ih =>
    cases offset with
    | zero =>
      refine ⟨Nat.one_pos, ?_, rfl⟩
      obtain ⟨line, later, whole⟩ := List.exists_cons_of_ne_nil (List.splitOn_ne_nil '\n' (c :: rest))
      exact ⟨line, by simp [linesOf, whole, first], Nat.zero_le _⟩
    | succ offset =>
      have marks := ih (Nat.le_of_succ_le_succ within)
      obtain ⟨positive, onward⟩ := foldl_after (first.after c) (rest.take offset)
      rw [List.take_succ_cons, List.foldl_cons, onward]
      generalize (rest.take offset).foldl after first = here at marks positive
      by_cases feed : c = '\n'
      · subst feed
        have next : first.after '\n' = ⟨2, 0⟩ := rfl
        have place : 2 + (here.line - 1) = here.line + 1 := by omega
        rw [next, place, Nat.zero_add, ite_self]
        exact marks.feed
      · have next : first.after c = ⟨1, 1⟩ := if_neg feed
        have place : 1 + (here.line - 1) = here.line := by omega
        rw [next, place, Nat.add_comm 1]
        exact marks.cons feed

theorem marks_location (span : Span) (text : List Char) :
    (span.location text).Marks text (min span.offset text.length) := by
  have marks := marks_after (Nat.min_le_right span.offset text.length)
  rwa [← List.take_eq_take_min] at marks

/-! ## Distinct locations in order -/

theorem Before.offset_lt (before : here.Before there) (marks : here.Marks text offset)
    (later : there.Marks text other) : offset < other := by
  obtain ⟨positive, ⟨line, found, column⟩, counts⟩ := marks
  have counts' := later.counts
  rcases before with above | ⟨same, less⟩
  · have numbers : here.line - 1 < there.line - 1 := by omega
    have fewer := charactersIn_take_lt found numbers
    omega
  · rw [← same] at counts'
    omega

theorem before_trichotomy (here there : Location) : here.Before there ∨ here = there ∨ there.Before here := by
  rcases Nat.lt_trichotomy here.line there.line with above | same | below
  · exact Or.inl (Or.inl above)
  · rcases Nat.lt_trichotomy here.column there.column with left | equal | right
    · exact Or.inl (Or.inr ⟨same, left⟩)
    · obtain ⟨line, column⟩ := here
      obtain ⟨line', column'⟩ := there
      exact Or.inr (Or.inl (Location.mk.injEq .. ▸ ⟨same, equal⟩))
    · exact Or.inr (Or.inr (Or.inr ⟨same.symm, right⟩))
  · exact Or.inr (Or.inr (Or.inl below))

/-- Locations are in the order of the offsets that they mark. -/
theorem Marks.before_iff (marks : here.Marks text offset) (later : there.Marks text other) :
    here.Before there ↔ offset < other := by
  constructor
  · intro before
    exact before.offset_lt marks later
  · intro less
    rcases before_trichotomy here there with before | same | behind
    · exact before
    · have equal : offset = other := by rw [← marks.counts, ← later.counts, same]
      omega
    · have more := behind.offset_lt later marks
      omega

end Location

/-! ## Errors -/

namespace Lexer

/-- An error has its place in the source, or behind it. -/
theorem exists_located {source : String} {error : LexError} (failed : tokenize source = .error error) :
    ∃ place, Located source.toList error place := by
  obtain ⟨tokens, last, path, stops⟩ := tokenize_eq_error_iff.mp failed
  cases stops with
  | ended rest finished => exact ⟨.ending, Reader.located_of_finish path rest finished⟩
  | failed rest failed =>
    rcases Reader.located_of_failed path rest failed with inside | behind
    · exact ⟨.inside, inside⟩
    · exact ⟨.behind, behind⟩

end Lexer

namespace CommandLine
variable {source : Source} {error : Lexer.LexError}

/-- The location is that of the character that an error found, or the end of the text where the
    character is one of the padding, or there was none. -/
def NamesCharacter (text : List Char) (error : Lexer.LexError) (here : Location) : Prop :=
  error.offset < text.length ∧ here.Marks text error.offset ∧ error.found = text[error.offset]? ∨
    text.length ≤ error.offset ∧ here.Marks text text.length ∧
      error.found = Lexer.padding[error.offset - text.length]?

/-- The location of an error is that of its character, or the end of the text. -/
theorem namesCharacter_location (failed : Lexer.tokenize source.text = .error error) :
    NamesCharacter source.text.toList error (error.span.location source.text.toList) := by
  have marks := Location.marks_location error.span source.text.toList
  have offset : error.span.offset = error.offset := rfl
  rw [offset] at marks
  obtain ⟨place, located⟩ := Lexer.exists_located failed
  cases place with
  | inside =>
    obtain ⟨within, found, _⟩ := located
    rw [Nat.min_eq_left (Nat.le_of_lt within)] at marks
    exact Or.inl ⟨within, marks, found⟩
  | behind =>
    obtain ⟨last, found, _⟩ := located
    rw [last, Nat.min_self] at marks
    refine Or.inr ⟨Nat.le_of_eq last.symm, marks, ?_⟩
    rw [last, Nat.sub_self, found]
    rfl
  | ending =>
    obtain ⟨last, found, _⟩ := located
    rw [last, Nat.min_eq_right (Nat.le_add_right ..)] at marks
    refine Or.inr ⟨last ▸ Nat.le_add_right .., marks, ?_⟩
    rw [last, Nat.add_sub_cancel_left, found]
    rfl

/-- For every source: the location of a span is that of its offset, or of the end of the text if the
    offset lies behind it; different offsets up to the end have different locations, in the same order. And
    an error is said to be at the location of the character that it names, or at the end of the text if it
    was found behind the text. -/
theorem locations_identify (source : Source) :
    let text := source.text.toList
    (∀ span : Span, (span.location text).Marks text (min span.offset text.length)) ∧
      (∀ a b : Span, a.offset ≤ text.length → b.offset ≤ text.length →
        (a.location text = b.location text ↔ a.offset = b.offset) ∧
          ((a.location text).Before (b.location text) ↔ a.offset < b.offset)) ∧
      ∀ error, Lexer.tokenize source.text = .error error → ∃ here : Location,
        source.locate error = source.name ++ ":" ++ toString here.line ++ ":" ++ toString here.column ∧
          NamesCharacter text error here := by
  intro text
  refine ⟨fun span => Location.marks_location span text, ?_, ?_⟩
  · intro a b within within'
    have marks := Location.marks_location a text
    have marks' := Location.marks_location b text
    rw [Nat.min_eq_left within] at marks
    rw [Nat.min_eq_left within'] at marks'
    refine ⟨⟨?_, ?_⟩, marks.before_iff marks'⟩
    · intro same
      rw [← marks.counts, ← marks'.counts, same]
    · intro same
      rw [Span.location, Span.location, same]
  · intro error failed
    exact ⟨error.span.location text, rfl, namesCharacter_location failed⟩

/-- The second line can not be read to its end. -/
def halfRead : Source := ⟨"script", "x := 1\ny := ^"⟩

theorem locations_identify_second_line :
    halfRead.locate ⟨.unimplementedChar, 12, some '^', .start⟩ = "script:2:5" ∧
      Location.Before ⟨1, 6⟩ ⟨2, 0⟩ ∧
      ∃ here : Location, here.Marks halfRead.text.toList 12 ∧ halfRead.text.toList[12]? = some '^' := by
  have done : (Lexer.Reader.ofSource halfRead.text.toList).steps 13 =
      some ([⟨⟨0, 1⟩, .name, "x"⟩, ⟨⟨2, 2⟩, .declare, ":="⟩, ⟨⟨5, 1⟩, .integer, "1"⟩, ⟨⟨6, 0⟩, .semicolon, ""⟩,
        ⟨⟨7, 1⟩, .name, "y"⟩, ⟨⟨9, 2⟩, .declare, ":="⟩],
        ⟨.start, ⟨some .declare, 0, 0, 0⟩, 12, [], ['^', ' ', '#']⟩) := rfl
  have failed : Lexer.tokenize halfRead.text = .error ⟨.unimplementedChar, 12, some '^', .start⟩ :=
    Lexer.tokenize_eq_error_iff.mpr ⟨_, _, Lexer.Reader.path_of_steps done, .failed rfl rfl⟩
  obtain ⟨_, ordered, named⟩ := locations_identify halfRead
  obtain ⟨here, _, names⟩ := named _ failed
  refine ⟨rfl, ((ordered ⟨6, 1⟩ ⟨7, 1⟩ (by decide) (by decide)).2).mpr (by decide), here, ?_⟩
  rcases names with ⟨_, marks, found⟩ | ⟨behind, _⟩
  · exact ⟨marks, found.symm⟩
  · exact absurd behind (by decide)

end CommandLine
end CommandScript
