namespace CommandScript

/-- A stretch of a source, counted in characters from 0. -/
structure Span where
  offset : Nat
  length : Nat
deriving DecidableEq

/-- Where a character stands: lines count from 1, columns from 0. -/
structure Location where
  line : Nat
  column : Nat
deriving DecidableEq

/-- Where the first character of a source stands. -/
def Location.first : Location := ⟨1, 0⟩

/-- Where the character after `c` stands, when `c` stands here. -/
def Location.after (here : Location) (c : Char) : Location :=
  if c = '\n' then ⟨here.line + 1, 0⟩ else ⟨here.line, here.column + 1⟩

namespace Span

/-- The empty span at an offset. -/
def emptyAt (offset : Nat) : Span := ⟨offset, 0⟩

/-- The offset behind the last character of a span. -/
def stop (span : Span) : Nat := span.offset + span.length

def isEmpty (span : Span) : Bool := span.length == 0

/-- Spans are ordered by their offset, then by their length. -/
def before (a b : Span) : Bool := a.offset < b.offset || (a.offset == b.offset && a.length < b.length)

/-- A span is written as its two ends. -/
protected def toString (span : Span) : String := toString span.offset ++ ".." ++ toString span.stop

instance : ToString Span := ⟨Span.toString⟩

/-- Where a span starts. An offset behind the source counts as its end. -/
def location (span : Span) (source : List Char) : Location :=
  (source.take span.offset).foldl Location.after .first

end Span
end CommandScript
