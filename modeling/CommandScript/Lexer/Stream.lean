import CommandScript.Lexer.Run

/-!
Tokens on demand. A stream takes a step of its reader only when it has no token
left to give, and it stops behind the first error.
-/
namespace CommandScript.Lexer

/-- Tokens that were emitted and not yet given out, and the reader for those after them. -/
structure TokenStream where
  queue : List Token := []
  reader : Option Reader := none

namespace TokenStream

/-- The stream without any input. -/
def stopped : TokenStream := {}

/-- The stream of the tokens of a source. -/
def ofSource (source : String) : TokenStream := { reader := some (.ofSource source.toList) }

/-- How many steps the reader of a stream can still take. -/
def size (s : TokenStream) : Nat := match s.reader with
  | none => 0
  | some r => r.size + 1

/-- The next token or the error that ends the stream, with the stream behind it. -/
def next? (s : TokenStream) : Option (Except LexError Token × TokenStream) :=
  match s.queue, _ : s.reader with
  | token :: queue, _ => some (.ok token, { s with queue })
  | [], none => none
  | [], some r =>
    match _ : r.rest with
    | [] => r.finish.map fun error => (.error error, stopped)
    | c :: tail =>
      match _ : r.step c tail with
      | .error error => some (.error error, stopped)
      | .ok (tokens, next) => next? ⟨tokens, some next⟩
termination_by s.size
decreasing_by
  have smaller := Reader.size_step_lt ‹_› ‹_›
  simp only [size, ‹s.reader = some r›]
  omega

/-- Giving out an item either shortens the queue or uses up steps of the reader. -/
theorem next?_lt {s rest : TokenStream} {item : Except LexError Token}
    (next : s.next? = some (item, rest)) :
    rest.size < s.size ∨ (rest.size = s.size ∧ rest.queue.length < s.queue.length) := by
  fun_induction next? s with
  | case1 s token queue queued =>
    simp only [Option.some.injEq, Prod.mk.injEq] at next
    simp [← next.2, size, queued]
  | case2 => simp at next
  | case3 s r reader queued rest =>
    obtain ⟨_, _, pair⟩ := Option.map_eq_some_iff.1 next
    simp only [Prod.mk.injEq] at pair
    simp [← pair.2, size, stopped, reader]
  | case4 s r reader queued c tail rest error failed =>
    simp only [Option.some.injEq, Prod.mk.injEq] at next
    simp [← next.2, size, stopped, reader]
  | case5 s r reader queued c tail rest tokens follow done ih =>
    have smaller := Reader.size_step_lt rest done
    have := ih next
    simp only [size, reader] at *
    grind

/-- Up to `count` items, and the stream behind them. -/
def take (s : TokenStream) : Nat → List (Except LexError Token) × TokenStream
  | 0 => ([], s)
  | count + 1 =>
    match s.next? with
    | none => ([], stopped)
    | some (item, rest) =>
      let (items, last) := rest.take count
      (item :: items, last)

/-- All items of a stream. -/
def toList (s : TokenStream) : List (Except LexError Token) :=
  match _ : s.next? with
  | none => []
  | some (item, rest) => item :: rest.toList
termination_by (s.size, s.queue.length)
decreasing_by
  rcases next?_lt ‹_› with less | ⟨same, less⟩
  · exact .left _ _ less
  · rw [same]; exact .right _ less

end TokenStream
end CommandScript.Lexer
