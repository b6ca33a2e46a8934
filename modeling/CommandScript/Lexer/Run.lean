import CommandScript.Lexer.Progress

/-!
Reading a whole source. The source is followed by a blank and a `#`, so that its
last token is always finished and reading ends inside a comment, unless a
quotation was left open.
-/
namespace CommandScript.Lexer

/-- What stands behind every source. -/
def padding : List Char := [' ', '#']

namespace Reader

/-- A reader at the beginning of a source. -/
def ofSource (source : List Char) : Reader := { rest := source ++ padding }

/-- What is wrong when the input ends here. -/
def finish (r : Reader) : Option LexError :=
  if r.state = .comment then none else some ⟨.unexpectedEnd, r.head, none, r.state⟩

/-- One step on the character `c`, when `tail` comes after it: the tokens that it emits and the
    reader behind it. -/
def step (r : Reader) (c : Char) (tail : List Char) : Except LexError (List Token × Reader) :=
  match r.action c tail with
  | .ok action => .ok (r.emitted action, r.moved c tail action)
  | .error problem => .error ⟨problem, r.head, some c, r.state⟩

theorem size_step_lt {r next : Reader} {c : Char} {tail : List Char} {tokens : List Token}
    (rest : r.rest = c :: tail) (done : r.step c tail = .ok (tokens, next)) :
    next.size < r.size := by
  unfold step at done
  split at done
  · rename_i action acted
    simp only [Except.ok.injEq, Prod.mk.injEq] at done
    exact done.2 ▸ size_moved_lt rest acted
  · simp at done

/-- The tokens that a reader emits up to the end of its input or to an error. -/
def run (r : Reader) : List Token × Option LexError :=
  match _ : r.rest with
  | [] => ([], r.finish)
  | c :: tail =>
    match _ : r.step c tail with
    | .error error => ([], some error)
    | .ok (tokens, next) =>
      let (later, error) := next.run
      (tokens ++ later, error)
termination_by r.size
decreasing_by exact size_step_lt ‹_› ‹_›

end Reader

/-- The tokens of a source, up to the first error. -/
def lex (source : String) : List Token × Option LexError := (Reader.ofSource source.toList).run

/-- All tokens of a source, or what is wrong with it. -/
def tokenize (source : String) : Except LexError (List Token) :=
  match lex source with
  | (tokens, none) => .ok tokens
  | (_, some error) => .error error

end CommandScript.Lexer
