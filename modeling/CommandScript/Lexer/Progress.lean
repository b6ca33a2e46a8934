import CommandScript.Lexer.Reader

/-!
Reading makes progress. A step that takes no character leads to the state `start`
from another one, and `start` always takes a character (`action_progress`), so
every step lowers a measure of the reader (`size_moved_lt`).
-/
namespace CommandScript.Lexer.Reader

/-- How many steps a reader can still take. -/
def size (r : Reader) : Nat := 2 * r.rest.length + if r.state = .start then 0 else 1

private theorem start_takes {r : Reader} {c : Char} {tail : List Char} {tokens : List Token}
    {count : Nat} {next : State} (done : r.startAction c tail = .ok (.emit tokens count next)) :
    0 < count := by
  unfold startAction at done
  split at done
  · simp at done
  split at done
  · simp at done; omega
  split at done
  · rename_i found
    have := operator?_pos found
    simp at done; omega
  · grind

private theorem identifier_leaves {r : Reader} {c : Char} {tail : List Char} {tokens : List Token}
    {count : Nat} {next : State}
    (done : r.identifierAction c tail = .ok (.emit tokens count next)) :
    0 < count ∨ next = .start := by
  grind [identifierAction]

private theorem unquoted_leaves {r : Reader} {c : Char} {tail : List Char} {tokens : List Token}
    {count : Nat} {next : State}
    (done : r.unquotedLiteralAction c tail = .ok (.emit tokens count next)) :
    0 < count ∨ next = .start := by
  grind [unquotedLiteralAction]

private theorem number_leaves {r : Reader} {hasPoint : Bool} {c : Char} {tail : List Char}
    {tokens : List Token} {count : Nat} {next : State}
    (done : r.numberAction hasPoint c tail = .ok (.emit tokens count next)) :
    0 < count ∨ next = .start := by
  grind [numberAction]

/-- A step that takes no character leads to the state `start` from another one. -/
theorem action_progress {r : Reader} {c : Char} {tail : List Char} {tokens : List Token}
    {count : Nat} {next : State} (done : r.action c tail = .ok (.emit tokens count next)) :
    0 < count ∨ (next = .start ∧ r.state ≠ .start) := by
  unfold action at done
  cases state : r.state <;> rw [state] at done <;> dsimp only at done
  case start => exact .inl (start_takes done)
  case comment => split at done <;> simp at done; omega
  case identifier => have := identifier_leaves done; grind
  case quotedLiteral quote escaped => grind [quotedLiteralAction]
  case quotedArgList escaped quote => cases quote <;> grind [quotedArgListAction]
  case unquotedLiteral => have := unquoted_leaves done; grind
  case number => have := number_leaves done; grind

theorem size_moved_lt {r : Reader} {c : Char} {tail : List Char} {action : Action}
    (rest : r.rest = c :: tail) (done : r.action c tail = .ok action) :
    (r.moved c tail action).size < r.size := by
  cases action with
  | keep next => grind [moved, size]
  | newline => grind [moved, size]
  | emit tokens count next =>
    have progress := action_progress done
    simp only [moved, size, rest, List.length_drop, List.length_cons]
    grind

end CommandScript.Lexer.Reader
