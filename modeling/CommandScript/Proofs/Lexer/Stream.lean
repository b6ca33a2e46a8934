import CommandScript.Lexer.Stream

/-!
A stream gives out what its reader emits: its items are the tokens that were queued,
then those of a whole run of the reader, then the error of the run if there is one.
-/
namespace CommandScript.Lexer

namespace Reader
variable {r next : Reader} {c : Char} {tail : List Char} {tokens : List Token} {error : LexError}

theorem run_nil (rest : r.rest = []) : r.run = ([], r.finish) := by
  rw [run]
  split
  · rfl
  · rename_i other
    rw [rest] at other
    contradiction

theorem run_error (rest : r.rest = c :: tail) (failed : r.step c tail = .error error) :
    r.run = ([], some error) := by
  rw [run]
  split
  · rename_i none
    rw [rest] at none
    contradiction
  · rename_i other
    rw [rest] at other
    obtain ⟨rfl, rfl⟩ := List.cons.inj other
    split <;> simp_all

theorem run_ok (rest : r.rest = c :: tail) (done : r.step c tail = .ok (tokens, next)) :
    r.run = (tokens ++ next.run.1, next.run.2) := by
  rw [run]
  split
  · rename_i none
    rw [rest] at none
    contradiction
  · rename_i other
    rw [rest] at other
    obtain ⟨rfl, rfl⟩ := List.cons.inj other
    split <;> simp_all

end Reader

namespace TokenStream

/-- What is left for a reader to give out. -/
def readerItems : Option Reader → List (Except LexError Token)
  | none => []
  | some r => r.run.1.map .ok ++ r.run.2.toList.map .error

/-- What is left for a stream to give out. -/
def items (s : TokenStream) : List (Except LexError Token) := s.queue.map .ok ++ readerItems s.reader

/-- The next item comes first, and the stream behind it gives out the others. -/
theorem next?_items (s : TokenStream) :
    (s.next?.map fun (item, rest) => item :: rest.items).getD [] = s.items := by
  fun_induction next? s with
  | case1 s token queue queued => simp [items, queued]
  | case2 s queued none => simp [items, readerItems, queued, none]
  | case3 s r reader queued rest =>
    cases ended : r.finish <;>
      simp [items, readerItems, stopped, queued, reader, Reader.run_nil rest, ended]
  | case4 s r reader queued c tail rest error failed =>
    simp [items, readerItems, stopped, queued, reader, Reader.run_error rest failed]
  | case5 s r reader queued c tail rest tokens follow done ih =>
    rw [ih]
    simp [items, readerItems, queued, reader, Reader.run_ok rest done]

theorem toList_eq_items (s : TokenStream) : s.toList = s.items := by
  fun_induction toList s with
  | case1 s ended =>
    rw [← next?_items, ended]
    rfl
  | case2 s item rest next ih =>
    rw [← next?_items s, next, ih]
    rfl

/-- The tokens that a stream gives out, those before an error included. -/
def tokens (s : TokenStream) : List Token := s.toList.filterMap Except.toOption

theorem tokens_ofSource (source : String) : (ofSource source).tokens = (lex source).1 := by
  have failing (error : Option LexError) :
      (error.toList.map (.error : LexError → Except LexError Token)).filterMap Except.toOption = [] := by
    cases error <;> rfl
  rw [tokens, toList_eq_items, items, List.filterMap_append]
  simp only [ofSource, readerItems, lex, List.map_nil, List.filterMap_nil, List.nil_append,
    List.filterMap_append, failing, List.append_nil, List.filterMap_map]
  exact List.filterMap_some

end TokenStream
end CommandScript.Lexer
