import CommandScript.Proofs.Lexer.Standing
import CommandScript.Proofs.Lexer.Stream

/-!
Paths of a reader. A path is a number of steps none of which fails, with the tokens that
they emit together. A run is the longest path of its reader, and two paths of one reader
differ only in how far they go.
-/
namespace CommandScript.Lexer.Reader

/-- Steps that lead from one reader to another, and the tokens that they emit. -/
inductive Path (first : Reader) : List Token → Reader → Prop
  | refl : Path first [] first
  | step {r next : Reader} {c : Char} {tail : List Char} {tokens emitted : List Token}
    (path : Path first tokens r) (rest : r.rest = c :: tail)
    (done : r.step c tail = .ok (emitted, next)) : Path first (tokens ++ emitted) next

variable {source : List Char} {first r next last : Reader} {c : Char} {tail : List Char}
  {tokens later emitted : List Token}

/-- An action that does not fail is a step. -/
theorem step_of_action {action : Action} (acted : r.action c tail = .ok action) :
    r.step c tail = .ok (r.emitted action, r.moved c tail action) := by
  rw [step, acted]

theorem step_of_error {problem : Problem} (failed : r.action c tail = .error problem) :
    r.step c tail = .error ⟨problem, r.head, some c, r.state⟩ := by
  rw [step, failed]

/-- A step has one outcome. -/
theorem step_unique (done : r.step c tail = .ok (tokens, next)) (again : r.step c tail = .ok (later, last)) :
    tokens = later ∧ next = last :=
  Prod.mk.inj (Except.ok.inj (done.symm.trans again))

namespace Path

theorem single (rest : r.rest = c :: tail) (done : r.step c tail = .ok (emitted, next)) :
    Path r emitted next :=
  refl.step rest done

theorem trans (path : Path first tokens r) (behind : Path r later last) :
    Path first (tokens ++ later) last := by
  induction behind with
  | refl => simpa using path
  | step _ rest done ih =>
    rw [← List.append_assoc]
    exact ih.step rest done

/-- A path begins with a step unless it goes nowhere. -/
theorem head_step (path : Path first tokens last) (rest : first.rest = c :: tail) :
    (last = first ∧ tokens = []) ∨
      ∃ emitted next later, first.step c tail = .ok (emitted, next) ∧ Path next later last ∧
        tokens = emitted ++ later := by
  induction path with
  | refl => exact .inl ⟨rfl, rfl⟩
  | @step r next d rest' tokens emitted path here done ih =>
    right
    rcases ih with ⟨rfl, rfl⟩ | ⟨front, second, later, begun, behind, rfl⟩
    · obtain ⟨rfl, rfl⟩ := List.cons.inj (rest.symm.trans here)
      exact ⟨emitted, next, [], done, .refl, by simp⟩
    · exact ⟨front, second, later ++ emitted, begun, behind.step here done, by simp⟩

/-- Behind the step that it begins with, a path goes on from where the step leads. -/
theorem after_step (path : Path first tokens last) (rest : first.rest = c :: tail)
    (done : first.step c tail = .ok (emitted, next)) :
    (last = first ∧ tokens = []) ∨ ∃ later, Path next later last ∧ tokens = emitted ++ later := by
  rcases path.head_step rest with nowhere | ⟨front, second, later, begun, behind, whole⟩
  · exact .inl nowhere
  · obtain ⟨rfl, rfl⟩ := step_unique done begun
    exact .inr ⟨later, behind, whole⟩

theorem eq_of_nil (path : Path r tokens last) (rest : r.rest = []) : last = r ∧ tokens = [] := by
  induction path with
  | refl => exact ⟨rfl, rfl⟩
  | step path here done ih =>
    obtain ⟨rfl, rfl⟩ := ih
    rw [rest] at here
    contradiction

theorem rest_le (path : Path r tokens last) : last.rest.length ≤ r.rest.length := by
  induction path with
  | refl => exact Nat.le_refl _
  | step path rest done ih =>
    obtain ⟨action, _, _, rfl⟩ := acts_of_step done
    rw [rest] at ih
    cases action with
    | emit tokens count next => exact Nat.le_trans (by simp [moved]) ih
    | _ => exact Nat.le_trans (Nat.le_succ _) ih

/-- Whatever path a reader has come, the way to the end of its input is the same. -/
theorem onward (path : Path first tokens r) {whole : List Token} (complete : Path first whole last)
    (ended : last.rest = []) : ∃ later, Path r later last ∧ whole = tokens ++ later := by
  induction path with
  | refl => exact ⟨whole, complete, rfl⟩
  | @step r next c tail tokens emitted path rest done ih =>
    obtain ⟨later, behind, rfl⟩ := ih
    rcases behind.after_step rest done with ⟨rfl, _⟩ | ⟨left, onward, rfl⟩
    · rw [rest] at ended
      contradiction
    · exact ⟨left, onward, by simp⟩

/-- A run goes along every path of its reader. -/
theorem run_eq (path : Path first tokens r) : first.run = (tokens ++ r.run.1, r.run.2) := by
  induction path with
  | refl => rfl
  | step path rest done ih =>
    rw [ih, run_ok rest done]
    simp

theorem standing (path : Path first tokens r) (standing : Standing source first) :
    Standing source r := by
  induction path with
  | refl => exact standing
  | step path rest done ih =>
    obtain ⟨action, acts, rfl, rfl⟩ := acts_of_step done
    exact standing_moved ih rest acts

theorem standing_ofSource (path : Path (ofSource source) tokens r) : Standing source r :=
  path.standing (Reader.standing_ofSource source)

end Path

/-- A number of steps, computed. -/
def steps : Nat → Reader → Option (List Token × Reader)
  | 0, r => some ([], r)
  | count + 1, r =>
    match r.rest with
    | [] => none
    | c :: tail =>
      match r.step c tail with
      | .error _ => none
      | .ok (emitted, next) => (next.steps count).map fun (later, last) => (emitted ++ later, last)

theorem path_of_steps {count : Nat} (done : r.steps count = some (tokens, last)) :
    Path r tokens last := by
  fun_induction steps count r generalizing tokens last with
  | case1 r =>
    obtain ⟨rfl, rfl⟩ := Prod.mk.inj (Option.some.inj done)
    exact .refl
  | case2 => simp at done
  | case3 => simp at done
  | case4 r count c tail rest emitted next begun ih =>
    obtain ⟨⟨later, last⟩, behind, pair⟩ := Option.map_eq_some_iff.1 done
    obtain ⟨rfl, rfl⟩ := Prod.mk.inj pair
    exact (Path.single rest begun).trans (ih behind)

/-- Where a run stops, with its error: at the end of the input, or at a character that makes it fail. -/
inductive Stops (r : Reader) : Option LexError → Prop
  | ended {error : Option LexError} (rest : r.rest = []) (finished : r.finish = error) : Stops r error
  | failed {c : Char} {tail : List Char} {error : LexError} (rest : r.rest = c :: tail)
    (failed : r.step c tail = .error error) : Stops r (some error)

theorem Stops.run_eq {error : Option LexError} (stops : Stops r error) : r.run = ([], error) := by
  cases stops with
  | ended rest finished => rw [run_nil rest, finished]
  | failed rest failed => exact run_error rest failed

/-- A run is a path up to where it stops. -/
theorem exists_path_run (r : Reader) : ∃ last, Path r r.run.1 last ∧ Stops last r.run.2 := by
  fun_induction run r with
  | case1 r rest => exact ⟨r, .refl, .ended rest rfl⟩
  | case2 r c tail rest error failed => exact ⟨r, .refl, .failed rest failed⟩
  | case3 r c tail rest tokens next done later error ran ih =>
    rw [ran] at ih
    obtain ⟨last, path, stops⟩ := ih
    exact ⟨last, (Path.single rest done).trans path, stops⟩

/-- A run without an error ends in a comment behind all of its input. -/
theorem exists_path_of_run (read : r.run.2 = none) :
    ∃ last, Path r r.run.1 last ∧ last.rest = [] ∧ last.state = .comment := by
  obtain ⟨last, path, stops⟩ := exists_path_run r
  rw [read] at stops
  cases stops with
  | ended rest finished =>
    have ended : last.state = .comment := by
      by_contra other
      simp [finish, other] at finished
    exact ⟨last, path, rest, ended⟩

/-- A token of a path is emitted by one of its steps, in which `front` and all that was emitted before
    come before it. -/
structure Emitting (first : Reader) (before : List Token) (token : Token) (r : Reader) (c : Char) (tail : List Char)
    (action : Action) (front behind : List Token) : Prop where
  path : ∃ tokens, Path first tokens r ∧ before = tokens ++ front
  rest : r.rest = c :: tail
  acts : Acts r c tail action
  emits : r.emitted action = front ++ token :: behind

theorem Path.emitting {before after : List Token} {token : Token} (path : Path first (before ++ token :: after) last) :
    ∃ r c tail action front behind, Emitting first before token r c tail action front behind := by
  generalize whole : before ++ token :: after = tokens at path
  induction path generalizing after with
  | refl => simp at whole
  | @step r next c tail tokens emitted path rest done ih =>
    obtain ⟨action, acts, rfl, rfl⟩ := acts_of_step done
    rcases List.append_eq_append_iff.mp whole with ⟨earlier, rfl, parts⟩ | ⟨front, rfl, parts⟩
    · cases earlier with
      | nil => exact ⟨r, c, tail, action, [], after, ⟨before, by simpa using path, by simp⟩, rest, acts, parts.symm⟩
      | cons found earlier =>
        obtain ⟨rfl, _⟩ := List.cons.inj parts
        exact ih rfl
    · exact ⟨r, c, tail, action, front, after, ⟨tokens, path, rfl⟩, rest, acts, parts⟩

/-- A reader at the end of a source that has been read without an error, and all its tokens. -/
structure Ends (source : List Char) (tokens : List Token) (last : Reader) : Prop where
  path : Path (ofSource source) tokens last
  rest : last.rest = []
  state : last.state = .comment

theorem Ends.run_eq (ends : Ends source tokens last) : (ofSource source).run = (tokens, none) := by
  rw [ends.path.run_eq, run_nil ends.rest]
  simp [finish, ends.state]

end Reader

theorem tokenize_eq_ok_iff {source : String} {tokens : List Token} :
    tokenize source = .ok tokens ↔ ∃ last, Reader.Ends source.toList tokens last := by
  constructor
  · intro done
    unfold tokenize lex at done
    split at done
    · rename_i ran
      obtain rfl := Except.ok.inj done
      obtain ⟨last, path, rest, state⟩ := Reader.exists_path_of_run (congrArg Prod.snd ran)
      rw [ran] at path
      exact ⟨last, path, rest, state⟩
    · simp at done
  · rintro ⟨last, ends⟩
    simp [tokenize, lex, ends.run_eq]

theorem tokenize_eq_error_iff {source : String} {error : LexError} :
    tokenize source = .error error ↔
      ∃ tokens last, Reader.Path (.ofSource source.toList) tokens last ∧ last.Stops (some error) := by
  constructor
  · intro failed
    obtain ⟨last, path, stops⟩ := Reader.exists_path_run (.ofSource source.toList)
    refine ⟨_, last, path, ?_⟩
    unfold tokenize lex at failed
    split at failed
    · simp at failed
    · rename_i ran
      obtain rfl := Except.error.inj failed
      rwa [ran] at stops
  · rintro ⟨tokens, last, path, stops⟩
    simp [tokenize, lex, path.run_eq, stops.run_eq]

/-- A number of steps that lead to the end of a source give its tokens. -/
theorem tokenize_of_steps {source : String} {tokens : List Token} {last : Reader} {count : Nat}
    (done : (Reader.ofSource source.toList).steps count = some (tokens, last)) (rest : last.rest = [])
    (state : last.state = .comment) : tokenize source = .ok tokens :=
  tokenize_eq_ok_iff.2 ⟨last, Reader.path_of_steps done, rest, state⟩

/-- Every token of a stream is emitted by a step of its reader. -/
theorem TokenStream.emitting {source : String} {before after : List Token} {token : Token}
    (split : (ofSource source).tokens = before ++ token :: after) : ∃ r c tail action front behind,
      Reader.Emitting (.ofSource source.toList) before token r c tail action front behind := by
  rw [tokens_ofSource, lex] at split
  obtain ⟨last, path, _⟩ := Reader.exists_path_run (.ofSource source.toList)
  exact (split ▸ path).emitting

theorem TokenStream.emitted_of_mem {source : String} {token : Token} (member : token ∈ (ofSource source).tokens) :
    ∃ tokens r c tail action, Reader.Path (.ofSource source.toList) tokens r ∧ r.rest = c :: tail ∧
      Reader.Acts r c tail action ∧ token ∈ r.emitted action := by
  obtain ⟨before, after, split⟩ := List.append_of_mem member
  obtain ⟨r, c, tail, action, front, behind, ⟨tokens, path, _⟩, rest, acts, emits⟩ := emitting split
  refine ⟨tokens, r, c, tail, action, path, rest, acts, ?_⟩
  rw [emits]
  exact List.mem_append_cons_self

/-- A stream gives out what its reader emits on its path, and then what is left for the reader. -/
theorem TokenStream.toList_of_path {source : String} {tokens : List Token} {r : Reader}
    (path : Reader.Path (.ofSource source.toList) tokens r) :
    (ofSource source).toList = tokens.map .ok ++ readerItems (some r) := by
  rw [toList_eq_items]
  simp [items, ofSource, readerItems, path.run_eq]

end CommandScript.Lexer
