import CommandScript.Proofs.Lexer.ArgList
import CommandScript.Proofs.Lexer.Lookahead

/-!
One source, read with nothing behind its last line feed and read again with more behind it.
Both readers come to that line feed with the same tokens, but for the last word of the
source if nothing but blanks stands behind it: a call, a declaration or an assignment on a
later line makes a path of names of it.
-/
namespace CommandScript.Lexer

namespace Context

/-- The kinds that change how deeply the lexer is nested. -/
def brackets : List Kind :=
  [.parenOpen, .parenClose, .curlyOpen, .curlyClose, .squareOpen, .squareClose]

theorem newline_after {kind : Kind} (context : Context) (other : kind ∉ brackets) :
    (context.after kind).newline = context.newline := by
  cases kind <;> first | rfl | exact absurd (by decide) other

theorem newline_afterAll {kinds : List Kind} (context : Context)
    (others : ∀ kind ∈ kinds, kind ∉ brackets) :
    (context.afterAll kinds).newline = context.newline := by
  induction kinds generalizing context with
  | nil => rfl
  | cons kind kinds ih =>
    calc ((context.after kind).afterAll kinds).newline
        = (context.after kind).newline := ih _ fun kind member => others kind (List.mem_cons_of_mem _ member)
      _ = context.newline := newline_after context (others kind List.mem_cons_self)

/-- Where a line begins and no bracket is open, nothing is remembered. -/
theorem eq_empty {context : Context} (line : context.prev = none) (closed : context.inBrackets = false) :
    context = {} := by
  obtain ⟨prev, parens, curlies, squares⟩ := context
  have none {count : Nat} (closed : decide (0 < count) = false) : count = 0 :=
    Nat.le_zero.1 (Nat.not_lt.1 (of_decide_eq_false closed))
  simp only [inBrackets, Bool.or_eq_false_iff] at line closed
  rw [line, none closed.1.1, none closed.1.2, none closed.2]

end Context

theorem keyword_bracketless : ∀ keyword ∈ keywords, keyword.2 ∉ Context.brackets := by
  decide

theorem wordKind_bracketless (context : Context) (word : List Char) :
    wordKind context word ∉ Context.brackets := by
  unfold wordKind
  split
  · decide
  · split
    · rename_i kind found
      exact keyword_bracketless _ (Entries.mem_of_lookup found)
    · split_ifs <;> decide

theorem mem_pathPart {start : Nat} {part : List Char} : ∀ token ∈ pathPart start part,
    token.kind ∉ Context.brackets ∧ token.span.offset < start + part.length := by
  intro token member
  unfold pathPart at member
  by_cases empty : part.isEmpty = true
  · simp [empty] at member
  rw [if_neg empty] at member
  obtain rfl := List.mem_singleton.1 member
  have nonempty : 0 < part.length := List.length_pos_iff.2 (by simpa using empty)
  refine ⟨?_, Nat.lt_add_of_pos_right nonempty⟩
  dsimp only
  split_ifs <;> decide

/-- A path of names has no bracket, and its tokens begin inside the word that it is made of. -/
theorem mem_pathTokens {start : Nat} {part chars : List Char} : ∀ token ∈ pathTokens start part chars,
    token.kind ∉ Context.brackets ∧ token.span.offset < start + part.length + chars.length := by
  induction chars generalizing start part with
  | nil => exact mem_pathPart
  | cons c chars ih =>
    intro token member
    rw [pathTokens] at member
    rw [List.length_cons]
    split_ifs at member
    · rcases List.mem_append.1 member with before | behind
      · obtain ⟨other, lt⟩ := mem_pathPart token before
        exact ⟨other, by omega⟩
      · rcases List.mem_cons.1 behind with rfl | later
        · exact ⟨by simp [Context.brackets], by simp only; omega⟩
        · obtain ⟨other, lt⟩ := ih token later
          simp only [List.length_nil] at lt
          exact ⟨other, by omega⟩
    · obtain ⟨other, lt⟩ := ih token member
      simp only [List.length_append, List.length_singleton] at lt
      exact ⟨other, by omega⟩

/-- A call, a declaration or an assignment comes first, but for blanks. -/
def CallFollows (behind : List Char) : Prop :=
  (behind.find? (!Text.isBlank ·)).any callMarks.contains = true

instance (behind : List Char) : Decidable (CallFollows behind) :=
  inferInstanceAs (Decidable (_ = true))

namespace Reader
variable {source front behind other tail : List Char} {r s : Reader} {c : Char} {tokens later : List Token}
  {last : Reader}

/-! ## Blanks and line feeds -/

/-- Two readers at the same place between two tokens or in a comment. They know the same brackets,
    and may take the line for different ones. -/
structure Abreast (r s : Reader) : Prop where
  idle : r.Idle
  idle' : s.Idle
  head : s.head = r.head
  context : s.context.newline = r.context.newline

namespace Abreast

theorem emitted_feed (abreast : Abreast r s) : s.emitted .newline = r.emitted .newline := by
  have parens : s.context.newline.parens = r.context.newline.parens := by rw [abreast.context]
  have parens : s.context.parens = r.context.parens := parens
  simp only [emitted, parens, abreast.head]

theorem moved_feed (abreast : Abreast r s) :
    s.moved '\n' [] .newline = r.moved '\n' [] .newline := by
  simp only [moved, abreast.head, abreast.context]

theorem blanks (abreast : Abreast r s) (blanks : ∀ d ∈ front, Text.isBlank d = true)
    (behind other : List Char) :
    ∃ feeds r' s', Path (r.facing (front ++ '\n' :: behind)) feeds (r'.facing ('\n' :: behind)) ∧
      Path (s.facing (front ++ '\n' :: other)) feeds (s'.facing ('\n' :: other)) ∧ Abreast r' s' := by
  induction front generalizing r s with
  | nil => exact ⟨[], r, s, .refl, .refl, abreast⟩
  | cons d front ih =>
    have blank : Text.isBlank d = true := blanks d List.mem_cons_self
    have later : ∀ e ∈ front, Text.isBlank e = true :=
      fun e member => blanks e (List.mem_cons_of_mem _ member)
    by_cases feed : d = '\n'
    · subst feed
      have next : Abreast (r.moved '\n' [] .newline) (s.moved '\n' [] .newline) :=
        ⟨.inl rfl, .inl rfl, by rw [abreast.moved_feed], by rw [abreast.moved_feed]⟩
      obtain ⟨feeds, r', s', path, path', abreast'⟩ := ih next later
      refine ⟨r.emitted .newline ++ feeds, r', s', ?_, ?_, abreast'⟩
      · exact (Path.of_step (abreast.idle.step_feed _)).trans path
      · rw [← abreast.emitted_feed]
        exact (Path.of_step (abreast.idle'.step_feed _)).trans path'
    · have next : Abreast (r.moved d [] (.emit [] 1 r.state)) (s.moved d [] (.emit [] 1 s.state)) :=
        ⟨abreast.idle, abreast.idle', congrArg (· + 1) abreast.head, abreast.context⟩
      obtain ⟨feeds, r', s', path, path', abreast'⟩ := ih next later
      refine ⟨feeds, r', s', ?_, ?_, abreast'⟩
      · exact (Path.of_step (abreast.idle.step_blank blank feed _)).trans path
      · exact (Path.of_step (abreast.idle'.step_blank blank feed _)).trans path'

end Abreast

/-! ## A last word -/

theorem callMarks_printed : ∀ mark ∈ callMarks, Text.isBlank mark = false := by
  intro mark among
  simp only [callMarks, List.mem_cons, List.not_mem_nil, or_false] at among
  rcases among with rfl | rfl | rfl <;> decide

/-- What is looked past the end of the line for. -/
theorem ahead_past (past : LooksPast r c front) (behind : List Char) :
    ahead c (front ++ '\n' :: behind) ∈ callMarks ↔ CallFollows behind := by
  have feed : Text.isBlank '\n' = true := by decide
  have passed : (front ++ '\n' :: behind).find? (!Text.isBlank ·) = behind.find? (!Text.isBlank ·) := by
    have none : front.find? (!Text.isBlank ·) = none := by
      simpa using past.blanks
    simp [List.find?_append, none, feed]
  have spaced : (Text.isBlank c && c != '\n') = true := by simp [past.blank, past.inline]
  rw [ahead, if_pos spaced, passed]
  unfold CallFollows
  cases found : behind.find? (!Text.isBlank ·) with
  | some d => simp
  | none =>
    have unmarked : c ∉ callMarks := by
      intro mark
      have printed := callMarks_printed c mark
      rw [past.blank] at printed
      contradiction
    simpa using unmarked

/-- The tokens of a last word, by what comes behind its line. -/
def wordTokens (r : Reader) (behind : List Char) : List Token :=
  if CallFollows behind ∧ keyword? (String.ofList r.text) = none then pathTokens r.start [] r.text
  else [r.lexeme (wordKind r.context r.text)]

theorem action_past (past : LooksPast r c front) (behind : List Char) :
    r.action c (front ++ '\n' :: behind) = .ok (.emit (r.wordTokens behind) 0 .start) := by
  have seen := ahead_past past behind
  have spaced : (Text.isBlank c && c != '\n') = true := by simp [past.blank, past.inline]
  rw [Reader.action, past.state]
  dsimp only
  unfold unquotedLiteralAction
  dsimp only
  rw [← ahead, spaced]
  by_cases call : CallFollows behind
  · have mark : ahead c (front ++ '\n' :: behind) ∈ callMarks := seen.2 call
    by_cases free : keyword? (String.ofList r.text) = none
    · simp [wordTokens, call, mark, free]
    · have reserved : (keyword? (String.ofList r.text)).isSome = true := by
        simpa [Option.isSome_iff_ne_none] using free
      simp [wordTokens, call, mark, free, reserved]
  · have unmarked : ahead c (front ++ '\n' :: behind) ∉ callMarks := fun mark => call (seen.1 mark)
    simp [wordTokens, call, unmarked]

/-! ## Both readings of a line -/

/-- A quotation that is read to the end of the source is closed. -/
theorem Path.quote_mem (path : Path r tokens last) {quote : Char} {escaped : Bool}
    (state : r.state = .quotedLiteral quote escaped) (ended : last.state = .comment) : quote ∈ r.rest := by
  -- until it is closed, all that comes has been to come before
  have still : quote ∈ r.rest ∨
      (∃ escaped, last.state = .quotedLiteral quote escaped) ∧ last.rest ⊆ r.rest := by
    clear ended
    induction path with
    | refl => exact .inr ⟨⟨escaped, state⟩, List.Subset.refl _⟩
    | @step s next c tail tokens emitted path rest done ih =>
      rcases ih with closed | ⟨⟨escaped, here⟩, sub⟩
      · exact .inl closed
      · rw [rest] at sub
        have behind : tail ⊆ r.rest := fun d member => sub (List.mem_cons_of_mem c member)
        have acted : s.action c tail = .ok (s.quotedLiteralAction quote escaped c) := by
          rw [Reader.action, here]
        obtain ⟨_, rfl⟩ := step_unique (step_of_action acted) done
        unfold quotedLiteralAction
        by_cases escapes : (escaped || decide (c = '\\')) = true
        · rw [if_pos escapes]
          exact .inr ⟨⟨!escaped, rfl⟩, behind⟩
        rw [if_neg escapes]
        by_cases closes : c = quote
        · exact .inl (closes ▸ sub List.mem_cons_self)
        · rw [if_neg closes]
          exact .inr ⟨⟨false, rfl⟩, behind⟩
  rcases still with closed | ⟨⟨escaped, here⟩, _⟩
  · exact closed
  · rw [here] at ended
    contradiction

/-- At the last line feed of a source that can be read no quotation and no list is open. -/
theorem idle_or_endsAtFeed (standing : Standing source (r.facing ('\n' :: padding)))
    (path : Path (r.facing ('\n' :: padding)) tokens last) (ended : last.state = .comment) :
    r.Idle ∨ EndsAtFeed r.state := by
  cases state : r.state with
  | start => exact .inl (.inl state)
  | comment => exact .inl (.inr state)
  | identifier => exact .inr trivial
  | unquotedLiteral => exact .inr trivial
  | number => exact .inr trivial
  | quotedLiteral quote escaped =>
    have closed : quote ∈ '\n' :: padding := path.quote_mem state ended
    have quoted : quote = '"' ∨ quote = '\'' := standing.suits_of state
    rcases quoted with rfl | rfl <;> exact absurd closed (by decide)
  | quotedArgList escaped quote =>
    have listed : (r.facing ('\n' :: padding)).state = (ArgPlace.mk escaped quote).state := state
    obtain ⟨text, behind, split, _⟩ := exists_fills listed path ended
    have closed : backtick ∈ '\n' :: padding := by
      rw [← facing_rest r ('\n' :: padding), split]
      simp
    exact absurd closed (by decide)

/-- At the end of a bare word that is no reserved one, with nothing to come but blanks, the first of
    them on the line of the word. -/
structure EndsLastWord (r : Reader) : Prop where
  free : keyword? (String.ofList r.text) = none
  past : ∃ c blanks, r.rest = c :: (blanks ++ '\n' :: padding) ∧ LooksPast r c blanks

/-- What the tokens of a source become when more comes behind it. If a call follows its last word,
    the word becomes a path of names. -/
inductive Reread (first : Reader) (behind : List Char) (tokens : List Token) : List Token → Prop
  | same (settled : CallFollows behind → ∀ front word, Path first front word → ¬EndsLastWord word) :
    Reread first behind tokens tokens
  | called {front later : List Token} {word : Reader} (path : Path first front word)
    (last : EndsLastWord word) (call : CallFollows behind)
    (whole : tokens = front ++ word.lexeme (wordKind word.context word.text) :: later) :
    Reread first behind tokens (front ++ pathTokens word.start [] word.text ++ later)

theorem Reread.prepend {next : Reader} {emitted tokens tokens' : List Token} (rest : r.rest = c :: tail)
    (done : r.step c tail = .ok (emitted, next)) (other : ¬EndsLastWord r)
    (reread : Reread next behind tokens tokens') :
    Reread r behind (emitted ++ tokens) (emitted ++ tokens') := by
  cases reread with
  | same settled =>
    refine .same fun call front word path last => ?_
    rcases path.after_step rest done with ⟨rfl, _⟩ | ⟨later, onward, _⟩
    · exact other last
    · exact settled call later word onward last
  | @called front later word path last call whole =>
    rw [← List.append_assoc, ← List.append_assoc]
    exact .called ((Path.single rest done).trans path) last call (by simp [whole])

theorem Reread.append {first : Reader} {tokens tokens' : List Token}
    (reread : Reread first behind tokens tokens') (later : List Token) :
    Reread first behind (tokens ++ later) (tokens' ++ later) := by
  cases reread with
  | same settled => exact .same settled
  | @called front between word path last call whole =>
    rw [List.append_assoc]
    exact .called path last call (by simp [whole])

/-- Nothing but blanks comes, and then the padding. -/
def Spent (r : Reader) : Prop :=
  (r.Idle ∧ ∃ blanks, r.rest = blanks ++ '\n' :: padding ∧ ∀ d ∈ blanks, Text.isBlank d = true) ∨
    r.rest.length ≤ padding.length

theorem Spent.path (spent : r.Spent) (path : Path r tokens last) : last.Spent := by
  induction path with
  | refl => exact spent
  | @step s next c tail tokens emitted path rest done ih =>
    rcases ih with ⟨idle, blanks, here, blank⟩ | short
    · rw [rest] at here
      cases blanks with
      | nil =>
        obtain ⟨rfl, rfl⟩ := List.cons.inj here
        obtain ⟨_, rfl⟩ := step_unique (idle.step_feed padding) done
        exact .inr (Nat.le_refl _)
      | cons d blanks =>
        obtain ⟨rfl, rfl⟩ := List.cons.inj here
        have later : ∀ e ∈ blanks, Text.isBlank e = true :=
          fun e member => blank e (List.mem_cons_of_mem _ member)
        by_cases feed : c = '\n'
        · subst feed
          obtain ⟨_, rfl⟩ := step_unique (idle.step_feed _) done
          exact .inl ⟨.inl rfl, blanks, rfl, later⟩
        · obtain ⟨_, rfl⟩ := step_unique (idle.step_blank (blank c List.mem_cons_self) feed _) done
          exact .inl ⟨idle, blanks, rfl, later⟩
    · exact .inr (Nat.le_trans (Path.single rest done).rest_le short)

theorem Spent.not_endsLastWord (spent : r.Spent) : ¬EndsLastWord r := by
  intro last
  obtain ⟨c, blanks, rest, past⟩ := last.past
  rcases spent with ⟨idle, _⟩ | short
  · rcases idle with state | state <;>
      · rw [past.state] at state
        contradiction
  · rw [rest] at short
    simp at short

/-- A line read with nothing behind it, and read again with other characters behind it: both readers
    come to its line feed. -/
def ReadsLine (r : Reader) (front behind : List Char) : Prop :=
  ∃ tokens tokens' s s',
    Path (r.facing (front ++ '\n' :: padding)) tokens (s.facing ('\n' :: padding)) ∧
    Path (r.facing (front ++ '\n' :: behind)) tokens' (s'.facing ('\n' :: behind)) ∧
    Abreast s s' ∧ Reread (r.facing (front ++ '\n' :: padding)) behind tokens tokens'

/-- A step that is the same in both readings, before the rest of them. -/
theorem ReadsLine.prepend {line later : List Char} {following : List Char → List Char} {middle : Reader}
    (split : ∀ other, line ++ '\n' :: other = c :: following other)
    (same : ∀ other, r.step c (following other) = .ok (tokens, middle.facing (later ++ '\n' :: other)))
    (inside : ¬EndsLastWord (r.facing (line ++ '\n' :: padding))) (reads : ReadsLine middle later behind) :
    ReadsLine r line behind := by
  obtain ⟨front, front', s, s', path, path', abreast, reread⟩ := reads
  have into (other : List Char) :
      Path (r.facing (line ++ '\n' :: other)) tokens (middle.facing (later ++ '\n' :: other)) :=
    split other ▸ Path.of_step (same other)
  refine ⟨tokens ++ front, tokens ++ front', s, s', (into padding).trans path, (into behind).trans path',
    abreast, ?_⟩
  exact reread.prepend (split padding) ((r.step_facing _ _ _).trans (same padding)) inside

theorem wordTokens_bracketless :
    ∀ token ∈ r.wordTokens behind, token.kind ∉ Context.brackets := by
  intro token member
  unfold wordTokens at member
  split_ifs at member
  · exact (mem_pathTokens token member).1
  · obtain rfl := List.mem_singleton.1 member
    exact wordKind_bracketless _ _

theorem newline_afterWord (r : Reader) (behind : List Char) :
    (r.context.afterAll ((r.wordTokens behind).map (·.kind))).newline = r.context.newline := by
  refine Context.newline_afterAll _ fun kind member => ?_
  obtain ⟨token, among, rfl⟩ := List.mem_map.1 member
  exact wordTokens_bracketless token among

theorem LooksPast.step (past : LooksPast r c front) (behind : List Char) :
    r.step c (front ++ '\n' :: behind) = .ok (r.wordTokens behind,
      (r.moved c [] (.emit (r.wordTokens behind) 0 .start)).facing (c :: front ++ '\n' :: behind)) :=
  step_of_action (action_past past behind)

theorem LooksPast.cons_blanks (past : LooksPast r c front) : ∀ d ∈ c :: front, Text.isBlank d = true := by
  intro d member
  rcases List.mem_cons.1 member with rfl | later
  · exact past.blank
  · exact past.blanks d later

theorem LooksPast.reread (past : LooksPast r c front) (behind : List Char) (later : List Token) :
    Reread (r.facing (c :: front ++ '\n' :: padding)) behind (r.wordTokens padding ++ later)
      (r.wordTokens behind ++ later) := by
  have split : (r.facing (c :: front ++ '\n' :: padding)).rest = c :: (front ++ '\n' :: padding) := rfl
  have alone : r.wordTokens padding = [r.lexeme (wordKind r.context r.text)] :=
    if_neg fun called => absurd called.1 (by decide)
  by_cases called : CallFollows behind ∧ keyword? (String.ofList r.text) = none
  · have last : EndsLastWord (r.facing (c :: front ++ '\n' :: padding)) :=
      ⟨called.2, c, front, rfl, (looksPast_facing _).2 past⟩
    rw [alone, wordTokens, if_pos called]
    exact .called .refl last called.1 rfl
  · rw [alone, wordTokens, if_neg called]
    refine .same fun call before word path last => ?_
    have begun := (step_facing r (c :: front ++ '\n' :: padding) c _).trans (past.step padding)
    rcases path.after_step split begun with ⟨rfl, _⟩ | ⟨_, onward, _⟩
    · exact called ⟨call, last.free⟩
    · have spent : Spent ((r.moved c [] (.emit (r.wordTokens padding) 0 .start)).facing
          (c :: front ++ '\n' :: padding)) :=
        .inl ⟨.inl rfl, c :: front, rfl, past.cons_blanks⟩
      exact (spent.path onward).not_endsLastWord last

/-- A last word ends its line in both readings. -/
theorem LooksPast.readsLine (past : LooksPast r c front) (behind : List Char) :
    ReadsLine r (c :: front) behind := by
  have abreast : Abreast (r.moved c [] (.emit (r.wordTokens padding) 0 .start))
      (r.moved c [] (.emit (r.wordTokens behind) 0 .start)) :=
    ⟨.inl rfl, .inl rfl, rfl, (newline_afterWord r behind).trans (newline_afterWord r padding).symm⟩
  obtain ⟨feeds, s, s', path, path', abreast⟩ := abreast.blanks past.cons_blanks padding behind
  exact ⟨r.wordTokens padding ++ feeds, r.wordTokens behind ++ feeds, s, s',
    (Path.of_step (past.step padding)).trans path, (Path.of_step (past.step behind)).trans path', abreast,
    past.reread behind feeds⟩

/-- A reader that comes to the end of its input takes a step. -/
theorem exists_next (c : Char) (tail : List Char) (path : Path (r.facing (c :: tail)) tokens last)
    (rest : last.rest = []) :
    ∃ emitted next later, r.step c tail = .ok (emitted, next) ∧ Path next later last ∧
      next.size < (r.facing (c :: tail)).size := by
  rcases path.head_step rfl with ⟨rfl, _⟩ | ⟨emitted, next, later, begun, onward, _⟩
  · contradiction
  · exact ⟨emitted, next, later, (r.step_facing _ _ _).symm.trans begun, onward, size_step_lt rfl begun⟩

/-- Whatever comes behind a source that can be read, its last line feed is come to. -/
theorem readsLine (standing : Standing source (r.facing (front ++ '\n' :: padding)))
    (path : Path (r.facing (front ++ '\n' :: padding)) tokens last) (rest : last.rest = [])
    (ended : last.state = .comment) (behind : List Char) : ReadsLine r front behind := by
  obtain ⟨size, bound⟩ : ∃ size, (r.facing (front ++ '\n' :: padding)).size < size :=
    ⟨_, Nat.lt_succ_self _⟩
  -- on the steps that are left, since a step may take no character or several
  induction size generalizing r front tokens with
  | zero => exact absurd bound (Nat.not_lt_zero _)
  | succ size ih =>
    cases front with
    | nil =>
      have inside : ¬EndsLastWord (r.facing ('\n' :: padding)) := by
        intro last
        obtain ⟨c, blanks, split, past⟩ := last.past
        exact past.inline (List.cons.inj split).1.symm
      rcases idle_or_endsAtFeed standing path ended with idle | ends
      · refine ⟨[], [], r, r, .refl, .refl, ⟨idle, idle, rfl, rfl⟩, .same fun _ _ word path => ?_⟩
        have spent : Spent (r.facing ('\n' :: padding)) := .inl ⟨idle, [], rfl, by simp⟩
        exact (spent.path path).not_endsLastWord
      · obtain ⟨emitted, next, later, begun, onward, smaller⟩ := exists_next '\n' padding path rest
        obtain ⟨middle, same⟩ := step_feed ends begun
        obtain ⟨_, rfl⟩ := step_unique (same padding) begun
        have standing := (Path.of_step (same padding)).standing standing
        have reads : ReadsLine middle [] behind :=
          ih standing onward (Nat.lt_of_lt_of_le smaller (Nat.le_of_lt_succ bound))
        exact reads.prepend (fun _ => rfl) same inside
    | cons c front =>
      by_cases past : LooksPast r c front
      · exact past.readsLine behind
      · have inside : ¬EndsLastWord (r.facing (c :: front ++ '\n' :: padding)) := by
          intro last
          obtain ⟨d, blanks, split, looks⟩ := last.past
          obtain ⟨rfl, same⟩ := List.cons.inj split
          obtain rfl : front = blanks := List.append_cancel_right same
          exact past ((looksPast_facing _).1 looks)
        obtain ⟨emitted, next, later, begun, onward, smaller⟩ :=
          exists_next c (front ++ '\n' :: padding) path rest
        obtain ⟨middle, left, same⟩ := step_line past begun
        obtain ⟨_, rfl⟩ := step_unique (same padding) begun
        have standing := (Path.of_step (same padding)).standing standing
        have reads : ReadsLine middle left behind :=
          ih standing onward (Nat.lt_of_lt_of_le smaller (Nat.le_of_lt_succ bound))
        exact reads.prepend (fun _ => rfl) same inside

end Reader
end CommandScript.Lexer
