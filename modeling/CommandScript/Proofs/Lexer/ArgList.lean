import CommandScript.Proofs.Lexer.Coverage
import CommandScript.Proofs.Lexer.Fidelity

/-!
Lists of command arguments. What a character between the two backticks is for depends on
the characters before it only: on the backslash that escapes it and on the inner quote
that is open. From that follows which characters the tokens of a list cover, each of them
once, and which they leave out: the marks that separate and quote the arguments, and the
argument that an opening quote cuts off.
-/
namespace CommandScript.Lexer
open Reader

/-- Where in a list a character stands: whether a backslash escapes it, and the quote it is in. -/
structure ArgPlace where
  escaped : Bool := false
  quote : Option Char := none
deriving DecidableEq

/-- What a character is for that is no part of an argument. -/
inductive ArgMark
  | blank
  | bar
  /-- the quote before an inner quoted argument -/
  | opens
  /-- the quote behind it -/
  | closes
deriving DecidableEq

namespace ArgPlace

/-- What a character marks, if it is no part of an argument. -/
def mark? (place : ArgPlace) (c : Char) : Option ArgMark :=
  if place.escaped || c = '\\' then none
  else match place.quote with
  | some quote => if c = quote then some .closes else none
  | none =>
    if c = '"' || c = '\'' then some .opens
    else if c = '|' then some .bar
    else if Text.isBlank c then some .blank
    else none

/-- The place behind a character. -/
def after (place : ArgPlace) (c : Char) : ArgPlace :=
  if place.escaped || c = '\\' then { place with escaped := !place.escaped }
  else match place.mark? c with
  | some .opens => { quote := some c }
  | some .closes => {}
  | _ => place

/-- The place behind a text that begins a list. -/
def behind (text : List Char) : ArgPlace := text.foldl after {}

@[simp] theorem behind_append_singleton (text : List Char) (c : Char) :
    behind (text ++ [c]) = (behind text).after c := by
  simp [behind]

/-- The state of a reader at this place. -/
def state (place : ArgPlace) : State := .quotedArgList place.escaped place.quote

/-- A text up to the backtick that ends its list. -/
def Fills (place : ArgPlace) : List Char → Prop
  | [] => place = {}
  | c :: text => ¬(place = {} ∧ c = backtick) ∧ (place.after c).Fills text

end ArgPlace

/-- What the character at an offset of a list marks. -/
def markAt (text : List Char) (k : Nat) : Option ArgMark :=
  text[k]?.bind (ArgPlace.behind (text.take k)).mark?

/-- The characters from `k` to `m` belong to one argument. -/
def Unmarked (text : List Char) (k m : Nat) : Prop := ∀ l, k ≤ l → l < m → markAt text l = none

/-- A blank or a quote; or a part of an argument that goes on up to an opening quote. -/
inductive LeftOut (text : List Char) (k : Nat) : Prop
  | blank (mark : markAt text k = some .blank)
  | opens (mark : markAt text k = some .opens)
  | closes (mark : markAt text k = some .closes)
  | cutOff {m : Nat} (before : k < m) (argument : Unmarked text k m)
    (mark : markAt text m = some .opens)

/-- A list whose first backtick is at `opened`: the text up to the backtick that ends it, and the
    tokens that are emitted from the one to the other. -/
def ArgList (source : List Char) (opened : Nat) (text : List Char) (listed : List Token) : Prop :=
  Span.slice ⟨opened, text.length + 2⟩ source = backtick :: (text ++ [backtick]) ∧
    ArgPlace.Fills {} text ∧
    ∃ front before after, Path (ofSource source) front before ∧ before.state = .start ∧
      before.head = opened ∧ Path before listed after ∧ after.state = .start ∧
      after.head = opened + text.length + 2

/-- Both kinds of token that a list has. -/
def Listed (token : Token) : Prop := token.kind = .execArg ∨ token.kind = .pipe

/-! ## One step in a list -/

namespace Reader
variable {r : Reader} {c : Char} {tail : List Char} {place : ArgPlace}

/-- What a reader does with a character of a list by what it marks. -/
def listAction (r : Reader) (place : ArgPlace) (c : Char) : Action :=
  match place.mark? c with
  | none => .keep (place.after c).state
  | some .blank => .emit r.argument 1 (place.after c).state
  | some .bar => .emit (r.argument ++ [r.mark .pipe c]) 1 (place.after c).state
  | some .opens => .emit [] 1 (place.after c).state
  | some .closes => .emit [r.lexeme .execArg] 1 (place.after c).state

theorem action_listed (state : r.state = place.state) (inside : ¬(place = {} ∧ c = backtick)) :
    r.action c tail = .ok (r.listAction place c) := by
  obtain ⟨escaped, quote⟩ := place
  rw [Reader.action, state]
  dsimp only [ArgPlace.state]
  congr 1
  unfold quotedArgListAction listAction ArgPlace.after
  by_cases escapes : (escaped || decide (c = '\\')) = true
  · simp [ArgPlace.mark?, ArgPlace.state, escapes]
  · have plain : escaped = false := by
      cases escaped <;> simp_all
    subst plain
    cases quote with
    | some quote => by_cases closes : c = quote <;> simp_all [ArgPlace.mark?, ArgPlace.state]
    | none =>
      by_cases opens : (decide (c = '"') || decide (c = '\'')) = true
      · simp_all [ArgPlace.mark?, ArgPlace.state]
      · by_cases bar : c = '|'
        · subst bar
          simp_all [ArgPlace.mark?, ArgPlace.state]
        · by_cases blank : Text.isBlank c = true <;> simp_all [ArgPlace.mark?, ArgPlace.state]

theorem action_listEnd (state : r.state = ArgPlace.state {}) :
    r.action backtick tail = .ok (.emit r.argument 1 .start) := by
  rw [Reader.action, state]
  rfl

/-- A token of a list that lies between the text kept and the next character, both included. -/
def Lists (r : Reader) (token : Token) : Prop :=
  r.start ≤ token.span.offset ∧ token.span.stop ≤ r.head + 1 ∧ Listed token

theorem lists_lexeme : r.Lists (r.lexeme .execArg) := ⟨Nat.le_refl _, Nat.le_succ _, .inl rfl⟩

theorem lists_argument : ∀ token ∈ r.argument, r.Lists token := by
  intro token member
  unfold argument at member
  split_ifs at member
  · simp at member
  · obtain rfl := List.mem_singleton.1 member
    exact lists_lexeme

theorem lists_bar : ∀ token ∈ r.argument ++ [r.mark .pipe c], r.Lists token := by
  intro token member
  rcases List.mem_append.1 member with before | last
  · exact lists_argument token before
  · obtain rfl := List.mem_singleton.1 last
    exact ⟨Nat.le_add_right .., Nat.le_refl _, .inr rfl⟩

theorem countP_lexeme (kind : Kind) (i : Nat) :
    [r.lexeme kind].countP (·.span.covers i) = if r.start ≤ i ∧ i < r.head then 1 else 0 := by
  rw [List.countP_singleton]
  simp only [Span.covers_iff]
  rfl

theorem countP_argument (i : Nat) :
    r.argument.countP (·.span.covers i) = if r.start ≤ i ∧ i < r.head then 1 else 0 := by
  unfold argument
  split_ifs with empty inside
  · have none : r.text = [] := by simpa using empty
    simp only [head, none, List.length_nil] at inside
    omega
  · rfl
  · rw [countP_lexeme, if_pos ‹_›]
  · rw [countP_lexeme, if_neg ‹_›]

theorem countP_bar (i : Nat) :
    (r.argument ++ [r.mark .pipe c]).countP (·.span.covers i) =
      if r.start ≤ i ∧ i < r.head + 1 then 1 else 0 := by
  have ordered : r.start ≤ r.head := Nat.le_add_right ..
  rw [List.countP_append, countP_argument, List.countP_singleton]
  simp only [Span.covers_iff, mark, Span.stop]
  split_ifs <;> omega

end Reader

/-! ## The marks of a text -/

section Marks
variable {text read todo : List Char} {c : Char} {k p : Nat} {mark : ArgMark}

theorem markAt_read (split : text = read ++ c :: todo) :
    markAt text read.length = (ArgPlace.behind read).mark? c := by
  simp [markAt, split]

theorem lt_length_of_markAt (marked : markAt text k = some mark) : k < text.length := by
  obtain ⟨c, here, _⟩ := Option.bind_eq_some_iff.1 marked
  exact (List.getElem?_eq_some_iff.1 here).1

theorem Unmarked.mark_eq_none (unmarked : Unmarked text k p) (lt : k < p) : markAt text k = none :=
  unmarked k (Nat.le_refl k) lt

/-- An argument that goes on up to a mark other than an opening quote is not left out; nor is a bar. -/
theorem not_leftOut_of_mark (le : k ≤ p) (unmarked : Unmarked text k p)
    (marked : markAt text p = some mark) (other : mark ≠ .opens) (apart : k < p ∨ mark = .bar) :
    ¬LeftOut text k := by
  have here (other : ArgMark) (found : markAt text k = some other) (bar : other ≠ .bar) : False := by
    rcases Nat.lt_or_eq_of_le le with before | rfl
    · rw [unmarked.mark_eq_none before] at found
      contradiction
    · rw [marked] at found
      obtain rfl := Option.some.inj found
      exact bar (apart.resolve_left (Nat.lt_irrefl _))
  intro leftOut
  cases leftOut with
  | blank found => exact here _ found (by decide)
  | opens found => exact here _ found (by decide)
  | closes found => exact here _ found (by decide)
  | @cutOff m before argument found =>
    rcases Nat.lt_trichotomy m p with earlier | rfl | later
    · rw [unmarked m (Nat.le_of_lt before) earlier] at found
      contradiction
    · exact other (Option.some.inj (marked.symm.trans found))
    · rw [argument p le later] at marked
      contradiction

/-- Nor is an argument that goes on to the end. -/
theorem not_leftOut_of_end (lt : k < text.length) (unmarked : Unmarked text k text.length) :
    ¬LeftOut text k := by
  have none := unmarked.mark_eq_none lt
  rintro (found | found | found | ⟨before, _, found⟩)
  iterate 3 simp [none] at found
  rw [unmarked _ (Nat.le_of_lt before) (lt_length_of_markAt found)] at found
  contradiction

end Marks

/-! ## Reading a list -/

/-- The tokens of a list from `offset` on cover the character at `k` once, unless it is left out. -/
def Settled (text : List Char) (offset : Nat) (listed : List Token) (k : Nat) : Prop :=
  (LeftOut text k → listed.countP (·.span.covers (offset + k)) = 0) ∧
    (¬LeftOut text k → listed.countP (·.span.covers (offset + k)) = 1)

theorem Settled.congr {text : List Char} {offset k : Nat} {listed other : List Token}
    (settled : Settled text offset other k)
    (same : listed.countP (·.span.covers (offset + k)) = other.countP (·.span.covers (offset + k))) :
    Settled text offset listed k := by
  unfold Settled
  rw [same]
  exact settled

/-- A reader that has read some of the text of a list: what lies before the text that it keeps is
    settled, and what it keeps belongs to one argument. -/
structure Listing (text : List Char) (first : Reader) (read : List Char) (listed : List Token)
    (r : Reader) : Prop where
  path : Path first listed r
  state : r.state = (ArgPlace.behind read).state
  head : r.head = first.start + read.length
  settled : ∀ k, first.start + k < r.start → Settled text first.start listed k
  stops : ∀ token ∈ listed, token.span.stop ≤ r.start
  kinds : ∀ token ∈ listed, Listed token
  pending : ∀ k, r.start ≤ first.start + k → Unmarked text k read.length

namespace Listing
variable {text read todo tail : List Char} {c : Char} {first r next : Reader}
  {listed emitted : List Token}

/-- No token lies where the reader keeps its text. -/
theorem countP_listed (listing : Listing text first read listed r) {i : Nat} (le : r.start ≤ i) :
    listed.countP (·.span.covers i) = 0 := by
  rw [List.countP_eq_zero]
  intro token member covers
  have stop := listing.stops token member
  have := (Span.covers_iff.1 covers).2
  omega

/-- The text kept goes on. -/
theorem keep (listing : Listing text first read listed r) (split : text = read ++ c :: todo)
    (rest : r.rest = c :: tail) (inside : ¬(ArgPlace.behind read = {} ∧ c = backtick))
    (unmarked : (ArgPlace.behind read).mark? c = none) :
    Listing text first (read ++ [c]) listed
      (r.moved c tail (.keep (ArgPlace.behind (read ++ [c])).state)) where
  path := by
    have acted : r.action c tail = .ok (r.listAction (.behind read) c) :=
      action_listed listing.state inside
    rw [listAction, unmarked] at acted
    simpa [Reader.emitted] using listing.path.step rest (step_of_action acted)
  state := rfl
  head := by
    have head := listing.head
    simp only [moved, Reader.head, List.length_append, List.length_singleton] at head ⊢
    omega
  settled := listing.settled
  stops := listing.stops
  kinds := listing.kinds
  pending := by
    intro k le l from_le lt
    rw [List.length_append, List.length_singleton] at lt
    rcases Nat.lt_succ_iff_lt_or_eq.1 lt with before | rfl
    · exact listing.pending k le l from_le before
    · rw [markAt_read split, unmarked]

/-- The text kept is let go, in a token or not. -/
theorem emit (listing : Listing text first read listed r) (rest : r.rest = c :: tail)
    (acted : r.action c tail = .ok (.emit emitted 1 (ArgPlace.behind (read ++ [c])).state))
    (lists : ∀ token ∈ emitted, r.Lists token)
    (settles : ∀ k ≤ read.length, r.start ≤ first.start + k → Settled text first.start emitted k) :
    Listing text first (read ++ [c]) (listed ++ emitted)
      (r.moved c tail (.emit emitted 1 (ArgPlace.behind (read ++ [c])).state)) where
  path := listing.path.step rest (step_of_action acted)
  state := rfl
  head := by
    have head := listing.head
    simp only [moved, Reader.head, List.length_append, List.length_singleton, List.length_nil] at head ⊢
    omega
  settled := by
    intro k lt
    have lt : first.start + k < r.head + 1 := lt
    rw [listing.head] at lt
    rcases Nat.lt_or_ge (first.start + k) r.start with before | from_le
    · have none : emitted.countP (·.span.covers (first.start + k)) = 0 := by
        rw [List.countP_eq_zero]
        intro token member covers
        have offset := (lists token member).1
        have := (Span.covers_iff.1 covers).1
        omega
      exact (listing.settled k before).congr (by rw [List.countP_append, none, Nat.add_zero])
    · have none := listing.countP_listed from_le
      exact (settles k (by omega) from_le).congr (by rw [List.countP_append, none, Nat.zero_add])
  stops := by
    intro token member
    have onward : r.start ≤ r.head := Nat.le_add_right ..
    rcases List.mem_append.1 member with before | new
    · exact Nat.le_trans (listing.stops token before) (Nat.le_succ_of_le onward)
    · exact (lists token new).2.1
  kinds := by
    intro token member
    rcases List.mem_append.1 member with before | new
    · exact listing.kinds token before
    · exact (lists token new).2.2
  pending := by
    intro k le l from_le lt
    have le : r.head + 1 ≤ first.start + k := le
    have head := listing.head
    simp only [List.length_append, List.length_singleton] at lt
    omega

/-- A blank or a closing quote ends the argument before it, and is in no token. -/
theorem settled_flush (listing : Listing text first read listed r) {mark : ArgMark}
    (marked : markAt text read.length = some mark) (flushes : mark = .blank ∨ mark = .closes)
    (counts : ∀ i, emitted.countP (·.span.covers i) = if r.start ≤ i ∧ i < r.head then 1 else 0)
    {k : Nat} (le : k ≤ read.length) (from_le : r.start ≤ first.start + k) :
    Settled text first.start emitted k := by
  have head := listing.head
  rcases Nat.lt_or_eq_of_le le with before | rfl
  · have kept : ¬LeftOut text k :=
      not_leftOut_of_mark le (listing.pending k from_le) marked (by rcases flushes with rfl | rfl <;> decide)
        (.inl before)
    refine ⟨fun leftOut => absurd leftOut kept, fun _ => ?_⟩
    rw [counts, if_pos ⟨from_le, by omega⟩]
  · have leftOut : LeftOut text read.length := by
      rcases flushes with rfl | rfl
      · exact .blank marked
      · exact .closes marked
    refine ⟨fun _ => ?_, fun kept => absurd leftOut kept⟩
    rw [counts, if_neg (by omega)]

/-- Reading one more character of a list. -/
theorem advance (listing : Listing text first read listed r) (split : text = read ++ c :: todo)
    (rest : r.rest = c :: tail) (inside : ¬(ArgPlace.behind read = {} ∧ c = backtick)) :
    ∃ listed next, Listing text first (read ++ [c]) listed next ∧ next.rest = tail := by
  have acted : r.action c tail = .ok (r.listAction (.behind read) c) :=
    action_listed listing.state inside
  have marked := markAt_read split
  have onward : r.start ≤ r.head := Nat.le_add_right ..
  have head := listing.head
  unfold listAction at acted
  rw [← ArgPlace.behind_append_singleton] at acted
  cases found : (ArgPlace.behind read).mark? c with
  | none => exact ⟨listed, _, listing.keep split rest inside found, rfl⟩
  | some mark =>
    rw [found] at marked acted
    cases mark with
    | blank =>
      refine ⟨_, _, listing.emit rest acted lists_argument fun k le from_le => ?_, rfl⟩
      exact listing.settled_flush marked (.inl rfl) countP_argument le from_le
    | bar =>
      refine ⟨_, _, listing.emit rest acted lists_bar fun k le from_le => ?_, rfl⟩
      have kept : ¬LeftOut text k :=
        not_leftOut_of_mark le (listing.pending k from_le) marked (by decide) (.inr rfl)
      refine ⟨fun leftOut => absurd leftOut kept, fun _ => ?_⟩
      rw [countP_bar, if_pos ⟨from_le, by omega⟩]
    | opens =>
      refine ⟨_, _, listing.emit rest acted (by simp) fun k le from_le => ?_, rfl⟩
      have leftOut : LeftOut text k := by
        rcases Nat.lt_or_eq_of_le le with before | rfl
        · exact .cutOff before (listing.pending k from_le) marked
        · exact .opens marked
      exact ⟨fun _ => rfl, fun kept => absurd leftOut kept⟩
    | closes =>
      have lists : ∀ token ∈ [r.lexeme .execArg], r.Lists token := by
        intro token member
        obtain rfl := List.mem_singleton.1 member
        exact lists_lexeme
      refine ⟨_, _, listing.emit rest acted lists fun k le from_le => ?_, rfl⟩
      exact listing.settled_flush marked (.inr rfl) (countP_lexeme _) le from_le

/-- Reading a list up to the backtick that ends it. -/
theorem fills {behind : List Char} (listing : Listing text first read listed r)
    (split : text = read ++ todo) (rest : r.rest = todo ++ backtick :: behind)
    (fills : (ArgPlace.behind read).Fills todo) :
    ∃ listed r, Listing text first text listed r ∧ r.rest = backtick :: behind ∧
      ArgPlace.behind text = {} := by
  induction todo generalizing read listed r with
  | nil =>
    obtain rfl : text = read := by simpa using split
    exact ⟨listed, r, listing, rest, fills⟩
  | cons c todo ih =>
    obtain ⟨inside, fills⟩ := fills
    obtain ⟨listed, next, listing, rest⟩ := listing.advance split rest inside
    rw [← ArgPlace.behind_append_singleton] at fills
    exact ih listing (by simpa using split) rest fills

/-- The backtick that ends a list ends its last argument. -/
theorem close {behind : List Char} (listing : Listing text first text listed r)
    (rest : r.rest = backtick :: behind) (place : ArgPlace.behind text = {}) :
    ∃ after, Path first (listed ++ r.argument) after ∧ after.state = .start ∧
      after.head = r.head + 1 ∧ (∀ token ∈ listed ++ r.argument, Listed token) ∧
      ∀ k < text.length, Settled text first.start (listed ++ r.argument) k := by
  have state := listing.state
  have head := listing.head
  rw [place] at state
  have acted : r.action backtick behind = .ok (.emit r.argument 1 .start) := action_listEnd state
  refine ⟨_, listing.path.step rest (step_of_action acted), rfl, rfl, ?_, ?_⟩
  · intro token member
    rcases List.mem_append.1 member with before | last
    · exact listing.kinds token before
    · exact (lists_argument token last).2.2
  · intro k lt
    rcases Nat.lt_or_ge (first.start + k) r.start with before | from_le
    · refine (listing.settled k before).congr ?_
      rw [List.countP_append, countP_argument, if_neg (by omega), Nat.add_zero]
    · have kept := not_leftOut_of_end lt (listing.pending k from_le)
      refine ⟨fun leftOut => absurd leftOut kept, fun _ => ?_⟩
      rw [List.countP_append, listing.countP_listed from_le, countP_argument, if_pos ⟨from_le, by omega⟩]

end Listing

/-! ## The lists of a source -/

namespace Reader
variable {source text tail : List Char} {c : Char} {r first last next : Reader}
  {tokens emitted : List Token}

/-- A list that is read to the end of the source is closed by a backtick. -/
theorem exists_fills {place : ArgPlace} (state : r.state = place.state) (path : Path r tokens last)
    (ended : last.state = .comment) :
    ∃ text behind, r.rest = text ++ backtick :: behind ∧ place.Fills text := by
  obtain ⟨rest, here⟩ : ∃ rest, r.rest = rest := ⟨_, rfl⟩
  induction rest generalizing r place tokens with
  | nil =>
    obtain ⟨rfl, _⟩ := path.eq_of_nil here
    rw [state] at ended
    contradiction
  | cons c tail ih =>
    by_cases closes : place = {} ∧ c = backtick
    · obtain ⟨rfl, rfl⟩ := closes
      exact ⟨[], tail, here, rfl⟩
    · have acted : r.action c tail = .ok (r.listAction place c) := action_listed state closes
      have goesOn : (r.moved c tail (r.listAction place c)).state = (place.after c).state ∧
          (r.moved c tail (r.listAction place c)).rest = tail := by
        unfold listAction
        split <;> exact ⟨rfl, rfl⟩
      rcases path.after_step here (step_of_action acted) with ⟨rfl, _⟩ | ⟨later, behind, _⟩
      · rw [state] at ended
        contradiction
      · obtain ⟨text, rest, split, fills⟩ := ih goesOn.1 behind goesOn.2
        exact ⟨c :: text, rest, by rw [here, ← goesOn.2, split]; rfl, closes, fills⟩

theorem listing_first (text : List Char) (state : first.state = ArgPlace.state {}) (kept : first.text = []) :
    Listing text first [] [] first where
  path := .refl
  state := state
  head := by simp [head, kept]
  settled := fun k lt => absurd lt (by omega)
  stops := by simp
  kinds := by simp
  pending := fun k _ l _ lt => absurd lt (Nat.not_lt_zero _)

end Reader

/-- Every backtick that opens a list in a source that can be read has one that ends it, and what
    stands between them is settled: the tokens emitted from the one to the other are arguments and
    bars, and they cover each character once unless it is left out. -/
theorem argList_settled {source : String} {tokens : List Token} (done : tokenize source = .ok tokens)
    {opened : Nat} (opens : Turns source.toList opened backtick .start (.quotedArgList false none)) :
    ∃ text listed, ArgList source.toList opened text listed ∧ listed <:+: tokens ∧
      (∀ token ∈ listed, Listed token) ∧ ∀ k < text.length, Settled text (opened + 1) listed k := by
  obtain ⟨last, ends⟩ := tokenize_eq_ok_iff.1 done
  obtain ⟨front, before, tail, emitted, first, path, state, rfl, rest, begun, entered⟩ := opens
  -- the step into the list emits nothing
  obtain ⟨emits, kept, start, rest'⟩ :
      emitted = [] ∧ first.text = [] ∧ first.start = before.head + 1 ∧ first.rest = tail := by
    obtain ⟨action, acts, rfl, rfl⟩ := acts_of_step begun
    rcases argList_entered acts entered with ⟨_, _, other, _⟩ | ⟨_, _, rfl⟩
    · simp [state] at other
    · exact ⟨rfl, rfl, rfl, rfl⟩
  subst emits
  have listing : first.state = ArgPlace.state {} := entered
  have into : Path before [] first := .single rest begun
  obtain ⟨_, onward, _⟩ := (path.trans into).onward ends.path ends.rest
  obtain ⟨text, behind, split, fills⟩ := exists_fills listing onward ends.state
  obtain ⟨listed, r, listing, closing, place⟩ :=
    (listing_first text listing kept).fills rfl split fills
  obtain ⟨after, within, left, stop, kinds, settled⟩ := listing.close closing place
  have across : Path before (listed ++ r.argument) after := into.trans within
  obtain ⟨later, _, whole⟩ := (path.trans across).onward ends.path ends.rest
  have head := listing.head
  refine ⟨text, listed ++ r.argument, ⟨?_, fills, ?_⟩, ?_, kinds, start ▸ settled⟩
  · have reads := path.standing_ofSource.drop_head
    have standing := ((path.trans into).trans listing.path).standing_ofSource
    have counts := standing.counts
    have closed := standing.inside closing (by decide) (by decide)
    have split : before.rest = (backtick :: (text ++ [backtick])) ++ behind := by
      rw [rest, ← rest', split]
      simp
    rw [split] at reads
    have slice := slice_of_drop reads (by
      simp only [closing, List.length_cons, List.length_append, List.length_nil, length_padding] at *
      omega)
    simpa using slice
  · exact ⟨front, before, after, path, state, rfl, across, left, by omega⟩
  · exact ⟨front, later, whole.symm⟩

/-- A list with a bar, a quoted argument and an escaped blank. -/
theorem argList_settled_quoted :
    tokenize "`a | \"b c\" \\ `" = .ok [⟨⟨1, 1⟩, .execArg, "a"⟩, ⟨⟨3, 1⟩, .pipe, "|"⟩,
        ⟨⟨6, 3⟩, .execArg, "b c"⟩, ⟨⟨11, 2⟩, .execArg, "\\ "⟩] ∧
      ∃ text listed, ArgList "`a | \"b c\" \\ `".toList 0 text listed ∧
        listed <:+: [⟨⟨1, 1⟩, .execArg, "a"⟩, ⟨⟨3, 1⟩, .pipe, "|"⟩, ⟨⟨6, 3⟩, .execArg, "b c"⟩,
          ⟨⟨11, 2⟩, .execArg, "\\ "⟩] ∧
        (∀ token ∈ listed, Listed token) ∧ ∀ k < text.length, Settled text 1 listed k := by
  have done : (ofSource "`a | \"b c\" \\ `".toList).steps 16 = some (
      [⟨⟨1, 1⟩, .execArg, "a"⟩, ⟨⟨3, 1⟩, .pipe, "|"⟩, ⟨⟨6, 3⟩, .execArg, "b c"⟩,
        ⟨⟨11, 2⟩, .execArg, "\\ "⟩], ⟨.comment, ⟨some .execArg, 0, 0, 0⟩, 16, [], []⟩) := rfl
  have read := tokenize_of_steps done rfl rfl
  exact ⟨read, argList_settled read ⟨[], ofSource _, _, _, _, .refl, rfl, rfl, rfl, rfl, rfl⟩⟩

/-- Not every argument is in a token: the `a` is neither a blank nor a quote, and yet the quote
    behind it cuts it off. -/
theorem argument_before_quote_lost :
    tokenize "`a\"b\"`" = .ok [⟨⟨3, 1⟩, .execArg, "b"⟩] ∧
      ArgList "`a\"b\"`".toList 0 ['a', '"', 'b', '"'] [⟨⟨3, 1⟩, .execArg, "b"⟩] ∧
      markAt ['a', '"', 'b', '"'] 0 = none ∧
      [(⟨⟨3, 1⟩, .execArg, "b"⟩ : Token)].countP (·.span.covers 1) = 0 := by
  have done : (ofSource "`a\"b\"`".toList).steps 8 = some ([⟨⟨3, 1⟩, .execArg, "b"⟩],
      ⟨.comment, ⟨some .execArg, 0, 0, 0⟩, 8, [], []⟩) := rfl
  have across : (ofSource "`a\"b\"`".toList).steps 6 = some ([⟨⟨3, 1⟩, .execArg, "b"⟩],
      ⟨.start, ⟨some .execArg, 0, 0, 0⟩, 6, [], [' ', '#']⟩) := rfl
  refine ⟨tokenize_of_steps done rfl rfl, ⟨rfl, ?_, ?_⟩, rfl, rfl⟩
  · exact ⟨by decide, by decide, by decide, by decide, rfl⟩
  · exact ⟨[], _, _, .refl, rfl, rfl, path_of_steps across, rfl, rfl⟩

end CommandScript.Lexer
