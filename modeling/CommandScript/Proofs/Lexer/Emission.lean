import CommandScript.Proofs.Lexer.Fidelity

/-!
What a step emits, one constructor of `Emits` for each way in which a token comes about, with what is
known of the reader there.
-/
namespace CommandScript.Lexer

/-- The kinds of the parts of a path. -/
def pathKinds : List Kind := [.name, .dot, .implicitLambdaParam]

theorem kind_pathPart {start : Nat} {part : List Char} : ∀ token ∈ pathPart start part, token.kind ∈ pathKinds := by
  intro token member
  unfold pathPart at member
  split_ifs at member with empty implicit
  · contradiction
  · obtain rfl := List.mem_singleton.mp member
    simp [pathKinds]
  · obtain rfl := List.mem_singleton.mp member
    simp [pathKinds]

/-- A path is made of names, implicit parameters and dots. -/
theorem kind_pathTokens {start : Nat} {part chars : List Char} : ∀ token ∈ pathTokens start part chars,
    token.kind ∈ pathKinds := by
  induction chars generalizing start part with
  | nil => exact kind_pathPart
  | cons c chars ih =>
    intro token member
    rw [pathTokens] at member
    split_ifs at member
    · rcases List.mem_append.mp member with before | behind
      · exact kind_pathPart token before
      · rcases List.mem_cons.mp behind with rfl | later
        · simp [pathKinds]
        · exact ih token later
    · exact ih token member

namespace Reader
variable {r : Reader} {c : Char} {tail : List Char} {token : Token} {tokens : List Token} {count : Nat} {next : State}

/-- A line feed inserts at most a terminator. -/
theorem emitted_newline (r : Reader) :
    r.emitted .newline = [] ∨ r.emitted .newline = [.terminator r.head] := by
  rw [emitted]
  by_cases statement : r.context.parens = 0
  · exact Or.inr (if_pos statement)
  · exact Or.inl (if_neg statement)

/-- A line feed inserts nothing but a terminator. -/
theorem eq_terminator (member : token ∈ r.emitted .newline) : token = .terminator r.head := by
  rcases r.emitted_newline with none | terminator
  · simp [none] at member
  · simpa [terminator] using member

/-- The tokens that a reader can emit at the character `c`, when `tail` comes after it. -/
inductive Emits (r : Reader) (c : Char) (tail : List Char) : Token → Prop
  | operator {kind : Kind} {length : Nat} (found : operator? r.context (c :: tail) = some (kind, length)) :
    Emits r c tail ⟨⟨r.head, length⟩, kind, String.ofList ((c :: tail).take length)⟩
  | dot {word : List Char} (named : wordKind r.context word = .name ∨ wordKind r.context word = .implicitLambdaParam) :
    Emits r c tail (r.mark .dot c)
  | identifier (state : r.state = .identifier) (nonempty : r.text ≠ [])
    (stop : Text.isBlank c = true ∨ c ∈ identifierEnds) : Emits r c tail (r.lexeme .name)
  | identifierDot (state : r.state = .identifier) : Emits r c tail (r.mark .dot c)
  | quotation : Emits r c tail (r.lexeme (if r.context.prev == some .execArg then .execArg else .quotedString))
  | argument : Emits r c tail (r.lexeme .execArg)
  | pipe : Emits r c tail (r.mark .pipe c)
  | word (state : r.state = .unquotedLiteral)
    (reserved : ahead c tail ∈ callMarks → (keyword? (String.ofList r.text)).isSome = true) :
    Emits r c tail (r.lexeme (wordKind r.context r.text))
  | path {token : Token} (state : r.state = .unquotedLiteral) (mark : ahead c tail ∈ callMarks)
    (part : token ∈ pathTokens r.start [] r.text) : Emits r c tail token
  | number {hasPoint : Bool} (state : r.state = .number hasPoint) :
    Emits r c tail (r.lexeme (numberKind r.context hasPoint))
  | measured {hasPoint : Bool} {text : String} {quantity : Quantity} (state : r.state = .number hasPoint)
    (plain : numberKind r.context hasPoint ≠ .execArg)
    (known : Quantity.ofUnit? (Text.lowerCase text) = some quantity) :
    Emits r c tail (r.measured hasPoint (Text.lowerCase text))

theorem emits_of_argument (member : token ∈ r.argument) : Emits r c tail token := by
  unfold argument at member
  split_ifs at member
  · contradiction
  · obtain rfl := List.mem_singleton.mp member
    exact .argument

/-- Every token of an action comes about in one of these ways. -/
theorem emits_of_mem (acts : Acts r c tail (.emit tokens count next)) (member : token ∈ tokens) :
    Emits r c tail token := by
  have single {only : Token} (emits : Emits r c tail only) (member : token ∈ [only]) : Emits r c tail token := by
    obtain rfl := List.mem_singleton.mp member
    exact emits
  cases acts with
  | operator _ _ found => exact single (.operator found) member
  | dot _ _ named => exact single (.dot (Or.inl named)) member
  | identifierDot state nonempty point =>
    rcases List.mem_cons.mp member with rfl | later
    · refine .identifier state nonempty (Or.inr ?_)
      rw [point]
      decide
    · exact single (.identifierDot state) later
  | identifierEnd state nonempty stop => exact single (.identifier state nonempty stop) member
  | quotationEnd => exact single .quotation member
  | argUnquote => exact single .argument member
  | argPipe =>
    rcases List.mem_append.mp member with argument | bar
    · exact emits_of_argument argument
    · exact single .pipe bar
  | argListEnd | argBlank => exact emits_of_argument member
  | wordDot state point _ named =>
    rcases List.mem_cons.mp member with rfl | later
    · refine .word state fun mark => ?_
      rw [point, ahead_eq (Or.inl (by decide))] at mark
      exact absurd mark (by decide)
    · exact single (.dot named) later
  | wordReserved state _ reserved => exact single (.word state fun _ => reserved) member
  | wordEnd state unmarked => exact single (.word state fun mark => absurd mark unmarked) member
  | wordPath state mark => exact .path state mark member
  | numberRange state | numberEnd state => exact single (.number state) member
  | numberUnit state plain letter lower known =>
    subst lower
    exact single (.measured state plain known) member
  | _ => contradiction

/-- A token that a step reads is not one that it inserts. -/
theorem Emits.isSynthetic_eq (emits : Emits r c tail token) : token.isSynthetic = false := by
  have other (kind : token.kind ≠ .semicolon) : token.isSynthetic = false := by
    simp [Token.isSynthetic, kind]
  have verbatim {kind : Kind} (read : Verbatim kind []) : kind ≠ .semicolon := by
    intro terminator
    exact read.2.2 terminator rfl
  cases emits with
  | @operator kind length found =>
    have positive := operator?_pos found
    have nonempty : String.ofList ((c :: tail).take length) ≠ "" := by
      intro empty
      have none := List.take_eq_nil_iff.mp (String.ofList_eq_empty_iff.mp empty)
      rcases none with zero | nil
      · omega
      · contradiction
    simp [Token.isSynthetic, nonempty]
  | quotation => exact other (verbatim (verbatim_quotation r.context []))
  | word => exact other (verbatim (verbatim_wordKind r.context r.text []))
  | path _ _ part =>
    apply other
    have kinds : ∀ kind ∈ pathKinds, kind ≠ .semicolon := by decide
    exact kinds _ (kind_pathTokens token part)
  | @number hasPoint => exact other (verbatim (verbatim_numberKind r.context hasPoint []))
  | @measured hasPoint =>
    apply other
    cases hasPoint with
    | true => exact Kind.noConfusion
    | false => exact Kind.noConfusion
  | _ => exact other Kind.noConfusion

end Reader
end CommandScript.Lexer
