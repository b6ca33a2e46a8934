import CommandScript.Text.LowerCase

/-!
What lower case leaves alone. A text in lower case whose own lower case is in ASCII is that lower
case: no capital of ASCII is left in it, and of the characters beyond ASCII only the Kelvin sign is
written in ASCII in lower case, which is not left in it either.
-/
namespace CommandScript.Text

/-- The Kelvin sign, whose lower case is the letter k. -/
def kelvinSign : Char := '\u212A'

/-- Where the runs lead: beyond ASCII, save for the Kelvin sign, and never to that sign. -/
theorem caseRuns_lead : ∀ run ∈ caseRuns,
    (0x80 ≤ run.first + run.shift ∨
      run.first = kelvinSign.toNat ∧ run.last = kelvinSign.toNat ∧ run.first + run.shift = 'k'.toNat) ∧
    (run.last + run.shift < kelvinSign.toNat ∨ kelvinSign.toNat < run.first + run.shift) ∧
    (run.last + run.shift < 0xD800 ∨ 0xDFFF < run.first + run.shift ∧ run.last + run.shift < 0x110000) := by
  decide +kernel

/-- Neither a capital of ASCII nor the Kelvin sign. -/
def Settled (c : Char) : Prop := ¬('A'.toNat ≤ c.toNat ∧ c.toNat ≤ 'Z'.toNat) ∧ c.toNat ≠ kelvinSign.toNat

theorem toNat_ofNat {n : Nat} (valid : n < 0xD800 ∨ 0xDFFF < n ∧ n < 0x110000) : (Char.ofNat n).toNat = n := by
  have isValid : n.isValidChar := valid
  rw [Char.ofNat, dif_pos isValid]
  rfl

theorem covers_iff {run : CaseRun} {c : Char} : run.covers c = true ↔
    run.first ≤ c.toNat ∧ c.toNat ≤ run.last ∧ (c.toNat - run.first) % run.step = 0 := by
  simp [CaseRun.covers, and_assoc]

/-- A character in a run has its lower case as far on as the run says. -/
theorem toNat_shifted {run : CaseRun} {c : Char} (listed : run ∈ caseRuns) (covered : run.covers c = true) :
    ((Char.ofNat (c.toNat + run.shift).toNat).toNat : Int) = c.toNat + run.shift := by
  obtain ⟨lead, _, valid⟩ := caseRuns_lead run listed
  obtain ⟨low, high, _⟩ := covers_iff.mp covered
  rw [toNat_ofNat (by omega)]
  omega

/-- What a character is written as in lower case. -/
inductive Lowers (c : Char) : List Char → Prop
  | ascii (plain : c.toNat < 0x80) : Lowers c [c.toLower]
  | dotted (same : c = 'İ') : Lowers c ['i', '\u0307']
  | run {run : CaseRun} (listed : run ∈ caseRuns) (covered : run.covers c = true) :
    Lowers c [Char.ofNat (c.toNat + run.shift).toNat]
  | kept (beyond : 0x80 ≤ c.toNat) (uncovered : caseRuns.find? (·.covers c) = none) : Lowers c [c]

theorem lowers_lowerChar (c : Char) : Lowers c (lowerChar c) := by
  unfold lowerChar
  split
  · rename_i plain
    exact .ascii plain
  split
  · rename_i dotted
    exact .dotted dotted
  split
  · rename_i run found
    exact .run (List.mem_of_find?_eq_some found) (by simpa using List.find?_some found)
  · rename_i plain _ _ uncovered
    exact .kept (Nat.le_of_not_lt plain) uncovered

theorem toNat_toLower (c : Char) :
    c.toLower.toNat = if 'A'.toNat ≤ c.toNat ∧ c.toNat ≤ 'Z'.toNat then c.toNat + 32 else c.toNat := by
  have bounds : ('A'.val ≤ c.val ∧ c.val ≤ 'Z'.val) ↔ ('A'.toNat ≤ c.toNat ∧ c.toNat ≤ 'Z'.toNat) := by
    rw [UInt32.le_iff_toNat_le, UInt32.le_iff_toNat_le]
    rfl
  unfold Char.toLower
  by_cases capital : 'A'.toNat ≤ c.toNat ∧ c.toNat ≤ 'Z'.toNat
  · rw [dif_pos (bounds.mpr capital), if_pos capital]
    have added : (c.val + ('a'.val - 'A'.val)).toNat = (c.val.toNat + 32) % 2 ^ 32 := UInt32.toNat_add ..
    have small : c.val.toNat ≤ 90 := capital.2
    show (c.val + ('a'.val - 'A'.val)).toNat = c.val.toNat + 32
    omega
  · rw [dif_neg (mt bounds.mp capital), if_neg capital]

/-- The code points that bound what is settled. -/
theorem code_points : 'A'.toNat = 65 ∧ 'Z'.toNat = 90 ∧ 'k'.toNat = 107 ∧ kelvinSign.toNat = 0x212A :=
  ⟨rfl, rfl, rfl, rfl⟩

theorem settled_of_toNat {c : Char} {n : Nat} (code : c.toNat = n) (small : 90 < n) (other : n ≠ 0x212A) : Settled c := by
  have points := code_points
  unfold Settled
  omega

theorem settled_of_mem_lowerChar {c d : Char} (member : d ∈ lowerChar c) : Settled d := by
  have points := code_points
  have lowers := lowers_lowerChar c
  generalize lowerChar c = lower at member lowers
  cases lowers with
  | ascii plain =>
    obtain rfl := List.mem_singleton.mp member
    unfold Settled
    rw [toNat_toLower]
    split <;> omega
  | dotted =>
    rcases List.mem_cons.mp member with rfl | dot
    · exact settled_of_toNat (rfl : _ = 105) (by omega) (by omega)
    · obtain rfl := List.mem_singleton.mp dot
      exact settled_of_toNat (rfl : _ = 0x307) (by omega) (by omega)
  | run listed covered =>
    obtain rfl := List.mem_singleton.mp member
    obtain ⟨plain, other, _⟩ := caseRuns_lead _ listed
    obtain ⟨low, high, _⟩ := covers_iff.mp covered
    have shifted := toNat_shifted listed covered
    unfold Settled
    omega
  | kept beyond uncovered =>
    obtain rfl := List.mem_singleton.mp member
    refine ⟨by omega, ?_⟩
    intro kelvin
    have same : d = kelvinSign := Char.toNat_inj.mp kelvin
    rw [same] at uncovered
    revert uncovered
    decide +kernel

/-- A settled character whose lower case is in ASCII is that lower case. -/
theorem lowerChar_eq_self {c : Char} (settled : Settled c) (plain : ∀ d ∈ lowerChar c, d.toNat < 0x80) :
    lowerChar c = [c] := by
  have points := code_points
  obtain ⟨small, other⟩ := settled
  have lowers := lowers_lowerChar c
  generalize lowerChar c = lower at plain lowers
  cases lowers with
  | ascii =>
    have same : c.toLower = c := Char.toNat_inj.mp (by rw [toNat_toLower, if_neg small])
    rw [same]
  | dotted =>
    have ascii := plain '\u0307' (List.mem_cons_of_mem _ (List.mem_cons_self ..))
    have beyond : '\u0307'.toNat = 0x307 := rfl
    omega
  | run listed covered =>
    have ascii := plain _ (List.mem_singleton_self _)
    obtain ⟨lead, _⟩ := caseRuns_lead _ listed
    obtain ⟨low, high, _⟩ := covers_iff.mp covered
    have shifted := toNat_shifted listed covered
    omega
  | kept => rfl

/-! ## Texts -/

theorem settled_of_mem_lowerAfter {before chars : List Char} {d : Char} (member : d ∈ lowerAfter before chars) :
    Settled d := by
  induction chars generalizing before with
  | nil => contradiction
  | cons c chars ih =>
    rcases List.mem_append.mp member with here | later
    · split at here
      · obtain rfl := List.mem_singleton.mp here
        split
        · exact settled_of_toNat (rfl : _ = 0x3C2) (by omega) (by omega)
        · exact settled_of_toNat (rfl : _ = 0x3C3) (by omega) (by omega)
      · exact settled_of_mem_lowerChar here
    · exact ih later

/-- Settled characters whose lower case is in ASCII are their own lower case. -/
theorem lowerAfter_eq_self {before chars : List Char} (settled : ∀ c ∈ chars, Settled c)
    (plain : ∀ d ∈ lowerAfter before chars, d.toNat < 0x80) : lowerAfter before chars = chars := by
  induction chars generalizing before with
  | nil => rfl
  | cons c chars ih =>
    rw [lowerAfter] at plain ⊢
    have here := fun d member => plain d (List.mem_append_left _ member)
    have later := fun d member => plain d (List.mem_append_right _ member)
    have single : c ≠ 'Σ' := by
      rintro rfl
      rw [if_pos rfl] at here
      have ascii := here _ (List.mem_singleton_self _)
      have sigmas : 'ς'.toNat = 0x3C2 ∧ 'σ'.toNat = 0x3C3 := ⟨rfl, rfl⟩
      revert ascii
      split <;> omega
    rw [if_neg single] at here ⊢
    rw [lowerChar_eq_self (settled c (List.mem_cons_self ..)) here,
      ih (fun d member => settled d (List.mem_cons_of_mem _ member)) later]
    rfl

/-- Lower case is its own lower case, if that is in ASCII. -/
theorem lowerCase_lowerCase {text : String} (plain : ∀ c ∈ (lowerCase (lowerCase text)).toList, c.toNat < 0x80) :
    lowerCase (lowerCase text) = lowerCase text := by
  apply String.toList_injective
  simp only [lowerCase, String.toList_ofList] at plain ⊢
  exact lowerAfter_eq_self (fun c member => settled_of_mem_lowerAfter member) plain

end CommandScript.Text
