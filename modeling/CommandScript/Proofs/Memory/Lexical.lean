import CommandScript.Proofs.Memory.Run

/-!
Scopes are lexical. Levels are counted from the global scope, which is at level 0, so that a scope keeps
its level as long as it is there. Only a reassignment writes to a scope that is not the innermost one,
and only if no scope further inside binds its name (`Step.scopeAt?_eq`). So a block leaves the scopes
around it as they were, but for what its reassignments wrote there, in their order (`scopeAt?_after`).
-/
namespace CommandScript

namespace Scope

/-- The names that a scope binds, in the order in which they were first bound. -/
def names (scope : Scope) : List String := scope.bindings.map (·.1)

/-- Binds a name to another reference if it is bound at all. -/
def rewrite (scope : Scope) (name : String) (id : RefId) : Scope :=
  if scope.contains name then scope.store name id else scope

/-- Several names bound to other references, one after the other. -/
def rewriteAll (scope : Scope) (writes : List (String × RefId)) : Scope :=
  writes.foldl (fun scope write => scope.rewrite write.1 write.2) scope

theorem names_rewrite (scope : Scope) (name : String) (id : RefId) : (scope.rewrite name id).names = scope.names := by
  unfold rewrite
  by_cases bound : scope.contains name
  · rw [if_pos bound]
    exact Entries.keys_put_of_lookup (by simpa [contains, get?] using bound)
  · rw [if_neg bound]

theorem names_rewriteAll (scope : Scope) (writes : List (String × RefId)) :
    (scope.rewriteAll writes).names = scope.names := by
  induction writes generalizing scope with
  | nil => rfl
  | cons write rest ih => exact (ih _).trans (names_rewrite ..)

theorem get?_rewrite_of_ne (scope : Scope) {name other : String} (different : other ≠ name) (id : RefId) :
    (scope.rewrite name id).get? other = scope.get? other := by
  unfold rewrite
  by_cases bound : scope.contains name
  · rw [if_pos bound, get?_store, if_neg different]
  · rw [if_neg bound]

theorem rewriteAll_append (scope : Scope) (earlier later : List (String × RefId)) :
    scope.rewriteAll (earlier ++ later) = (scope.rewriteAll earlier).rewriteAll later := List.foldl_append ..

/-- A name that is not written stays bound to what it was bound to. -/
theorem get?_rewriteAll (scope : Scope) {writes : List (String × RefId)} {name : String}
    (unwritten : ∀ id, (name, id) ∉ writes) : (scope.rewriteAll writes).get? name = scope.get? name := by
  induction writes generalizing scope with
  | nil => rfl
  | cons write rest ih =>
    have later : ∀ id, (name, id) ∉ rest := by
      intro id member
      exact unwritten id (List.mem_cons_of_mem _ member)
    have different : name ≠ write.1 := by
      intro same
      exact unwritten write.2 (same ▸ List.mem_cons_self ..)
    exact (ih _ later).trans (get?_rewrite_of_ne scope different write.2)

end Scope

/-- A request to leave the innermost scope. -/
def Request.leaves {α : Type} : Request α → Bool
  | .pop _ | .popDefault => true
  | _ => false

namespace Memory
variable {α : Type} {memory next : Memory α} {request : Request α} {reply : Reply α} {level : Nat}

/-! ## Levels -/

/-- The scope at a level. -/
def scopeAt? (memory : Memory α) (level : Nat) : Option Scope := memory.scopes.reverse[level]?

/-- The scopes further inside than the one at a level, innermost first. -/
def inside (memory : Memory α) (level : Nat) : List Scope := memory.scopes.take (memory.depth - (level + 1))

theorem getElem?_reverse_cons (scope : Scope) (outer : List Scope) :
    (scope :: outer).reverse[level]? = if level = outer.length then some scope else outer.reverse[level]? := by
  rw [List.reverse_cons, List.getElem?_append, List.length_reverse]
  by_cases within : level < outer.length
  · rw [if_pos within, if_neg (Nat.ne_of_lt within)]
  · rw [if_neg within]
    by_cases last : level = outer.length
    · simp [last]
    · rw [if_neg last]
      have beyond : level - outer.length ≠ 0 := by omega
      simp [beyond]
      omega

/-- The innermost scope hides none of the others. -/
theorem getElem?_reverse_of_lt {outer : List Scope} (within : level < outer.length) (scope : Scope) :
    (scope :: outer).reverse[level]? = outer.reverse[level]? := by
  rw [getElem?_reverse_cons, if_neg (Nat.ne_of_lt within)]

/-- Memories with as many scopes, in which the scopes at equal levels agree on `f`, agree on it throughout. -/
theorem map_scopes_eq {β : Type} {f : Scope → β} {left right : Memory α} (depth : left.depth = right.depth)
    (same : ∀ level < right.depth, (left.scopeAt? level).map f = (right.scopeAt? level).map f) :
    left.scopes.map f = right.scopes.map f := by
  apply List.reverse_inj.mp
  apply List.ext_getElem?
  intro level
  rw [← List.map_reverse, ← List.map_reverse, List.getElem?_map, List.getElem?_map]
  by_cases within : level < right.depth
  · exact same level within
  · have beyond : left.scopes.length ≤ level ∧ right.scopes.length ≤ level := by
      simp only [Memory.depth] at depth within
      omega
    rw [List.getElem?_eq_none (by simpa using beyond.1), List.getElem?_eq_none (by simpa using beyond.2)]

/-! ## One step -/

/-- What a request that is answered so writes to the scope at a level, unless that is the innermost one:
    the name and the reference of a reassignment, if no scope further inside binds the name. -/
def write? (memory : Memory α) (level : Nat) : Request α → Reply α → Option (String × RefId)
  | .reassign name _ _, .reference id =>
    if (memory.inside level).any (·.contains name) then none else some (name, id)
  | _, _ => none

theorem write?_eq_some_iff {name : String} {id : RefId} : memory.write? level request reply = some (name, id) ↔
    (∃ value deps, request = .reassign name value deps) ∧ reply = .reference id ∧
      ∀ scope ∈ memory.inside level, scope.contains name = false := by
  constructor
  · intro written
    unfold write? at written
    split at written
    · rename_i assigned value deps given
      by_cases shadowed : (memory.inside level).any (·.contains assigned)
      · rw [if_pos shadowed] at written
        contradiction
      · rw [if_neg shadowed] at written
        cases written
        refine ⟨⟨value, deps, rfl⟩, rfl, ?_⟩
        intro scope member
        have visible := List.any_eq_false.mp (eq_false_of_ne_true shadowed) scope member
        exact eq_false_of_ne_true visible
    · contradiction
  · rintro ⟨⟨value, deps, rfl⟩, rfl, visible⟩
    have shadowed : ¬ (memory.inside level).any (·.contains name) := by
      rw [List.any_eq_true]
      rintro ⟨scope, member, bound⟩
      rw [visible scope member] at bound
      contradiction
    exact if_neg shadowed

theorem length_rebind (name : String) (id : RefId) (scopes : List Scope) :
    (rebind name id scopes).length = scopes.length := by
  induction scopes with
  | nil => rfl
  | cons scope outer ih =>
    rw [rebind]
    split
    · rfl
    · rw [List.length_cons, List.length_cons, ih]

/-- A name is rebound in the scope at a level if that scope binds it and none further inside does. -/
theorem getElem?_rebind (name : String) (id : RefId) {scopes : List Scope} (within : level < scopes.length) :
    (rebind name id scopes).reverse[level]? = scopes.reverse[level]?.map fun scope =>
      if (scopes.take (scopes.length - (level + 1))).any (·.contains name) then scope
      else scope.rewrite name id := by
  induction scopes with
  | nil => contradiction
  | cons scope outer ih =>
    rw [rebind]
    by_cases here : level = outer.length
    · have none : (outer.length + 1) - (level + 1) = 0 := by omega
      rw [getElem?_reverse_cons scope, if_pos here, List.length_cons, none]
      by_cases bound : scope.contains name
      · rw [if_pos bound, getElem?_reverse_cons, if_pos here]
        simp [Scope.rewrite, bound]
      · rw [if_neg bound, getElem?_reverse_cons, if_pos (here.trans (length_rebind ..).symm)]
        simp [Scope.rewrite, bound]
    · have further : level < outer.length := by
        rw [List.length_cons] at within
        omega
      have one : (outer.length + 1) - (level + 1) = (outer.length - (level + 1)) + 1 := by omega
      rw [getElem?_reverse_of_lt further scope, List.length_cons, one, List.take_succ_cons, List.any_cons]
      by_cases bound : scope.contains name
      · rw [if_pos bound, getElem?_reverse_of_lt further]
        simp [bound]
      · rw [if_neg bound, getElem?_reverse_of_lt (length_rebind name id outer ▸ further), ih further]
        simp [bound]

theorem getElem?_bindInnermost {name : String} {id : RefId} {scopes bound : List Scope}
    (done : bindInnermost name id scopes = .ok bound) (enclosed : level + 1 < scopes.length) :
    bound.reverse[level]? = scopes.reverse[level]? := by
  cases scopes with
  | nil => contradiction
  | cons scope outer =>
    cases done
    have within : level < outer.length := Nat.lt_of_succ_lt_succ enclosed
    rw [getElem?_reverse_of_lt within, getElem?_reverse_of_lt within]

theorem getElem?_bindNamed {name : Option String} {id : RefId} {scopes bound : List Scope}
    (done : bindNamed name id scopes = .ok bound) (enclosed : level + 1 < scopes.length) :
    bound.reverse[level]? = scopes.reverse[level]? := by
  cases name with
  | none =>
    cases done
    rfl
  | some name => exact getElem?_bindInnermost done enclosed

theorem scopes_outside (collecting : Bool) (scopes : List Scope) :
    (memory.outside collecting scopes).scopes = scopes := by
  cases collecting with
  | false => rfl
  | true => rfl

theorem scopeAt?_outside {innermost : Scope} {outer : List Scope} (scopes : memory.scopes = innermost :: outer)
    (enclosed : level + 1 < memory.depth) (collecting : Bool) :
    (memory.outside collecting outer).scopeAt? level = memory.scopeAt? level := by
  have within : level < outer.length := by
    rw [depth, scopes] at enclosed
    exact Nat.lt_of_succ_lt_succ enclosed
  rw [scopeAt?, scopeAt?, scopes_outside, scopes, getElem?_reverse_of_lt within]

theorem map_rewriteAll_nil (found : Option Scope) : found.map (·.rewriteAll []) = found := by
  cases found with
  | none => rfl
  | some scope => rfl

/-- A reassignment rebinds the name where no scope further inside binds it, if it is bound there. -/
theorem scopeAt?_reassigned (name : String) (value : α) (deps : RefSet) (within : level < memory.depth) :
    (rebind name memory.nextId memory.scopes).reverse[level]? = (memory.scopeAt? level).map
      (·.rewriteAll (memory.write? level (.reassign name value deps) (.reference memory.nextId)).toList) := by
  rw [getElem?_rebind name memory.nextId within, scopeAt?, write?, inside, depth]
  by_cases shadowed : (memory.scopes.take (memory.scopes.length - (level + 1))).any (·.contains name)
  · simp only [shadowed, if_true]
    rfl
  · simp only [shadowed, Bool.false_eq_true, if_false]
    rfl

/-- A step changes a scope that is not the innermost one only by what it writes there. -/
theorem Step.scopeAt?_eq [Traced α] (step : memory.Step request reply next) (enclosed : level + 1 < memory.depth) :
    next.scopeAt? level =
      (memory.scopeAt? level).map (·.rewriteAll (memory.write? level request reply).toList) := by
  have untouched (same : next.scopeAt? level = memory.scopeAt? level) :
      next.scopeAt? level = (memory.scopeAt? level).map (·.rewriteAll []) :=
    same.trans (map_rewriteAll_nil _).symm
  cases step with
  | allocate bound | allocateTraced bound => exact untouched (getElem?_bindNamed bound enclosed)
  | bind _ bound => exact untouched (getElem?_bindInnermost bound enclosed)
  | reassign => exact scopeAt?_reassigned _ _ _ (Nat.lt_of_succ_lt enclosed)
  | push => exact untouched (getElem?_reverse_of_lt (Nat.lt_of_succ_lt enclosed) _)
  | pop scopes | popDefault scopes => exact untouched (scopeAt?_outside scopes enclosed _)
  | addDependency | collect | free => exact untouched rfl
  | told asks =>
    cases request with
    | resolve | get | getByName | inspect | isLive | collectsOnPop => exact untouched rfl
    | _ => contradiction
  | failed fault =>
    cases fault with
    | _ => exact untouched rfl

/-! ## Many steps -/

section
variable [Traced α] {outer : Nat} {name : String} {requests : List (Request α)}

/-- What several requests write to the scope at a level as long as it is not the innermost one, in order. -/
def writes (memory : Memory α) (level : Nat) : List (Request α) → List (String × RefId)
  | [] => []
  | request :: rest =>
    let (reply, next) := memory.perform request
    (memory.write? level request reply).toList ++ next.writes level rest

/-- More scopes than so many are there before each of the requests, and after the last one. -/
def StaysInside (memory : Memory α) (outer : Nat) : List (Request α) → Prop
  | [] => outer < memory.depth
  | request :: rest => outer < memory.depth ∧ (memory.perform request).2.StaysInside outer rest

instance StaysInside.decidable (outer : Nat) :
    (memory : Memory α) → (requests : List (Request α)) → Decidable (memory.StaysInside outer requests)
  | memory, [] => inferInstanceAs (Decidable (outer < memory.depth))
  | memory, request :: rest =>
    have := decidable outer (memory.perform request).2 rest
    inferInstanceAs (Decidable (outer < memory.depth ∧ (memory.perform request).2.StaysInside outer rest))

/-- As long as a scope is not the innermost one, it changes only by what is written to it. -/
theorem scopeAt?_after (stays : memory.StaysInside outer requests) (within : level < outer) :
    (memory.after requests).scopeAt? level =
      (memory.scopeAt? level).map (·.rewriteAll (memory.writes level requests)) := by
  induction requests generalizing memory with
  | nil => exact (map_rewriteAll_nil _).symm
  | cons request rest ih =>
    have enclosed : level + 1 < memory.depth := Nat.lt_of_le_of_lt within stays.1
    have step := (memory.perform_step request).scopeAt?_eq enclosed
    rw [after_cons, ih stays.2, step, Option.map_map]
    congr 1
    funext scope
    exact (Scope.rewriteAll_append ..).symm

/-- A name was reassigned somewhere among the requests while no scope further inside than the one at a
    level bound it. -/
def Reassigned (memory : Memory α) (level : Nat) (name : String) (requests : List (Request α)) : Prop :=
  ∃ earlier value deps later id, requests = earlier ++ .reassign name value deps :: later ∧
    ((memory.after earlier).perform (.reassign name value deps)).1 = .reference id ∧
    ∀ scope ∈ (memory.after earlier).inside level, scope.contains name = false

/-- Whatever is written under a name is written by a reassignment of it that nothing further inside hides. -/
theorem reassigned_iff : memory.Reassigned level name requests ↔ ∃ id, (name, id) ∈ memory.writes level requests := by
  induction requests generalizing memory with
  | nil =>
    constructor
    · rintro ⟨earlier, value, deps, later, id, parts, _⟩
      simp at parts
    · rintro ⟨id, written⟩
      contradiction
  | cons request rest ih =>
    constructor
    · rintro ⟨earlier, value, deps, later, id, parts, answered, visible⟩
      cases earlier with
      | nil =>
        cases parts
        have now := write?_eq_some_iff.mpr ⟨⟨value, deps, rfl⟩, answered, visible⟩
        exact ⟨id, List.mem_append_left _ (Option.mem_toList.mpr now)⟩
      | cons first earlier =>
        cases parts
        obtain ⟨id, written⟩ := ih.mp ⟨earlier, value, deps, later, id, rfl, answered, visible⟩
        exact ⟨id, List.mem_append_right _ written⟩
    · rintro ⟨id, written⟩
      rcases List.mem_append.mp written with now | afterwards
      · obtain ⟨⟨value, deps, rfl⟩, answered, visible⟩ := write?_eq_some_iff.mp (Option.mem_toList.mp now)
        exact ⟨[], value, deps, rest, id, rfl, answered, visible⟩
      · obtain ⟨earlier, value, deps, later, given, rfl, answered, visible⟩ := ih.mpr ⟨id, afterwards⟩
        exact ⟨request :: earlier, value, deps, later, given, rfl, answered, visible⟩

end

/-! ## Blocks -/

section
variable [Traced α] {requests : List (Request α)} {leave : Request α} {name : String}

/-- The requests within a block, and the one that leaves it: behind the push of its scope, that scope
    stays until it is the innermost one again, and is left. -/
structure Block (memory : Memory α) (requests : List (Request α)) (leave : Request α) : Prop where
  stays : memory.push.StaysInside memory.depth requests
  ends : (memory.push.after requests).depth = memory.depth + 1
  leaves : leave.leaves

/-- The scopes that are there behind a block. -/
theorem Step.of_leaves (step : memory.Step request reply next) (leaves : request.leaves) {innermost : Scope}
    {outer : List Scope} (scopes : memory.scopes = innermost :: outer) : reply = .done ∧ next.scopes = outer := by
  cases step with
  | pop left | popDefault left =>
    rw [scopes] at left
    cases left
    exact ⟨rfl, scopes_outside ..⟩
  | told asks =>
    cases request with
    | pop | popDefault => contradiction
    | _ => contradiction
  | failed fault =>
    cases fault with
    | pop none | popDefault none =>
      rw [scopes] at none
      contradiction
    | _ => contradiction
  | _ => contradiction

/-- Leaving the scope of a block leaves the scopes around it. -/
theorem Block.left (block : memory.Block requests leave) :
    ((memory.push.after requests).perform leave).1 = .done ∧
      (memory.after (.push :: requests ++ [leave])).depth = memory.depth ∧
      ∀ level < memory.depth, (memory.after (.push :: requests ++ [leave])).scopeAt? level =
        (memory.scopeAt? level).map (·.rewriteAll (memory.push.writes level requests)) := by
  have behind : memory.after (.push :: requests ++ [leave]) = ((memory.push.after requests).perform leave).2 :=
    after_append memory.push requests [leave]
  cases scopes : (memory.push.after requests).scopes with
  | nil =>
    have ends := block.ends
    rw [depth, scopes] at ends
    contradiction
  | cons innermost outer =>
    obtain ⟨answered, rest⟩ := (perform_step _ leave).of_leaves block.leaves scopes
    have enough : outer.length = memory.depth := by
      have ends := block.ends
      rw [depth, scopes] at ends
      exact Nat.succ.inj ends
    refine ⟨answered, ?_, ?_⟩
    · rw [behind, depth, rest, enough]
    · intro level within
      have inside : (memory.push.after requests).scopeAt? level = outer.reverse[level]? := by
        rw [scopeAt?, scopes, getElem?_reverse_of_lt (enough ▸ within)]
      have pushed : memory.push.scopeAt? level = memory.scopeAt? level := getElem?_reverse_of_lt within {}
      rw [behind, scopeAt?, rest, ← inside, scopeAt?_after block.stays within, pushed]

/-- Scopes are lexical: leaving a block succeeds and leaves the scopes around it, which bind the same
    names in the same order. A scope around it binds a name to something else only if the name was
    reassigned in the block while no scope further inside bound it. Without such a reassignment, the name
    is bound to what it was bound to before, if to anything. -/
theorem block_lexical (block : memory.Block requests leave) :
    ((memory.push.after requests).perform leave).1 = .done ∧
      (memory.after (.push :: requests ++ [leave])).scopes.map Scope.names = memory.scopes.map Scope.names ∧
      (∀ level < memory.depth, ∀ name,
        ((memory.after (.push :: requests ++ [leave])).scopeAt? level).map (·.get? name) ≠
            (memory.scopeAt? level).map (·.get? name) →
          memory.push.Reassigned level name requests) ∧
      ∀ name, (∀ level < memory.depth, ¬ memory.push.Reassigned level name requests) →
        (memory.after (.push :: requests ++ [leave])).resolve name = memory.resolve name := by
  obtain ⟨answered, depth, scopes⟩ := block.left
  have kept (level : Nat) (within : level < memory.depth) (name : String)
      (unassigned : ¬ memory.push.Reassigned level name requests) :
      ((memory.after (.push :: requests ++ [leave])).scopeAt? level).map (·.get? name) =
        (memory.scopeAt? level).map (·.get? name) := by
    have unwritten (id : RefId) : (name, id) ∉ memory.push.writes level requests := by
      intro written
      exact unassigned (reassigned_iff.mpr ⟨id, written⟩)
    rw [scopes level within, Option.map_map]
    congr 1
    funext scope
    exact Scope.get?_rewriteAll scope unwritten
  refine ⟨answered, ?_, ?_, ?_⟩
  · apply map_scopes_eq depth
    intro level within
    rw [scopes level within, Option.map_map]
    congr 1
    funext scope
    exact Scope.names_rewriteAll ..
  · intro level within name different
    apply Classical.byContradiction
    intro unassigned
    exact different (kept level within name unassigned)
  · intro name unassigned
    have same := map_scopes_eq depth fun level within => kept level within name (unassigned level within)
    have found : (memory.after (.push :: requests ++ [leave])).binding? name = memory.binding? name := by
      have first (scopes : List Scope) :
          scopes.findSome? (·.get? name) = (scopes.map (·.get? name)).findSome? id := by
        rw [List.findSome?_map]
        rfl
      rw [binding?, binding?, first, first, same]
    rw [resolve, resolve, found]

/-- Two scopes, the outer of which binds `a` and `b`, and the inner one `b`. -/
def twoScopes : Memory Value :=
  ({} : Memory Value).after [.allocate (.int 1) ⟨some "a", .empty, false⟩, .allocate (.int 2) ⟨some "b", .empty, false⟩,
    .push, .allocate (.int 3) ⟨some "b", .empty, false⟩]

/-- Shadows `b`, and assigns to both names from a scope yet further inside. -/
def assignments : List (Request Value) :=
  [.allocate (.int 4) ⟨some "b", .empty, false⟩, .push, .reassign "a" (.int 5) .empty,
    .reassign "b" (.int 6) .empty, .pop true]

theorem block_lexical_assignments :
    twoScopes.Block assignments .popDefault ∧
      (twoScopes.after (.push :: assignments ++ [.popDefault])).scopes.map Scope.names = [["b"], ["a", "b"]] ∧
      twoScopes.push.Reassigned 0 "a" assignments ∧
      (twoScopes.after (.push :: assignments ++ [.popDefault])).resolve "b" = twoScopes.resolve "b" := by
  have block : twoScopes.Block assignments .popDefault := ⟨by decide, rfl, rfl⟩
  obtain ⟨_, names, changed, kept⟩ := block_lexical block
  refine ⟨block, names.trans rfl, changed 0 (by decide) "a" (by decide), kept "b" ?_⟩
  intro level within reassigned
  obtain ⟨id, written⟩ := reassigned_iff.mp reassigned
  match level, within with
  | 0, _ => simp [show twoScopes.push.writes 0 assignments = [("a", 4)] from rfl] at written
  | 1, _ => simp [show twoScopes.push.writes 1 assignments = [("a", 4)] from rfl] at written

end
end Memory
end CommandScript
