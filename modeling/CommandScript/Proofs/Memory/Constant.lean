import CommandScript.Proofs.Memory.Closure
import CommandScript.Proofs.Memory.Issue
import CommandScript.Proofs.Memory.Lexical

/-!
Constants stay constant. A scope that binds a name to a constant binds it so until the scope is left, or
until an allocation or a bind gives the name something else in this very scope. The only other request
that writes to a scope is a reassignment; one that reaches the binding fails (`HoldsConstant.rejects`), and
one that finds the name further inside writes there. The instance stays because the name does, whatever
is collected meanwhile (`Step.isLive_of_named`).
-/
namespace CommandScript
variable {α : Type}

/-- The name that a request which is answered so binds in the innermost scope, and what it binds it to. -/
def Request.binds? : Request α → Reply α → Option (String × RefId)
  | .allocate _ options, .reference id => options.name.map (·, id)
  | .allocateTraced _ options, .reference id => options.name.map (·, id)
  | .bind name id, .done => some (name, id)
  | _, _ => none

namespace Memory
variable {memory next : Memory α} {request : Request α} {reply : Reply α} {level : Nat} {name : String} {id : RefId}
  {value : α}

/-- The reference that the scope at a level binds a name to. -/
def bindingAt? (memory : Memory α) (level : Nat) (name : String) : Option RefId :=
  (memory.scopeAt? level).bind (·.get? name)

/-- The scope at a level binds the name to a constant, which is live and has this value. -/
structure HoldsConstant (memory : Memory α) (level : Nat) (name : String) (id : RefId) (value : α) : Prop where
  bound : memory.bindingAt? level name = some id
  live : ∃ found, memory.instance? id = some found ∧ found.value = value ∧ found.constant = true

/-! ## What a scope binds a name to -/

theorem bindingAt?_eq_some_iff : memory.bindingAt? level name = some id ↔
    ∃ scope, memory.scopeAt? level = some scope ∧ scope.get? name = some id :=
  Option.bind_eq_some_iff

theorem lt_depth_of_bindingAt? (bound : memory.bindingAt? level name = some id) : level < memory.depth := by
  obtain ⟨scope, here, _⟩ := bindingAt?_eq_some_iff.mp bound
  obtain ⟨within, _⟩ := List.getElem?_eq_some_iff.mp here
  rwa [List.length_reverse] at within

theorem names_of_bindingAt? (bound : memory.bindingAt? level name = some id) : Names memory.scopes id := by
  obtain ⟨scope, here, binds⟩ := bindingAt?_eq_some_iff.mp bound
  exact ⟨scope, List.mem_reverse.mp (List.mem_of_getElem? here), name, Scope.mem_of_get? binds⟩

/-- With no scope further inside that binds a name, it is found in the scope at a level. -/
theorem findSome?_of_visible {scopes : List Scope} {scope : Scope} (here : scopes.reverse[level]? = some scope)
    (binds : scope.get? name = some id)
    (visible : ∀ inner ∈ scopes.take (scopes.length - (level + 1)), inner.contains name = false) :
    scopes.findSome? (·.get? name) = some id := by
  induction scopes with
  | nil => contradiction
  | cons innermost outer ih =>
    rw [getElem?_reverse_cons] at here
    rw [List.findSome?_cons]
    by_cases last : level = outer.length
    · rw [if_pos last] at here
      obtain rfl := Option.some.inj here
      rw [binds]
    · rw [if_neg last] at here
      have further : level < outer.length := by
        obtain ⟨within, _⟩ := List.getElem?_eq_some_iff.mp here
        rwa [List.length_reverse] at within
      have one : (outer.length + 1) - (level + 1) = (outer.length - (level + 1)) + 1 := by omega
      rw [List.length_cons, one, List.take_succ_cons] at visible
      have hidden : innermost.get? name = none := by
        have unbound := visible innermost (List.mem_cons_self ..)
        exact Option.not_isSome_iff_eq_none.mp (Bool.eq_false_iff.mp unbound)
      rw [hidden]
      exact ih here fun inner member => visible inner (List.mem_cons_of_mem _ member)

theorem resolve_of_visible (bound : memory.bindingAt? level name = some id)
    (visible : ∀ scope ∈ memory.inside level, scope.contains name = false) : memory.resolve name = .ok id := by
  obtain ⟨scope, here, binds⟩ := bindingAt?_eq_some_iff.mp bound
  have found : memory.binding? name = some id := findSome?_of_visible here binds visible
  rw [resolve, found]

/-! ## One step -/

theorem get?_bindInnermost {other : String} {given : RefId} {scopes bound : List Scope}
    (done : bindInnermost other given scopes = .ok bound) (apart : scopes.length = level + 1 → other ≠ name) :
    (bound.reverse[level]?).bind (·.get? name) = (scopes.reverse[level]?).bind (·.get? name) := by
  cases scopes with
  | nil => contradiction
  | cons innermost outer =>
    cases done
    rw [getElem?_reverse_cons, getElem?_reverse_cons]
    by_cases last : level = outer.length
    · have different : name ≠ other := (apart (congrArg (· + 1) last.symm)).symm
      simp [last, Scope.get?_store, different]
    · simp [last]

section
variable [Traced α]

/-- A scope that stays binds a name to what it did before, unless the name is bound in it, or is
    reassigned while no scope further inside binds it. -/
theorem Step.bindingAt?_eq (step : memory.Step request reply next) (here : level < memory.depth)
    (stays : level < next.depth)
    (unbound : memory.depth = level + 1 → (request.binds? reply).map (·.1) ≠ some name)
    (unwritten : ∀ id, memory.write? level request reply ≠ some (name, id)) :
    next.bindingAt? level name = memory.bindingAt? level name := by
  have named {given : Option String} {id : RefId} {scopes : List Scope}
      (done : bindNamed given id memory.scopes = .ok scopes)
      (apart : memory.depth = level + 1 → given ≠ some name) :
      (scopes.reverse[level]?).bind (·.get? name) = memory.bindingAt? level name := by
    cases given with
    | none =>
      cases done
      rfl
    | some other => exact get?_bindInnermost done fun innermost same => apart innermost (congrArg some same)
  have outside {innermost : Scope} {outer : List Scope} (scopes : memory.scopes = innermost :: outer)
      (collecting : Bool) (stays : level < (memory.outside collecting outer).depth) :
      (memory.outside collecting outer).bindingAt? level name = memory.bindingAt? level name := by
    rw [depth, scopes_outside] at stays
    have enclosed : level + 1 < memory.depth := by
      rw [depth, scopes, List.length_cons]
      exact Nat.succ_lt_succ stays
    rw [bindingAt?, scopeAt?_outside scopes enclosed, bindingAt?]
  cases step with
  | allocate done | allocateTraced done =>
    refine named done fun innermost same => unbound innermost ?_
    simp [Request.binds?, same]
  | @bind other given _ _ _ done =>
    refine get?_bindInnermost done fun innermost same => unbound innermost ?_
    simp [Request.binds?, same]
  | @reassign other given deps =>
    have written := scopeAt?_reassigned other given deps here
    have kept (scope : Scope) : (scope.rewriteAll
        (memory.write? level (.reassign other given deps) (.reference memory.nextId)).toList).get? name =
          scope.get? name := by
      refine Scope.get?_rewriteAll scope fun id member => unwritten id ?_
      exact Option.mem_toList.mp member
    calc (((rebind other memory.nextId memory.scopes).reverse[level]?).bind (·.get? name))
        = (memory.scopeAt? level).bind fun scope => (scope.rewriteAll
            (memory.write? level (.reassign other given deps) (.reference memory.nextId)).toList).get? name := by
          rw [written, Option.bind_map]
          rfl
      _ = memory.bindingAt? level name := by
          simp only [kept]
          rfl
  | push =>
    have same : memory.push.scopeAt? level = memory.scopeAt? level := getElem?_reverse_of_lt here {}
    rw [bindingAt?, same, bindingAt?]
  | pop scopes | popDefault scopes => exact outside scopes _ stays
  | addDependency | collect | free | told | failed => rfl

/-- What is live stays so while a name leads to it, unless it is freed outright. -/
theorem Step.isLive_of_named (step : memory.Step request reply next) (live : memory.isLive id)
    (unfreed : request ≠ .free id) (named : Names next.scopes id) : next.isLive id := by
  have outside (collecting : Bool) (scopes : List Scope)
      (named : Names (memory.outside collecting scopes).scopes id) :
      (memory.outside collecting scopes).isLive id := by
    rw [scopes_outside] at named
    cases collecting with
    | false => exact live
    | true => exact isLive_collect.mpr ⟨.named named, live⟩
  cases step with
  | allocate | allocateTraced | reassign => exact isLive_add.mpr (Or.inl live)
  | addDependency => exact isLive_depend.mpr live
  | pop | popDefault => exact outside _ _ named
  | collect => exact isLive_collect.mpr ⟨.named named, live⟩
  | @free freed =>
    have other : id ≠ freed := by
      rintro rfl
      exact unfreed rfl
    have kept : (without freed memory.instances).lookup id = memory.instance? id :=
      (lookup_without freed id memory.instances).trans (if_neg other)
    rwa [isLive, instance?, kept]
  | bind | push | told | failed => exact live

/-! ## A constant -/

variable (holds : memory.HoldsConstant level name id value)
include holds

/-- A constant cannot be reassigned where its name leads to it. -/
theorem HoldsConstant.rejects (visible : ∀ scope ∈ memory.inside level, scope.contains name = false) (given : α)
    (deps : RefSet) :
    memory.perform (.reassign name given deps) = (.failed (.constReassignment name id), memory) := by
  have resolved := resolve_of_visible holds.bound visible
  obtain ⟨found, live, _, constant⟩ := holds.live
  have refused : memory.reassign name given deps = .error (.constReassignment name id) := by
    rw [reassign, resolved]
    exact if_pos (by rw [live]; exact constant)
  rw [perform_eq_transact, transact, refused]
  rfl

/-- So no reassignment writes to the scope of a constant under its name. -/
theorem HoldsConstant.unwritten (given : α) (deps : RefSet) (other : RefId)
    (answered : (memory.perform (.reassign name given deps)).1 = .reference other) :
    ¬ ∀ scope ∈ memory.inside level, scope.contains name = false := by
  intro visible
  rw [holds.rejects visible] at answered
  contradiction

/-- One request leaves a constant as it is, unless it frees it, leaves its scope or binds its name there. -/
theorem HoldsConstant.performed (bounded : memory.Bounded) (unfreed : request ≠ .free id)
    (stays : level < (memory.perform request).2.depth)
    (unbound : memory.depth = level + 1 → (request.binds? (memory.perform request).1).map (·.1) ≠ some name) :
    (memory.perform request).2.HoldsConstant level name id value := by
  have step := memory.perform_step request
  have bound : (memory.perform request).2.bindingAt? level name = some id := by
    rw [step.bindingAt?_eq (lt_depth_of_bindingAt? holds.bound) stays unbound, holds.bound]
    intro other written
    obtain ⟨⟨given, deps, rfl⟩, answered, visible⟩ := write?_eq_some_iff.mp written
    exact holds.unwritten given deps other answered visible
  obtain ⟨found, live, sameValue, constant⟩ := holds.live
  have stillLive := step.isLive_of_named (isLive_iff.mpr ⟨found, live⟩) unfreed (names_of_bindingAt? bound)
  rcases step.instance?_eq (bounded id found live) with freed | kept
  · rw [isLive, freed] at stillLive
    contradiction
  · rw [live] at kept
    exact ⟨bound, _, kept, sameValue, constant⟩

end

/-! ## Runs -/

section
variable [Traced α] {requests : List (Request α)}

/-- No allocation and no bind binds the name in the scope at a level while it is the innermost one. -/
def LeavesName (memory : Memory α) (level : Nat) (name : String) : List (Request α) → Prop
  | [] => True
  | request :: rest =>
    (memory.depth = level + 1 → (request.binds? (memory.perform request).1).map (·.1) ≠ some name) ∧
      (memory.perform request).2.LeavesName level name rest

instance LeavesName.decidable (level : Nat) (name : String) :
    (memory : Memory α) → (requests : List (Request α)) → Decidable (memory.LeavesName level name requests)
  | _, [] => .isTrue trivial
  | memory, request :: rest =>
    have := decidable level name (memory.perform request).2 rest
    inferInstanceAs (Decidable ((_ → _ ≠ _) ∧ (memory.perform request).2.LeavesName level name rest))

/-- The requests neither free the instance nor leave the scope at the level nor bind the name there. -/
structure Undisturbed (memory : Memory α) (level : Nat) (name : String) (id : RefId) (requests : List (Request α)) :
    Prop where
  unfreed : .free id ∉ requests
  stays : memory.StaysInside level requests
  unbound : memory.LeavesName level name requests

/-- A run that ends with the binding of a name, in the scope at a level, to what was allocated in it as a
    constant with this value. -/
structure BindsConstant (start : Memory α) (earlier : List (Request α)) (binding : Request α) (level : Nat)
    (name : String) (id : RefId) (value : α) : Prop where
  allocated : ∃ born, (id, born) ∈ start.issued (earlier ++ [binding]) ∧ born.value = value ∧ born.constant = true
  innermost : (start.after earlier).depth = level + 1
  binds : binding.binds? ((start.after earlier).perform binding).1 = some (name, id)

theorem StaysInside.lt_depth (stays : memory.StaysInside level requests) : level < memory.depth := by
  cases requests with
  | nil => exact stays
  | cons => exact stays.1

theorem HoldsConstant.after (holds : memory.HoldsConstant level name id value) (bounded : memory.Bounded)
    (undisturbed : memory.Undisturbed level name id requests) :
    (memory.after requests).HoldsConstant level name id value := by
  induction requests generalizing memory with
  | nil => exact holds
  | cons request rest ih =>
    obtain ⟨unfreed, stays, unbound⟩ := undisturbed
    rw [List.mem_cons, not_or] at unfreed
    have onward := holds.performed bounded (Ne.symm unfreed.1) stays.2.lt_depth unbound.1
    exact ih onward ((perform_change memory request).bounded bounded) ⟨unfreed.2, stays.2, unbound.2⟩

/-- An instance that is live has the value and the constancy that it was allocated with. -/
theorem instance?_issued (bounded : memory.Bounded) {born found : Instance α}
    (issued : (id, born) ∈ memory.issued requests) (live : (memory.after requests).instance? id = some found) :
    found.value = born.value ∧ found.constant = born.constant := by
  induction requests generalizing memory with
  | nil => contradiction
  | cons request rest ih =>
    have later := (perform_change memory request).bounded bounded
    rcases List.mem_append.mp issued with now | afterwards
    · have born := (memory.perform_step request).issue_live bounded (Option.mem_toList.mp now)
      obtain ⟨value, constant, _⟩ := grown_after later born live
      exact ⟨value, constant⟩
    · exact ih later afterwards live

/-- A binding is there behind the request that makes it, and leads to what is live. -/
theorem Step.of_binds (step : memory.Step request reply next) (innermost : memory.depth = level + 1)
    (binds : request.binds? reply = some (name, id)) :
    next.bindingAt? level name = some id ∧ next.isLive id := by
  have stored {given : RefId} {scopes : List Scope} (done : bindInnermost name given memory.scopes = .ok scopes) :
      (scopes.reverse[level]?).bind (·.get? name) = some given := by
    rw [depth] at innermost
    cases before : memory.scopes with
    | nil =>
      rw [before] at done
      contradiction
    | cons scope outer =>
      rw [before] at done innermost
      cases done
      have last : level = outer.length := (Nat.succ.inj innermost).symm
      rw [getElem?_reverse_cons, if_pos last]
      simp [Scope.get?_store]
  cases step with
  | @allocate _ options _ done | @allocateTraced _ options _ done =>
    obtain ⟨given, same, pair⟩ := Option.map_eq_some_iff.mp binds
    cases pair
    rw [same] at done
    exact ⟨stored done, isLive_add.mpr (Or.inr rfl)⟩
  | bind live done =>
    cases binds
    exact ⟨stored done, isLive_iff.mpr ⟨_, live⟩⟩
  | told asks =>
    cases request with
    | resolve | get | getByName | inspect | isLive | collectsOnPop => simp [Request.binds?] at binds
    | _ => contradiction
  | failed fault =>
    cases fault with
    | _ => contradiction
  | _ => contradiction

theorem BindsConstant.holds {start : Memory α} {earlier : List (Request α)} {binding : Request α}
    (bound : BindsConstant start earlier binding level name id value) (bounded : start.Bounded) :
    (start.after (earlier ++ [binding])).HoldsConstant level name id value := by
  have behind : start.after (earlier ++ [binding]) = ((start.after earlier).perform binding).2 :=
    after_append start earlier [binding]
  obtain ⟨here, live⟩ := ((start.after earlier).perform_step binding).of_binds bound.innermost bound.binds
  rw [← behind] at here live
  obtain ⟨found, live⟩ := isLive_iff.mp live
  obtain ⟨born, issued, rfl, constant⟩ := bound.allocated
  obtain ⟨sameValue, sameConstancy⟩ := instance?_issued bounded issued live
  exact ⟨here, found, live, sameValue, sameConstancy.trans constant⟩

/-- Constants stay constant. When a scope was made to bind a name to what was allocated as a constant, then
    as long as this is not freed outright, the scope is not left and the name is not bound there anew by an
    allocation or a bind, the scope binds the name to it, and it is live, constant and of the same value.
    Every reassignment of the name fails for this constant while no scope further inside binds the name. -/
theorem constant_lasts (collectOnPop : Bool) {earlier later : List (Request α)} {binding : Request α}
    (bound : BindsConstant { collectOnPop } earlier binding level name id value)
    (undisturbed : (({ collectOnPop } : Memory α).after (earlier ++ [binding])).Undisturbed level name id later) :
    let memory := ({ collectOnPop } : Memory α).after (earlier ++ [binding] ++ later)
    memory.HoldsConstant level name id value ∧
      ∀ given deps, (∀ scope ∈ memory.inside level, scope.contains name = false) →
        memory.perform (.reassign name given deps) = (.failed (.constReassignment name id), memory) := by
  intro memory
  have arises : ({ collectOnPop } : Memory α).Arises := .new collectOnPop
  have holds : memory.HoldsConstant level name id value := by
    have whole : memory = (({ collectOnPop } : Memory α).after (earlier ++ [binding])).after later := after_append ..
    rw [whole]
    exact (bound.holds arises.bounded).after (arises.after _).bounded undisturbed
  exact ⟨holds, fun given deps visible => holds.rejects visible given deps⟩

/-- A constant without a name, and a scope to name it in. -/
def constantRequests : List (Request Value) := [.allocate (.int 1) ⟨none, .empty, true⟩, .push]

/-- Tries to assign to the constant, shadows its name further inside and assigns to it there, and collects. -/
def shadowingRequests : List (Request Value) :=
  [.reassign "limit" (.int 2) .empty, .push, .allocate (.int 3) ⟨some "limit", .empty, false⟩,
    .reassign "limit" (.int 4) .empty, .bind "other" 0, .pop true, .collect]

theorem constant_lasts_shadowed :
    BindsConstant ({} : Memory Value) constantRequests (.bind "limit" 0) 1 "limit" 0 (.int 1) ∧
      (({} : Memory Value).after (constantRequests ++ [.bind "limit" 0])).Undisturbed 1 "limit" 0 shadowingRequests ∧
      let memory := ({} : Memory Value).after (constantRequests ++ [.bind "limit" 0] ++ shadowingRequests)
      memory.bindingAt? 1 "limit" = some 0 ∧
        memory.perform (.reassign "limit" (.int 5) .empty) = (.failed (.constReassignment "limit" 0), memory) := by
  have bound : BindsConstant ({} : Memory Value) constantRequests (.bind "limit" 0) 1 "limit" 0 (.int 1) :=
    ⟨⟨⟨.int 1, .empty, true⟩, List.mem_cons_self .., rfl, rfl⟩, rfl, rfl⟩
  have undisturbed : (({} : Memory Value).after (constantRequests ++ [.bind "limit" 0])).Undisturbed 1 "limit" 0
      shadowingRequests := ⟨by simp [shadowingRequests], by decide, by decide⟩
  obtain ⟨holds, rejected⟩ := constant_lasts true bound undisturbed
  exact ⟨bound, undisturbed, holds.bound, rejected (.int 5) .empty (by decide)⟩

end
end Memory
end CommandScript
