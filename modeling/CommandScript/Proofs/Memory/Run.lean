import CommandScript.Proofs.Memory.Collection
import CommandScript.Proofs.Memory.Step

/-!
Memories that a script can come to, whatever it asks for. In each of them the live
instances have references before the next one, so that what is allocated next takes
the place of nothing (`Arises.bounded`).
-/
namespace CommandScript.Memory
variable {α : Type}

/-- Some requests lead to the memory from a new one. -/
inductive Arises [Traced α] : Memory α → Prop
  | new (collectOnPop : Bool) : Arises { collectOnPop }
  | perform {memory : Memory α} (request : Request α) :
      Arises memory → Arises (memory.perform request).2

/-- The memory that several requests in a row lead to. -/
def after [Traced α] (memory : Memory α) (requests : List (Request α)) : Memory α :=
  requests.foldl (fun memory request => (memory.perform request).2) memory

/-- Every live instance was allocated before the next reference. -/
def Bounded (memory : Memory α) : Prop :=
  ∀ id found, memory.instance? id = some found → id < memory.nextId

/-! ## What is live after a change -/

theorem instance?_add (memory : Memory α) (added : Instance α) (id : RefId) :
    (memory.add added).instance? id =
      (memory.instance? id).or (if id = memory.nextId then some added else none) := by
  by_cases same : id = memory.nextId
  · simp [add, instance?, List.lookup_append, same]
  · have different : (id == memory.nextId) = false := by simp [same]
    simp [add, instance?, List.lookup_append, List.lookup_cons, same, different]

theorem instance?_depend (memory : Memory α) (owner dep id : RefId) :
    (memory.depend owner dep).instance? id = (memory.instance? id).map fun held =>
      if id = owner then { held with deps := held.deps.insert dep } else held := by
  rw [instance?, instance?, depend]
  induction memory.instances with
  | nil => rfl
  | cons entry rest ih =>
    obtain ⟨key, held⟩ := entry
    rw [List.map_cons, List.lookup_cons, List.lookup_cons]
    by_cases same : id = key
    · simp [same]
    · have different : (id == key) = false := by simp [same]
      simpa [different] using ih

theorem instance?_collect (memory : Memory α) {id : RefId} {found : Instance α}
    (live : memory.collect.2.instance? id = some found) : memory.instance? id = some found := by
  rw [(collected_collect memory).instance?_eq] at live
  split at live
  · exact live
  · contradiction

/-! ## Names after a change -/

theorem names_store {scope : Scope} {outer : List Scope} {name : String} {id other : RefId}
    (named : Names (scope.store name id :: outer) other) : other = id ∨ Names (scope :: outer) other := by
  obtain ⟨holder, member, bound, binding⟩ := named
  rcases List.mem_cons.mp member with same | later
  · subst same
    rcases Entries.mem_put binding with new | old
    · exact Or.inl (Prod.mk.inj new).2
    · exact Or.inr ⟨scope, List.mem_cons_self .., bound, old⟩
  · exact Or.inr ⟨holder, List.mem_cons_of_mem _ later, bound, binding⟩

theorem names_cons {scope : Scope} {outer : List Scope} {id : RefId} (named : Names outer id) :
    Names (scope :: outer) id := by
  obtain ⟨holder, member, bound, binding⟩ := named
  exact ⟨holder, List.mem_cons_of_mem _ member, bound, binding⟩

theorem names_push {memory : Memory α} {id : RefId} (named : Names memory.push.scopes id) :
    Names memory.scopes id := by
  obtain ⟨holder, member, bound, binding⟩ := named
  rcases List.mem_cons.mp member with same | outer
  · simp [same] at binding
  · exact ⟨holder, outer, bound, binding⟩

/-- What a name is bound to is one of the references that names are bound to. -/
theorem names_of_resolve {memory : Memory α} {name : String} {id : RefId}
    (resolved : memory.resolve name = .ok id) : Names memory.scopes id := by
  unfold resolve at resolved
  split at resolved
  · rename_i bound found
    cases resolved
    obtain ⟨scope, member, binding⟩ := List.exists_of_findSome?_eq_some found
    exact ⟨scope, member, name, Scope.mem_of_get? binding⟩
  · contradiction

theorem names_bindInnermost {name : String} {id other : RefId} {scopes bound : List Scope}
    (done : bindInnermost name id scopes = .ok bound) (named : Names bound other) :
    other = id ∨ Names scopes other := by
  cases scopes with
  | nil => contradiction
  | cons scope outer =>
    cases done
    exact names_store named

theorem names_bindNamed {name : Option String} {id other : RefId} {scopes bound : List Scope}
    (done : bindNamed name id scopes = .ok bound) (named : Names bound other) :
    other = id ∨ Names scopes other := by
  cases name with
  | none =>
    cases done
    exact Or.inr named
  | some name => exact names_bindInnermost done named

theorem names_rebind {name : String} {id other : RefId} {scopes : List Scope}
    (named : Names (rebind name id scopes) other) : other = id ∨ Names scopes other := by
  induction scopes with
  | nil => exact Or.inr named
  | cons scope outer ih =>
    rw [rebind] at named
    split at named
    · exact names_store named
    · obtain ⟨holder, member, bound, binding⟩ := named
      rcases List.mem_cons.mp member with same | later
      · exact Or.inr ⟨scope, List.mem_cons_self .., bound, same ▸ binding⟩
      · rcases ih ⟨holder, later, bound, binding⟩ with new | old
        · exact Or.inl new
        · exact Or.inr (names_cons old)

/-! ## What a request can do -/

/-- The ways in which a memory changes: it stays, its scopes change, an instance is added, depends
    on one more reference or is freed, or all that cannot be reached is collected. -/
inductive Change (memory : Memory α) : Memory α → Prop
  | kept : Change memory memory
  | rescoped (scopes : List Scope) : Change memory { memory with scopes }
  | added (added : Instance α) (scopes : List Scope) :
      Change memory { memory.add added with scopes }
  | depended (owner dep : RefId) : Change memory (memory.depend owner dep)
  | freed (id : RefId) : Change memory { memory with instances := without id memory.instances }
  | collected (scopes : List Scope) : Change memory ({ memory with scopes } : Memory α).collect.2

theorem change_outside (memory : Memory α) (collecting : Bool) (scopes : List Scope) :
    memory.Change (memory.outside collecting scopes) := by
  cases collecting with
  | false => exact .rescoped scopes
  | true => exact .collected scopes

theorem Step.change [Traced α] {memory next : Memory α} {request : Request α} {reply : Reply α}
    (step : memory.Step request reply next) : memory.Change next := by
  cases step with
  | allocate | allocateTraced | reassign => exact .added _ _
  | bind | push => exact .rescoped _
  | addDependency => exact .depended _ _
  | pop | popDefault => exact change_outside ..
  | collect => exact .collected memory.scopes
  | free => exact .freed _
  | told | failed => exact .kept

/-- Every request changes the memory in one of the ways of `Change`. -/
theorem perform_change [Traced α] (memory : Memory α) (request : Request α) :
    memory.Change (memory.perform request).2 :=
  (memory.perform_step request).change

/-! ## References before the next one -/

theorem Change.bounded {memory next : Memory α} (change : memory.Change next)
    (bounded : memory.Bounded) : next.Bounded := by
  intro id found live
  cases change with
  | kept => exact bounded id found live
  | rescoped scopes => exact bounded id found live
  | added added scopes =>
    have live : (memory.add added).instance? id = some found := live
    rw [instance?_add] at live
    by_cases same : id = memory.nextId
    · exact same ▸ Nat.lt_succ_self memory.nextId
    · exact Nat.lt_succ_of_lt (bounded id found (by simpa [same] using live))
  | depended owner dep =>
    rw [instance?_depend] at live
    obtain ⟨held, before, _⟩ := Option.map_eq_some_iff.mp live
    exact bounded id held before
  | freed freed =>
    have live : (without freed memory.instances).lookup id = some found := live
    rw [lookup_without] at live
    split at live
    · contradiction
    · exact bounded id found live
  | collected scopes =>
    exact bounded id found (instance?_collect ({ memory with scopes } : Memory α) live)

/-- A memory never holds what it is going to allocate next. -/
theorem Arises.bounded [Traced α] {memory : Memory α} (arises : memory.Arises) : memory.Bounded := by
  induction arises with
  | new collectOnPop =>
    intro id found live
    simp [instance?] at live
  | perform request _ ih => exact (perform_change _ request).bounded ih

/-! ## Several requests -/

section
variable [Traced α]

theorem after_cons (memory : Memory α) (request : Request α) (rest : List (Request α)) :
    memory.after (request :: rest) = (memory.perform request).2.after rest := rfl

theorem after_append (memory : Memory α) (earlier later : List (Request α)) :
    memory.after (earlier ++ later) = (memory.after earlier).after later :=
  List.foldl_append ..

theorem Arises.after {memory : Memory α} (arises : memory.Arises) (requests : List (Request α)) :
    (memory.after requests).Arises := by
  induction requests generalizing memory with
  | nil => exact arises
  | cons request rest ih => exact ih (arises.perform request)

end

end CommandScript.Memory
