import CommandScript.Proofs.Memory.Run

/-!
A reference names one instance for ever. References are issued in increasing order, one for
each allocation that succeeds. What a request does to an instance that is there already is
to free it or to add to its dependencies (`Step.instance?_eq`), so that over a whole run an
instance is what it was when it was allocated, but for the dependencies that it was given
since, until it is freed for good (`instance?_after`). References are numbers without a
bound here; those of fewer than 2^64 allocations all fit 64 bits.
-/
namespace CommandScript
variable {α : Type}

/-- What a request allocates, with the reference that it is answered. -/
def Request.issue? [Traced α] : Request α → Reply α → Option (RefId × Instance α)
  | .allocate value options, .reference id => some (id, ⟨value, options.deps, options.constant⟩)
  | .allocateTraced value options, .reference id =>
    some (id, ⟨value, options.deps.insertAll (Traced.references value).ids, options.constant⟩)
  | .reassign _ value deps, .reference id => some (id, ⟨value, deps, false⟩)
  | _, _ => none

/-- The references that a request adds to the dependencies of an instance. -/
def Request.depsFor (id : RefId) : Request α → List RefId
  | .addDependency owner dep => if owner = id then [dep] else []
  | _ => []

/-- An instance with more dependencies. -/
def Instance.dependingOn (held : Instance α) (deps : List RefId) : Instance α :=
  { held with deps := held.deps.insertAll deps }

theorem Instance.dependingOn_append (held : Instance α) (first next : List RefId) :
    held.dependingOn (first ++ next) = (held.dependingOn first).dependingOn next := by
  simp [Instance.dependingOn, RefSet.insertAll]

theorem Instance.map_dependingOn_nil (found : Option (Instance α)) : found.map (·.dependingOn []) = found := by
  cases found with
  | none => rfl
  | some held => rfl

theorem Request.mem_depsFor {id dep : RefId} {request : Request α} :
    dep ∈ request.depsFor id ↔ request = .addDependency id dep := by
  cases request with
  | addDependency owner target =>
    by_cases same : owner = id
    · simp [depsFor, same, eq_comm]
    · simp [depsFor, same]
  | _ => simp [depsFor]

theorem Request.depsFor_told {request : Request α} (asks : request.asks) (id : RefId) : request.depsFor id = [] := by
  cases request with
  | addDependency => contradiction
  | _ => rfl

namespace Memory
variable {memory : Memory α}

theorem instance?_nextId (bounded : memory.Bounded) (added : Instance α) :
    (memory.add added).instance? memory.nextId = some added := by
  have absent : memory.instance? memory.nextId = none := by
    cases live : memory.instance? memory.nextId with
    | none => rfl
    | some found => exact absurd (bounded memory.nextId found live) (Nat.lt_irrefl _)
  rw [instance?_add, absent, if_pos rfl, Option.none_or]

theorem nextId_outside (collecting : Bool) (scopes : List Scope) :
    (memory.outside collecting scopes).nextId = memory.nextId := by
  cases collecting with
  | false => rfl
  | true => rfl

theorem instance?_outside (collecting : Bool) (scopes : List Scope) (id : RefId) :
    (memory.outside collecting scopes).instance? id = none ∨
      (memory.outside collecting scopes).instance? id = memory.instance? id := by
  cases collecting with
  | false => exact Or.inr rfl
  | true =>
    change ({ memory with scopes } : Memory α).collect.2.instance? id = none ∨
      ({ memory with scopes } : Memory α).collect.2.instance? id = memory.instance? id
    rw [(collected_collect { memory with scopes }).instance?_eq id]
    split
    · exact Or.inr rfl
    · exact Or.inl rfl

section
variable [Traced α] {next : Memory α} {request : Request α} {reply : Reply α}

/-- The instances that several requests allocate, with their references. -/
def issued (memory : Memory α) : List (Request α) → List (RefId × Instance α)
  | [] => []
  | request :: rest =>
    let answered := memory.perform request
    (request.issue? answered.1).toList ++ answered.2.issued rest

/-! ## One request -/

theorem issue?_told (asks : request.asks) : request.issue? reply = none := by
  cases request with
  | resolve | get | getByName | inspect | isLive | collectsOnPop => simp [Request.issue?]
  | allocate | allocateTraced | bind | reassign | addDependency | push | pop | popDefault | collect | free =>
    contradiction

/-- A step takes no reference, or the next one for an instance that is live at once. -/
theorem Step.issue (step : memory.Step request reply next) (bounded : memory.Bounded) :
    (request.issue? reply = none ∧ next.nextId = memory.nextId) ∨
      ∃ born, request.issue? reply = some (memory.nextId, born) ∧ next.nextId = memory.nextId + 1 ∧
        next.instance? memory.nextId = some born := by
  cases step with
  | allocate | allocateTraced | reassign => exact Or.inr ⟨_, rfl, rfl, instance?_nextId bounded _⟩
  | bind | addDependency | push | collect | free => exact Or.inl ⟨rfl, rfl⟩
  | pop | popDefault => exact Or.inl ⟨rfl, nextId_outside ..⟩
  | told asks => exact Or.inl ⟨issue?_told asks, rfl⟩
  | failed fault =>
    refine Or.inl ⟨?_, rfl⟩
    cases fault <;> rfl

/-- What a reference is issued for is live at once. -/
theorem Step.issue_live (step : memory.Step request reply next) (bounded : memory.Bounded) {id : RefId}
    {born : Instance α} (issue : request.issue? reply = some (id, born)) : next.instance? id = some born := by
  rcases step.issue bounded with ⟨none, _⟩ | ⟨other, some, _, live⟩
  · rw [none] at issue
    contradiction
  · rw [some] at issue
    obtain ⟨rfl, rfl⟩ := Prod.mk.inj (Option.some.inj issue)
    exact live

theorem Step.nextId_le (step : memory.Step request reply next) (bounded : memory.Bounded) :
    memory.nextId ≤ next.nextId := by
  rcases step.issue bounded with ⟨_, same⟩ | ⟨born, _, more, _⟩
  · exact Nat.le_of_eq same.symm
  · exact more ▸ Nat.le_succ memory.nextId

/-- A step frees an instance that was allocated before it, or adds the dependencies that the request is
    given for it. -/
theorem Step.instance?_eq (step : memory.Step request reply next) {id : RefId} (old : id < memory.nextId) :
    next.instance? id = none ∨
      next.instance? id = (memory.instance? id).map (·.dependingOn (request.depsFor id)) := by
  have added (added : Instance α) : (memory.add added).instance? id = memory.instance? id := by
    rw [instance?_add, if_neg (Nat.ne_of_lt old), Option.or_none]
  have kept {after : Memory α} (same : after.instance? id = memory.instance? id) :
      after.instance? id = (memory.instance? id).map (·.dependingOn []) := by
    rw [same, Instance.map_dependingOn_nil]
  cases step with
  | allocate | allocateTraced | reassign => exact Or.inr (kept (added _))
  | bind | push => exact Or.inr (kept rfl)
  | @addDependency owner dep =>
    refine Or.inr ?_
    rw [instance?_depend]
    refine Option.map_congr fun held _ => ?_
    by_cases same : owner = id
    · rw [Request.depsFor, if_pos same, if_pos same.symm]
      rfl
    · rw [Request.depsFor, if_neg same, if_neg (Ne.symm same)]
      rfl
  | pop | popDefault => exact (instance?_outside ..).imp_right kept
  | collect => exact (instance?_outside true memory.scopes id).imp_right kept
  | @free freed =>
    have others : (without freed memory.instances).lookup id = if id = freed then none else memory.instance? id :=
      lookup_without freed id memory.instances
    by_cases same : id = freed
    · exact Or.inl (others.trans (if_pos same))
    · exact Or.inr (kept (others.trans (if_neg same)))
  | told asks =>
    rw [Request.depsFor_told asks]
    exact Or.inr (kept rfl)
  | failed fault =>
    cases fault with
    | @addDependency owner dep dead =>
      -- The owner is not live, so it is not the instance, unless there is none.
      by_cases same : owner = id
      · exact Or.inl (same ▸ dead)
      · rw [Request.depsFor, if_neg same]
        exact Or.inr (kept rfl)
    | _ => exact Or.inr (kept rfl)

/-! ## Several requests -/

/-- References are issued one after the other, from the next one on. -/
theorem issued_ids (bounded : memory.Bounded) (requests : List (Request α)) :
    (memory.issued requests).map (·.1) = List.range' memory.nextId (memory.issued requests).length ∧
      (memory.after requests).nextId = memory.nextId + (memory.issued requests).length := by
  induction requests generalizing memory with
  | nil => exact ⟨rfl, rfl⟩
  | cons request rest ih =>
    obtain ⟨ids, nextId⟩ := ih ((perform_change memory request).bounded bounded)
    rw [issued, after_cons]
    rcases (memory.perform_step request).issue bounded with ⟨none, same⟩ | ⟨born, some, more, _⟩
    · rw [same] at ids nextId
      rw [none]
      exact ⟨ids, nextId⟩
    · rw [more] at ids nextId
      rw [some]
      constructor
      · simp [ids, List.range'_succ]
      · rw [nextId, List.length_append]
        exact Nat.add_assoc memory.nextId 1 _

/-- An instance is freed by some of the requests, or has just the dependencies more that they added. -/
theorem instance?_after (bounded : memory.Bounded) {id : RefId} (old : id < memory.nextId)
    (requests : List (Request α)) : (memory.after requests).instance? id = none ∨
      (memory.after requests).instance? id =
        (memory.instance? id).map (·.dependingOn (requests.flatMap (·.depsFor id))) := by
  induction requests generalizing memory with
  | nil => exact Or.inr (Instance.map_dependingOn_nil _).symm
  | cons request rest ih =>
    have step := memory.perform_step request
    have later := ih ((perform_change memory request).bounded bounded)
      (Nat.lt_of_lt_of_le old (step.nextId_le bounded))
    rw [after_cons]
    rcases step.instance?_eq old with freed | kept
    · rw [freed, Option.map_none, or_self] at later
      exact Or.inl later
    · rw [kept, Option.map_map] at later
      refine later.imp_right fun same => same.trans (Option.map_congr fun held _ => ?_)
      rw [Function.comp_apply, ← Instance.dependingOn_append, List.flatMap_cons]

/-- What was freed is never live again. -/
theorem isLive_after (bounded : memory.Bounded) {id : RefId} (old : id < memory.nextId)
    (freed : memory.isLive id = false) (requests : List (Request α)) :
    (memory.after requests).isLive id = false := by
  have absent : memory.instance? id = none := Option.not_isSome_iff_eq_none.mp (Bool.eq_false_iff.mp freed)
  have stays := instance?_after bounded old requests
  rw [absent, Option.map_none, or_self] at stays
  rw [isLive, stays, Option.isSome_none]

/-- An instance that is still live is what it was, with the dependencies that were added to it. -/
theorem grown_after (bounded : memory.Bounded) {id : RefId} {held found : Instance α}
    (live : memory.instance? id = some held) {requests : List (Request α)}
    (stillLive : (memory.after requests).instance? id = some found) :
    found.value = held.value ∧ found.constant = held.constant ∧
      ∀ dep, dep ∈ found.deps ↔ dep ∈ held.deps ∨ .addDependency id dep ∈ requests := by
  rcases instance?_after bounded (bounded id held live) requests with freed | kept
  · rw [stillLive] at freed
    contradiction
  · rw [stillLive, live] at kept
    have same : found = held.dependingOn (requests.flatMap (·.depsFor id)) := Option.some.inj kept
    refine ⟨congrArg (·.value) same, congrArg (·.constant) same, fun dep => ?_⟩
    rw [same, Instance.dependingOn, RefSet.mem_insertAll, List.mem_flatMap]
    simp [Request.mem_depsFor]

/-- In a run from a new memory the references issued are 0, 1, 2 and so on, in order, whatever fails in
    between. What a reference is issued for is live at once. Once it has been freed, by whatever request, it
    is never live again. As long as it is live its value and its constancy stay, and its dependencies are
    those that it had and those that were added to just this reference. -/
theorem reference_lasts (collectOnPop : Bool) (earlier later : List (Request α)) :
    let start : Memory α := { collectOnPop }
    let before := start.after earlier
    let after := start.after (earlier ++ later)
    (start.issued earlier).map (·.1) = List.range (start.issued earlier).length ∧
      (∀ request id born, request.issue? (before.perform request).1 = some (id, born) →
        (before.perform request).2.instance? id = some born) ∧
      (∀ id ∈ (start.issued earlier).map (·.1), before.isLive id = false → after.isLive id = false) ∧
      ∀ id held found, before.instance? id = some held → after.instance? id = some found →
        found.value = held.value ∧ found.constant = held.constant ∧
          ∀ dep, dep ∈ found.deps ↔ dep ∈ held.deps ∨ .addDependency id dep ∈ later := by
  intro start before after
  have arises : start.Arises := .new collectOnPop
  have bounded : before.Bounded := (arises.after earlier).bounded
  have split : after = before.after later := after_append start earlier later
  obtain ⟨ids, nextId⟩ := issued_ids arises.bounded earlier
  have inOrder : (start.issued earlier).map (·.1) = List.range (start.issued earlier).length := by
    rw [ids, List.range_eq_range']
  refine ⟨inOrder, ?_, ?_, ?_⟩
  · intro request id born issue
    exact (before.perform_step request).issue_live bounded issue
  · intro id member freed
    have old : id < before.nextId := by
      rw [inOrder, List.mem_range] at member
      rw [nextId]
      exact Nat.lt_of_lt_of_le member (Nat.le_add_left ..)
    exact split ▸ isLive_after bounded old freed later
  · intro id held found live stillLive
    exact grown_after bounded live (split ▸ stillLive)

/-- Two allocations and one that fails between them; then the second instance is freed. -/
def freeingRequests : List (Request Value) :=
  [.allocate (.int 1) ⟨some "a", .empty, true⟩, .reassign "b" (.int 2) .empty,
    .allocate (.int 3) ⟨none, .empty, false⟩, .free 1]

/-- The first instance is made to depend on the one that was freed, and more is allocated. -/
def dependingRequests : List (Request Value) :=
  [.addDependency 0 1, .allocate (.int 4) ⟨none, .empty, false⟩]

theorem reference_lasts_freed :
    (({} : Memory Value).issued freeingRequests).map (·.1) = List.range 2 ∧
      (({} : Memory Value).after (freeingRequests ++ dependingRequests)).isLive 1 = false ∧
        ∃ found, (({} : Memory Value).after (freeingRequests ++ dependingRequests)).instance? 0 = some found ∧
          found.value = .int 1 ∧ found.constant = true ∧ 1 ∈ found.deps := by
  obtain ⟨ids, _, freed, kept⟩ := reference_lasts (α := Value) true freeingRequests dependingRequests
  obtain ⟨value, constant, deps⟩ := kept 0 ⟨.int 1, .empty, true⟩ ⟨.int 1, .ofList [1], true⟩ rfl rfl
  exact ⟨ids, freed 1 (by decide) rfl, _, rfl, value, constant, (deps 1).mpr (Or.inr (by simp [dependingRequests]))⟩

end
end Memory
end CommandScript
