import CommandScript.Proofs.Memory.Run

/-!
No reference dangles in the memory of a script that frees nothing itself and lets its
values depend only on what is live. Names and dependencies then lead to live instances
only (`Closed`), which every request preserves (`Closed.step`); a collection does because
what it keeps is reachable, and with it all that it depends on.
-/
namespace CommandScript

/-- The references that a request lets an instance depend on, those in a traced value among them. -/
def Request.dependencies {α : Type} [Traced α] : Request α → List RefId
  | .allocate _ options => options.deps.ids
  | .allocateTraced value options => options.deps.ids ++ (Traced.references value).ids
  | .reassign _ _ deps => deps.ids
  | .addDependency _ dep => [dep]
  | .bind .. | .resolve _ | .push | .pop _ | .popDefault | .collect | .get _ | .getByName _ | .inspect _ | .free _
    | .isLive _ | .collectsOnPop => []

namespace Memory
variable {α : Type} {memory : Memory α}

/-- No request frees an instance by its reference, and each lets instances depend only on references
    that are live when it is performed. -/
def GivenLive [Traced α] (memory : Memory α) : List (Request α) → Prop
  | [] => True
  | request :: rest =>
    ((∀ id, request ≠ .free id) ∧ ∀ id ∈ request.dependencies, memory.isLive id) ∧
      GivenLive (memory.perform request).2 rest

/-- Names and dependencies lead to live instances only. -/
structure Closed (memory : Memory α) : Prop where
  named : ∀ id, Names memory.scopes id → memory.isLive id
  dependency : ∀ owner dep, memory.DependsOn owner dep → memory.isLive dep

theorem isLive_iff {id : RefId} : memory.isLive id ↔ ∃ found, memory.instance? id = some found :=
  Option.isSome_iff_exists

/-! ## What stays live -/

theorem isLive_add {added : Instance α} {id : RefId} :
    (memory.add added).isLive id ↔ memory.isLive id ∨ id = memory.nextId := by
  rw [isLive, instance?_add, isLive]
  by_cases same : id = memory.nextId
  · simp [same]
  · simp [same]

theorem isLive_depend {owner dep id : RefId} : (memory.depend owner dep).isLive id ↔ memory.isLive id := by
  rw [isLive, instance?_depend, isLive, Option.isSome_map]

theorem isLive_collect {id : RefId} : memory.collect.2.isLive id ↔ memory.Reachable id ∧ memory.isLive id := by
  rw [isLive, (collected_collect memory).instance?_eq, isLive]
  by_cases reachable : memory.Reachable id
  · simp [reachable]
  · simp [reachable]

/-! ## What each change preserves -/

section
variable (closed : memory.Closed)
include closed

theorem Closed.rescoped {scopes : List Scope} (names : ∀ id, Names scopes id → memory.isLive id) :
    ({ memory with scopes } : Memory α).Closed :=
  ⟨names, closed.dependency⟩

theorem Closed.added {added : Instance α} {scopes : List Scope} (deps : ∀ id ∈ added.deps, memory.isLive id)
    (names : ∀ id, Names scopes id → id = memory.nextId ∨ Names memory.scopes id) :
    ({ memory.add added with scopes } : Memory α).Closed := by
  constructor
  · intro id named
    refine isLive_add.mpr ?_
    rcases names id named with new | old
    · exact Or.inr new
    · exact Or.inl (closed.named id old)
  · rintro owner dep ⟨held, live, isDep⟩
    have live : (memory.add added).instance? owner = some held := live
    rw [instance?_add, Option.or_eq_some_iff] at live
    refine isLive_add.mpr (Or.inl ?_)
    rcases live with old | ⟨_, new⟩
    · exact closed.dependency owner dep ⟨held, old, isDep⟩
    · split at new
      · cases new
        exact deps dep isDep
      · contradiction

theorem Closed.depended {owner dep : RefId} (live : memory.isLive dep) : (memory.depend owner dep).Closed := by
  constructor
  · intro id named
    exact isLive_depend.mpr (closed.named id named)
  · rintro holder target ⟨found, alive, isDep⟩
    refine isLive_depend.mpr ?_
    rw [instance?_depend] at alive
    obtain ⟨held, before, changed⟩ := Option.map_eq_some_iff.mp alive
    by_cases same : holder = owner
    · rw [if_pos same] at changed
      rw [← changed, RefSet.mem_insert] at isDep
      rcases isDep with new | old
      · exact new ▸ live
      · exact closed.dependency holder target ⟨held, before, old⟩
    · rw [if_neg same] at changed
      exact closed.dependency holder target ⟨held, before, changed ▸ isDep⟩

/-- What a collection keeps does not depend on what it frees. -/
theorem Closed.collected : memory.collect.2.Closed := by
  have collected := collected_collect memory
  constructor
  · intro id named
    rw [collected.scopes] at named
    exact isLive_collect.mpr ⟨.named named, closed.named id named⟩
  · rintro owner dep ⟨held, live, isDep⟩
    rw [collected.instance?_eq] at live
    split at live
    · rename_i reachable
      have edge : memory.DependsOn owner dep := ⟨held, live, isDep⟩
      exact isLive_collect.mpr ⟨.dependency reachable edge, closed.dependency owner dep edge⟩
    · contradiction

theorem Closed.outside {innermost : Scope} {outer : List Scope} (scopes : memory.scopes = innermost :: outer)
    (collecting : Bool) : (memory.outside collecting outer).Closed := by
  have left : ({ memory with scopes := outer } : Memory α).Closed := by
    refine closed.rescoped fun id named => closed.named id ?_
    rw [scopes]
    exact names_cons named
  cases collecting with
  | false => exact left
  | true => exact left.collected

/-- A name that can be resolved has a value. -/
theorem Closed.getByName_eq {name : String} {id : RefId} (resolved : memory.resolve name = .ok id) :
    ∃ value, memory.getByName name = .ok value := by
  obtain ⟨found, live⟩ := isLive_iff.mp (closed.named id (names_of_resolve resolved))
  refine ⟨found.value, ?_⟩
  rw [getByName, resolved]
  simp [Bind.bind, Except.bind, Functor.map, Except.map, get, inspect, live]

end

/-! ## Requests -/

/-- A step keeps a memory closed if it frees nothing outright, and what it makes instances depend on
    is live. -/
theorem Closed.step [Traced α] {next : Memory α} {request : Request α} {reply : Reply α} (closed : memory.Closed)
    (step : memory.Step request reply next) (unfreed : ∀ id, request ≠ .free id)
    (given : ∀ id ∈ request.dependencies, memory.isLive id) : next.Closed := by
  cases step with
  | allocate bound => exact closed.added given fun id => names_bindNamed bound
  | allocateTraced bound =>
    refine closed.added (fun id isDep => given id ?_) fun id => names_bindNamed bound
    exact List.mem_append.mpr (RefSet.mem_insertAll.mp isDep)
  | bind live bound =>
    refine closed.rescoped fun other named => ?_
    rcases names_bindInnermost bound named with new | old
    · exact new ▸ isLive_iff.mpr ⟨_, live⟩
    · exact closed.named other old
  | reassign => exact closed.added given fun id => names_rebind
  | addDependency => exact closed.depended (given _ (List.mem_singleton_self _))
  | push => exact closed.rescoped fun id named => closed.named id (names_push named)
  | pop scopes | popDefault scopes => exact closed.outside scopes _
  | collect => exact closed.collected
  | free => exact absurd rfl (unfreed _)
  | told | failed => exact closed

theorem closed_new (collectOnPop : Bool) : ({ collectOnPop } : Memory α).Closed := by
  constructor
  · rintro id ⟨scope, member, name, binding⟩
    simp [List.mem_singleton.mp member] at binding
  · rintro owner dep ⟨held, live, _⟩
    contradiction

section
variable [Traced α]

theorem Closed.after (closed : memory.Closed) {requests : List (Request α)} (given : memory.GivenLive requests) :
    (memory.after requests).Closed := by
  induction requests generalizing memory with
  | nil => exact closed
  | cons request rest ih =>
    obtain ⟨⟨unfreed, live⟩, later⟩ := given
    exact ih (closed.step (memory.perform_step request) unfreed live) later

theorem GivenLive.earlier {earlier later : List (Request α)} (given : memory.GivenLive (earlier ++ later)) :
    memory.GivenLive earlier := by
  induction earlier generalizing memory with
  | nil => trivial
  | cons request rest ih => exact ⟨given.1, ih given.2⟩

/-- At every stage of a run from a new memory that frees nothing outright and supplies only live
    dependencies, names and dependencies lead to live instances, whatever was collected meanwhile; so every
    name that can be resolved has a value. -/
theorem heap_closed (collectOnPop : Bool) {earlier later : List (Request α)}
    (given : ({ collectOnPop } : Memory α).GivenLive (earlier ++ later)) :
    (({ collectOnPop } : Memory α).after earlier).Closed ∧
      ∀ name id, (({ collectOnPop } : Memory α).after earlier).resolve name = .ok id →
        ∃ value, (({ collectOnPop } : Memory α).after earlier).getByName name = .ok value := by
  have closed := (closed_new collectOnPop).after given.earlier
  exact ⟨closed, fun name id resolved => closed.getByName_eq resolved⟩

/-- A block whose values depend on one outside of it and on each other, left with a collection. -/
def blockRequests : List (Request Value) :=
  [.allocate (.int 1) ⟨some "a", .empty, false⟩, .push, .allocateTraced (.ref 0) ⟨some "b", .empty, false⟩,
    .addDependency 0 1, .reassign "b" (.int 2) (.ofList [0, 1]), .pop true, .getByName "b"]

theorem heap_closed_block :
    ({} : Memory Value).GivenLive (blockRequests ++ []) ∧ (({} : Memory Value).after blockRequests).Closed ∧
      ∃ value, (({} : Memory Value).after blockRequests).getByName "a" = .ok value := by
  have given : ({} : Memory Value).GivenLive (blockRequests ++ []) := by
    exact ⟨⟨nofun, nofun⟩, ⟨nofun, nofun⟩, ⟨nofun, by decide⟩, ⟨nofun, by decide⟩, ⟨nofun, by decide⟩,
      ⟨nofun, nofun⟩, ⟨nofun, nofun⟩, trivial⟩
  obtain ⟨closed, resolved⟩ := heap_closed true given
  exact ⟨given, closed, resolved "a" 0 rfl⟩

end

end Memory
end CommandScript
