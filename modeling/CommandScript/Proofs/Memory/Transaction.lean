import CommandScript.Memory.Request

/-!
The operations as transactions: what comes of each as a whole, or why nothing comes of it.
Carrying out an operation step by step comes to its transaction (`perform_eq_transact`): no
step fails behind one that has changed the memory. So a request that fails leaves the memory
as it was.
-/
namespace CommandScript.Memory
variable {α : Type}

/-- Binds a name in the innermost of some scopes. -/
def bindInnermost (name : String) (id : RefId) : List Scope → Except MemoryError (List Scope)
  | [] => .error .noScope
  | scope :: outer => .ok (scope.store name id :: outer)

/-- Binds a name in the innermost scope that binds it already. -/
def rebind (name : String) (id : RefId) : List Scope → List Scope
  | [] => []
  | scope :: outer =>
    if scope.contains name then scope.store name id :: outer else scope :: rebind name id outer

/-- Adds an instance under the next reference. -/
def add (memory : Memory α) (added : Instance α) : Memory α :=
  { memory with
    instances := memory.instances ++ [(memory.nextId, added)]
    nextId := memory.nextId + 1 }

/-- Binds a name, if there is one, in the innermost of some scopes. -/
def bindNamed (name : Option String) (id : RefId) (scopes : List Scope) :
    Except MemoryError (List Scope) :=
  match name with
  | some name => bindInnermost name id scopes
  | none => .ok scopes

/-- Allocates a value, and binds it in the innermost scope if it has a name. -/
def allocate (memory : Memory α) (value : α) (options : Allocation) :
    Except MemoryError (RefId × Memory α) := do
  let scopes ← bindNamed options.name memory.nextId memory.scopes
  let added := memory.add ⟨value, options.deps, options.constant⟩
  .ok (memory.nextId, { added with scopes })

/-- Allocates a value that depends on the references that it holds, besides those given. -/
def allocateTraced [Traced α] (memory : Memory α) (value : α) (options : Allocation) :
    Except MemoryError (RefId × Memory α) :=
  memory.allocate value
    { options with deps := options.deps.insertAll (Traced.references value).ids }

/-- Binds a name to a live instance in the innermost scope. -/
def bind (memory : Memory α) (name : String) (id : RefId) : Except MemoryError (Memory α) := do
  let _ ← memory.inspect id
  let scopes ← bindInnermost name id memory.scopes
  .ok { memory with scopes }

/-- Allocates a value and binds a name to it where the name is bound. What the name was bound to
    stays as it is; if that is a constant, the name keeps it. -/
def reassign (memory : Memory α) (name : String) (value : α) (deps : RefSet) :
    Except MemoryError (RefId × Memory α) := do
  let old ← memory.resolve name
  if (memory.instance? old).any (·.constant) then .error (.constReassignment name old)
  else
    let added := memory.add ⟨value, deps, false⟩
    .ok (memory.nextId, { added with scopes := rebind name memory.nextId memory.scopes })

/-- Makes a live instance depend on a reference. -/
def addDependency (memory : Memory α) (owner dep : RefId) : Except MemoryError (Memory α) := do
  let _ ← memory.inspect owner
  .ok (memory.depend owner dep)

/-- Removes a live instance, and gives back its value. -/
def free (memory : Memory α) (id : RefId) : Except MemoryError (α × Memory α) := do
  let removed ← memory.inspect id
  .ok (removed.value, { memory with instances := without id memory.instances })

/-- Leaves the innermost scope, and collects if asked to. The global scope can be left too. -/
def pop (memory : Memory α) (collecting : Bool) : Except MemoryError (Memory α) :=
  match memory.scopes with
  | [] => .error .noScope
  | _ :: scopes =>
    let left := { memory with scopes }
    .ok (if collecting then left.collect.2 else left)

/-- The memory after an outcome: the next one, or the same one after a failure. -/
def change {β : Type} (memory : Memory α) (reply : β → Reply α)
    (outcome : Except MemoryError (β × Memory α)) : Reply α × Memory α :=
  match outcome with
  | .ok (result, next) => (reply result, next)
  | .error error => (.failed error, memory)

/-- The answer to a request that is done as a whole or not at all, and the memory after it. -/
def transact [Traced α] (memory : Memory α) : Request α → Reply α × Memory α
  | .allocate value options => memory.change .reference (memory.allocate value options)
  | .allocateTraced value options => memory.change .reference (memory.allocateTraced value options)
  | .bind name id => memory.change (fun _ => .done) (((), ·) <$> memory.bind name id)
  | .resolve name => memory.ask .reference (memory.resolve name)
  | .reassign name value deps => memory.change .reference (memory.reassign name value deps)
  | .addDependency owner dep =>
    memory.change (fun _ => .done) (((), ·) <$> memory.addDependency owner dep)
  | .push => (.done, memory.push)
  | .pop collecting => memory.change (fun _ => .done) (((), ·) <$> memory.pop collecting)
  | .popDefault => memory.change (fun _ => .done) (((), ·) <$> memory.pop memory.collectOnPop)
  | .collect => let (freed, next) := memory.collect; (.count freed, next)
  | .get id => memory.ask .value (memory.get id)
  | .getByName name => memory.ask .value (memory.getByName name)
  | .inspect id => memory.ask .held (memory.inspect id)
  | .free id => memory.change .value (memory.free id)
  | .isLive id => (.flag (memory.isLive id), memory)
  | .collectsOnPop => (.flag memory.collectOnPop, memory)

/-! ## Where a name is found -/

theorem without_eq_self {id : RefId} {instances : List (RefId × Instance α)} (absent : instances.lookup id = none) :
    without id instances = instances := by
  unfold without
  rw [List.filter_eq_self]
  intro entry member
  have different := List.lookup_eq_none_iff.mp absent entry member
  rw [bne_iff_ne]
  exact Ne.symm (by simpa using different)

/-- What the innermost scope with a name binds it to is what the name is bound to. -/
theorem findBinding?_map (name : String) (scopes : List Scope) :
    (findBinding? name scopes).map (·.2) = scopes.findSome? (·.get? name) := by
  induction scopes with
  | nil => rfl
  | cons scope outer ih =>
    rw [findBinding?, List.findSome?_cons]
    cases bound : scope.get? name with
    | some id => rfl
    | none =>
      rw [← ih, Option.map_map]
      rfl

/-- To bind a name where it is found is to bind it in the innermost scope that binds it. -/
theorem modify_findBinding? {name : String} {scopes : List Scope} {inside : Nat} {old : RefId}
    (found : findBinding? name scopes = some (inside, old)) (id : RefId) :
    scopes.modify inside (·.store name id) = rebind name id scopes := by
  induction scopes generalizing inside with
  | nil => contradiction
  | cons scope outer ih =>
    rw [findBinding?] at found
    rw [rebind, Scope.contains]
    cases bound : scope.get? name with
    | some held =>
      rw [bound] at found
      cases found
      rfl
    | none =>
      rw [bound] at found
      obtain ⟨⟨before, same⟩, further, pair⟩ := Option.map_eq_some_iff.mp found
      cases pair
      rw [List.modify_succ_cons, ih further]
      rfl

theorem binding?_eq_find? (memory : Memory α) (name : String) :
    memory.binding? name = (memory.find? name).map (·.2) :=
  (findBinding?_map name memory.scopes).symm

/-! ## Each operation comes to its transaction -/

/-- An operation comes to an outcome: it ends with what the outcome has, or fails as it does and leaves
    the memory as it was. -/
def ComesTo {β : Type} (memory : Memory α) (operation : Operation α β)
    (outcome : Except MemoryError (β × Memory α)) : Prop :=
  operation.run memory =
    match outcome with
    | .ok (result, next) => .ok result next
    | .error error => .error error memory

theorem carryOut_eq_change {β : Type} {memory : Memory α} (reply : β → Reply α) {operation : Operation α β}
    {outcome : Except MemoryError (β × Memory α)} (comes : memory.ComesTo operation outcome) :
    memory.carryOut reply operation = memory.change reply outcome := by
  unfold carryOut
  rw [comes]
  cases outcome with
  | error error => rfl
  | ok done => rfl

section
variable (memory : Memory α)

theorem comesTo_storeInnermost (name : String) (id : RefId) :
    memory.ComesTo (.storeInnermost name id)
      ((fun scopes => ((), { memory with scopes })) <$> bindInnermost name id memory.scopes) := by
  unfold ComesTo Operation.storeInnermost
  rw [EStateM.run_bind, EStateM.run_get]
  dsimp only
  cases scopes : memory.scopes with
  | nil => rfl
  | cons scope outer => rfl

/-- The scopes are looked at first: with none to bind the name in, nothing is allocated. -/
theorem comesTo_allocate (value : α) (options : Allocation) :
    memory.ComesTo (.allocate value options) (memory.allocate value options) := by
  obtain ⟨instances, scopes, nextId, collectOnPop, stats⟩ := memory
  obtain ⟨name, deps, constant⟩ := options
  cases name with
  | none => rfl
  | some name =>
    cases scopes with
    | nil => rfl
    | cons scope outer => rfl

theorem comesTo_bind (name : String) (id : RefId) :
    memory.ComesTo (.bind name id) (((), ·) <$> memory.bind name id) := by
  unfold ComesTo Operation.bind bind inspect isLive
  rw [EStateM.run_bind, EStateM.run_get]
  dsimp only
  cases live : memory.instance? id with
  | none => rfl
  | some found =>
    have stored := memory.comesTo_storeInnermost name id
    cases bound : bindInnermost name id memory.scopes with
    | error error =>
      rw [bound] at stored
      exact stored
    | ok scopes =>
      rw [bound] at stored
      exact stored

theorem comesTo_reassign (name : String) (value : α) (deps : RefSet) :
    memory.ComesTo (.reassign name value deps) (memory.reassign name value deps) := by
  unfold ComesTo Operation.reassign
  rw [EStateM.run_bind, EStateM.run_get]
  dsimp only
  cases found : memory.find? name with
  | none =>
    have unresolved : memory.resolve name = .error (.unboundName name) := by
      rw [resolve, binding?_eq_find?, found]
      rfl
    rw [reassign, unresolved]
    rfl
  | some place =>
    obtain ⟨inside, old⟩ := place
    have resolved : memory.resolve name = .ok old := by
      rw [resolve, binding?_eq_find?, found]
      rfl
    have outcome : memory.reassign name value deps =
        if (memory.instance? old).any (·.constant) then .error (.constReassignment name old)
        else .ok (memory.nextId, { memory.add ⟨value, deps, false⟩ with
          scopes := rebind name memory.nextId memory.scopes }) := by
      rw [reassign, resolved]
      rfl
    dsimp only
    rw [outcome, EStateM.run_bind, EStateM.run_get]
    dsimp only
    by_cases constant : (memory.instance? old).any (·.constant)
    · rw [if_pos constant, if_pos constant]
      rfl
    · rw [if_neg constant, if_neg constant, ← modify_findBinding? found memory.nextId]
      rfl

theorem comesTo_addDependency (owner dep : RefId) :
    memory.ComesTo (.addDependency owner dep) (((), ·) <$> memory.addDependency owner dep) := by
  unfold ComesTo Operation.addDependency addDependency inspect isLive
  rw [EStateM.run_bind, EStateM.run_get]
  dsimp only
  cases live : memory.instance? owner with
  | none => rfl
  | some held => rfl

/-- The instance is removed before it is known to be live; if it is not, removing it changes nothing. -/
theorem comesTo_free (id : RefId) : memory.ComesTo (.free id) (memory.free id) := by
  unfold ComesTo Operation.free free inspect
  rw [EStateM.run_bind, EStateM.run_get]
  dsimp only
  cases live : memory.instance? id with
  | none =>
    have same : without id memory.instances = memory.instances := without_eq_self live
    rw [EStateM.run_bind, EStateM.run_modify, same]
    rfl
  | some removed => rfl

theorem comesTo_pop (collecting : Bool) :
    memory.ComesTo (.pop collecting) (((), ·) <$> memory.pop collecting) := by
  obtain ⟨instances, scopes, nextId, collectOnPop, stats⟩ := memory
  cases scopes with
  | nil => rfl
  | cons scope outer =>
    cases collecting with
    | false => rfl
    | true => rfl

end

/-- Every request is done as a whole or not at all. -/
theorem perform_eq_transact [Traced α] (memory : Memory α) (request : Request α) :
    memory.perform request = memory.transact request := by
  cases request with
  | allocate value options => exact carryOut_eq_change _ (memory.comesTo_allocate value options)
  | allocateTraced value options => exact carryOut_eq_change _ (memory.comesTo_allocate value _)
  | bind name id => exact carryOut_eq_change _ (memory.comesTo_bind name id)
  | reassign name value deps => exact carryOut_eq_change _ (memory.comesTo_reassign name value deps)
  | addDependency owner dep => exact carryOut_eq_change _ (memory.comesTo_addDependency owner dep)
  | pop collecting => exact carryOut_eq_change _ (memory.comesTo_pop collecting)
  | popDefault => exact carryOut_eq_change _ (memory.comesTo_pop memory.collectOnPop)
  | free id => exact carryOut_eq_change _ (memory.comesTo_free id)
  | _ => rfl

end CommandScript.Memory
