import CommandScript.Memory

/-!
How the operations on a memory that can fail are carried out: they look at the memory, check
and change it one step after the other. Failing takes nothing back: what was changed before
stays changed.
-/
namespace CommandScript

/-- Steps on a memory that end with a result, or fail on the way. -/
abbrev Operation (α β : Type) := EStateM MemoryError (Memory α) β

namespace Operation
variable {α : Type}

/-- Takes the next reference. -/
def nextReference : Operation α RefId :=
  modifyGet fun memory => (memory.nextId, { memory with nextId := memory.nextId + 1 })

/-- Puts an instance under a reference that was just taken. -/
def insert (id : RefId) (added : Instance α) : Operation α Unit :=
  modify fun memory => { memory with instances := memory.instances ++ [(id, added)] }

/-- Binds a name in the innermost scope. -/
def storeInnermost (name : String) (id : RefId) : Operation α Unit := do
  match (← get).scopes with
  | [] => throw .noScope
  | scope :: outer => modify fun memory => { memory with scopes := scope.store name id :: outer }

/-- Allocates a value, and binds it in the innermost scope if it has a name. -/
def allocate (value : α) (options : Allocation) : Operation α RefId := do
  if options.name.isSome && (← get).scopes.isEmpty then throw .noScope
  let id ← nextReference
  insert id ⟨value, options.deps, options.constant⟩
  match options.name with
  | some name => storeInnermost name id
  | none => pure ()
  return id

/-- Allocates a value that depends on the references that it holds, besides those given. -/
def allocateTraced [Traced α] (value : α) (options : Allocation) : Operation α RefId :=
  allocate value { options with deps := options.deps.insertAll (Traced.references value).ids }

/-- Binds a name to a live instance in the innermost scope. -/
def bind (name : String) (id : RefId) : Operation α Unit := do
  unless (← get).isLive id do throw (.freed id)
  storeInnermost name id

/-- Allocates a value and binds a name to it in the scope where the name was found. What the name was
    bound to stays as it is; if that is a constant, the name keeps it. -/
def reassign (name : String) (value : α) (deps : RefSet) : Operation α RefId := do
  match (← get).find? name with
  | none => throw (.unboundName name)
  | some (inside, old) =>
    if ((← get).instance? old).any (·.constant) then throw (.constReassignment name old)
    let id ← nextReference
    insert id ⟨value, deps, false⟩
    modify fun memory => { memory with scopes := memory.scopes.modify inside (·.store name id) }
    return id

/-- Makes a live instance depend on a reference. -/
def addDependency (owner dep : RefId) : Operation α Unit := do
  unless (← get).isLive owner do throw (.freed owner)
  modify (·.depend owner dep)

/-- Leaves the innermost scope, and collects if asked to. The global scope can be left too. -/
def pop (collecting : Bool) : Operation α Unit := do
  match (← get).scopes with
  | [] => throw .noScope
  | _ :: outer =>
    modify ({ · with scopes := outer })
    if collecting then modify (·.collect.2)

/-- Leaves the innermost scope, and collects if the memory is made to. -/
def popDefault : Operation α Unit := do
  pop (← get).collectOnPop

/-- Removes an instance, and gives back its value if it was live. -/
def free (id : RefId) : Operation α α := do
  let removed := (← get).instance? id
  modify fun memory => { memory with instances := Memory.without id memory.instances }
  match removed with
  | none => throw (.freed id)
  | some removed => return removed.value

end Operation
end CommandScript
