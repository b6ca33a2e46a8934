import CommandScript.Memory.Value
import CommandScript.Text.Quoted

/-!
The memory of a running script: values, the scopes that name them, and the
collection of those that no name leads to. A value stays while it can be reached
from a name in some scope along dependencies of other values that are there.
-/
namespace CommandScript

/-- Names bound to references, in the order in which the names were first bound. -/
structure Scope where
  bindings : List (String × RefId) := []
deriving DecidableEq

namespace Scope

/-- The reference that a name is bound to. -/
def get? (scope : Scope) (name : String) : Option RefId := scope.bindings.lookup name

def contains (scope : Scope) (name : String) : Bool := (scope.get? name).isSome

/-- The references bound, in the order of their names. -/
def ids (scope : Scope) : List RefId := scope.bindings.map (·.2)

def size (scope : Scope) : Nat := scope.bindings.length

def isEmpty (scope : Scope) : Bool := scope.bindings.isEmpty

theorem mem_of_get? {scope : Scope} {name : String} {id : RefId} (bound : scope.get? name = some id) :
    (name, id) ∈ scope.bindings :=
  Entries.mem_of_lookup bound

/-- Binds a name, in place of what it was bound to before. -/
def store (scope : Scope) (name : String) (id : RefId) : Scope :=
  ⟨Entries.put name id scope.bindings⟩

theorem get?_store (scope : Scope) (name other : String) (id : RefId) :
    (scope.store name id).get? other = if other = name then some id else scope.get? other :=
  Entries.lookup_put

end Scope

/-- An allocated value. `deps` are the references that stay as long as it can be reached. -/
structure Instance (α : Type) where
  value : α
  deps : RefSet
  constant : Bool

/-- What can go wrong in memory. -/
inductive MemoryError
  | unboundName (name : String)
  | constReassignment (name : String) (id : RefId)
  | freed (id : RefId)
  | noScope
deriving DecidableEq

def MemoryError.message : MemoryError → String
  | unboundName name => Text.quoted name ++ " is not bound in any live scope"
  | constReassignment name id =>
    "can not reassign " ++ Text.quoted name ++ ", it is bound to the constant " ++ id.label
  | freed id => id.label ++ " has been freed"
  | noScope => "no scope is live"

/-- How much has been collected. -/
structure CollectionStats where
  collections : Nat := 0
  freed : Nat := 0
deriving DecidableEq

/-- What an allocation asks for besides its value. -/
structure Allocation where
  name : Option String := none
  deps : RefSet := .empty
  constant : Bool := false

/-- A memory. A new one has a single, global scope. -/
structure Memory (α : Type) where
  /-- the values that are live, in the order of their allocation -/
  instances : List (RefId × Instance α) := []
  /-- the scopes that are live, innermost first -/
  scopes : List Scope := [{}]
  nextId : RefId := 0
  /-- whether leaving a scope collects unless told otherwise -/
  collectOnPop : Bool := true
  stats : CollectionStats := {}

namespace Memory
variable {α : Type}

/-- The instances but the one with this reference. -/
def without (id : RefId) (instances : List (RefId × Instance α)) : List (RefId × Instance α) :=
  instances.filter (·.1 != id)

theorem length_without_lt {instances : List (RefId × Instance α)} {id : RefId} {found : Instance α}
    (present : instances.lookup id = some found) :
    (without id instances).length < instances.length := by
  induction instances with
  | nil => simp at present
  | cons entry rest ih =>
    have shorter := List.length_filter_le (·.1 != id) rest
    grind [without]

/-! ## Looking up -/

def instance? (memory : Memory α) (id : RefId) : Option (Instance α) := memory.instances.lookup id

def isLive (memory : Memory α) (id : RefId) : Bool := (memory.instance? id).isSome

def liveCount (memory : Memory α) : Nat := memory.instances.length

def depth (memory : Memory α) : Nat := memory.scopes.length

/-- The reference that a name is bound to in the innermost scope that binds it. -/
def binding? (memory : Memory α) (name : String) : Option RefId :=
  memory.scopes.findSome? (·.get? name)

/-- The innermost of some scopes that binds a name: how many scopes are inside it, and the reference
    that it binds the name to. -/
def findBinding? (name : String) : List Scope → Option (Nat × RefId)
  | [] => none
  | scope :: outer =>
    match scope.get? name with
    | some id => some (0, id)
    | none => (findBinding? name outer).map fun (inside, id) => (inside + 1, id)

/-- The innermost scope that binds a name, counted from the innermost one, and what it binds it to. -/
def find? (memory : Memory α) (name : String) : Option (Nat × RefId) := findBinding? name memory.scopes

/-- The reference that a name is bound to, or why there is none. -/
def resolve (memory : Memory α) (name : String) : Except MemoryError RefId :=
  match memory.binding? name with
  | some id => .ok id
  | none => .error (.unboundName name)

/-- A live instance, or why there is none. -/
def inspect (memory : Memory α) (id : RefId) : Except MemoryError (Instance α) :=
  match memory.instance? id with
  | some found => .ok found
  | none => .error (.freed id)

/-- The value of a live instance, or why there is none. -/
def get (memory : Memory α) (id : RefId) : Except MemoryError α := (·.value) <$> memory.inspect id

def getByName (memory : Memory α) (name : String) : Except MemoryError α :=
  memory.resolve name >>= memory.get

/-! ## Changing -/

/-- Lets one instance depend on one more reference. -/
def depend (memory : Memory α) (owner dep : RefId) : Memory α :=
  { memory with
    instances := memory.instances.map fun (id, held) =>
      (id, if id = owner then { held with deps := held.deps.insert dep } else held) }

/-! ## Collecting -/

/-- The instances that cannot be reached from the pending references. -/
def unreached (pending : List RefId) (instances : List (RefId × Instance α)) :
    List (RefId × Instance α) :=
  match pending with
  | [] => instances
  | id :: pending =>
    match _ : instances.lookup id with
    | none => unreached pending instances
    | some found => unreached (found.deps.ids ++ pending) (without id instances)
termination_by (instances.length, pending.length)
decreasing_by
  · exact .right _ (by simp)
  · exact .left _ _ (length_without_lt ‹_›)

/-- The references that some name is bound to. -/
def roots (memory : Memory α) : List RefId := memory.scopes.flatMap (·.ids)

/-- Removes the instances that no name leads to, and counts them. -/
def collect (memory : Memory α) : Nat × Memory α :=
  let garbage := (unreached memory.roots memory.instances).map (·.1)
  let instances := memory.instances.filter fun entry => !garbage.contains entry.1
  let freed := memory.instances.length - instances.length
  (freed, { memory with
    instances
    stats := ⟨memory.stats.collections + 1, memory.stats.freed + freed⟩ })

/-! ## Scopes -/

/-- Enters a new, empty scope. -/
def push (memory : Memory α) : Memory α := { memory with scopes := {} :: memory.scopes }

end Memory
end CommandScript
