import CommandScript.Memory.Operation

/-!
What a script can ask of its memory, as data, and the run of several requests, each on
the memory that the one before it left.
-/
namespace CommandScript

/-- Something asked of a memory. -/
inductive Request (α : Type)
  | allocate (value : α) (options : Allocation)
  | allocateTraced (value : α) (options : Allocation)
  | bind (name : String) (id : RefId)
  | resolve (name : String)
  | reassign (name : String) (value : α) (deps : RefSet)
  | addDependency (owner dep : RefId)
  | push
  | pop (collecting : Bool)
  | popDefault
  | collect
  | get (id : RefId)
  | getByName (name : String)
  | inspect (id : RefId)
  | free (id : RefId)
  | isLive (id : RefId)
  | collectsOnPop

/-- What a memory answers. -/
inductive Reply (α : Type)
  | done
  | reference (id : RefId)
  | value (value : α)
  | held (found : Instance α)
  | count (count : Nat)
  | flag (holds : Bool)
  | failed (error : MemoryError)

namespace Memory
variable {α : Type}

/-- The answer to an operation, and the memory that it leaves, whether it fails or not. -/
def carryOut {β : Type} (memory : Memory α) (reply : β → Reply α) (operation : Operation α β) :
    Reply α × Memory α :=
  match operation.run memory with
  | .ok result next => (reply result, next)
  | .error error next => (.failed error, next)

/-- A question that may have no answer. -/
def ask {β : Type} (memory : Memory α) (reply : β → Reply α) (outcome : Except MemoryError β) :
    Reply α × Memory α :=
  match outcome with
  | .ok result => (reply result, memory)
  | .error error => (.failed error, memory)

/-- The answer to a request, and the memory after it. -/
def perform [Traced α] (memory : Memory α) : Request α → Reply α × Memory α
  | .allocate value options => memory.carryOut .reference (.allocate value options)
  | .allocateTraced value options => memory.carryOut .reference (.allocateTraced value options)
  | .bind name id => memory.carryOut (fun _ => .done) (.bind name id)
  | .resolve name => memory.ask .reference (memory.resolve name)
  | .reassign name value deps => memory.carryOut .reference (.reassign name value deps)
  | .addDependency owner dep => memory.carryOut (fun _ => .done) (.addDependency owner dep)
  | .push => (.done, memory.push)
  | .pop collecting => memory.carryOut (fun _ => .done) (.pop collecting)
  | .popDefault => memory.carryOut (fun _ => .done) .popDefault
  | .collect => let (freed, next) := memory.collect; (.count freed, next)
  | .get id => memory.ask .value (memory.get id)
  | .getByName name => memory.ask .value (memory.getByName name)
  | .inspect id => memory.ask .held (memory.inspect id)
  | .free id => memory.carryOut .value (.free id)
  | .isLive id => (.flag (memory.isLive id), memory)
  | .collectsOnPop => (.flag memory.collectOnPop, memory)

/-- The answers to several requests in a row, each with the memory after it. -/
def trace [Traced α] (memory : Memory α) : List (Request α) → List (Reply α × Memory α)
  | [] => []
  | request :: rest =>
    let answered := memory.perform request
    answered :: trace answered.2 rest

end Memory
end CommandScript
