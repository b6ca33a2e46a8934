import CommandScript.Entries
import CommandScript.Memory.RefSet
import CommandScript.Number.Double

/-!
Values that hold references to allocations, nested to any depth, and the set of the
references that a value holds.
-/
namespace CommandScript

/-- Values whose references can be listed. -/
class Traced (α : Type) where
  references : α → RefSet

/-- The ways to hold values in a row. -/
inductive Sequence
  | vector
  | deque
  | tuple
  | array
deriving DecidableEq

/-- The ways to hold values as a set, or as the keys of a map: by their order, or by their hashes. -/
inductive Collection
  | ordered
  | hashed
deriving DecidableEq

/-- A value: nothing, a literal, a reference, or a collection of values. -/
inductive Value
  | nothing
  | bool (value : Bool)
  | int (value : Int)
  | float (value : Double)
  | char (value : Char)
  | text (value : String)
  | ref (id : RefId)
  | absent
  | present (value : Value)
  | sequence (form : Sequence) (values : List Value)
  | set (form : Collection) (values : List Value)
  | map (form : Collection) (entries : List (Value × Value))

namespace Value

/-- A set of references. -/
def refs (form : Collection) (ids : List RefId) : Value := .set form (ids.map .ref)

/-- A map from names. -/
def named (fields : List (String × Value)) : Value :=
  .map .ordered (fields.map fun (name, value) => (.text name, value))

/-- A map from references. Of the values given for one key the last is held. -/
def ofEntries (entries : List (RefId × Value)) : Value :=
  .map .hashed ((Entries.ofList entries).map fun (key, value) => (.ref key, value))

mutual

/-- The references found so far, and those that occur in a value. The keys of a map count. -/
def trace (found : RefSet) : Value → RefSet
  | ref id => found.insert id
  | present value => trace found value
  | sequence _ values | set _ values => traceAll found values
  | map _ entries => traceEntries found entries
  | nothing | bool _ | int _ | float _ | char _ | text _ | absent => found

def traceAll (found : RefSet) : List Value → RefSet
  | [] => found
  | value :: rest => traceAll (trace found value) rest

def traceEntries (found : RefSet) : List (Value × Value) → RefSet
  | [] => found
  | (key, value) :: rest => traceEntries (trace (trace found key) value) rest

end

/-- The references that a value holds. -/
def references (value : Value) : RefSet := trace .empty value

instance : Traced Value := ⟨references⟩

end Value
end CommandScript
