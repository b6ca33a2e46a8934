import CommandScript.Text.LowerCase

/-! What the unit behind a number measures. -/
namespace CommandScript

/-- What a unit measures. -/
inductive Quantity
  | size
  | time
deriving DecidableEq

namespace Quantity

def label : Quantity → String
  | size => "size"
  | time => "time"

def ofLabel? (label : String) : Option Quantity := [size, time].find? (·.label == label)

instance : ToString Quantity := ⟨label⟩

/-- The known units, in lower case. -/
def units : List (String × Quantity) :=
  [("b", size), ("kb", size), ("mb", size), ("gb", size), ("tb", size), ("pb", size),
    ("kib", size), ("mib", size), ("gib", size), ("tib", size), ("pib", size),
    ("ns", time), ("us", time), ("ms", time), ("sec", time), ("min", time), ("hr", time),
    ("day", time), ("wk", time)]

/-- What a unit measures. Its case does not matter. -/
def ofUnit? (unit : String) : Option Quantity := units.lookup (Text.lowerCase unit)

/-- What is said of a word that is no unit. -/
def unknownMessage (unit : String) : String := "unknown unit: " ++ unit

end Quantity
end CommandScript
