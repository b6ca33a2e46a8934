/-!
Numbers as written in decimal digits, signed integers of 64 bits, and binary
floating-point numbers of 64 bits, by their bits: a sign, an exponent of 11 bits and
a fraction of 52. Reading rounds the written number to the nearest one, a tie to the
even fraction. Writing uses the fewest digits that read back, of those the nearest to
the number, and never an exponent.
-/
namespace CommandScript

/-! ## Decimal digits -/

namespace Number

/-- The value of decimal digits, the most significant first. -/
def digitsValue (digits : List Char) : Nat :=
  digits.foldl (fun value digit => 10 * value + (digit.toNat - '0'.toNat)) 0

/-- Whether a sign says minus, and what follows the sign, if there is one. -/
def splitSign : List Char → Bool × List Char
  | '-' :: rest => (true, rest)
  | '+' :: rest => (false, rest)
  | chars => (false, chars)

/-- The value of one or more digits and nothing else. -/
def readDigits? (chars : List Char) : Option Nat :=
  if chars.isEmpty || !chars.all Char.isDigit then none else some (digitsValue chars)

/-- A signed number with one or more digits and nothing else. -/
def readSigned? (chars : List Char) : Option Int :=
  let (negative, digits) := splitSign chars
  (readDigits? digits).map fun value => if negative then -(value : Int) else value

/-- A signed number that fits 64 bits. -/
def readInt64? (text : String) : Option Int64 := do
  let value ← readSigned? text.toList
  if Int64.minValue.toInt ≤ value ∧ value ≤ Int64.maxValue.toInt then some (Int64.ofInt value) else none

/-- The digits of `value · 10 ^ exponent`, with a point if there are places behind it. -/
def positional (value : Nat) (exponent : Int) : String :=
  let digits := Nat.toDigits 10 value
  if 0 ≤ exponent then String.ofList (digits ++ List.replicate exponent.toNat '0')
  else
    let places := (-exponent).toNat
    let padded := List.replicate (places + 1 - digits.length) '0' ++ digits
    let whole := padded.length - places
    String.ofList (padded.take whole ++ '.' :: padded.drop whole)

end Number

/-! ## Floating-point numbers -/

/-- A floating-point number of 64 bits. -/
structure Double where
  bits : UInt64
deriving DecidableEq

namespace Double

/-- The bits of the exponent and the fraction. -/
def magnitude (x : Double) : Nat := x.bits.toNat % Nat.pow 2 63

def isNegative (x : Double) : Bool := Nat.pow 2 63 ≤ x.bits.toNat

/-- The exponent as it is stored. -/
def exponent (x : Double) : Nat := x.magnitude / Nat.pow 2 52

def fraction (x : Double) : Nat := x.magnitude % Nat.pow 2 52

/-- The stored exponent of what is no finite number. -/
def topExponent : Nat := Nat.pow 2 11 - 1

def isNaN (x : Double) : Bool := x.exponent == topExponent && x.fraction != 0

def isInfinite (x : Double) : Bool := x.exponent == topExponent && x.fraction == 0

def isZero (x : Double) : Bool := x.magnitude == 0

/-- Equality of numbers: NaN differs from itself, and the two zeros are equal. -/
def equal (a b : Double) : Bool :=
  !a.isNaN && !b.isNaN && (a.bits == b.bits || (a.isZero && b.isZero))

def ofMagnitude (negative : Bool) (magnitude : Nat) : Double :=
  ⟨.ofNat (magnitude + if negative then Nat.pow 2 63 else 0)⟩

def infinity (negative : Bool) : Double := ofMagnitude negative (topExponent * Nat.pow 2 52)

def nan (negative : Bool) : Double := ofMagnitude negative (topExponent * Nat.pow 2 52 + Nat.pow 2 51)

/-! ## Reading -/

/-- The whole number nearest to `num / den`; a tie goes to the even one. -/
def roundToEven (num den : Nat) : Nat :=
  let floor := num / den
  let twice := 2 * (num % den)
  if den < twice || (twice == den && floor % 2 == 1) then floor + 1 else floor

/-- `num / den` in units of `2 ^ exponent`, as a numerator and a denominator. -/
def inUnits (num den : Nat) (exponent : Int) : Nat × Nat :=
  (num * Nat.pow 2 (-exponent).toNat, den * Nat.pow 2 exponent.toNat)

/-- The exponent of the last of 53 bits of `num / den`, or the least exponent there is. -/
def unitExponent (num den : Nat) : Int :=
  let low : Int := (Nat.log2 num : Int) - Nat.log2 den - 53
  let (scaled, unit) := inUnits num den low
  max (-1074) (if Nat.pow 2 53 ≤ scaled / unit then low + 1 else low)

/-- The number nearest to `num / den`, for a positive `den`; a tie goes to the even fraction,
    and what is too large is infinite. -/
def ofRatio (negative : Bool) (num den : Nat) : Double :=
  let exponent := unitExponent num den
  let (scaled, unit) := inUnits num den exponent
  let magnitude := roundToEven scaled unit + (exponent + 1074).toNat * Nat.pow 2 52
  ofMagnitude negative (min magnitude (topExponent * Nat.pow 2 52))

/-- The number nearest to `digits · 10 ^ exponent`. No number of so many places that it has to
    be infinite or zero is computed in full. -/
def ofDecimal (negative : Bool) (digits : Nat) (exponent : Int) : Double :=
  let places := (Nat.toDigits 10 digits).length + exponent
  if digits = 0 ∨ places < -400 then ofMagnitude negative 0
  else if 400 < places then infinity negative
  else ofRatio negative (digits * Nat.pow 10 exponent.toNat) (Nat.pow 10 (-exponent).toNat)

/-- What may follow the digits of a number: nothing, or an exponent. -/
def readExponent? : List Char → Option Int
  | [] => some 0
  | c :: rest => if c = 'e' || c = 'E' then Number.readSigned? rest else none

/-- A number without its sign: digits with an optional point among or beside them, and an
    optional exponent. -/
def readUnsigned? (negative : Bool) (chars : List Char) : Option Double :=
  let whole := chars.takeWhile Char.isDigit
  let (fraction, rest) := match chars.dropWhile Char.isDigit with
    | '.' :: rest => (rest.takeWhile Char.isDigit, rest.dropWhile Char.isDigit)
    | rest => ([], rest)
  if whole.isEmpty && fraction.isEmpty then none
  else (readExponent? rest).map fun exponent =>
    ofDecimal negative (Number.digitsValue (whole ++ fraction)) (exponent - fraction.length)

/-- Reads a number, or the name of an infinity or of NaN in any case. -/
def read? (text : String) : Option Double :=
  let (negative, chars) := Number.splitSign text.toList
  let name := String.ofList (chars.map Char.toLower)
  if name = "inf" || name = "infinity" then some (infinity negative)
  else if name = "nan" then some (nan negative)
  else readUnsigned? negative chars

/-! ## Writing -/

/-- The numbers that are read as a given one, in units of `2 ^ exponent`: those between `low`
    and `high`, the ends included if `closed`. -/
structure Rounding where
  value : Nat
  low : Nat
  high : Nat
  closed : Bool
  exponent : Int

/-- The numbers that are read as a finite one. Below a power of two the neighbours are nearer. -/
def rounding (x : Double) : Rounding :=
  let lead := if x.exponent = 0 then 0 else Nat.pow 2 52
  let significand := x.fraction + lead
  { value := 4 * significand
    low := 4 * significand - if x.fraction = 0 && x.exponent != 0 then 1 else 2
    high := 4 * significand + 2
    closed := significand % 2 == 0
    exponent := (max x.exponent 1 : Nat) - 1077 }

/-- The multiple of `10 ^ grid` next to the value that is read as it, if there is one. Of two
    the nearer is taken; from the middle it is the larger. -/
def Rounding.onGrid? (r : Rounding) (grid : Int) : Option Nat :=
  let scale := Nat.pow 2 r.exponent.toNat * Nat.pow 10 (-grid).toNat
  let unit := Nat.pow 2 (-r.exponent).toNat * Nat.pow 10 grid.toNat
  let floor := r.value * scale / unit
  let inside (edge point : Nat) : Bool := edge < point || (r.closed && edge == point)
  let down := inside (r.low * scale) (floor * unit)
  let up := inside ((floor + 1) * unit) (r.high * scale)
  let lower := 2 * (r.value * scale - floor * unit) < unit
  if down && (lower || !up) then some floor
  else if up then some (floor + 1)
  else none

/-- The grids of powers of ten, from one too coarse for every finite number to one that is fine
    enough. -/
def grids : List Int := (List.range 660).map fun (places : Nat) => 310 - (places : Int)

/-- The fewest digits that are read as a finite number other than zero, and their exponent. -/
def shortest? (x : Double) : Option (Nat × Int) :=
  grids.findSome? fun grid => (x.rounding.onGrid? grid).map (·, grid)

/-- A number in the fewest digits, without an exponent. -/
protected def toString (x : Double) : String :=
  if x.isNaN then "NaN"
  else
    (if x.isNegative then "-" else "") ++
      if x.isInfinite then "inf"
      else if x.isZero then "0"
      else match x.shortest? with
        | some (digits, grid) => Number.positional digits grid
        | none => "0"

instance : ToString Double := ⟨Double.toString⟩

end Double
end CommandScript
