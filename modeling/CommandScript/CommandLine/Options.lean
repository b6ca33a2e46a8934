import CommandScript.CommandLine.Listing

/-!
The arguments of the command line. They are read from left to right, and the first
fault counts. The value of `--format` and the names of sources are looked at only
when the next option that exists, or the end, shows that they are complete, so a
fault of a later argument that is no option at all comes before theirs.
-/
namespace CommandScript.CommandLine

/-- What can be wrong with arguments. -/
inductive UsageError
  | unknownArgument
  /-- a value is missing or is none of those that can be given -/
  | invalidValue
  /-- two options exclude each other, or one is given twice -/
  | conflict
  /-- a value for an option that takes none -/
  | tooManyValues
  /-- an option is repeated more often than it counts -/
  | outOfRange
deriving DecidableEq

/-- Why nothing is read. -/
inductive Stop
  | help
  | version
  | misuse (error : UsageError)
deriving DecidableEq

/-- How much is logged. -/
inductive Level
  | off
  | error
  | info
  | debug
  | trace
deriving DecidableEq

/-- The level after so many requests for more and for less. -/
def Level.ofCounts (verbose quiet : Nat) : Level :=
  let balance : Int := (verbose : Int) - quiet
  if balance ≤ -2 then .off
  else if balance = -1 then .error
  else if balance = 0 then .info
  else if balance = 1 then .debug
  else .trace

/-- What the arguments ask for. -/
structure Options where
  style : Style
  level : Level
  /-- the paths of the sources, in order; `none` is the standard input -/
  sources : List (Option String)
deriving DecidableEq

/-- What was read last and may not be complete. -/
inductive Pending
  | nothing
  | format (value : Option String)
  | paths (paths : List String)

/-- The arguments read so far. -/
structure Reading where
  format : Option Format := none
  skipSynthetic : Bool := false
  verbose : Nat := 0
  quiet : Nat := 0
  paths : List String := []
  pending : Pending := .nothing

namespace Reading

/-- Takes a value for the format. It can be given once. -/
def setFormat (reading : Reading) (value : String) : Except Stop Reading :=
  if reading.format.isSome then .error (.misuse .conflict)
  else match Format.ofLabel? value with
  | some format => .ok { reading with format := some format }
  | none => .error (.misuse .invalidValue)

/-- Takes what is pending as complete. -/
def settle (reading : Reading) : Except Stop Reading :=
  let settled := { reading with pending := .nothing }
  match reading.pending with
  | .nothing => .ok settled
  | .format none => .error (.misuse .invalidValue)
  | .format (some value) => settled.setFormat value
  | .paths paths =>
    if paths.contains "" then .error (.misuse .invalidValue)
    else .ok { settled with paths := settled.paths ++ paths }

/-- The most often that an option that counts can be given. -/
def countLimit : Nat := 2

/-- Counts an option once more. -/
def countUp (count : Nat) : Except Stop Nat :=
  if count < countLimit then .ok (count + 1) else .error (.misuse .outOfRange)

/-- Reads the letters behind a single hyphen, each an option. -/
def letters (reading : Reading) : List Char → Except Stop Reading
  | [] => .ok reading
  | letter :: rest => do
    let next ←
      if letter = 'v' then do
        let settled ← reading.settle
        let verbose ← countUp settled.verbose
        pure { settled with verbose }
      else if letter = 'q' then do
        let settled ← reading.settle
        let quiet ← countUp settled.quiet
        pure { settled with quiet }
      else if letter = 'h' then do
        let _ ← reading.settle
        throw .help
      else if letter = 'V' then do
        let _ ← reading.settle
        throw .version
      else throw (.misuse .unknownArgument)
    letters next rest

/-- Reads an option with a name, and the value behind an equals sign if there is one. -/
def named (reading : Reading) (name : String) (value : Option String) : Except Stop Reading :=
  if name = "format" then do
    let settled ← reading.settle
    match value with
    | some value => settled.setFormat value
    | none => pure { settled with pending := .format none }
  else if name = "skip-synthetic" || name = "help" || name = "version" then
    if value.isSome then throw (.misuse .tooManyValues)
    else do
      let settled ← reading.settle
      if name = "help" then throw .help
      else if name = "version" then throw .version
      else if settled.skipSynthetic then throw (.misuse .conflict)
      else pure { settled with skipSynthetic := true }
  else throw (.misuse .unknownArgument)

/-- Reads the path of a source. -/
def path (reading : Reading) (path : String) : Except Stop Reading :=
  match reading.pending with
  | .paths paths => .ok { reading with pending := .paths (paths ++ [path]) }
  | _ => do
    let settled ← reading.settle
    pure { settled with pending := .paths [path] }

/-- Reads an argument that is neither an option nor the end of the options. -/
def plain (reading : Reading) (argument : String) : Except Stop Reading :=
  match reading.pending with
  | .format none => .ok { reading with pending := .format (some argument) }
  | _ => reading.path argument

/-- Reads all arguments. Behind `--` every argument is a path. -/
def arguments (reading : Reading) : List String → Except Stop Reading
  | [] => .ok reading
  | argument :: rest => do
    match argument.toList with
    | ['-', '-'] => rest.foldlM path reading
    | '-' :: '-' :: option =>
      let name := String.ofList (option.takeWhile (· != '='))
      let value := match option.dropWhile (· != '=') with
        | [] => none
        | _ :: value => some (String.ofList value)
      arguments (← reading.named name value) rest
    | '-' :: letter :: more => arguments (← reading.letters (letter :: more)) rest
    | _ => arguments (← reading.plain argument) rest

/-- What complete arguments ask for. -/
def options (reading : Reading) : Except Stop Options :=
  if 0 < reading.verbose && 0 < reading.quiet then .error (.misuse .conflict)
  else .ok {
    style := ⟨reading.format.getD .plain, reading.skipSynthetic⟩
    level := .ofCounts reading.verbose reading.quiet
    sources :=
      if reading.paths.isEmpty then [none]
      else reading.paths.map fun path => if path = "-" then none else some path }

end Reading

/-- Reads the arguments behind the name of the program. -/
def Options.parse (arguments : List String) : Except Stop Options := do
  let reading ← Reading.arguments {} arguments
  (← reading.settle).options

end CommandScript.CommandLine
