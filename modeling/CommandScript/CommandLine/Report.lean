import CommandScript.CommandLine.Options

/-!
A run of the command line as a function of its arguments, the standard input and
the files that can be read.
-/
namespace CommandScript.CommandLine

/-- What a run can read. -/
structure Inputs where
  standardInput : String
  file? : String → Option String

/-- What a run prints. -/
structure Report where
  /-- what goes to the standard output, a line for each token -/
  output : List String := []
  /-- what is said of the sources with an error, in order -/
  errors : List String := []
  /-- why the run ended early -/
  failure : Option String := none
deriving DecidableEq

namespace Report

/-- The exit code: 0 if nothing went wrong. -/
def code (report : Report) : Nat :=
  if report.errors.isEmpty && report.failure.isNone then 0 else 1

/-- The report on a single source. -/
def ofSource (style : Style) (source : Source) : Report :=
  let (output, error) := source.listing style
  { output, errors := error.toList.map ("error: " ++ ·) }

/-- What is printed by one run and then by what follows it. -/
def followedBy (first second : Report) : Report :=
  { output := first.output ++ second.output
    errors := first.errors ++ second.errors
    failure := second.failure }

/-- The report on several sources. A source with an error does not keep the others from being
    read; one that cannot be read ends the run. The standard input can be read once. -/
def ofSources (style : Style) (inputs : Inputs) : List (Option String) → Report
  | [] => {}
  | none :: rest =>
    (ofSource style ⟨"<stdin>", inputs.standardInput⟩).followedBy
      (ofSources style { inputs with standardInput := "" } rest)
  | some path :: rest =>
    match inputs.file? path with
    | none => { failure := some ("could not read " ++ path) }
    | some text => (ofSource style ⟨path, text⟩).followedBy (ofSources style inputs rest)

end Report
end CommandScript.CommandLine
