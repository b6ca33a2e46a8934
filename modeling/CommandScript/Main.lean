import CommandScript.CommandLine.Report

/-! The command line: prints the tokens of scripts. -/
namespace CommandScript.CommandLine

/-- What is printed when help is asked for. -/
def usage : String :=
  "Prints the tokens of scripts\n\n" ++
  "Usage: tokens [-v|-q] [--format plain|debug] [--skip-synthetic] [source file]...\n\n" ++
  "Reads standard input if no source is given, or for `-`"

/-- What is said of arguments that cannot be read. -/
def UsageError.message : UsageError → String
  | unknownArgument => "unexpected argument"
  | invalidValue => "invalid or missing value"
  | conflict => "arguments that cannot be used together"
  | tooManyValues => "unexpected value"
  | outOfRange => "option repeated too often"

/-- Everything that is left to read. -/
partial def readRest (stream : IO.FS.Stream) (sofar : String) : IO String := do
  let line ← stream.getLine
  if line.isEmpty then pure sofar else readRest stream (sofar ++ line)

/-- The files among these paths that can be read, with their texts. -/
def readFiles (paths : List String) : IO (List (String × String)) :=
  paths.filterMapM fun (path : String) => do
    try
      let text ← IO.FS.readFile path
      pure (some (path, text))
    catch _ => pure none

/-- Reads the sources, prints the report on them and gives the exit code. -/
def runWith (options : Options) : IO UInt32 := do
  let files ← readFiles (options.sources.filterMap id)
  let standardInput ←
    if options.sources.contains none then readRest (← IO.getStdin) "" else pure ""
  let report := Report.ofSources options.style ⟨standardInput, (files.lookup ·)⟩ options.sources
  report.output.forM IO.println
  report.errors.forM IO.eprintln
  report.failure.forM fun failure => IO.eprintln ("Error: " ++ failure)
  pure report.code.toUInt32

end CommandScript.CommandLine

open CommandScript.CommandLine in
def main (arguments : List String) : IO UInt32 := do
  match Options.parse arguments with
  | .ok options => runWith options
  | .error .help => IO.println usage; pure 0
  | .error .version => IO.println "tokens 0.1.0"; pure 0
  | .error (.misuse error) =>
    IO.eprintln ("error: " ++ error.message)
    IO.eprintln usage
    pure 2
