import TextMacros.CommandLine
import TextMacros.CommandLine.Demand

/-!
# The executable

The outer layer of the program: it supplies the words of the command line, the input and the files,
and carries out what the run leaves behind. The run itself is `CommandLine.execute`.
-/

namespace TextMacros
namespace CommandLine

/-- The name and version of the program. -/
def versionLine : String := "adaptex 0.1.0"

/-- How the program is used. -/
def usage : String :=
  "A text macro expander with adaptive delimiters.\n\n" ++
    "Usage: adaptex [OPTIONS] <COMMAND>\n\n" ++
    "Commands:\n" ++
    "  expand      Expand the concatenation of the input files\n" ++
    "  editor      Edit and expand a document in the terminal\n" ++
    "  primitives  List the primitives with their arity\n" ++
    "  help        Print this message\n\n" ++
    "Options:\n" ++
    "  -v, --verbose                Log more (-v info, -vv debug, -vvv trace)\n" ++
    "      --config <CONFIG>        Engine configuration file (JSON, or YAML for .yaml/.yml)\n" ++
    "      --max-depth <MAX_DEPTH>  Ceiling on nested expansions\n" ++
    "  -h, --help                   Print help\n" ++
    "  -V, --version                Print version\n\n" ++
    "Options of expand:\n" ++
    "  -i, --input <INPUTS>...      Input files, concatenated in the order given\n" ++
    "  -o, --output <OUTPUT>        Write the result here instead of stdout\n" ++
    "      --batch                  Never prompt\n"

/-- Whether a directory is there. -/
def directoryExists (path : Text) : IO Bool := do
  try
    let _ ← IO.FS.realPath (Text.string (path ++ "/.".toList))
    return true
  catch _ => return false

/-- Adds what a path leads to. -/
def supplyPath (files : Files) (path : Text) : IO Files := do
  let route := routeOf files.workingDirectory path
  if path.isEmpty || path.contains '\x00' then
    return files
  if ← directoryExists (pathOf route) then
    return { files with directories := route :: files.directories }
  try
    let content ← IO.FS.readBinFile path.string
    return files.put route content.toList
  catch _ =>
    if ← directoryExists (pathOf route.dropLast) then
      return { files with directories := route.dropLast :: files.directories }
    else
      return files

/-- Runs the program with ever more files, until a run demands none that was not supplied. -/
partial def runSupplied (surroundings : Surroundings) (arguments : Arguments)
    (supplied : List Text) : IO (Files × Run) := do
  let run := execute surroundings arguments
  let demanded := (demandedPaths surroundings arguments run).filter (· ∉ supplied)
  if demanded.isEmpty then
    return (surroundings.files, run)
  let files ← demanded.foldlM supplyPath surroundings.files
  runSupplied { surroundings with files } arguments (demanded ++ supplied)

/-- What is printed of a failure. -/
def failureLines (failure : Failure) : String :=
  let help := match failure.cause.help? with
    | some help => s!"  help: {help}\n"
    | none => ""
  s!"{failure.cause.code}\n  {failure.cause.message}\n" ++
    s!"  in {failure.fragment.origin.label.string} at byte {failure.span.offset}: " ++
    s!"{failure.cause.label}\n{help}"

/-- What is printed of a notice. -/
def noticeLines : Notice → String
  | .expansionFailed failure => failureLines failure
  | notice => s!"{notice.describe}\n"

/-- The input of an action, read to its end. -/
def readInput (arguments : Arguments) (interactive : Bool) : IO (List UInt8) := do
  let needed := match arguments.action with
    | .expand _ _ batch => interactive && !batch
    | .editor => true
    | .primitives => false
  if needed then
    return (← (← IO.getStdin).readBinToEnd).toList
  return []

/-- Performs a command line and returns the exit status. -/
def perform (arguments : Arguments) : IO UInt32 := do
  let input ← IO.getStdin
  let interactive ← input.isTty
  let workingDirectory := routeOf [] (← IO.currentDir).toString.toList
  let surroundings : Surroundings :=
    ⟨⟨workingDirectory, [], []⟩, ← readInput arguments interactive, interactive, .offline⟩
  let (before, run) ← runSupplied surroundings arguments []
  for (route, content) in changes before run.files do
    IO.FS.writeBinFile (pathOf route).string content.toByteArray
  let errors ← IO.getStderr
  let asked := (Severity.ofVerbosity? arguments.verbose).getD .warning
  for entry in run.journal do
    if entry.severity.shownAt asked then
      errors.putStr s!"[{entry.severity.describe}] {entry.message}\n"
  errors.write run.shown.toByteArray
  for notice in run.notices do
    errors.putStr (noticeLines notice)
  IO.print run.output.string
  match run.result with
  | .ok _ => return 0
  | .error (.expansion failure) =>
    errors.putStr (failureLines failure)
    return 1
  | .error error =>
    errors.putStr error.report.string
    return 1

end CommandLine
end TextMacros

open TextMacros.CommandLine in
/-- Runs the program. -/
def main (words : List String) : IO UInt32 := do
  match parse (words.map String.toList) with
  | .ok arguments => perform arguments
  | .error .helpRequested =>
    IO.print usage
    return 0
  | .error .versionRequested =>
    IO.println versionLine
    return 0
  | .error fault =>
    (← IO.getStderr).putStr s!"error: {fault.describe}\n\n{usage}"
    return fault.exitStatus.toUInt32
