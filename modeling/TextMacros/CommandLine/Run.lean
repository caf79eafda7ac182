import TextMacros.CommandLine.Arguments
import TextMacros.Editor
import TextMacros.Settings.Load

/-!
# Runs of the program

The program performs the action of its command line: it expands files as one document, opens the
editor, or lists the primitives. Its run is a function of the files it can reach and of its input,
for whatever readers of the formats of settings. Settings come from a file when one is named, and
the limit of nesting from its flag when it is given. A failed expansion writes nothing: the output,
or the file that takes its place, is written after the whole document is expanded.
-/

namespace TextMacros
namespace CommandLine

/-- Why the program failed. -/
inductive ProgramError where
  /-- The settings could not be loaded. -/
  | settings (error : SettingsError)
  /-- An input file could not be read. -/
  | unreadable (path : Text) (cause : AccessError)
  /-- The output file could not be written. -/
  | unwritable (path : Text) (cause : AccessError)
  /-- The document could not be expanded. -/
  | expansion (failure : Failure)
deriving DecidableEq

/-- The failure in words, followed by its cause. -/
def ProgramError.explain : ProgramError → String
  | .settings error => error.explain
  | .unreadable path cause => s!"could not read '{path.string}': {cause.describe}"
  | .unwritable path cause => s!"could not write '{path.string}': {cause.describe}"
  | .expansion failure => failure.cause.message

/-- What a run of the program leaves behind. -/
structure Run where
  /-- Whether it succeeded. -/
  result : Except ProgramError Unit
  /-- What it printed. -/
  output : Text
  /-- What its prompt showed. -/
  shown : List UInt8
  /-- What the editor reported. -/
  notices : List Notice
  /-- The files afterwards. -/
  files : Files
  /-- What has happened. -/
  journal : Journal

/-- Whatever the program depends on. -/
structure Surroundings where
  /-- The reachable files. -/
  files : Files
  /-- The input. -/
  input : List UInt8
  /-- Whether someone answers at the input. -/
  interactive : Bool
  /-- The text at each location of the network. -/
  network : Retriever

namespace Surroundings

/-- Finds texts on the network and in the files, as the files are at the time. -/
def retriever (surroundings : Surroundings) (files : Files) : Retriever :=
  .routed surroundings.network (.ofFiles files none)

/-- The terminal at the input. -/
def terminal (surroundings : Surroundings) : Terminal :=
  .ofInput surroundings.input surroundings.interactive

/-- A run that ends before anything is printed. -/
def ending (surroundings : Surroundings) (result : Except ProgramError Unit) (journal : Journal) :
    Run :=
  ⟨result, [], [], [], surroundings.files, journal⟩

end Surroundings

/-- The settings of the program. -/
def loadSettings (formats : SettingsFormats) (files : Files) (config? : Option Text)
    (maxDepth? : Option Nat) : Observed (Except SettingsError Settings) :=
  let loaded := match config? with
    | some path => formats.load files path
    | none => ⟨.ok .default, []⟩
  ⟨loaded.value.map fun settings => { settings with maxDepth := maxDepth?.getD settings.maxDepth },
    loaded.entries⟩

/-- The texts of the input files, one after the other. -/
def readInputs (files : Files) : List Text → Except ProgramError Text
  | [] => .ok []
  | path :: paths => do
    let text ← (files.readText path).mapError (ProgramError.unreadable path)
    return text ++ (← readInputs files paths)

/-- The label of the document that some files make. -/
def sourceName (inputs : List Text) : Text := Text.join " + ".toList inputs

/-- Delivers an expanded document: to a file, or to the output. -/
def deliver (files : Files) (output? : Option Text) (expanded : Text) :
    Except ProgramError (Text × Files) :=
  match output? with
  | none => .ok (expanded, files)
  | some path => do
    let files ← (files.write path expanded.bytes).mapError (ProgramError.unwritable path)
    return (s!"wrote {expanded.size} bytes to {path.string}\n".toList, files)

/-- Expands the texts of some files as one document. -/
def expandFiles (surroundings : Surroundings) (settings : Settings) (inputs : List Text)
    (output? : Option Text) (batch : Bool) (journal : Journal) : Run :=
  match readInputs surroundings.files inputs with
  | .error error => surroundings.ending (.error error) journal
  | .ok document =>
    let prompt := if batch then Prompt.silent else Terminal.prompt
    let outcome := expandDocument { settings with sourceName := sourceName inputs } prompt
      (surroundings.retriever surroundings.files) document surroundings.terminal journal
    let shown := outcome.prompt.output.bytes
    match outcome.result.mapError ProgramError.expansion >>=
        deliver surroundings.files output? with
    | .error error => ⟨.error error, [], shown, [], surroundings.files, outcome.journal⟩
    | .ok (output, files) => ⟨.ok (), output, shown, [], files, outcome.journal⟩

/-- Runs the editor. -/
def edit (surroundings : Surroundings) (settings : Settings) (journal : Journal) : Run :=
  let (result, desk, terminal) := Desk.run surroundings.retriever
    (.ofSettings settings surroundings.files journal) surroundings.terminal
  let desk := match result with
    | .ok _ => desk
    | .error cause => desk.notify (.inputFailed cause)
  ⟨.ok (), desk.output, terminal.output.bytes, desk.notices, desk.files, desk.journal⟩

/-- A text with blanks behind it up to a width. -/
def padded (width : Nat) (text : Text) : Text :=
  text ++ List.replicate (width - text.length) ' '

/-- The list of the primitives, one in a line, with arity and summary. -/
def primitiveList : Text :=
  Primitive.all.flatMap fun primitive =>
    [' ', ' '] ++ padded 20 primitive.name ++ [' '] ++
      padded 12 primitive.arity.describe.toList ++ [' '] ++ primitive.summary.toList ++ ['\n']

/-- Performs the action of a command line. -/
def run (formats : SettingsFormats) (surroundings : Surroundings) (arguments : Arguments) : Run :=
  let ⟨loaded, entries⟩ :=
    loadSettings formats surroundings.files arguments.config? arguments.maxDepth?
  let journal := entries.toArray
  match loaded with
  | .error error => surroundings.ending (.error (.settings error)) journal
  | .ok settings =>
    match arguments.action with
    | .expand inputs output? batch =>
      expandFiles surroundings settings inputs output? batch journal
    | .editor => edit surroundings settings journal
    | .primitives => { surroundings.ending (.ok ()) journal with output := primitiveList }

/-- What the program reports when it fails. -/
def ProgramError.report (error : ProgramError) : Text := s!"error: {error.explain}\n".toList

end CommandLine
end TextMacros
