import TextMacros.Editor.Command
import TextMacros.Expansion
import TextMacros.Files
import TextMacros.Prompt.Terminal

/-!
# The editor

An editing session holds a buffer of lines. Each line that is typed is either added to the buffer or
performed as a command; the session ends with a command to quit, or with the input. Expanding the
buffer leaves it as it is, and each expansion begins afresh. A question that is asked during an
expansion takes its reply from the lines that follow the command.
-/

namespace TextMacros

/-- The buffer and the settings of an editing session. -/
structure Session where
  /-- The lines of the buffer. -/
  lines : List Text
  /-- The settings of every expansion. -/
  settings : Settings

namespace Session

/-- A session with an empty buffer. -/
def ofSettings (settings : Settings) : Session := ⟨[], settings⟩

/-- The buffer as one text. -/
def text (session : Session) : Text := Text.ofLines session.lines

/-- Adds a line to the buffer. -/
def pushLine (session : Session) (line : Text) : Session :=
  { session with lines := session.lines ++ [line] }

/-- Empties the buffer. -/
def clear (session : Session) : Session := { session with lines := [] }

/-- Replaces the buffer by the lines of a file. -/
def openFile (session : Session) (files : Files) (path : Text) : Except AccessError Session :=
  (files.readText path).map fun text => { session with lines := text.lines }

/-- The files after the buffer is written to one of them. -/
def saveFile (session : Session) (files : Files) (path : Text) : Except AccessError Files :=
  files.write path session.text.bytes

/-- Expands the buffer. -/
def expand {State : Type} (session : Session) (prompt : Prompt State) (retriever : Retriever)
    (state : State) (journal : Journal) : Outcome State :=
  expandDocument session.settings prompt retriever session.text state journal

end Session

/-- Something that the editor reports beside its output. -/
inductive Notice where
  /-- A file could not be read into the buffer. -/
  | couldNotOpen (path : Text) (cause : AccessError)
  /-- The buffer could not be written to a file. -/
  | couldNotSave (path : Text) (cause : AccessError)
  /-- The buffer could not be expanded. -/
  | expansionFailed (failure : Failure)
  /-- The input could not be read on. -/
  | inputFailed (cause : AccessError)
deriving DecidableEq

/-- The notice in words; a failed expansion is told by its diagnostic code. -/
def Notice.describe : Notice → String
  | .couldNotOpen path cause => s!"Could not open {path.string}: {cause.describe}"
  | .couldNotSave path cause => s!"Could not save {path.string}: {cause.describe}"
  | .expansionFailed failure => failure.cause.code
  | .inputFailed cause => s!"Error reading input: {cause.describe}"

/-- An editing session with everything that it changes, the terminal apart. -/
structure Desk where
  /-- The buffer and the settings. -/
  session : Session
  /-- The reachable files. -/
  files : Files
  /-- What the editor has printed. -/
  output : Text
  /-- What the editor has reported. -/
  notices : List Notice
  /-- What has happened. -/
  journal : Journal

namespace Desk

/-- What the editor prints when it starts. -/
def banner : String :=
  "adaptex editor\nType document lines; :run expands the buffer, :help lists commands.\n"

/-- The list of commands. -/
def help : String :=
  "Editor commands:\n" ++
    "  :run, :r          Expand the buffer and print the result\n" ++
    "  :show             Print the buffer\n" ++
    "  :clear, :c        Empty the buffer\n" ++
    "  :open, :o FILE    Replace the buffer with a file\n" ++
    "  :save, :s FILE    Write the buffer to a file\n" ++
    "  :help, :h         Show this help\n" ++
    "  :quit, :q         Leave the editor\n"

/-- The desk of a session that is about to start. -/
def ofSettings (settings : Settings) (files : Files) (journal : Journal) : Desk :=
  ⟨.ofSettings settings, files, banner.toList, [], journal⟩

/-- Prints a text. -/
def print (desk : Desk) (text : Text) : Desk := { desk with output := desk.output ++ text }

/-- Prints a line. -/
def printLine (desk : Desk) (line : Text) : Desk := desk.print (line ++ ['\n'])

/-- Reports something. -/
def notify (desk : Desk) (notice : Notice) : Desk :=
  { desk with notices := desk.notices ++ [notice] }

/-- Adds a typed line to the buffer. -/
def pushLine (desk : Desk) (line : Text) : Desk :=
  { desk with session := desk.session.pushLine line }

/-- Prints the output of an expansion, or reports why there is none. -/
def finish {State : Type} (desk : Desk) (outcome : Outcome State) : Desk :=
  let desk := { desk with journal := outcome.journal }
  match outcome.result with
  | .ok output => desk.printLine output
  | .error failure => desk.notify (.expansionFailed failure)

/-- Performs a command that needs no terminal; the others change nothing. -/
def perform (desk : Desk) : Command → Desk
  | .run | .quit => desk
  | .clear => { desk with session := desk.session.clear }.printLine "Buffer cleared.".toList
  | .openFile path =>
    match desk.session.openFile desk.files path with
    | .ok session =>
      { desk with session }.printLine
        s!"Read {session.lines.length} line(s) from {path.string}.".toList
    | .error cause => desk.notify (.couldNotOpen path cause)
  | .saveFile path =>
    match desk.session.saveFile desk.files path with
    | .ok files => { desk with files }.printLine s!"Saved {path.string}.".toList
    | .error cause => desk.notify (.couldNotSave path cause)
  | .showBuffer => desk.printLine desk.session.text
  | .showHelp => desk.print help.toList
  | .faulty fault =>
    desk.printLine s!"{fault.describe}. Type :help for available commands.".toList

/-- Reads and performs lines until the session ends. The texts at locations are found among the
files as they are at the time. A line that is no text ends the session with a failure. -/
def run (retriever : Files → Retriever) (desk : Desk) (terminal : Terminal) :
    Except AccessError Unit × Desk × Terminal :=
  match _ahead : terminal.input with
  | [] => (.ok (), desk, terminal)
  | encoded :: rest =>
    let behind : Terminal.Within rest := ⟨{ terminal with input := rest }, List.suffix_refl rest⟩
    match Text.ofBytes? encoded with
    | none => (.error .invalidEncoding, desk, behind.val)
    | some line =>
      match Command.parse? line.trimLineEnd with
      | none => run retriever (desk.pushLine line.trimLineEnd) behind.val
      | some .quit => (.ok (), desk, behind.val)
      | some .run =>
        let outcome := desk.session.expand (Terminal.promptWithin rest) (retriever desk.files)
          behind desk.journal
        run retriever (desk.finish outcome) outcome.prompt.val
      | some command => run retriever (desk.perform command) behind.val
termination_by terminal.input.length
decreasing_by
  · simp [_ahead]
  · rw [_ahead]
    exact Nat.lt_succ_of_le outcome.prompt.property.length_le
  · simp [_ahead]

end Desk
end TextMacros
