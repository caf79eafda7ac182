import TextMacros.Text.Blank

/-!
# Editor commands

In the editor a line that begins with a colon, blanks aside, is a command; any other line belongs to
the document. A command is a verb, in any case and possibly abbreviated to its first letter, and for
some verbs a file name.
-/

namespace TextMacros

/-- Why a line that begins with a colon is no command. -/
inductive CommandFault where
  /-- The verb needs a file name behind it. -/
  | missingFileName (verb : Text)
  /-- There is no such verb. -/
  | unknownVerb (verb : Text)
deriving DecidableEq

/-- The fault in words. -/
def CommandFault.describe : CommandFault → String
  | .missingFileName verb => s!":{verb.string} needs a file name"
  | .unknownVerb verb => s!"unknown command ':{verb.string}'"

/-- What the editor is told to do. -/
inductive Command where
  /-- Expand the buffer. -/
  | run
  /-- Empty the buffer. -/
  | clear
  /-- Replace the buffer by the lines of a file. -/
  | openFile (path : Text)
  /-- Write the buffer to a file. -/
  | saveFile (path : Text)
  /-- Print the buffer. -/
  | showBuffer
  /-- Print the commands. -/
  | showHelp
  /-- Leave the editor. -/
  | quit
  /-- Nothing that the editor understands. -/
  | faulty (fault : CommandFault)
deriving DecidableEq

namespace Command

/-- The command with a verb and what stands behind it. -/
def ofVerb (verb argument : Text) : Command :=
  let withPath (command : Text → Command) : Command :=
    if argument.isEmpty then faulty (.missingFileName verb) else command argument
  match Text.string (verb.map Char.toLower) with
  | "run" | "r" => run
  | "clear" | "c" => clear
  | "open" | "o" => withPath openFile
  | "save" | "s" => withPath saveFile
  | "show" => showBuffer
  | "help" | "h" => showHelp
  | "quit" | "q" => quit
  | _ => faulty (.unknownVerb verb)

/-- The command that a line gives, unless it belongs to the document. -/
def parse? (line : Text) : Option Command :=
  match line.trim with
  | ':' :: command =>
    let verb := command.takeWhile fun symbol => !isBlank symbol
    some (ofVerb verb (Text.trim (command.drop verb.length)))
  | _ => none

end Command
end TextMacros
