import TextMacros.Settings
import TextMacros.Text.Numeral

/-!
# Flags

The flags of the command line, where each may be given, how many values it takes, and what its
values mean. A flag has a long name, and some have a short one of one letter. Three flags may be
given on either side of the subcommand.
-/

namespace TextMacros
namespace CommandLine

/-- A part of the command line with flags of its own: what stands before the subcommand, and what
follows each subcommand. -/
inductive Level where
  /-- Before the subcommand. -/
  | program
  /-- Behind the subcommand that expands files. -/
  | expand
  /-- Behind the subcommand that opens the editor. -/
  | editor
  /-- Behind the subcommand that lists the primitives. -/
  | primitives
deriving DecidableEq

/-- The flags. -/
inductive Flag where
  /-- Asks for more detail each time it is given. -/
  | verbose
  /-- Names the settings file. -/
  | config
  /-- Sets the limit of nesting. -/
  | maxDepth
  /-- Asks for the usage. -/
  | help
  /-- Asks for the version. -/
  | version
  /-- Names the input files. -/
  | input
  /-- Names the output file. -/
  | output
  /-- Forbids questions. -/
  | batch
deriving DecidableEq

/-- How many values a flag takes. -/
inductive Capacity where
  /-- No value. -/
  | none
  /-- Exactly one value. -/
  | one
  /-- One value or more. -/
  | many
deriving DecidableEq

namespace Flag

/-- All flags. -/
def all : List Flag := [verbose, config, maxDepth, help, version, input, output, batch]

/-- The long name of a flag. -/
def longName : Flag → Text
  | verbose => "verbose".toList
  | config => "config".toList
  | maxDepth => "max-depth".toList
  | help => "help".toList
  | version => "version".toList
  | input => "input".toList
  | output => "output".toList
  | batch => "batch".toList

/-- The short name of a flag. -/
def shortName? : Flag → Option Char
  | verbose => some 'v'
  | help => some 'h'
  | version => some 'V'
  | input => some 'i'
  | output => some 'o'
  | config | maxDepth | batch => none

/-- How many values a flag takes. -/
def capacity : Flag → Capacity
  | verbose | help | version | batch => .none
  | config | maxDepth | output => .one
  | input => .many

/-- Whether a flag may be given at a level. -/
def allowedAt : Flag → Level → Bool
  | verbose, _ | config, _ | maxDepth, _ | help, _ => true
  | version, level => level = .program
  | input, level | output, level | batch, level => level = .expand

/-- The flag with a long name. -/
def ofLongName? (level : Level) (name : Text) : Option Flag :=
  all.find? fun flag => flag.allowedAt level ∧ flag.longName = name

/-- The flag with a short name. -/
def ofShortName? (level : Level) (letter : Char) : Option Flag :=
  all.find? fun flag => flag.allowedAt level ∧ flag.shortName? = some letter

end Flag

/-- Why the words of a command line are not followed. -/
inductive UsageFault where
  /-- The usage was asked for. -/
  | helpRequested
  /-- The version was asked for. -/
  | versionRequested
  /-- There are no words at all. -/
  | nothingGiven
  /-- There is no subcommand. -/
  | missingSubcommand
  /-- A word stands in the place of a subcommand and is none. -/
  | unknownSubcommand (word : Text)
  /-- A word is not understood. -/
  | unknownArgument (word : Text)
  /-- A flag is given twice that may be given once. -/
  | repeatedFlag (flag : Flag)
  /-- A flag has no value, or an empty one. -/
  | missingValue (flag : Flag)
  /-- The value of a flag does not have the form that it needs. -/
  | malformedValue (flag : Flag) (value : Text)
  /-- A flag has a value and takes none. -/
  | unneededValue (flag : Flag)
  /-- A flag is needed and not given. -/
  | missingFlag (flag : Flag)
deriving DecidableEq

/-- The fault in words. -/
def UsageFault.describe : UsageFault → String
  | .helpRequested => "the usage was asked for"
  | .versionRequested => "the version was asked for"
  | .nothingGiven | .missingSubcommand => "a subcommand is required"
  | .unknownSubcommand word => s!"unrecognized subcommand '{word.string}'"
  | .unknownArgument word => s!"unexpected argument '{word.string}' found"
  | .repeatedFlag flag =>
    s!"the argument '--{flag.longName.string}' cannot be used multiple times"
  | .missingValue flag => s!"a value is required for '--{flag.longName.string}'"
  | .malformedValue flag value =>
    s!"invalid value '{value.string}' for '--{flag.longName.string}'"
  | .unneededValue flag => s!"unexpected value for '--{flag.longName.string}'"
  | .missingFlag flag => s!"the argument '--{flag.longName.string}' is required"

/-- The exit status of the program. Whoever asks for the usage or version has not failed. -/
def UsageFault.exitStatus : UsageFault → Nat
  | .helpRequested | .versionRequested => 0
  | _ => 2

/-- What the flags at one level say. -/
structure Given where
  /-- How often more detail was asked for. -/
  verbose : Nat
  /-- The settings file. -/
  config? : Option Text
  /-- The limit of nesting. -/
  maxDepth? : Option Nat
  /-- The input files. -/
  inputs : List Text
  /-- The output file. -/
  output? : Option Text
  /-- Whether no question is asked. -/
  batch : Bool
deriving DecidableEq

namespace Given

/-- No flags. -/
def nothing : Given := ⟨0, none, none, [], none, false⟩

/-- The greatest count of a flag. -/
def countLimit : Nat := 255

/-- The number of nested fragments that a value allows. -/
def depthOf? (value : Text) : Option Nat :=
  let digits := match value with
    | '+' :: digits => digits
    | digits => digits
  (Numeral.natural? digits).filter (· < Settings.depthBound)

/-- A path, which must not be empty. -/
def path (flag : Flag) (value : Text) : Except UsageFault Text :=
  if value.isEmpty then .error (.missingValue flag) else .ok value

/-- The only value of a flag that is given at most once. -/
def onlyValue {α : Type} (flag : Flag) (earlier : Option α) : List Text → Except UsageFault Text
  | [] => .error (.missingValue flag)
  | value :: _ => if earlier.isSome then .error (.repeatedFlag flag) else .ok value

/-- Takes a flag with its values into account. -/
def take (given : Given) (flag : Flag) (values : List Text) : Except UsageFault Given :=
  match flag with
  | .help => .error .helpRequested
  | .version => .error .versionRequested
  | .verbose => .ok { given with verbose := min countLimit (given.verbose + 1) }
  | .batch => if given.batch then .error (.repeatedFlag flag) else .ok { given with batch := true }
  | .config => do
    let value ← path flag (← onlyValue flag given.config? values)
    return { given with config? := some value }
  | .output => do
    let value ← path flag (← onlyValue flag given.output? values)
    return { given with output? := some value }
  | .maxDepth => do
    let value ← onlyValue flag given.maxDepth? values
    match depthOf? value with
    | some depth => return { given with maxDepth? := some depth }
    | none => throw (.malformedValue flag value)
  | .input => do
    if values.isEmpty then
      throw (.missingValue flag)
    return { given with inputs := given.inputs ++ (← values.mapM (path flag)) }

end Given
end CommandLine
end TextMacros
