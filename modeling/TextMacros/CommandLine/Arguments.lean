import TextMacros.CommandLine.Flag

/-!
# Arguments

The words of a command line are read from left to right. A word that begins with two dashes is a
flag by its long name, perhaps with a value behind an equals sign; a word that begins with one dash
is a run of flags by their short names, the last perhaps with its value. A flag that needs values
takes them from the words that follow, until a word is a flag or the flag has all it can take, and
is then taken into account. The first other word before the subcommand names the subcommand, and two
dashes alone end all flags.

A flag that may be given on both sides of the subcommand counts as it is given behind it.
-/

namespace TextMacros
namespace CommandLine

/-- What the program is told to do. -/
inductive Action where
  /-- Expand the texts of some files as one document. -/
  | expand (inputs : List Text) (output? : Option Text) (batch : Bool)
  /-- Open the editor. -/
  | editor
  /-- List the primitives. -/
  | primitives
deriving DecidableEq

/-- The meaning of a command line. -/
structure Arguments where
  /-- How often more detail was asked for. -/
  verbose : Nat
  /-- The settings file. -/
  config? : Option Text
  /-- The limit of nesting. -/
  maxDepth? : Option Nat
  /-- What to do. -/
  action : Action
deriving DecidableEq

/-- How far the words of one level have been read. -/
structure Progress where
  /-- What the flags say that are taken into account. -/
  given : Given
  /-- A flag whose values were found in words of their own, until it is taken into account. -/
  pending? : Option (Flag × List Text)
  /-- Whether the next word may be a value of the pending flag. -/
  awaiting : Bool
  /-- Whether two dashes have ended the flags. -/
  trailing : Bool

namespace Progress

/-- Before the first word. -/
def start : Progress := ⟨.nothing, none, false, false⟩

/-- Takes the pending flag into account. -/
def settle (progress : Progress) : Except UsageFault Progress :=
  match progress.pending? with
  | none => .ok progress
  | some (flag, values) =>
    (progress.given.take flag values).map fun given => { progress with given, pending? := none }

/-- Takes a flag into account whose values are known. -/
def complete (progress : Progress) (flag : Flag) (values : List Text) :
    Except UsageFault Progress := do
  let progress ← progress.settle
  let given ← progress.given.take flag values
  return { progress with given, awaiting := false }

/-- Waits for the values of a flag in words of their own. -/
def await (progress : Progress) (flag : Flag) : Except UsageFault Progress := do
  let progress ← progress.settle
  return { progress with pending? := some (flag, []), awaiting := true }

/-- Reads a flag with a value behind it, or without. -/
def flag (progress : Progress) (flag : Flag) (value? : Option Text) : Except UsageFault Progress :=
  match flag.capacity, value? with
  | .none, none => progress.complete flag []
  | .none, some _ => .error (.unneededValue flag)
  | _, some value => progress.complete flag [value]
  | _, none => progress.await flag

/-- Reads a flag by its long name. -/
def long (progress : Progress) (level : Level) (word : Text) : Except UsageFault Progress :=
  let name := word.takeWhile (· ≠ '=')
  let value? := if name.length < word.length then some (word.drop (name.length + 1)) else none
  match Flag.ofLongName? level name with
  | none => .error (.unknownArgument word)
  | some flag => progress.flag flag value?

/-- The value behind a short name, with an equals sign or without. -/
def shortValue? : Text → Option Text
  | [] => none
  | '=' :: value => some value
  | value => some value

/-- Reads flags by their short names. -/
def short (progress : Progress) (level : Level) : Text → Except UsageFault Progress
  | [] => .ok progress
  | letter :: rest =>
    match Flag.ofShortName? level letter with
    | none => .error (.unknownArgument ['-', letter])
    | some flag =>
      if flag.capacity = .none then do
        let progress ← progress.complete flag []
        progress.short level rest
      else
        progress.flag flag (shortValue? rest)

end Progress

/-- The level of a subcommand. -/
def subcommand? (word : Text) : Option Level :=
  match word.string with
  | "expand" => some .expand
  | "editor" => some .editor
  | "primitives" => some .primitives
  | _ => none

/-- The word that asks for the usage of a subcommand. -/
def helpWord : Text := "help".toList

/-- What is wrong with the words behind a request for the usage, or the request itself. -/
def helpOn : List Text → UsageFault
  | [] => .helpRequested
  | word :: rest =>
    if (subcommand? word).isNone ∧ word ≠ helpWord then
      .unknownSubcommand word
    else
      match rest with
      | [] => .helpRequested
      | next :: _ => .unknownSubcommand next

/-- What is wrong with a word that is neither a flag nor a value. -/
def stray (level : Level) (trailing : Bool) (word : Text) : UsageFault :=
  if level = .program ∧ ¬ (trailing ∧ ((subcommand? word).isSome ∨ word = helpWord)) then
    .unknownSubcommand word
  else
    .unknownArgument word

/-- Reads the words of one level, up to the end or to a subcommand, which is returned with the words
behind it. -/
def readLevel (level : Level) (progress : Progress) :
    List Text → Except UsageFault (Progress × Option (Level × List Text))
  | [] => .ok (progress, none)
  | word :: rest =>
    if progress.trailing then
      .error (stray level true word)
    else if level = .program ∧ !progress.awaiting ∧ word = helpWord then
      .error (helpOn rest)
    else
      match if level = .program ∧ !progress.awaiting then subcommand? word else none with
      | some subcommand => .ok (progress, some (subcommand, rest))
      | none =>
        match word with
        | ['-', '-'] => readLevel level { progress with trailing := true } rest
        | '-' :: '-' :: name => do readLevel level (← progress.long level name) rest
        | '-' :: letter :: letters => do
          readLevel level (← progress.short level (letter :: letters)) rest
        | word =>
          match progress.awaiting, progress.pending? with
          | true, some (flag, values) =>
            readLevel level
              { progress with
                pending? := some (flag, values ++ [word]), awaiting := flag.capacity = .many } rest
          | _, _ => .error (stray level false word)

/-- Reads the words behind a subcommand. -/
def readSubcommand (level : Level) (words : List Text) : Except UsageFault Given := do
  let (progress, _) ← readLevel level .start words
  let given := (← progress.settle).given
  if level = .expand ∧ given.inputs.isEmpty then
    throw (.missingFlag .input)
  return given

/-- The action of a subcommand. -/
def actionOf (level : Level) (given : Given) : Action :=
  match level with
  | .expand => .expand given.inputs given.output? given.batch
  | .editor => .editor
  | .program | .primitives => .primitives

/-- Reads the words of a command line, without the name of the program. -/
def parse (words : List Text) : Except UsageFault Arguments := do
  let (progress, subcommand?) ← readLevel .program .start words
  match subcommand? with
  | none =>
    let given := (← progress.settle).given
    throw (if given = .nothing then .nothingGiven else .missingSubcommand)
  | some (level, rest) =>
    let behind ← readSubcommand level rest
    let given := (← progress.settle).given
    return {
      verbose := if behind.verbose = 0 then given.verbose else behind.verbose
      config? := behind.config?.or given.config?
      maxDepth? := behind.maxDepth?.or given.maxDepth?
      action := actionOf level behind }

end CommandLine
end TextMacros
