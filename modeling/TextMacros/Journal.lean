import TextMacros.Failure
import TextMacros.Settings

/-!
# The journal

An expansion keeps a journal of what it does. Each kind of entry has a severity and a wording; a
reader of the journal chooses how severe an entry must be to be shown.
-/

namespace TextMacros

/-- How much an entry matters, most severe first. -/
inductive Severity where
  /-- Something was left out that the document asked for. -/
  | warning
  /-- A document was begun or done. -/
  | information
  /-- A step of an expansion that a reader of the document can follow. -/
  | debugging
  /-- A step of the expansion's own bookkeeping. -/
  | tracing
deriving DecidableEq

namespace Severity

/-- Position in the order of severities. -/
def rank : Severity → Nat
  | warning => 0
  | information => 1
  | debugging => 2
  | tracing => 3

/-- Whether an entry of this severity is shown to a reader who asks for a given severity. -/
def shownAt (severity asked : Severity) : Bool := severity.rank ≤ asked.rank

/-- The name of a severity. -/
def describe : Severity → String
  | warning => "WARN"
  | information => "INFO"
  | debugging => "DEBUG"
  | tracing => "TRACE"

/-- The severity that a number of requests for more detail asks for; none asks for nothing. -/
def ofVerbosity? : Nat → Option Severity
  | 0 => none
  | 1 => some information
  | 2 => some debugging
  | _ => some tracing

end Severity

/-- Something that happened. -/
inductive Entry where
  /-- The expansion of a document of some size began. -/
  | expanding (source : Text) (size : Nat)
  /-- The expansion of a document succeeded, with output of some size. -/
  | expanded (source : Text) (size : Nat)
  /-- An invocation was recognized. -/
  | recognized (origin : Origin) (name : Text) (arity : Nat) (span : Span)
  /-- A name turned out to call a primitive. -/
  | primitiveCalled (name : Text) (primitive : Primitive)
  /-- A name turned out to call a macro of a scope, counted from the global one. -/
  | macroFound (name : Text) (scope : Nat)
  /-- A definition was read. -/
  | definitionRead (name : Text) (parameters : List Text) (bodySize : Nat)
  /-- A counter was declared. -/
  | counterDeclared (name : Text)
  /-- The file for a locator is about to be read. -/
  | retrieving (locator path : Text)
  /-- Settings were read from a file. -/
  | settingsLoaded (path : Text) (settings : Settings)
  /-- A fragment was entered. -/
  | entered (depth limit : Nat)
  /-- A scope was opened. -/
  | scopePushed (index : Nat)
  /-- A scope was closed. -/
  | scopePopped (index : Nat)
  /-- A binding was left out because an earlier one has its name. -/
  | bindingShadowed (origin : Origin)
  /-- A question could not be asked or its answer not read. -/
  | promptFailed (title : Text) (cause : AccessError)
  /-- A message could not be shown. -/
  | messageFailed (title : Text) (cause : AccessError)
deriving DecidableEq

namespace Entry

/-- How much an entry matters. -/
def severity : Entry → Severity
  | bindingShadowed _ | promptFailed _ _ | messageFailed _ _ => .warning
  | expanding _ _ | expanded _ _ => .information
  | recognized _ _ _ _ | primitiveCalled _ _ | macroFound _ _ | definitionRead _ _ _
  | counterDeclared _ | retrieving _ _ | settingsLoaded _ _ => .debugging
  | entered _ _ | scopePushed _ | scopePopped _ => .tracing

/-- The entry in words. -/
def message : Entry → String
  | expanding source size => s!"expanding '{source.string}' ({size} bytes)"
  | expanded source size => s!"expanded '{source.string}' into {size} bytes"
  | recognized origin name arity span =>
    s!"{origin.label.string}: invocation '{name.string}' with {arity} parameter(s) at " ++
      s!"{span.offset}..{span.stop}"
  | primitiveCalled name primitive => s!"'{name.string}' is the primitive '{primitive.phrase}'"
  | macroFound name scope => s!"'{name.string}' found in scope {scope}"
  | definitionRead name parameters bodySize =>
    s!"defined macro '{name.string}' with parameters {(Text.quotedList parameters).string} " ++
      s!"({bodySize} byte body)"
  | counterDeclared name => s!"declared counter '{name.string}'"
  | retrieving locator path => s!"retrieving '{locator.string}' from {path.string}"
  | settingsLoaded path settings =>
    s!"loaded config from {path.string}: {settings.describe}"
  | entered depth limit => s!"expansion depth {depth} of {limit}"
  | scopePushed index => s!"pushed scope {index}"
  | scopePopped index => s!"popped scope {index}"
  | bindingShadowed origin =>
    s!"binding shadowed by an earlier one in '{origin.label.string}'"
  | promptFailed title cause =>
    s!"prompt '{title.string}' failed, keeping the initial text: {cause.describe}"
  | messageFailed title cause =>
    s!"could not show message '{title.string}': {cause.describe}"

end Entry

/-- What happened, in order. -/
abbrev Journal := Array Entry

/-- A result and what happened while it was obtained. -/
structure Observed (α : Type) where
  /-- The result. -/
  value : α
  /-- What happened, in order. -/
  entries : List Entry

end TextMacros
