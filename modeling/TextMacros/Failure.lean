import TextMacros.Integer
import TextMacros.Primitive
import TextMacros.Retrieval.Error
import TextMacros.Span
import TextMacros.Text.Quoted
import TextMacros.Token.Fault

/-!
# Failures of an expansion

Every expansion works on fragments: the document itself, a parameter, the body of a macro, a reply.
A failure is a cause, the fragment in which it was met, and the span of that fragment that shows it.
The wording of a failure is derived from its cause here and nowhere else.
-/

namespace TextMacros

/-- Where the text of a fragment comes from. -/
inductive Origin where
  /-- A text that was given a label of its own, such as the document. -/
  | labelled (label : Text)
  /-- A parameter, counted from one, of the macro with a given name. -/
  | parameter (index : Nat) (name : Text)
  /-- The body of the macro with a given name. -/
  | body (name : Text)
  /-- A reply that the primitive with a given name asked for. -/
  | reply (name : Text)
deriving DecidableEq

/-- The label of an origin in diagnostics. -/
def Origin.label : Origin → Text
  | .labelled label => label
  | .parameter index name => s!"parameter {index} of '{name.string}'".toList
  | .body name => s!"body of macro '{name.string}'".toList
  | .reply name => s!"reply to '{name.string}'".toList

/-- A text under expansion or reading, and where it comes from. -/
structure Fragment where
  /-- Where the text comes from. -/
  origin : Origin
  /-- The text. -/
  text : Text
deriving DecidableEq

/-- The scope in which a definition is made. -/
inductive Region where
  /-- The scope of the fragment that holds the definition. -/
  | current
  /-- The scope of the document. -/
  | global
deriving DecidableEq

/-- The region in one word. -/
def Region.describe : Region → String
  | .current => "current"
  | .global => "global"

/-- What is wrong with an invocation, apart from its parameters. -/
inductive InvocationFault where
  /-- The text ended before the invocation did. -/
  | unclosed
  /-- A token is malformed. -/
  | token (problem : Token.Problem)
  /-- The name has no words. -/
  | emptyName
deriving DecidableEq

/-- What is wrong with a definition. -/
inductive DefinitionFault where
  /-- A token is malformed or missing. -/
  | token (problem : Token.Problem)
  /-- The name has no words. -/
  | emptyName
  /-- A formal parameter of the named macro occurs twice. -/
  | repeatedParameter (parameter name : Text)
deriving DecidableEq

/-- Why an expansion failed. -/
inductive Cause where
  /-- An introducer does not begin an invocation. -/
  | malformedMacro (fault : InvocationFault)
  /-- A parameter of an invocation is malformed. -/
  | malformedArgument (problem : Token.Problem)
  /-- A text that should define a macro does not. -/
  | malformedDefinition (fault : DefinitionFault)
  /-- A primitive was called with parameters it does not take. -/
  | argumentNumberMismatch (primitive : Primitive) (parameters : List Text)
  /-- No scope holds a macro of this name and arity. -/
  | macroNotFound (name : Text) (arity : Nat)
  /-- The scope of a definition already holds a macro of this name and arity. -/
  | duplicateMacro (name : Text) (arity : Nat) (region : Region)
  /-- A counter is declared that exists already. -/
  | duplicateCounter (name : Text)
  /-- A counter is used that was never declared. -/
  | counterNotFound (name : Text)
  /-- A repetition is asked for that is not at least once. -/
  | invalidRepetition (count : Integer)
  /-- A condition is neither of the two truth values. -/
  | invalidCondition (value : Text)
  /-- A text does not denote an integer, or an integer has no successor or predecessor. -/
  | notAnInteger (primitive : Primitive) (value : Text)
  /-- Fragments are nested more deeply than the limit allows. -/
  | recursionLimit (limit : Nat)
  /-- The text at a location could not be retrieved. -/
  | retrieval (locator : Text) (error : RetrievalError)
deriving DecidableEq

/-- The broad classes of causes. -/
inductive Category where
  /-- The document is not well formed. -/
  | syntactic
  /-- A name does not lead to a macro that fits. -/
  | resolution
  /-- A primitive refuses its values. -/
  | runtime
  /-- Something outside the document failed. -/
  | external
deriving DecidableEq

/-- The category in one word. -/
def Category.describe : Category → String
  | .syntactic => "syntax"
  | .resolution => "resolution"
  | .runtime => "runtime"
  | .external => "external"

/-- The fault in words. -/
def InvocationFault.describe : InvocationFault → String
  | .unclosed => "the text ended inside an unclosed macro"
  | .token problem => problem.describe
  | .emptyName => "the macro name is empty"

/-- The fault in words. -/
def DefinitionFault.describe : DefinitionFault → String
  | .token problem => problem.describe
  | .emptyName => "the macro name is empty"
  | .repeatedParameter parameter name =>
    s!"parameter '{parameter.string}' is declared twice in macro '{name.string}'"

namespace Cause

/-- The cause in words. -/
def message : Cause → String
  | malformedMacro fault => s!"malformed macro: {fault.describe}"
  | malformedArgument problem => s!"malformed argument: {problem.describe}"
  | malformedDefinition fault => s!"malformed macro definition: {fault.describe}"
  | argumentNumberMismatch primitive parameters =>
    s!"'{primitive.phrase}' expects {primitive.arity.describe} parameter(s) but " ++
      s!"{parameters.length} were found: {(Text.quotedList parameters).string}"
  | macroNotFound name arity =>
    s!"macro '{name.string}' with {arity} parameter(s) was not found in any scope"
  | duplicateMacro name arity region =>
    s!"macro '{name.string}' with {arity} parameter(s) is already defined in the " ++
      s!"{region.describe} scope"
  | duplicateCounter name => s!"counter '{name.string}' already exists"
  | counterNotFound name => s!"counter '{name.string}' does not exist"
  | invalidRepetition count =>
    s!"invalid repetition count {count.text.string}: it must be greater than zero"
  | invalidCondition value =>
    s!"invalid condition value '{value.string}': expected 'true' or 'false'"
  | notAnInteger primitive value =>
    s!"'{primitive.phrase}' expected an integer but found '{value.string}'"
  | recursionLimit limit => s!"potential infinite recursion: more than {limit} nested expansions"
  | retrieval locator error => s!"could not retrieve '{locator.string}': {error.explain}"

/-- The class of a cause. -/
def category : Cause → Category
  | malformedMacro _ | malformedArgument _ | malformedDefinition _ => .syntactic
  | argumentNumberMismatch _ _ | macroNotFound _ _ | duplicateMacro _ _ _ => .resolution
  | duplicateCounter _ | counterNotFound _ | invalidRepetition _ | invalidCondition _
  | notAnInteger _ _ | recursionLimit _ => .runtime
  | retrieval _ _ => .external

/-- The identifier of a cause within its category. -/
def identifier : Cause → String
  | malformedMacro _ => "malformed_macro"
  | malformedArgument _ => "malformed_argument"
  | malformedDefinition _ => "macro_definition"
  | argumentNumberMismatch _ _ => "argument_number_mismatch"
  | macroNotFound _ _ => "macro_not_found"
  | duplicateMacro _ _ _ => "duplicate_macro"
  | duplicateCounter _ => "duplicate_counter"
  | counterNotFound _ => "counter_not_found"
  | invalidRepetition _ => "invalid_integer_range"
  | invalidCondition _ => "invalid_condition_value"
  | notAnInteger _ _ => "number_format"
  | recursionLimit _ => "potential_infinite_recursion"
  | retrieval _ _ => "retrieval"

/-- The diagnostic code of a cause. -/
def code (cause : Cause) : String := s!"adaptex::{cause.category.describe}::{cause.identifier}"

/-- The label that stands at the span of a failure. -/
def label : Cause → String
  | malformedMacro _ => "malformed macro"
  | malformedArgument _ => "malformed argument"
  | malformedDefinition _ => "malformed definition"
  | argumentNumberMismatch _ _ => "wrong number of parameters"
  | macroNotFound _ _ => "unknown macro"
  | duplicateMacro _ _ _ => "duplicate definition"
  | duplicateCounter _ => "counter declared twice"
  | counterNotFound _ => "undeclared counter"
  | invalidRepetition _ => "invalid count"
  | invalidCondition _ => "invalid condition"
  | notAnInteger _ _ => "not an integer"
  | recursionLimit _ => "recursion limit reached here"
  | retrieval _ _ => "retrieval failed"

/-- Advice on how to mend a cause, where there is any. -/
def help? : Cause → Option String
  | malformedMacro _ => some <|
    "an invocation reads \\D name D\\ or \\D name(\\p\\, ...) D\\, " ++
      "where D is any character except '('"
  | malformedArgument _ => some "each parameter is its own delimited token, e.g. \\!text!\\"
  | malformedDefinition _ => some "a definition reads \\|name(\\p\\, ...)|\\ = \\#body#\\"
  | counterNotFound name => some
    s!"declare it first with \\|new counter(\\!{name.string}!\\)|\\"
  | recursionLimit _ => some "check for a macro whose body invokes itself unconditionally"
  | _ => none

end Cause

/-- A failed expansion. -/
structure Failure where
  /-- Why it failed. -/
  cause : Cause
  /-- The fragment in which it failed. -/
  fragment : Fragment
  /-- The part of the fragment that shows the cause. -/
  span : Span
deriving DecidableEq

end TextMacros
