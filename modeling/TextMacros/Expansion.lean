import TextMacros.Definition
import TextMacros.Expansion.Call
import TextMacros.Expansion.Context
import TextMacros.Segment
import TextMacros.Settings

/-!
# Expansion

A fragment is expanded segment by segment: a literal yields itself, and an invocation yields what
its macro does. A primitive is performed. For a macro of a scope each parameter is expanded as a
fragment of its own, the values are bound to the formal parameters, and the body is expanded as one
more fragment that holds the bindings. Macros are looked up in the scopes that are open at the time
of the call.

Parameters, bodies and replies are texts of any size, so the recursion is on the number of levels
that remain under the limit of nesting: a fragment is expanded with the expander of the next level.
Where no level remains, the fragment fails for its depth. Within a fragment the recursion is on its
segments, and within a repetition on the number of times that remain.
-/

namespace TextMacros

namespace Expansion

variable {State : Type}

/-- A way to expand a text that comes from some place, with some bindings in its scope. -/
abbrev Expander (State : Type) := Text → List Macro → Origin → Expansion State Text

/-- The name that stands for the current item in the pattern of a `for each`. -/
def itemName : Text := "it".toList

/-- A truth value as a text. -/
def truth (value : Bool) : Text := if value then "true".toList else "false".toList

/-- The place of an invocation that calls a primitive. -/
structure Site where
  /-- The fragment that holds the invocation. -/
  fragment : Fragment
  /-- The invocation. -/
  invocation : Invocation
  /-- The primitive that it calls. -/
  primitive : Primitive

namespace Site

/-- Fails at the invocation. -/
def fail {α : Type} (site : Site) (cause : Cause) : Expansion State α :=
  throw ⟨cause, site.fragment, site.invocation.span⟩

/-- The origin of a parameter, counted from one. -/
def parameter (site : Site) (index : Nat) : Origin := .parameter index site.primitive.name

/-- A value, or a failure at the invocation when there is none. -/
def orFail {α : Type} (site : Site) (cause : Cause) : Option α → Expansion State α
  | some value => return value
  | none => site.fail cause

/-- Reads an integer from an expanded text. -/
def integer (site : Site) (text : Text) : Expansion State Integer :=
  site.orFail (.notAnInteger site.primitive text) (Integer.parse? text)

/-- Adds an amount to an integer. A result out of range is a failure on the integer. -/
def add (site : Site) (operand : Integer) (amount : Int) : Expansion State Integer :=
  site.orFail (.notAnInteger site.primitive operand.text) (operand.add? amount)

/-- The value of a declared counter. -/
def counter (site : Site) (name : Text) : Expansion State Integer := do
  site.orFail (.counterNotFound name) ((← get).counters.get? name)

end Site

/-- Adds a macro to a scope. -/
def define (site : Site) (region : Region) (definition : Macro) : Expansion State Unit := do
  let scopes := (← get).scopes
  let extended ← site.orFail (.duplicateMacro definition.name definition.arity region) <|
    match region with
    | .current => scopes.insertCurrent? definition
    | .global => scopes.insertGlobal? definition
  modify fun context => { context with scopes := extended }

/-- Performs a call of a primitive. -/
def perform (services : Services State) (expand : Expander State) (site : Site) :
    Call → Expansion State Text
  | .comment _ => return []
  | .define region definition => do
    match Macro.ofDefinition ⟨site.parameter 1, definition⟩ with
    | .error failure => throw failure
    | .ok definition => do
      note (.definitionRead definition.name definition.parameters definition.body.size)
      define site region definition
      return []
  | .newLine => return ['\n']
  | .newPage => return services.pageMarker
  | .noExpand text => return text
  | .repetition count body => do
    let count ← site.integer (← expand count [] (site.parameter 1))
    if count.value ≤ 0 then
      site.fail (.invalidRepetition count)
    else
      times count.value.toNat (expand body [] (site.parameter 2))
  | .forEach items pattern => do
    let results ← items.zipIdx.mapM fun (item, index) => do
      let value ← expand item [] (site.parameter (index + 1))
      expand pattern [.constant itemName value] (site.parameter (items.length + 1))
    return results.flatten
  | .inputText title initial => do
    let title ← expand title [] (site.parameter 1)
    let initial ← expand initial [] (site.parameter 2)
    let context ← get
    let ⟨(reply, prompt), entries⟩ := services.prompt.ask title initial context.prompt
    set ({ context with prompt }.noteAll entries)
    if reply.expand then
      expand reply.text [] (.reply site.primitive.name)
    else
      return reply.text
  | .sendMessage title body => do
    let title ← expand title [] (site.parameter 1)
    let body ← expand body [] (site.parameter 2)
    let context ← get
    let ⟨prompt, entries⟩ := services.prompt.notify title body context.prompt
    set ({ context with prompt }.noteAll entries)
    return []
  | .newCounter name => do
    let name ← expand name [] (site.parameter 1)
    let counters ← site.orFail (.duplicateCounter name) ((← get).counters.create? name)
    modify fun context => { context with counters }
    note (.counterDeclared name)
    return []
  | .setCounter name value => do
    let name ← expand name [] (site.parameter 1)
    let value ← site.integer (← expand value [] (site.parameter 2))
    let counters ← site.orFail (.counterNotFound name) ((← get).counters.set? name value)
    modify fun context => { context with counters }
    return []
  | .counter name => do
    let name ← expand name [] (site.parameter 1)
    return (← site.counter name).text
  | .adjust amount operand => do
    let operand ← site.integer (← expand operand [] (site.parameter 1))
    return (← site.add operand amount).text
  | .adjustCounter amount name => do
    let name ← expand name [] (site.parameter 1)
    let adjusted ← site.add (← site.counter name) amount
    let counters ← site.orFail (.counterNotFound name) ((← get).counters.set? name adjusted)
    modify fun context => { context with counters }
    return []
  | .checkCondition condition whenTrue whenFalse => do
    let condition ← expand condition [] (site.parameter 1)
    if condition.trim = truth true then
      expand whenTrue [] (site.parameter 2)
    else if condition.trim = truth false then
      expand whenFalse [] (site.parameter 3)
    else
      site.fail (.invalidCondition condition.trim)
  | .isZero operand => do
    let operand ← site.integer (← expand operand [] (site.parameter 1))
    return truth (operand.value = 0)
  | .compare order left right => do
    let left ← site.integer (← expand left [] (site.parameter 1))
    let right ← site.integer (← expand right [] (site.parameter 2))
    return truth (compare left.value right.value = order)
  | .getUrl locator => do
    let locator ← expand locator [] (site.parameter 1)
    let ⟨result, entries⟩ := services.retriever.fetch locator
    modify (·.noteAll entries)
    match result with
    | .ok text => return text
    | .error error => site.fail (.retrieval locator error)

/-- Calls a macro of a scope. -/
def callMacro (expand : Expander State) (definition : Macro) (parameters : List Text) :
    Expansion State Text := do
  let values ← parameters.zipIdx.mapM fun (parameter, index) =>
    expand parameter [] (.parameter (index + 1) definition.name)
  expand definition.body (List.zipWith Macro.constant definition.parameters values)
    (.body definition.name)

/-- Expands an invocation that was recognized in a fragment. -/
def resolve (services : Services State) (expand : Expander State) (fragment : Fragment)
    (invocation : Invocation) : Expansion State Text := do
  match Primitive.ofName? invocation.name with
  | some primitive => do
    note (.primitiveCalled invocation.name primitive)
    let site : Site := ⟨fragment, invocation, primitive⟩
    match Call.ofParameters? primitive invocation.parameters with
    | some call => perform services expand site call
    | none => site.fail (.argumentNumberMismatch primitive invocation.parameters)
  | none => do
    match (← get).scopes.find? ⟨invocation.name, invocation.arity⟩ with
    | some (index, definition) => do
      note (.macroFound invocation.name index)
      callMacro expand definition invocation.parameters
    | none =>
      throw ⟨.macroNotFound invocation.name invocation.arity, fragment, invocation.span⟩

/-- Expands one segment of a fragment. -/
def ofSegment (services : Services State) (expand : Expander State) (fragment : Fragment) :
    Segment → Expansion State Text
  | .literal text => return text
  | .invocation invocation => do
    note (.recognized fragment.origin invocation.name invocation.arity invocation.span)
    resolve services expand fragment invocation
  | .broken failure => throw failure

/-- Expands the segments of a fragment in order. -/
def ofFragment (services : Services State) (expand : Expander State) (fragment : Fragment) :
    Expansion State Text := do
  return (← fragment.segments.mapM (ofSegment services expand fragment)).flatten

/-- Expands a text within a number of levels that remain under the limit. -/
def ofTextWithin (services : Services State) : Nat → Expander State
  | 0 => fun text _ origin => do
    throw ⟨.recursionLimit (← get).depth.limit, ⟨origin, text⟩, ⟨0, text.size⟩⟩
  | levels + 1 => fun text bindings origin =>
    within bindings origin (ofFragment services (ofTextWithin services levels) ⟨origin, text⟩)

/-- Expands a text in a fresh scope that holds the given bindings. -/
def ofText (services : Services State) : Expander State := fun text bindings origin => do
  ofTextWithin services (← get).depth.remaining text bindings origin

end Expansion

/-- The end of the expansion of a document. -/
structure Outcome (State : Type) where
  /-- The output, or why there is none. -/
  result : Except Failure Text
  /-- The state of the prompt. -/
  prompt : State
  /-- What has happened. -/
  journal : Journal

/-- Expands a document. Every document begins without macros and counters. -/
def expandDocument {State : Type} (settings : Settings) (prompt : Prompt State)
    (retriever : Retriever) (document : Text) (state : State) (journal : Journal) :
    Outcome State :=
  let services : Services State := ⟨settings.pageMarker, prompt, retriever⟩
  let begun := (Context.initial settings.maxDepth state journal).note
    (.expanding settings.sourceName document.size)
  match Expansion.ofText services document [] (.labelled settings.sourceName) begun with
  | .ok output context =>
    let done := context.note (.expanded settings.sourceName output.size)
    ⟨.ok output, done.prompt, done.journal⟩
  | .error failure context => ⟨.error failure, context.prompt, context.journal⟩

end TextMacros
