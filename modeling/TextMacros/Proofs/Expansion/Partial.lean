import TextMacros.Proofs.Expansion.Step

/-!
# Expansion with partial operations

Two operations of an expansion are not defined everywhere: to take a parameter by its index, and to
cut a text at a position. In an expansion neither shows. The parameters of a call have names
(`Call.ofParameters?`), and the span of a character is given at every position
(`Span.ofSymbolAt`).

Here expansions are written with the partial operations. The number of parameters is checked once,
before a primitive is performed; then each parameter is taken where it is wanted, by its index. The
place of a fault is cut out of the text. An operation that is not defined where it is used ends the
expansion with a panic. All that takes no parameter and cuts no text is taken over as it is
(`Partial.lift`).
-/

namespace TextMacros

variable {State : Type}

/-- A use of an operation where it is not defined. -/
inductive Panic where
  /-- A parameter was taken that the invocation does not have. -/
  | parameter (index : Nat)
  /-- A text was cut within a character, or behind its end. -/
  | slice (text : Text) (position : Nat)

/-- Why an expansion with partial operations ends without a value. -/
inductive Stop where
  /-- The expansion fails. -/
  | failure (failure : Failure)
  /-- The expansion cannot go on. -/
  | panic (panic : Panic)

/-- The span of the character at a position, as `Span.ofSymbolAt`, where the text can be cut. -/
def Span.ofSymbolAt? (text : Text) (offset : Nat) : Option Span :=
  match text.getLast? with
  | none => some ⟨0, 0⟩
  | some last =>
    let start := min offset (text.size - last.utf8Size)
    match text.dropBytes? start with
    | some (symbol :: _) => some ⟨start, symbol.utf8Size⟩
    | some [] => some ⟨start, 1⟩
    | none => none

/-- The failure at a character of a fragment, when its span can be cut out. -/
def Stop.atSymbol (cause : Cause) (fragment : Fragment) (offset : Nat) : Stop :=
  match Span.ofSymbolAt? fragment.text offset with
  | some span => .failure ⟨cause, fragment, span⟩
  | none => .panic (.slice fragment.text offset)

/-- A step on contexts that yields a value, a failure or a panic. -/
abbrev Partial (State α : Type) := EStateM Stop (Context State) α

namespace Partial

open Expansion

variable {α : Type}

/-- A way to expand a text with partial operations. -/
abbrev Expander (State : Type) := Text → List Macro → Origin → Partial State Text

/-- An expansion in which no operation is partial. -/
def lift (expansion : Expansion State α) : Partial State α := fun context =>
  match expansion context with
  | .ok value later => .ok value later
  | .error failure later => .error (.failure failure) later

/-- The expander whose nested texts are expanded without partial operations. -/
def ofExpander (expand : Expansion.Expander State) : Expander State :=
  fun text bindings origin => lift (expand text bindings origin)

/-! ## Recognizers -/

/-- Reads an invocation, as `Fragment.readInvocation`. -/
def readInvocation (fragment : Fragment) (start : Nat) (cursor : Token.Cursor) :
    EStateM.Result Stop Token.Cursor Invocation :=
  match Token.readSignature cursor with
  | .error fault later =>
    .error (.atSymbol (fragment.invocationFailure fault).cause fragment fault.offset) later
  | .ok (written, parameters) later =>
    let span := Span.between start later.offset
    match Name.canonical? written with
    | none => .error (.failure ⟨.malformedMacro .emptyName, fragment, span⟩) later
    | some name => .ok ⟨name, parameters, span⟩ later

/-- An invocation takes at least one character behind its introducer. -/
theorem length_lt_of_readInvocation {fragment : Fragment} {start : Nat}
    {cursor later : Token.Cursor} {invocation : Invocation}
    (success : readInvocation fragment start cursor = .ok invocation later) :
    later.unread.length < cursor.unread.length := by
  unfold readInvocation at success
  cases outcome : Token.readSignature cursor with
  | error fault last => simp [outcome] at success
  | ok signature last =>
    have shorter := Token.strictlyForward_readSignature.length_lt outcome
    simp only [outcome] at success
    split at success
    · cases success
    · cases success
      exact shorter

/-- Reads the macro that a fragment defines, as `Macro.ofDefinition`. -/
def ofDefinition (fragment : Fragment) : Except Stop Macro :=
  match Token.readDefinition (Token.Cursor.start fragment.text) with
  | .error fault _ =>
    .error (.atSymbol (.malformedDefinition (.token fault.problem)) fragment fault.offset)
  | .ok _ _ => (Macro.ofDefinition fragment).mapError .failure

/-! ## Primitives -/

/-- The text of a parameter as it is written, by its index. -/
def raw (site : Site) (index : Nat) : Partial State Text :=
  match site.invocation.parameters[index]? with
  | some text => return text
  | none => throw (.panic (.parameter index))

/-- Expands a parameter. -/
def parameter (expand : Expander State) (site : Site) (index : Nat) : Partial State Text := do
  expand (← raw site index) [] (site.parameter (index + 1))

/-- Expands a parameter and reads it as an integer. -/
def integer (expand : Expander State) (site : Site) (index : Nat) : Partial State Integer := do
  lift (site.integer (← parameter expand site index))

/-- Performs an expansion a number of times and joins what it yields. -/
def times : Nat → Partial State Text → Partial State Text
  | 0, _ => return []
  | remaining + 1, expansion => do
    let result ← expansion
    let others ← times remaining expansion
    return result ++ others

/-- Defines the macro of the first parameter in a scope. -/
def install (site : Site) (region : Region) : Partial State Text := do
  match ofDefinition ⟨site.parameter 1, ← raw site 0⟩ with
  | .error stop => throw stop
  | .ok definition => lift do
    note (.definitionRead definition.name definition.parameters definition.body.size)
    define site region definition
    return []

/-- Expands the last parameter once for each of the others. -/
def forEach (expand : Expander State) (site : Site) : Partial State Text := do
  match site.invocation.parameters.getLast? with
  | none => return []
  | some pattern => do
    let items := site.invocation.parameters.length - 1
    let results ← (List.range items).mapM fun index => do
      let value ← parameter expand site index
      expand pattern [.constant itemName value] (site.parameter (items + 1))
    return results.flatten

/-- Changes the integer of the first parameter by an amount. -/
def adjust (expand : Expander State) (site : Site) (amount : Int) : Partial State Text := do
  let operand ← integer expand site 0
  return (← lift (site.add operand amount)).text

/-- Changes the counter of the first parameter by an amount. -/
def adjustCounter (services : Services State) (expand : Expander State) (site : Site)
    (amount : Int) : Partial State Text := do
  let name ← parameter expand site 0
  let adjusted ← lift do site.add (← site.counter name) amount
  lift (changeOrFail services site (.counterNotFound name) (.setCounter name adjusted))
  return []

/-- Tells whether the integers of two parameters are in an order. -/
def ordered (expand : Expander State) (site : Site) (order : Ordering) : Partial State Text := do
  let left ← integer expand site 0
  let right ← integer expand site 1
  return truth (compare left.value right.value = order)

/-- Performs a primitive. It takes as many parameters as it wants. -/
def handler (services : Services State) (expand : Expander State) (site : Site) :
    Primitive → Partial State Text
  | .comment => return []
  | .define => install site .current
  | .globalDefine => install site .global
  | .newLine => return ['\n']
  | .newPage => return services.pageMarker
  | .noExpand => raw site 0
  | .repetition => do
    let count ← integer expand site 0
    if count.value ≤ 0 then
      lift (site.fail (.invalidRepetition count))
    else
      times count.value.toNat (parameter expand site 1)
  | .forEach => forEach expand site
  | .inputText => do
    let title ← parameter expand site 0
    let initial ← parameter expand site 1
    let reply ← lift ((Step.ask title initial).expansion services)
    if reply.expand then
      expand reply.text [] (.reply site.primitive.name)
    else
      return reply.text
  | .sendMessage => do
    let title ← parameter expand site 0
    let body ← parameter expand site 1
    lift ((Step.notify title body).expansion services)
    return []
  | .newCounter => do
    let name ← parameter expand site 0
    lift (changeOrFail services site (.duplicateCounter name) (.createCounter name))
    lift (note (.counterDeclared name))
    return []
  | .setCounter => do
    let name ← parameter expand site 0
    let value ← integer expand site 1
    lift (changeOrFail services site (.counterNotFound name) (.setCounter name value))
    return []
  | .counter => do
    let name ← parameter expand site 0
    return (← lift (site.counter name)).text
  | .increment => adjust expand site 1
  | .decrement => adjust expand site (-1)
  | .incrementCounter => adjustCounter services expand site 1
  | .decrementCounter => adjustCounter services expand site (-1)
  | .checkCondition => do
    let condition ← parameter expand site 0
    if condition.trim = truth true then
      parameter expand site 1
    else if condition.trim = truth false then
      parameter expand site 2
    else
      lift (site.fail (.invalidCondition condition.trim))
  | .isZero => do
    let operand ← integer expand site 0
    return truth (operand.value = 0)
  | .isGreaterThan => ordered expand site .gt
  | .isLessThan => ordered expand site .lt
  | .isEqual => ordered expand site .eq
  | .getUrl => do
    let locator ← parameter expand site 0
    lift do
      match ← (Step.fetch locator).expansion services with
      | .ok text => return text
      | .error error => site.fail (.retrieval locator error)

/-- Checks the number of parameters and performs the primitive. -/
def dispatch (services : Services State) (expand : Expander State) (site : Site) :
    Partial State Text :=
  if site.primitive.arity.accepts site.invocation.parameters.length then
    handler services expand site site.primitive
  else
    lift (site.fail (.argumentNumberMismatch site.primitive site.invocation.parameters))

/-! ## Fragments -/

/-- Calls a macro of a scope. -/
def callMacro (expand : Expander State) (definition : Macro) (parameters : List Text) :
    Partial State Text := do
  let values ← parameters.zipIdx.mapM fun (parameter, index) =>
    expand parameter [] (.parameter (index + 1) definition.name)
  expand definition.body (List.zipWith Macro.constant definition.parameters values)
    (.body definition.name)

/-- Expands an invocation that was recognized in a fragment. -/
def resolve (services : Services State) (expand : Expander State) (fragment : Fragment)
    (invocation : Invocation) : Partial State Text := do
  match Primitive.ofName? invocation.name with
  | some primitive => do
    lift (note (.primitiveCalled invocation.name primitive))
    dispatch services expand ⟨fragment, invocation, primitive⟩
  | none => do
    match ← lift ((Step.lookup ⟨invocation.name, invocation.arity⟩).expansion services) with
    | some definition => callMacro expand definition invocation.parameters
    | none =>
      throw (.failure
        ⟨.macroNotFound invocation.name invocation.arity, fragment, invocation.span⟩)

/-- Expands a fragment from a place in it. -/
def runFrom (services : Services State) (expand : Expander State) (fragment : Fragment)
    (cursor : Token.Cursor) : Partial State Text :=
  let literal := cursor.unread.takeWhile (· ≠ Token.introducer)
  match _ahead : cursor.unread.dropWhile (· ≠ Token.introducer) with
  | [] => return literal
  | _ :: rest =>
    let start := cursor.offset + Text.size literal
    match _success : readInvocation fragment start ⟨start + Token.introducer.utf8Size, rest⟩ with
    | .error stop _ => throw stop
    | .ok invocation later => do
      lift (note
        (.recognized fragment.origin invocation.name invocation.arity invocation.span))
      let value ← resolve services expand fragment invocation
      let others ← runFrom services expand fragment later
      return literal ++ value ++ others
termination_by cursor.unread.length
decreasing_by
  have shorter := length_lt_of_readInvocation _success
  have suffix := (List.dropWhile_suffix (l := cursor.unread) (· ≠ Token.introducer)).length_le
  rw [_ahead] at suffix
  simp at shorter suffix
  omega

/-- Performs an expansion inside a fresh scope, as `Expansion.within`. -/
def within (bindings : List Macro) (origin : Origin) (expansion : Partial State α) :
    Partial State α := fun context =>
  match expansion (context.enter bindings origin) with
  | .ok value inside => .ok value inside.leave
  | .error stop inside => .error stop inside.leave

/-- Expands a text within a number of levels that remain under the limit. -/
def ofTextWithin (services : Services State) : Nat → Expander State
  | 0 => fun text _ origin => do
    throw (.failure ⟨.recursionLimit (← get).depth.limit, ⟨origin, text⟩, ⟨0, text.size⟩⟩)
  | levels + 1 => fun text bindings origin =>
    within bindings origin (runFrom services (ofTextWithin services levels) ⟨origin, text⟩
      (Token.Cursor.start text))

/-- Expands a text in a fresh scope that holds the given bindings. -/
def ofText (services : Services State) : Expander State := fun text bindings origin => do
  ofTextWithin services (← get).depth.remaining text bindings origin

end Partial
end TextMacros
