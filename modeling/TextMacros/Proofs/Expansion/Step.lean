import TextMacros.Expansion
import TextMacros.Proofs.Sequence

/-!
# Steps of an expansion

The parts of a call that touch the context, each as one total step: the primitives and the calls of
macros are put together from these steps, from failures and journal entries, and from expansions of
nested texts, and touch the context in no other way. A step that may be refused says so in its
value.
-/

namespace TextMacros
namespace Expansion

variable {State α : Type}

/-- A change of the scopes or of the counters. -/
inductive Change where
  /-- Adds a macro to a scope. -/
  | define (region : Region) (definition : Macro)
  /-- Declares a counter. -/
  | createCounter (name : Text)
  /-- Changes the value of a counter. -/
  | setCounter (name : Text) (value : Integer)

/-- The context after a change, unless the change is refused. -/
def Change.made? (context : Context State) : Change → Option (Context State)
  | .define .current definition =>
    (context.scopes.insertCurrent? definition).map fun scopes => { context with scopes }
  | .define .global definition =>
    (context.scopes.insertGlobal? definition).map fun scopes => { context with scopes }
  | .createCounter name =>
    (context.counters.create? name).map fun counters => { context with counters }
  | .setCounter name value =>
    (context.counters.set? name value).map fun counters => { context with counters }

/-- What an expansion can do to its context or learn from it, by the value it learns. -/
inductive Step : Type → Type
  /-- Makes a change, and tells whether it was made. -/
  | change (change : Change) : Step Bool
  /-- Looks a macro up. -/
  | lookup (key : MacroKey) : Step (Option Macro)
  /-- Looks a counter up. -/
  | counter (name : Text) : Step (Option Integer)
  /-- Asks the user. -/
  | ask (title initial : Text) : Step Reply
  /-- Tells the user. -/
  | notify (title body : Text) : Step Unit
  /-- Retrieves a text. -/
  | fetch (locator : Text) : Step (Except RetrievalError Text)

namespace Step

/-- The value of a step and the context behind it. -/
def take (services : Services State) (context : Context State) : Step α → α × Context State
  | .change wanted =>
    match wanted.made? context with
    | some changed => (true, changed)
    | none => (false, context)
  | .lookup key =>
    match context.scopes.find? key with
    | some (index, definition) => (some definition, context.note (.macroFound key.name index))
    | none => (none, context)
  | .counter name => (context.counters.get? name, context)
  | .ask title initial =>
    let answer := services.prompt.ask title initial context.prompt
    (answer.value.1, { context with prompt := answer.value.2 }.noteAll answer.entries)
  | .notify title body =>
    let told := services.prompt.notify title body context.prompt
    ((), { context with prompt := told.value }.noteAll told.entries)
  | .fetch locator =>
    let retrieved := services.retriever.fetch locator
    (retrieved.value, context.noteAll retrieved.entries)

/-- What invocations do: a name that calls a primitive is never looked up, and a macro that repeats
a formal parameter is never defined. -/
def Permitted : Step α → Prop
  | .lookup key => Primitive.ofName? key.name = none
  | .change (.define _ definition) => definition.parameters.Nodup
  | _ => True

/-- A step as an expansion that never fails. -/
def expansion (services : Services State) (step : Step α) : Expansion State α := fun context =>
  .ok (step.take services context).1 (step.take services context).2

end Step

/-- Makes a change, or fails at an invocation when the change is refused. -/
def changeOrFail (services : Services State) (site : Site) (cause : Cause) (change : Change) :
    Expansion State Unit :=
  (Step.change change).expansion services >>= fun made =>
    if made then pure () else site.fail cause

section

variable (services : Services State) (expand : Expander State) (site : Site)

/-- A change either leads to the changed context or fails and leaves the context as it was. -/
theorem changeOrFail_apply (cause : Cause) (change : Change) (context : Context State) :
    changeOrFail services site cause change context =
      match change.made? context with
      | some changed => .ok () changed
      | none => .error ⟨cause, site.fragment, site.invocation.span⟩ context := by
  unfold changeOrFail
  cases outcome : change.made? context with
  | some changed =>
    have made : (Step.change change).expansion services context = .ok true changed := by
      simp only [Step.expansion, Step.take, outcome]
    rw [bind_of_ok _ made]
    rfl
  | none =>
    have refused : (Step.change change).expansion services context = .ok false context := by
      simp only [Step.expansion, Step.take, outcome]
    rw [bind_of_ok _ refused]
    rfl

/-- To compute a part of the context anew, or to fail, and then to replace it, is one change. -/
theorem changeOrFail_eq {Part : Type} {cause : Cause} {change : Change}
    (choose : Context State → Option Part) (replace : Part → Context State → Context State)
    (agree : ∀ context, change.made? context =
      (choose context).map fun part => replace part context) :
    changeOrFail services site cause change =
      get >>= fun context => site.orFail cause (choose context) >>= fun part =>
        modify (replace part) := by
  funext context
  rw [changeOrFail_apply, agree,
    bind_of_ok _ (show (get : Expansion State _) context = .ok context context from rfl)]
  cases choose context <;> rfl

/-- A definition is a change. -/
theorem define_eq (region : Region) (definition : Macro) :
    define site region definition =
      changeOrFail services site (.duplicateMacro definition.name definition.arity region)
        (.define region definition) := by
  cases region with
  | current =>
    exact (changeOrFail_eq services site (·.scopes.insertCurrent? definition)
      (fun scopes context => { context with scopes }) fun _ => rfl).symm
  | global =>
    exact (changeOrFail_eq services site (·.scopes.insertGlobal? definition)
      (fun scopes context => { context with scopes }) fun _ => rfl).symm

/-- A definition is read, noted and made by a change. -/
theorem perform_define (region : Region) (written : Text) :
    perform services expand site (.define region written) =
      match Macro.ofDefinition ⟨site.parameter 1, written⟩ with
      | .error failure => throw failure
      | .ok definition =>
        note (.definitionRead definition.name definition.parameters definition.body.size) >>=
          fun _ => changeOrFail services site
            (.duplicateMacro definition.name definition.arity region)
            (.define region definition) >>= fun _ => pure [] := by
  simp only [← define_eq]
  rfl

/-- Declaring a counter or setting it, with the failure that goes with it, is a change. -/
theorem createCounter_eq (cause : Cause) (name : Text) :
    changeOrFail services site cause (.createCounter name) =
      get >>= fun context => site.orFail cause (context.counters.create? name) >>= fun counters =>
        modify fun context => { context with counters } :=
  changeOrFail_eq services site (·.counters.create? name)
    (fun counters context => { context with counters }) fun _ => rfl

/-- Setting a counter is a change. -/
theorem setCounter_eq (cause : Cause) (name : Text) (value : Integer) :
    changeOrFail services site cause (.setCounter name value) =
      get >>= fun context => site.orFail cause (context.counters.set? name value) >>=
        fun counters => modify fun context => { context with counters } :=
  changeOrFail_eq services site (·.counters.set? name value)
    (fun counters context => { context with counters }) fun _ => rfl

/-- The value of a counter is looked up. -/
theorem counter_eq (name : Text) :
    site.counter name = (Step.counter name).expansion services >>=
      site.orFail (.counterNotFound name) := rfl

/-- A counter is declared by a change. -/
theorem perform_newCounter (name : Text) :
    perform services expand site (.newCounter name) =
      expand name [] (site.parameter 1) >>= fun name =>
        changeOrFail services site (.duplicateCounter name) (.createCounter name) >>= fun _ =>
          note (.counterDeclared name) >>= fun _ => pure [] := by
  simp only [createCounter_eq, bind_assoc]
  rfl

/-- A counter is set by a change. -/
theorem perform_setCounter (name value : Text) :
    perform services expand site (.setCounter name value) =
      expand name [] (site.parameter 1) >>= fun name =>
        expand value [] (site.parameter 2) >>= fun value => site.integer value >>= fun value =>
          changeOrFail services site (.counterNotFound name) (.setCounter name value) >>= fun _ =>
            pure [] := by
  simp only [setCounter_eq, bind_assoc]
  rfl

/-- A counter is adjusted by a look-up and a change. -/
theorem perform_adjustCounter (amount : Int) (name : Text) :
    perform services expand site (.adjustCounter amount name) =
      expand name [] (site.parameter 1) >>= fun name => site.counter name >>= fun value =>
        site.add value amount >>= fun adjusted =>
          changeOrFail services site (.counterNotFound name) (.setCounter name adjusted) >>=
            fun _ => pure [] := by
  simp only [setCounter_eq, bind_assoc]
  rfl

/-- A question is one step. -/
theorem perform_inputText (title initial : Text) :
    perform services expand site (.inputText title initial) =
      expand title [] (site.parameter 1) >>= fun title =>
        expand initial [] (site.parameter 2) >>= fun initial =>
          (Step.ask title initial).expansion services >>= fun reply =>
            if reply.expand then expand reply.text [] (.reply site.primitive.name)
            else pure reply.text := rfl

/-- A message is one step. -/
theorem perform_sendMessage (title body : Text) :
    perform services expand site (.sendMessage title body) =
      expand title [] (site.parameter 1) >>= fun title =>
        expand body [] (site.parameter 2) >>= fun body =>
          (Step.notify title body).expansion services >>= fun _ => pure [] := rfl

/-- A retrieval is one step. -/
theorem perform_getUrl (locator : Text) :
    perform services expand site (.getUrl locator) =
      expand locator [] (site.parameter 1) >>= fun locator =>
        (Step.fetch locator).expansion services >>= fun
          | .ok text => pure text
          | .error error => site.fail (.retrieval locator error) := rfl

/-- A name that is no primitive is looked up once, and the macro that is found is called. -/
theorem resolve_of_not_primitive {fragment : Fragment} {invocation : Invocation}
    (user : Primitive.ofName? invocation.name = none) :
    resolve services expand fragment invocation =
      (Step.lookup ⟨invocation.name, invocation.arity⟩).expansion services >>= fun
        | some definition => callMacro expand definition invocation.parameters
        | none =>
          throw ⟨.macroNotFound invocation.name invocation.arity, fragment, invocation.span⟩ := by
  funext context
  have known : (get : Expansion State _) context = .ok context context := rfl
  unfold resolve
  rw [user]
  dsimp only
  rw [bind_of_ok _ known]
  cases found : context.scopes.find? ⟨invocation.name, invocation.arity⟩ with
  | none =>
    have recalled : (Step.lookup ⟨invocation.name, invocation.arity⟩).expansion services context =
        .ok none context := by
      simp only [Step.expansion, Step.take, found]
    rw [bind_of_ok _ recalled]
  | some place =>
    obtain ⟨index, definition⟩ := place
    have recalled : (Step.lookup ⟨invocation.name, invocation.arity⟩).expansion services context =
        .ok (some definition) (context.note (.macroFound invocation.name index)) := by
      simp only [Step.expansion, Step.take, found]
    have noted : (note (.macroFound invocation.name index) : Expansion State Unit) context =
        .ok () (context.note (.macroFound invocation.name index)) := rfl
    rw [bind_of_ok _ recalled]
    dsimp only
    rw [bind_of_ok _ noted]

end

end Expansion
end TextMacros
