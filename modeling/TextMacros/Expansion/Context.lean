import TextMacros.Counter
import TextMacros.Depth
import TextMacros.Prompt
import TextMacros.Retrieval
import TextMacros.Scope

/-!
# Contexts

A context is all that an expansion changes: the open scopes, the counters, the depth of nesting, the
state of the prompt and the journal. Each fragment has a scope of its own: entering a fragment opens
the scope and goes one level deeper, and leaving it undoes both.

An expansion is a step on contexts that yields a value or a failure. A failed expansion has a
context too, the one in which it failed, so what happened before the failure is kept.
-/

namespace TextMacros

/-- What an expansion changes. -/
structure Context (State : Type) where
  /-- The open scopes. -/
  scopes : ScopeStack
  /-- The declared counters. -/
  counters : Counters
  /-- The number of open fragments and its limit. -/
  depth : Depth
  /-- The state of the prompt. -/
  prompt : State
  /-- What has happened. -/
  journal : Journal

/-- What an expansion uses and does not change. Answers of the prompt may change with its state, and
those of the retriever depend on the locator alone. -/
structure Services (State : Type) where
  /-- What a page break expands to. -/
  pageMarker : Text
  /-- How to ask and to tell. -/
  prompt : Prompt State
  /-- How to find the text at a location. -/
  retriever : Retriever

/-- A step on contexts that yields a value or a failure. -/
abbrev Expansion (State α : Type) := EStateM Failure (Context State) α

namespace Context

variable {State : Type}

/-- The context before a document: no scope is open and no counter is declared. -/
def initial (limit : Nat) (prompt : State) (journal : Journal) : Context State :=
  ⟨.empty, .empty, .ofLimit limit, prompt, journal⟩

/-- Adds an entry to the journal. -/
def note (context : Context State) (entry : Entry) : Context State :=
  { context with journal := context.journal.push entry }

/-- Adds entries to the journal. -/
def noteAll (context : Context State) (entries : List Entry) : Context State :=
  { context with journal := context.journal ++ entries }

/-- Opens an empty scope. -/
def pushScope (context : Context State) : Context State :=
  { context with scopes := context.scopes.push }.note (.scopePushed context.scopes.depth)

/-- Closes the current scope. -/
def popScope (context : Context State) : Context State :=
  let scopes := context.scopes.pop
  { context with scopes }.note (.scopePopped scopes.depth)

/-- Adds a binding to the current scope, or notes that it is shadowed. -/
def bind (origin : Origin) (context : Context State) (binding : Macro) : Context State :=
  match context.scopes.insertCurrent? binding with
  | some scopes => { context with scopes }
  | none => context.note (.bindingShadowed origin)

/-- Goes one level deeper, into a fresh scope that holds the given bindings. -/
def enter (bindings : List Macro) (origin : Origin) (context : Context State) : Context State :=
  let depth := context.depth.deeper
  bindings.foldl (bind origin)
    ({ context with depth }.note (.entered depth.level depth.limit)).pushScope

/-- Closes the scope of a fragment and goes back to the level outside. -/
def leave (context : Context State) : Context State :=
  let outside := context.popScope
  { outside with depth := outside.depth.exit }

end Context

namespace Expansion

variable {State α : Type}

/-- Notes an entry in the journal. -/
def note (entry : Entry) : Expansion State Unit := modify (·.note entry)

/-- Performs an expansion inside a fresh scope that holds the given bindings. The scope is closed
whether the expansion succeeds or fails. -/
def within (bindings : List Macro) (origin : Origin) (expansion : Expansion State α) :
    Expansion State α := fun context =>
  match expansion (context.enter bindings origin) with
  | .ok value inside => .ok value inside.leave
  | .error failure inside => .error failure inside.leave

/-- Performs an expansion a number of times and joins what it yields. -/
def times (count : Nat) (expansion : Expansion State Text) : Expansion State Text :=
  List.flatten <$> collect count []
where
  /-- The results of the remaining times behind those already there, which are in reverse. -/
  collect : Nat → List Text → Expansion State (List Text)
    | 0, results => return results.reverse
    | remaining + 1, results => do
      let result ← expansion
      collect remaining (result :: results)

end Expansion
end TextMacros
