import TextMacros.Macro

/-!
# Scopes

A scope holds macros, at most one of each identity; a second one is refused and changes nothing.
Scopes are stacked: the innermost is the current one and the outermost the global one. A macro is
looked up from the innermost scope outwards. In the list of a stack the innermost scope comes first,
and the index of a scope counts the scopes outside it, so the global scope has index zero.
-/

namespace TextMacros

/-- The macros defined in one fragment. -/
structure Scope where
  /-- The macros in the order of their definition. -/
  macros : List Macro
deriving DecidableEq

namespace Scope

/-- The scope without macros. -/
def empty : Scope := ⟨[]⟩

/-- The macro with an identity. -/
def find? (scope : Scope) (key : MacroKey) : Option Macro :=
  scope.macros.find? fun definition => definition.key = key

/-- Adds a macro, unless the scope holds one of its identity. -/
def insert? (scope : Scope) (definition : Macro) : Option Scope :=
  match scope.find? definition.key with
  | some _ => none
  | none => some ⟨scope.macros ++ [definition]⟩

@[simp] theorem find?_empty (key : MacroKey) : empty.find? key = none := rfl

/-- A found macro has the identity it was looked up by. -/
theorem key_of_find? {scope : Scope} {key : MacroKey} {definition : Macro}
    (found : scope.find? key = some definition) : definition.key = key := by
  simpa using List.find?_some found

/-- A macro is refused exactly when its identity is taken. -/
theorem insert?_eq_none {scope : Scope} {definition : Macro} :
    scope.insert? definition = none ↔ (scope.find? definition.key).isSome := by
  unfold insert?
  split <;> simp_all

/-- An insertion adds one macro under its own identity and keeps every other answer. -/
theorem find?_of_insert? {scope extended : Scope} {definition : Macro}
    (inserted : scope.insert? definition = some extended) (key : MacroKey) :
    extended.find? key = if definition.key = key then some definition else scope.find? key := by
  unfold insert? at inserted
  split at inserted
  · simp at inserted
  · rename_i fresh
    simp only [Option.some.injEq] at inserted
    subst inserted
    unfold find? at fresh ⊢
    by_cases same : definition.key = key
    · subst same
      simp [List.find?_append, fresh]
    · simp [List.find?_append, same]

end Scope

/-- The open scopes, innermost first. -/
structure ScopeStack where
  /-- The scopes from the current one to the global one. -/
  scopes : List Scope
deriving DecidableEq

namespace ScopeStack

/-- The stack without scopes. -/
def empty : ScopeStack := ⟨[]⟩

/-- The number of open scopes. -/
def depth (stack : ScopeStack) : Nat := stack.scopes.length

/-- Opens an empty scope inside the current one. -/
def push (stack : ScopeStack) : ScopeStack := ⟨.empty :: stack.scopes⟩

/-- Closes the current scope. -/
def pop (stack : ScopeStack) : ScopeStack := ⟨stack.scopes.tail⟩

/-- The innermost scope. -/
def current? (stack : ScopeStack) : Option Scope := stack.scopes.head?

/-- The outermost scope. -/
def global? (stack : ScopeStack) : Option Scope := stack.scopes.getLast?

/-- Adds a macro to the current scope, unless it is refused or no scope is open. -/
def insertCurrent? (stack : ScopeStack) (definition : Macro) : Option ScopeStack :=
  match stack.scopes with
  | [] => none
  | scope :: outer => (scope.insert? definition).map fun extended => ⟨extended :: outer⟩

/-- Adds a macro to the outermost of some scopes. -/
def insertOutermost? (definition : Macro) : List Scope → Option (List Scope)
  | [] => none
  | [scope] => (scope.insert? definition).map fun extended => [extended]
  | scope :: outer => (insertOutermost? definition outer).map (scope :: ·)

/-- Adds a macro to the global scope, unless it is refused or no scope is open. -/
def insertGlobal? (stack : ScopeStack) (definition : Macro) : Option ScopeStack :=
  (insertOutermost? definition stack.scopes).map ScopeStack.mk

/-- Looks an identity up in some scopes, innermost first, and returns the index of the scope that
holds it. -/
def findIn? (key : MacroKey) : List Scope → Option (Nat × Macro)
  | [] => none
  | scope :: outer =>
    match scope.find? key with
    | some definition => some (outer.length, definition)
    | none => findIn? key outer

/-- The innermost macro with an identity and the index of its scope. -/
def find? (stack : ScopeStack) (key : MacroKey) : Option (Nat × Macro) := findIn? key stack.scopes

@[simp] theorem depth_push (stack : ScopeStack) : stack.push.depth = stack.depth + 1 := rfl

@[simp] theorem pop_push (stack : ScopeStack) : stack.push.pop = stack := rfl

/-- Opening a scope hides nothing. -/
@[simp] theorem find?_push (stack : ScopeStack) (key : MacroKey) :
    stack.push.find? key = stack.find? key := rfl

/-- A found macro has the identity it was looked up by. -/
theorem key_of_find? {stack : ScopeStack} {key : MacroKey} {index : Nat} {definition : Macro}
    (found : stack.find? key = some (index, definition)) : definition.key = key := by
  unfold find? at found
  generalize stack.scopes = scopes at found
  fun_induction findIn? key scopes with
  | case1 => simp at found
  | case2 scope outer held held_eq =>
    simp only [Option.some.injEq, Prod.mk.injEq] at found
    rw [← found.2]
    exact Scope.key_of_find? held_eq
  | case3 scope outer missing hypothesis => exact hypothesis found

end ScopeStack
end TextMacros
