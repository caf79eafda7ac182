import TextMacros.Text

/-!
# Macros

A macro is a template: a name, the names of its formal parameters and a body that is expanded each
time the macro is called. A macro is identified by its name and its number of parameters alone, so
macros of one name and different arity are different macros.
-/

namespace TextMacros

/-- A template that can be called by name. -/
structure Macro where
  /-- The name, canonically spelled when it was defined in a document. -/
  name : Text
  /-- The names of the formal parameters in order. -/
  parameters : List Text
  /-- The text that a call expands. -/
  body : Text
deriving DecidableEq

/-- What identifies a macro within a scope. -/
structure MacroKey where
  /-- The name of the macro. -/
  name : Text
  /-- How many parameters it takes. -/
  arity : Nat
deriving DecidableEq

namespace Macro

/-- The number of parameters. -/
def arity (definition : Macro) : Nat := definition.parameters.length

/-- The identity of a macro. -/
def key (definition : Macro) : MacroKey := ⟨definition.name, definition.arity⟩

/-- A macro without parameters that stands for a value. -/
def constant (name value : Text) : Macro := ⟨name, [], value⟩

/-- Whether two macros are one and the same for a scope. -/
def sameIdentity (first second : Macro) : Bool := first.key = second.key

/-- The head of a macro as it is shown: its name and formal parameters. -/
def head (definition : Macro) : Text :=
  definition.name ++ ['('] ++ Text.join [',', ' '] definition.parameters ++ [')']

end Macro
end TextMacros
