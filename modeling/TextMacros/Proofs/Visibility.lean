import TextMacros.Primitive
import TextMacros.Proofs.Scope

/-!
# Visibility

An expansion looks at its scopes in two ways only: it looks the names of users up, and it asks the
global scope whether an identity is taken. Two stacks that answer both alike are interchangeable,
however many scopes they have and wherever in them the macros lie.

Definitions keep stacks interchangeable. A definition in the global scope is refused in both or in
neither, and it becomes visible in both or stays hidden in both: what hid it before was visible
before, and so it was the same macro in both stacks (`visible?_of_growsGlobally`).
-/

namespace TextMacros
namespace ScopeStack

/-- The macro that is visible under an identity, whichever scope holds it. -/
def visible? (stack : ScopeStack) (key : MacroKey) : Option Macro := (stack.find? key).map Prod.snd

/-- The macro that the global scope holds under an identity. -/
def globalMacro? (stack : ScopeStack) (key : MacroKey) : Option Macro :=
  stack.global?.bind fun scope => scope.find? key

/-- A visible macro has the identity under which it is visible. -/
theorem key_of_visible? {stack : ScopeStack} {key : MacroKey} {definition : Macro}
    (visible : stack.visible? key = some definition) : definition.key = key := by
  unfold visible? at visible
  obtain ⟨⟨index, held⟩, found, rfl⟩ := Option.map_eq_some_iff.mp visible
  exact key_of_find? found

/-- What a scope holds hides what the scopes outside it show. -/
theorem visible?_cons (scope : Scope) (outer : List Scope) (key : MacroKey) :
    visible? ⟨scope :: outer⟩ key = (scope.find? key).or (visible? ⟨outer⟩ key) := by
  unfold visible? find?
  rw [findIn?]
  cases scope.find? key <;> rfl

/-- A scope inside another one is not the global one. -/
theorem globalMacro?_cons (scope : Scope) {outer : List Scope} (opened : outer ≠ [])
    (key : MacroKey) : globalMacro? ⟨scope :: outer⟩ key = globalMacro? ⟨outer⟩ key := by
  obtain ⟨next, rest, rfl⟩ := List.exists_cons_of_ne_nil opened
  unfold globalMacro? global?
  rw [List.getLast?_cons_cons]

/-- Scopes that stay open keep the stack open. -/
theorem GrowsGlobally.ne_nil {before after : List Scope} (growth : GrowsGlobally before after)
    (opened : before ≠ []) : after ≠ [] := by
  have same := growth.length_eq
  have positive := List.length_pos_iff.mpr opened
  rw [← List.length_pos_iff]
  omega

/-- When the global scope grows, what was visible stays visible, and where nothing was visible the
global scope shows. -/
theorem visible?_of_growsGlobally {before after : List Scope}
    (growth : GrowsGlobally before after) (key : MacroKey) :
    visible? ⟨after⟩ key = (visible? ⟨before⟩ key).or (globalMacro? ⟨after⟩ key) := by
  induction growth with
  | none => rfl
  | @outermost before after grows =>
    have single : globalMacro? ⟨[after]⟩ key = after.find? key := rfl
    have nothing : visible? ⟨[]⟩ key = none := rfl
    rw [visible?_cons, visible?_cons, nothing, single, Option.or_none, Option.or_none]
    cases found : before.find? key with
    | none => rfl
    | some definition =>
      rw [grows.find?_eq_some found]
      rfl
  | @inside scope before after outer hypothesis =>
    cases outer with
    | none =>
      have nothing : visible? ⟨[]⟩ key = none := rfl
      have single : globalMacro? ⟨[scope]⟩ key = scope.find? key := rfl
      rw [visible?_cons, nothing, single, Option.or_none, Option.or_self]
    | outermost grows =>
      rw [visible?_cons scope, visible?_cons scope, globalMacro?_cons scope (by simp), hypothesis,
        Option.or_assoc]
    | inside next more =>
      rw [visible?_cons scope, visible?_cons scope, globalMacro?_cons scope (by simp), hypothesis,
        Option.or_assoc]

/-- A macro for the global scope passes a scope inside it. -/
theorem insertGlobal?_cons (scope : Scope) {outer : List Scope} (opened : outer ≠ [])
    (definition : Macro) : insertGlobal? ⟨scope :: outer⟩ definition =
      (insertGlobal? ⟨outer⟩ definition).map fun stack => ⟨scope :: stack.scopes⟩ := by
  obtain ⟨next, rest, rfl⟩ := List.exists_cons_of_ne_nil opened
  change ((insertOutermost? definition (next :: rest)).map (scope :: ·)).map ScopeStack.mk =
    ((insertOutermost? definition (next :: rest)).map ScopeStack.mk).map _
  rw [Option.map_map, Option.map_map]
  rfl

/-- A macro is refused by the outermost scope exactly when that scope holds one of its identity. -/
theorem insertOutermost?_eq_none {scopes : List Scope} (opened : scopes ≠ [])
    (definition : Macro) :
    insertOutermost? definition scopes = none ↔
      (globalMacro? ⟨scopes⟩ definition.key).isSome := by
  induction scopes with
  | nil => exact absurd rfl opened
  | cons scope outer hypothesis =>
    cases outer with
    | nil =>
      have single : globalMacro? ⟨[scope]⟩ definition.key = scope.find? definition.key := rfl
      rw [insertOutermost?, Option.map_eq_none_iff, Scope.insert?_eq_none, single]
    | cons next rest =>
      have inner : next :: rest ≠ [] := by simp
      rw [globalMacro?_cons scope inner, ← hypothesis inner]
      exact Option.map_eq_none_iff

/-- An insertion adds one macro to the outermost scope under its own identity. -/
theorem globalMacro?_of_insertOutermost? {scopes later : List Scope} {definition : Macro}
    (inserted : insertOutermost? definition scopes = some later) (key : MacroKey) :
    globalMacro? ⟨later⟩ key =
      if definition.key = key then some definition else globalMacro? ⟨scopes⟩ key := by
  induction scopes generalizing later with
  | nil => cases inserted
  | cons scope outer hypothesis =>
    cases outer with
    | nil =>
      obtain ⟨extended, insertion, rfl⟩ := Option.map_eq_some_iff.mp inserted
      have found : extended.find? key = _ := Scope.find?_of_insert? insertion key
      exact found
    | cons next rest =>
      obtain ⟨grown, insertion, rfl⟩ := Option.map_eq_some_iff.mp inserted
      have inner : next :: rest ≠ [] := by simp
      have still : grown ≠ [] := (growsGlobally_of_insertOutermost? insertion).ne_nil inner
      rw [globalMacro?_cons scope still, globalMacro?_cons scope inner]
      exact hypothesis insertion

/-- A relation between stacks of scopes that do the same for invocations: a macro is refused by both
of two related stacks, or it is added to both and they stay related; and a name that calls no
primitive leads to the same macro in both. -/
structure Indistinct (related : ScopeStack → ScopeStack → Prop) : Prop where
  /-- A macro for the current scope. -/
  insertCurrent? : ∀ {first second : ScopeStack}, related first second → ∀ definition,
    Option.Rel related (first.insertCurrent? definition) (second.insertCurrent? definition)
  /-- A macro for the global scope. -/
  insertGlobal? : ∀ {first second : ScopeStack}, related first second → ∀ definition,
    Option.Rel related (first.insertGlobal? definition) (second.insertGlobal? definition)
  /-- A name of the user. -/
  visible : ∀ {first second : ScopeStack}, related first second → ∀ key,
    Primitive.ofName? key.name = none → first.visible? key = second.visible? key

/-! ## Interchangeable stacks -/

/-- Two stacks that an expansion cannot tell apart: the names of users lead to the same macros, and
the global scopes hold the same macros. Names that call primitives are never looked up, so nothing
is asked of them outside the global scopes. -/
structure Interchangeable (first second : ScopeStack) : Prop where
  /-- Each stack has a scope. -/
  opened : first.scopes ≠ [] ∧ second.scopes ≠ []
  /-- The global scopes hold the same macros. -/
  global : ∀ key, first.globalMacro? key = second.globalMacro? key
  /-- A name that calls no primitive leads to the same macro. -/
  visible : ∀ key, Primitive.ofName? key.name = none → first.visible? key = second.visible? key

/-- Stacks stay interchangeable when only their global scopes grow, to hold the same macros
again. -/
theorem Interchangeable.of_growsGlobally {first second first' second' : ScopeStack}
    (same : first.Interchangeable second)
    (growth : GrowsGlobally first.scopes first'.scopes)
    (growth' : GrowsGlobally second.scopes second'.scopes)
    (global : ∀ key, first'.globalMacro? key = second'.globalMacro? key) :
    first'.Interchangeable second' where
  opened := ⟨growth.ne_nil same.opened.1, growth'.ne_nil same.opened.2⟩
  global := global
  visible := by
    intro key user
    have shown : second'.visible? key = _ := visible?_of_growsGlobally growth' key
    have visible : visible? ⟨first.scopes⟩ key = visible? ⟨second.scopes⟩ key :=
      same.visible key user
    calc first'.visible? key
        = (visible? ⟨first.scopes⟩ key).or (first'.globalMacro? key) :=
          visible?_of_growsGlobally growth key
      _ = second'.visible? key := by rw [visible, global key, shown]

/-- A macro for the global scope is refused by both of two interchangeable stacks, or it is added to
both and they stay interchangeable. -/
theorem Interchangeable.insertGlobal? {first second : ScopeStack}
    (same : first.Interchangeable second) (definition : Macro) :
    Option.Rel Interchangeable (first.insertGlobal? definition)
      (second.insertGlobal? definition) := by
  have refused : insertOutermost? definition first.scopes = none ↔
      insertOutermost? definition second.scopes = none := by
    rw [insertOutermost?_eq_none same.opened.1, insertOutermost?_eq_none same.opened.2]
    exact iff_of_eq (congrArg (fun found => found.isSome = true) (same.global definition.key))
  unfold ScopeStack.insertGlobal?
  cases outcome : insertOutermost? definition first.scopes with
  | none =>
    rw [refused.mp outcome]
    exact .none
  | some extended =>
    cases outcome' : insertOutermost? definition second.scopes with
    | none =>
      rw [refused.mpr outcome'] at outcome
      cases outcome
    | some extended' =>
      refine .some (same.of_growsGlobally (growsGlobally_of_insertOutermost? outcome)
        (growsGlobally_of_insertOutermost? outcome') fun key => ?_)
      have global : globalMacro? ⟨first.scopes⟩ key = globalMacro? ⟨second.scopes⟩ key :=
        same.global key
      rw [globalMacro?_of_insertOutermost? outcome, globalMacro?_of_insertOutermost? outcome',
        global]

/-! ## Stacks inside a fragment -/

/-- Two stacks with one and the same current scope inside interchangeable ones. Inside a fragment
the stacks are aligned, because each fragment opens a scope of its own. -/
inductive Aligned : ScopeStack → ScopeStack → Prop
  /-- The current scope is not the global one in either stack. -/
  | inside (current : Scope) {outer other : List Scope}
    (outside : Interchangeable ⟨outer⟩ ⟨other⟩) :
    Aligned ⟨current :: outer⟩ ⟨current :: other⟩

/-- Aligned stacks are interchangeable. -/
theorem Aligned.interchangeable {first second : ScopeStack} (aligned : first.Aligned second) :
    first.Interchangeable second := by
  obtain ⟨current, outside⟩ := aligned
  refine ⟨⟨by simp, by simp⟩, fun key => ?_, fun key user => ?_⟩
  · rw [globalMacro?_cons current outside.opened.1, globalMacro?_cons current outside.opened.2]
    exact outside.global key
  · rw [visible?_cons, visible?_cons, outside.visible key user]

/-- Opening a scope aligns interchangeable stacks. -/
theorem Interchangeable.push {first second : ScopeStack} (same : first.Interchangeable second) :
    first.push.Aligned second.push := .inside .empty same

/-- Closing the current scope leaves interchangeable stacks. -/
theorem Aligned.pop {first second : ScopeStack} (aligned : first.Aligned second) :
    first.pop.Interchangeable second.pop := by
  obtain ⟨current, outside⟩ := aligned
  exact outside

/-- A macro for the current scope is refused by both of two aligned stacks, or added to both. -/
theorem Aligned.insertCurrent? {first second : ScopeStack} (aligned : first.Aligned second)
    (definition : Macro) :
    Option.Rel Aligned (first.insertCurrent? definition) (second.insertCurrent? definition) := by
  obtain ⟨current, outside⟩ := aligned
  unfold ScopeStack.insertCurrent?
  dsimp only
  cases current.insert? definition with
  | none => exact .none
  | some extended => exact .some (.inside extended outside)

/-- A macro for the global scope is refused by both of two aligned stacks, or added to both. -/
theorem Aligned.insertGlobal? {first second : ScopeStack} (aligned : first.Aligned second)
    (definition : Macro) :
    Option.Rel Aligned (first.insertGlobal? definition) (second.insertGlobal? definition) := by
  cases aligned with
  | @inside current outer other outside =>
    rw [insertGlobal?_cons current outside.opened.1, insertGlobal?_cons current outside.opened.2]
    have inserted := outside.insertGlobal? definition
    generalize ScopeStack.insertGlobal? ⟨outer⟩ definition = one at inserted
    generalize ScopeStack.insertGlobal? ⟨other⟩ definition = another at inserted
    cases inserted with
    | none => exact .none
    | some same => exact .some (.inside current same)

/-- Aligned stacks do the same for invocations. -/
theorem indistinct_aligned : Indistinct Aligned where
  insertCurrent? := Aligned.insertCurrent?
  insertGlobal? := Aligned.insertGlobal?
  visible := fun aligned key user => aligned.interchangeable.visible key user

/-- Aligned stacks whose global scopes alone grow stay aligned if they stay interchangeable. -/
theorem Aligned.of_growsGlobally {first second first' second' : ScopeStack}
    (aligned : first.Aligned second) (growth : GrowsGlobally first.scopes first'.scopes)
    (growth' : GrowsGlobally second.scopes second'.scopes)
    (same : first'.Interchangeable second') : first'.Aligned second' := by
  obtain ⟨current, outside⟩ := aligned
  -- A scope with another one outside it is not the one that grows.
  have kept : ∀ {outer : List Scope} {stack : ScopeStack}, outer ≠ [] →
      GrowsGlobally (current :: outer) stack.scopes →
      ∃ later, stack = ⟨current :: later⟩ ∧ GrowsGlobally outer later := by
    rintro outer ⟨scopes⟩ opened grown
    cases grown with
    | outermost grows => exact absurd rfl opened
    | inside scope further => exact ⟨_, rfl, further⟩
  obtain ⟨outer, rfl, further⟩ := kept outside.opened.1 growth
  obtain ⟨other, rfl, further'⟩ := kept outside.opened.2 growth'
  refine .inside current (outside.of_growsGlobally further further' fun key => ?_)
  have global := same.global key
  rw [globalMacro?_cons current (further.ne_nil outside.opened.1),
    globalMacro?_cons current (further'.ne_nil outside.opened.2)] at global
  exact global

end ScopeStack
end TextMacros
