import TextMacros.Scope

/-!
# Growth of scopes

A scope gains macros and loses none, because an identity that is taken is never given away again.
Two growths of a stack matter. In a nested fragment only the global scope of the stack outside can
grow (`GrowsGlobally`). In the fragment itself the current scope can grow as well (`Grows`).
-/

namespace TextMacros

namespace Scope

/-- A scope has gained macros behind those it held, each under an identity that was free. -/
def Grows (before after : Scope) : Prop :=
  ∃ added : List Macro, after.macros = before.macros ++ added ∧
    (∀ definition ∈ added, before.find? definition.key = none) ∧ (added.map Macro.key).Nodup

/-- An identity is free when no macro of the scope has it. -/
theorem find?_eq_none {scope : Scope} {key : MacroKey} :
    scope.find? key = none ↔ ∀ definition ∈ scope.macros, definition.key ≠ key := by
  unfold find?
  rw [List.find?_eq_none]
  simp

/-- A macro is inserted exactly when its identity is free. -/
theorem exists_insert?_iff {scope : Scope} {definition : Macro} :
    (∃ extended, scope.insert? definition = some extended) ↔
      scope.find? definition.key = none := by
  unfold insert?
  cases scope.find? definition.key <;> simp

/-- In a scope whose macros differ in their identities, each of them is found. -/
theorem find?_of_mem {macros : List Macro} (distinct : (macros.map Macro.key).Nodup)
    {definition : Macro} (member : definition ∈ macros) :
    find? ⟨macros⟩ definition.key = some definition := by
  unfold find?
  induction macros with
  | nil => cases member
  | cons first rest hypothesis =>
    rw [List.map_cons, List.nodup_cons] at distinct
    obtain ⟨fresh, others⟩ := distinct
    rcases List.mem_cons.mp member with rfl | behind
    · simp
    · have differ : first.key ≠ definition.key := by
        intro same
        exact fresh (same ▸ List.mem_map_of_mem behind)
      rw [List.find?_cons_of_neg (by simpa using differ)]
      exact hypothesis others behind

theorem Grows.refl (scope : Scope) : scope.Grows scope := ⟨[], by simp⟩

theorem Grows.trans {first second third : Scope} (before : first.Grows second)
    (after : second.Grows third) : first.Grows third := by
  obtain ⟨added, split, fresh, distinct⟩ := before
  obtain ⟨more, splitMore, freshMore, distinctMore⟩ := after
  have outside : ∀ definition ∈ more,
      ∀ known ∈ first.macros ++ added, known.key ≠ definition.key := by
    intro definition member
    rw [← split]
    exact find?_eq_none.mp (freshMore definition member)
  refine ⟨added ++ more, ?_, ?_, ?_⟩
  · rw [splitMore, split, List.append_assoc]
  · intro definition member
    rcases List.mem_append.mp member with old | new
    · exact fresh definition old
    · rw [find?_eq_none]
      exact fun known held => outside definition new known (List.mem_append_left added held)
  · rw [List.map_append, List.nodup_append]
    refine ⟨distinct, distinctMore, ?_⟩
    intro key inAdded other inMore
    obtain ⟨known, held, rfl⟩ := List.mem_map.mp inAdded
    obtain ⟨definition, new, rfl⟩ := List.mem_map.mp inMore
    exact outside definition new known (List.mem_append_right first.macros held)

/-- An insertion is a growth by one macro. -/
theorem grows_of_insert? {scope extended : Scope} {definition : Macro}
    (inserted : scope.insert? definition = some extended) : scope.Grows extended := by
  unfold insert? at inserted
  split at inserted
  · cases inserted
  · rename_i free
    cases inserted
    exact ⟨[definition], rfl, by simpa using free, by simp⟩

/-- A scope keeps its answers as it grows. -/
theorem Grows.find?_eq_some {before after : Scope} (grows : before.Grows after) {key : MacroKey}
    {definition : Macro} (found : before.find? key = some definition) :
    after.find? key = some definition := by
  obtain ⟨added, split, -, -⟩ := grows
  unfold find? at found ⊢
  rw [split, List.find?_append, found]
  rfl

end Scope

namespace ScopeStack

/-- The scopes of two lists are equal up to the last ones, and the last one has grown. -/
inductive GrowsGlobally : List Scope → List Scope → Prop
  /-- No scope is open. -/
  | none : GrowsGlobally [] []
  /-- The outermost scope is the global one. -/
  | outermost {before after : Scope} (grows : before.Grows after) :
    GrowsGlobally [before] [after]
  /-- A scope inside it stays as it is. -/
  | inside (scope : Scope) {before after : List Scope} (outer : GrowsGlobally before after) :
    GrowsGlobally (scope :: before) (scope :: after)

/-- The current scope has grown, and of the others at most the global one. -/
inductive Grows : List Scope → List Scope → Prop
  /-- No scope is open. -/
  | none : Grows [] []
  /-- The current scope comes first. -/
  | current {before after : Scope} {outer later : List Scope} (grows : before.Grows after)
    (global : GrowsGlobally outer later) : Grows (before :: outer) (after :: later)

theorem GrowsGlobally.refl (scopes : List Scope) : GrowsGlobally scopes scopes := by
  induction scopes with
  | nil => exact .none
  | cons scope outer hypothesis => exact .inside scope hypothesis

theorem GrowsGlobally.trans {first second third : List Scope}
    (before : GrowsGlobally first second) (after : GrowsGlobally second third) :
    GrowsGlobally first third := by
  induction before generalizing third with
  | none => exact after
  | outermost grows =>
    cases after with
    | outermost more => exact .outermost (grows.trans more)
    | inside _ outer =>
      cases outer
      exact .outermost grows
  | inside scope outer hypothesis =>
    cases after with
    | outermost more =>
      cases outer
      exact .outermost more
    | inside _ further => exact .inside scope (hypothesis further)

/-- A growth of the global scope alone is a growth. -/
theorem GrowsGlobally.grows {before after : List Scope} (growth : GrowsGlobally before after) :
    Grows before after := by
  cases growth with
  | none => exact .none
  | outermost grows => exact .current grows .none
  | inside scope outer => exact .current (Scope.Grows.refl scope) outer

theorem Grows.refl (scopes : List Scope) : Grows scopes scopes :=
  (GrowsGlobally.refl scopes).grows

theorem Grows.trans {first second third : List Scope} (before : Grows first second)
    (after : Grows second third) : Grows first third := by
  cases before with
  | none => exact after
  | current grows global =>
    cases after with
    | current more further => exact .current (grows.trans more) (global.trans further)

/-- A definition in the current scope is a growth. -/
theorem grows_of_insertCurrent? {stack extended : ScopeStack} {definition : Macro}
    (inserted : stack.insertCurrent? definition = some extended) :
    Grows stack.scopes extended.scopes := by
  unfold insertCurrent? at inserted
  split at inserted
  · cases inserted
  · rename_i scope outer opened
    obtain ⟨grown, insertion, rfl⟩ := Option.map_eq_some_iff.mp inserted
    rw [opened]
    exact .current (Scope.grows_of_insert? insertion) (.refl outer)

/-- A definition in the outermost scope is a growth of that scope alone. -/
theorem growsGlobally_of_insertOutermost? {scopes extended : List Scope} {definition : Macro}
    (inserted : insertOutermost? definition scopes = some extended) :
    GrowsGlobally scopes extended := by
  induction scopes generalizing extended with
  | nil => cases inserted
  | cons scope outer hypothesis =>
    cases outer with
    | nil =>
      obtain ⟨grown, insertion, rfl⟩ := Option.map_eq_some_iff.mp inserted
      exact .outermost (Scope.grows_of_insert? insertion)
    | cons next rest =>
      obtain ⟨grown, insertion, rfl⟩ := Option.map_eq_some_iff.mp inserted
      exact .inside scope (hypothesis insertion)

/-- A definition in the global scope is a growth of that scope alone. -/
theorem growsGlobally_of_insertGlobal? {stack extended : ScopeStack} {definition : Macro}
    (inserted : stack.insertGlobal? definition = some extended) :
    GrowsGlobally stack.scopes extended.scopes := by
  obtain ⟨scopes, insertion, rfl⟩ := Option.map_eq_some_iff.mp inserted
  exact growsGlobally_of_insertOutermost? insertion

/-- As many scopes stay open. -/
theorem GrowsGlobally.length_eq {before after : List Scope} (growth : GrowsGlobally before after) :
    after.length = before.length := by
  induction growth with
  | none => rfl
  | outermost => rfl
  | inside _ _ hypothesis => rw [List.length_cons, List.length_cons, hypothesis]

/-- No scope is opened or closed inside a fragment, either. -/
theorem Grows.length_eq {before after : List Scope} (growth : Grows before after) :
    after.length = before.length := by
  cases growth with
  | none => rfl
  | current _ global => rw [List.length_cons, List.length_cons, global.length_eq]

/-- Scopes that hold nothing under an identity show what is found outside them. -/
theorem find?_append_of_free {inner : List Scope} {key : MacroKey}
    (free : ∀ scope ∈ inner, scope.find? key = none) (outer : List Scope) :
    find? ⟨inner ++ outer⟩ key = find? ⟨outer⟩ key := by
  induction inner with
  | nil => rfl
  | cons scope inner hypothesis =>
    have within : find? ⟨scope :: (inner ++ outer)⟩ key = find? ⟨inner ++ outer⟩ key := by
      unfold find?
      dsimp only
      rw [findIn?, free scope List.mem_cons_self]
    exact within.trans (hypothesis fun other member => free other (List.mem_cons_of_mem _ member))

/-- What the current scope holds is found in it, however the scopes have grown. -/
theorem find?_of_grows {scope : Scope} {outer : List Scope} {stack : ScopeStack} {key : MacroKey}
    {definition : Macro} (held : scope.find? key = some definition)
    (growth : Grows (scope :: outer) stack.scopes) :
    stack.find? key = some (outer.length, definition) := by
  obtain ⟨scopes⟩ := stack
  cases growth with
  | current grows global =>
    unfold find? findIn?
    rw [grows.find?_eq_some held, global.length_eq]

/-- All scopes but the outermost stay as they are. -/
theorem GrowsGlobally.dropLast_eq {before after : List Scope}
    (growth : GrowsGlobally before after) : after.dropLast = before.dropLast := by
  induction growth with
  | none => rfl
  | outermost => rfl
  | inside scope outer hypothesis =>
    cases outer with
    | none => rfl
    | outermost => rfl
    | inside => rw [List.dropLast_cons_cons, List.dropLast_cons_cons, hypothesis]

/-- The outermost scope grows. -/
theorem GrowsGlobally.getLast? {before after : List Scope} (growth : GrowsGlobally before after)
    {scope : Scope} (outermost : before.getLast? = some scope) :
    ∃ grown, after.getLast? = some grown ∧ scope.Grows grown := by
  induction growth with
  | none => cases outermost
  | outermost grows =>
    cases outermost
    exact ⟨_, rfl, grows⟩
  | inside inner outer hypothesis =>
    cases outer with
    | none =>
      cases outermost
      exact ⟨inner, rfl, .refl inner⟩
    | outermost grows => exact hypothesis outermost
    | inside => exact hypothesis outermost

end ScopeStack

/-! ## Macros that are held -/

/-- What a scope holds behind an insertion is the new macro or was held before. -/
theorem Scope.mem_of_insert? {scope extended : Scope} {definition held : Macro}
    (inserted : scope.insert? definition = some extended) (member : held ∈ extended.macros) :
    held = definition ∨ held ∈ scope.macros := by
  unfold insert? at inserted
  split at inserted
  · cases inserted
  · cases inserted
    rcases List.mem_append.mp member with before | new
    · exact .inr before
    · exact .inl (List.mem_singleton.mp new)

namespace ScopeStack

/-- Some of the scopes holds a macro. -/
def HeldIn (scopes : List Scope) (definition : Macro) : Prop :=
  ∃ scope ∈ scopes, definition ∈ scope.macros

/-- A macro is held by the first scope or by one of the others. -/
theorem heldIn_cons {scope : Scope} {outer : List Scope} {definition : Macro} :
    HeldIn (scope :: outer) definition ↔
      definition ∈ scope.macros ∨ HeldIn outer definition := by
  simp [HeldIn]

variable {definition held : Macro}

/-- What is found is held. -/
theorem heldIn_of_find? {stack : ScopeStack} {key : MacroKey} {index : Nat}
    (found : stack.find? key = some (index, definition)) : HeldIn stack.scopes definition := by
  unfold find? at found
  generalize stack.scopes = scopes at found ⊢
  induction scopes with
  | nil => cases found
  | cons scope outer hypothesis =>
    rw [heldIn_cons]
    unfold findIn? at found
    cases here : scope.find? key with
    | some known =>
      rw [here] at found
      cases found
      exact .inl (List.mem_of_find?_eq_some here)
    | none =>
      rw [here] at found
      exact .inr (hypothesis found)

/-- An insertion into the current scope adds the new macro at most. -/
theorem heldIn_of_insertCurrent? {stack extended : ScopeStack}
    (inserted : stack.insertCurrent? definition = some extended)
    (holds : HeldIn extended.scopes held) : held = definition ∨ HeldIn stack.scopes held := by
  unfold insertCurrent? at inserted
  split at inserted
  · cases inserted
  · rename_i scope outer opened
    obtain ⟨grown, insertion, rfl⟩ := Option.map_eq_some_iff.mp inserted
    rw [opened, heldIn_cons]
    rcases heldIn_cons.mp holds with here | outside
    · rcases Scope.mem_of_insert? insertion here with new | before
      · exact .inl new
      · exact .inr (.inl before)
    · exact .inr (.inr outside)

/-- An insertion into the outermost scope adds the new macro at most. -/
theorem heldIn_of_insertOutermost? {scopes extended : List Scope}
    (inserted : insertOutermost? definition scopes = some extended)
    (holds : HeldIn extended held) : held = definition ∨ HeldIn scopes held := by
  induction scopes generalizing extended with
  | nil => cases inserted
  | cons scope outer hypothesis =>
    cases outer with
    | nil =>
      obtain ⟨grown, insertion, rfl⟩ := Option.map_eq_some_iff.mp inserted
      obtain ⟨only, member, inside⟩ := holds
      rw [List.mem_singleton.mp member] at inside
      rcases Scope.mem_of_insert? insertion inside with new | before
      · exact .inl new
      · exact .inr (heldIn_cons.mpr (.inl before))
    | cons next rest =>
      obtain ⟨inner, insertion, rfl⟩ := Option.map_eq_some_iff.mp inserted
      rw [heldIn_cons]
      rcases heldIn_cons.mp holds with here | outside
      · exact .inr (.inl here)
      · rcases hypothesis insertion outside with new | before
        · exact .inl new
        · exact .inr (.inr before)

/-- An insertion into the global scope adds the new macro at most. -/
theorem heldIn_of_insertGlobal? {stack extended : ScopeStack}
    (inserted : stack.insertGlobal? definition = some extended)
    (holds : HeldIn extended.scopes held) : held = definition ∨ HeldIn stack.scopes held := by
  obtain ⟨scopes, insertion, rfl⟩ := Option.map_eq_some_iff.mp inserted
  exact heldIn_of_insertOutermost? insertion holds

end ScopeStack
end TextMacros
