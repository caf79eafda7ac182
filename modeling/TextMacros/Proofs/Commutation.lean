import Mathlib.Data.List.Forall2
import TextMacros.Failure
import TextMacros.Proofs.Scope
import TextMacros.Proofs.Visibility

/-!
# The order of definitions

A scope lists its macros in the order of their definition, and that order shows nowhere: a scope
answers by identity, and it holds at most one macro of each. So two definitions that can be made
one after the other can be made in the other order as well (`ScopeStack.insert?_comm`), whichever
scopes they belong to and also where the current scope is the global one. They leave scopes that
hold the same macros, and stacks of such scopes do the same for invocations
(`ScopeStack.indistinct_same`).
-/

namespace TextMacros

namespace Scope

/-- Two scopes that hold the same macros and find the same macro under every identity. The macros
may have been defined in another order. -/
structure Same (first second : Scope) : Prop where
  /-- The macros are the same. -/
  macros : first.macros.Perm second.macros
  /-- The answers are the same. -/
  find? : ∀ key, first.find? key = second.find? key

theorem Same.refl (scope : Scope) : scope.Same scope := ⟨.refl _, fun _ => rfl⟩

/-- An insertion puts the macro behind the others. -/
theorem macros_of_insert? {scope extended : Scope} {definition : Macro}
    (inserted : scope.insert? definition = some extended) :
    extended.macros = scope.macros ++ [definition] := by
  unfold insert? at inserted
  split at inserted
  · cases inserted
  · cases inserted
    rfl

/-- A macro is refused by both of two scopes that hold the same, or both hold the same again. -/
theorem Same.insert? {first second : Scope} (same : first.Same second) (definition : Macro) :
    Option.Rel Same (first.insert? definition) (second.insert? definition) := by
  cases inserted : first.insert? definition with
  | none =>
    have refused : second.insert? definition = none := by
      rw [insert?_eq_none] at inserted ⊢
      rwa [← same.find? definition.key]
    rw [refused]
    exact .none
  | some extended =>
    have free : second.find? definition.key = none := by
      rw [← same.find? definition.key]
      exact exists_insert?_iff.mp ⟨extended, inserted⟩
    obtain ⟨other, also⟩ := exists_insert?_iff.mpr free
    rw [also]
    refine .some ⟨?_, fun key => ?_⟩
    · rw [macros_of_insert? inserted, macros_of_insert? also]
      exact same.macros.append_right [definition]
    · rw [find?_of_insert? inserted, find?_of_insert? also, same.find? key]

/-- Two macros that a scope takes one after the other differ in their identities, and the scope
takes them in the other order as well. -/
theorem insert?_comm {scope middle later : Scope} {one other : Macro}
    (first : scope.insert? one = some middle) (second : middle.insert? other = some later) :
    one.key ≠ other.key ∧ ∃ between final, scope.insert? other = some between ∧
      between.insert? one = some final ∧ later.Same final := by
  have freeOne : scope.find? one.key = none := exists_insert?_iff.mp ⟨middle, first⟩
  have freeBehind : middle.find? other.key = none := exists_insert?_iff.mp ⟨later, second⟩
  rw [find?_of_insert? first] at freeBehind
  obtain ⟨differ, freeOther⟩ : one.key ≠ other.key ∧ scope.find? other.key = none := by
    split at freeBehind
    · cases freeBehind
    · exact ⟨‹_›, freeBehind⟩
  obtain ⟨between, insertedOther⟩ := exists_insert?_iff.mpr freeOther
  have stillFree : between.find? one.key = none := by
    rw [find?_of_insert? insertedOther, if_neg (Ne.symm differ), freeOne]
  obtain ⟨final, insertedOne⟩ := exists_insert?_iff.mpr stillFree
  refine ⟨differ, between, final, insertedOther, insertedOne, ?_, fun key => ?_⟩
  · rw [macros_of_insert? second, macros_of_insert? first, macros_of_insert? insertedOne,
      macros_of_insert? insertedOther, List.append_assoc, List.append_assoc]
    exact (List.Perm.swap other one []).append_left scope.macros
  · rw [find?_of_insert? second, find?_of_insert? first, find?_of_insert? insertedOne,
      find?_of_insert? insertedOther]
    by_cases foundOne : one.key = key
    · rw [if_pos foundOne, if_pos foundOne, if_neg (foundOne ▸ Ne.symm differ)]
    · rw [if_neg foundOne, if_neg foundOne]

end Scope

namespace ScopeStack

/-! ## Insertion at a position -/

/-- Adds a macro to the scope at a position, counted from the innermost one. -/
def insertAt? (definition : Macro) : List Scope → Nat → Option (List Scope)
  | [], _ => none
  | scope :: outer, 0 => (scope.insert? definition).map (· :: outer)
  | scope :: outer, index + 1 => (insertAt? definition outer index).map (scope :: ·)

/-- The outermost scope is at the last position. -/
theorem insertOutermost?_eq_insertAt? (definition : Macro) (scopes : List Scope) :
    insertOutermost? definition scopes = insertAt? definition scopes (scopes.length - 1) := by
  induction scopes with
  | nil => rfl
  | cons scope outer hypothesis =>
    cases outer with
    | nil => rfl
    | cons next rest => exact congrArg (Option.map (scope :: ·)) hypothesis

/-- As many scopes stay open. -/
theorem length_of_insertAt? {definition : Macro} {index : Nat} {scopes later : List Scope}
    (inserted : insertAt? definition scopes index = some later) :
    later.length = scopes.length := by
  induction scopes generalizing index later with
  | nil => cases inserted
  | cons scope outer hypothesis =>
    cases index with
    | zero =>
      obtain ⟨extended, -, rfl⟩ := Option.map_eq_some_iff.mp inserted
      rfl
    | succ index =>
      obtain ⟨grown, inner, rfl⟩ := Option.map_eq_some_iff.mp inserted
      exact congrArg Nat.succ (hypothesis inner)

/-- Two macros that go to the scopes at two positions go to them in either order. -/
theorem insertAt?_comm {one other : Macro} {index position : Nat} {scopes middle later : List Scope}
    (first : insertAt? one scopes index = some middle)
    (second : insertAt? other middle position = some later) :
    (index = position → one.key ≠ other.key) ∧ ∃ between final,
      insertAt? other scopes position = some between ∧ insertAt? one between index = some final ∧
        List.Forall₂ Scope.Same later final := by
  have same : ∀ scopes : List Scope, List.Forall₂ Scope.Same scopes scopes := fun scopes =>
    List.forall₂_same.mpr fun scope _ => .refl scope
  induction scopes generalizing index position middle later with
  | nil => cases first
  | cons scope outer hypothesis =>
    cases index with
    | zero =>
      obtain ⟨extended, inserted, rfl⟩ := Option.map_eq_some_iff.mp first
      cases position with
      | zero =>
        obtain ⟨last, insertedLast, rfl⟩ := Option.map_eq_some_iff.mp second
        obtain ⟨differ, between, final, insertedOther, insertedOne, kept⟩ :=
          Scope.insert?_comm inserted insertedLast
        refine ⟨fun _ => differ, between :: outer, final :: outer, ?_, ?_, .cons kept (same outer)⟩
        · exact congrArg (Option.map (· :: outer)) insertedOther
        · exact congrArg (Option.map (· :: outer)) insertedOne
      | succ position =>
        obtain ⟨grown, insertedGrown, rfl⟩ := Option.map_eq_some_iff.mp second
        refine ⟨nofun, scope :: grown, extended :: grown, ?_, ?_, same _⟩
        · exact congrArg (Option.map (scope :: ·)) insertedGrown
        · exact congrArg (Option.map (· :: grown)) inserted
    | succ index =>
      obtain ⟨grown, insertedGrown, rfl⟩ := Option.map_eq_some_iff.mp first
      cases position with
      | zero =>
        obtain ⟨extended, inserted, rfl⟩ := Option.map_eq_some_iff.mp second
        refine ⟨nofun, extended :: outer, extended :: grown, ?_, ?_, same _⟩
        · exact congrArg (Option.map (· :: outer)) inserted
        · exact congrArg (Option.map (extended :: ·)) insertedGrown
      | succ position =>
        obtain ⟨last, insertedLast, rfl⟩ := Option.map_eq_some_iff.mp second
        obtain ⟨differ, between, final, insertedOther, insertedOne, kept⟩ :=
          hypothesis insertedGrown insertedLast
        refine ⟨fun equal => differ (Nat.succ.inj equal), scope :: between, scope :: final, ?_, ?_,
          .cons (.refl scope) kept⟩
        · exact congrArg (Option.map (scope :: ·)) insertedOther
        · exact congrArg (Option.map (scope :: ·)) insertedOne

/-! ## Insertion into a region -/

/-- Adds a macro to the scope of a region. -/
def insert? (stack : ScopeStack) (definition : Macro) : Region → Option ScopeStack
  | .current => stack.insertCurrent? definition
  | .global => stack.insertGlobal? definition

/-- The position of the scope of a region, where some number of scopes are open. -/
def position (depth : Nat) : Region → Nat
  | .current => 0
  | .global => depth - 1

/-- The scope of a region is the one at its position. -/
theorem insert?_eq_insertAt? (stack : ScopeStack) (definition : Macro) (region : Region) :
    stack.insert? definition region =
      (insertAt? definition stack.scopes (position stack.depth region)).map ScopeStack.mk := by
  obtain ⟨scopes⟩ := stack
  cases region with
  | current =>
    cases scopes with
    | nil => rfl
    | cons scope outer =>
      show (scope.insert? definition).map _ = ((scope.insert? definition).map _).map _
      rw [Option.map_map]
      rfl
  | global => exact congrArg (Option.map ScopeStack.mk) (insertOutermost?_eq_insertAt? _ scopes)

/-- Two stacks whose scopes hold the same macros, one by one. -/
def Same (first second : ScopeStack) : Prop := List.Forall₂ Scope.Same first.scopes second.scopes

theorem Same.refl (stack : ScopeStack) : stack.Same stack :=
  List.forall₂_same.mpr fun scope _ => .refl scope

/-- Two definitions that are made one after the other can be made in the other order, and leave the
same macros in every scope. In one scope they differ in their identities. -/
theorem insert?_comm {stack middle later : ScopeStack} {one other : Macro} {region place : Region}
    (first : stack.insert? one region = some middle)
    (second : middle.insert? other place = some later) :
    (position stack.depth region = position stack.depth place → one.key ≠ other.key) ∧
      ∃ between final, stack.insert? other place = some between ∧
        between.insert? one region = some final ∧ later.Same final := by
  rw [insert?_eq_insertAt?] at first second
  obtain ⟨scopes, inserted, rfl⟩ := Option.map_eq_some_iff.mp first
  obtain ⟨last, insertedLast, rfl⟩ := Option.map_eq_some_iff.mp second
  have depth : ∀ {definition : Macro} {index : Nat} {later : List Scope},
      insertAt? definition stack.scopes index = some later → (mk later).depth = stack.depth :=
    length_of_insertAt?
  rw [depth inserted] at insertedLast
  obtain ⟨differ, between, final, insertedOther, insertedOne, same⟩ :=
    insertAt?_comm inserted insertedLast
  refine ⟨differ, ⟨between⟩, ⟨final⟩, ?_, ?_, same⟩
  · rw [insert?_eq_insertAt?, insertedOther]
    rfl
  · rw [insert?_eq_insertAt?, depth insertedOther, insertedOne]
    rfl

/-! ## Stacks that hold the same -/

/-- A macro is refused at a position of both of two stacks that hold the same, or both hold the same
again. -/
theorem forall₂_insertAt? {first second : List Scope} (same : List.Forall₂ Scope.Same first second)
    (definition : Macro) (index : Nat) :
    Option.Rel (List.Forall₂ Scope.Same) (insertAt? definition first index)
      (insertAt? definition second index) := by
  induction same generalizing index with
  | nil => exact .none
  | @cons scope other outer others kept rest hypothesis =>
    cases index with
    | zero =>
      have inserted := kept.insert? definition
      unfold insertAt?
      generalize scope.insert? definition = one at inserted
      generalize other.insert? definition = another at inserted
      cases inserted with
      | none => exact .none
      | some extended => exact .some (.cons extended rest)
    | succ index =>
      have inserted := hypothesis index
      unfold insertAt?
      generalize insertAt? definition outer index = one at inserted
      generalize insertAt? definition others index = another at inserted
      cases inserted with
      | none => exact .none
      | some grown => exact .some (.cons kept grown)

/-- A macro is refused in a region of both of two stacks that hold the same, or both hold the same
again. -/
theorem Same.insert? {first second : ScopeStack} (same : first.Same second) (definition : Macro)
    (region : Region) :
    Option.Rel Same (first.insert? definition region) (second.insert? definition region) := by
  have depth : second.depth = first.depth := same.length_eq.symm
  rw [insert?_eq_insertAt?, insert?_eq_insertAt?, depth]
  have inserted := forall₂_insertAt? same definition (position first.depth region)
  generalize insertAt? definition first.scopes _ = one at inserted
  generalize insertAt? definition second.scopes _ = another at inserted
  cases inserted with
  | none => exact .none
  | some kept => exact .some kept

/-- Stacks that hold the same answer every look-up alike, with the same scope. -/
theorem Same.find? {first second : ScopeStack} (same : first.Same second) (key : MacroKey) :
    first.find? key = second.find? key := by
  unfold ScopeStack.find?
  unfold Same at same
  generalize first.scopes = scopes at same
  generalize second.scopes = others at same
  induction same with
  | nil => rfl
  | @cons scope other outer others kept rest hypothesis =>
    rw [findIn?, findIn?, kept.find? key, hypothesis, rest.length_eq]

/-- Stacks that hold the same do the same for invocations. -/
theorem indistinct_same : Indistinct Same where
  insertCurrent? := fun same definition => same.insert? definition .current
  insertGlobal? := fun same definition => same.insert? definition .global
  visible := fun same key _ => congrArg (Option.map Prod.snd) (same.find? key)

/-- Opening a scope in both leaves stacks that hold the same. -/
theorem Same.push {first second : ScopeStack} (same : first.Same second) :
    first.push.Same second.push := .cons (.refl .empty) same

/-- Closing the current scope of both leaves stacks that hold the same. -/
theorem Same.pop {first second : ScopeStack} (same : first.Same second) :
    first.pop.Same second.pop := by
  obtain ⟨scopes⟩ := first
  obtain ⟨others⟩ := second
  cases same with
  | nil => exact .nil
  | cons kept rest => exact rest

end ScopeStack
end TextMacros
