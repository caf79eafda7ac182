import TextMacros.Proofs.Commutation

/-!
# Scopes by their place

A stack is used from both of its ends: scopes are opened and closed at the innermost one, and the
global scope is the outermost one. The index of a scope counts the scopes outside it, so it stays
the same while the scope is open. Under its index a scope answers by identity
(`ScopeStack.held?`), and all that the operations do to a stack is told by these answers: opening
and closing change none of a scope that stays open, an insertion changes one that was missing, and
what is found is the answer of the greatest index that has one (`ScopeStack.find?_eq_some_iff`).
-/

namespace TextMacros
namespace ScopeStack

/-- The scope with an index, counted from the global one. -/
def scope? (stack : ScopeStack) (index : Nat) : Option Scope := stack.scopes.reverse[index]?

/-- The macro that the scope with an index holds under an identity. -/
def held? (stack : ScopeStack) (index : Nat) (key : MacroKey) : Option Macro :=
  (stack.scope? index).bind fun scope => scope.find? key

/-- The index of the scope of a region, if any scope is open. -/
def target (stack : ScopeStack) : Region → Nat
  | .current => stack.depth - 1
  | .global => 0

variable {stack extended : ScopeStack} {index : Nat} {key : MacroKey} {definition : Macro}
  {region : Region}

/-- The index of an open scope is below the number of scopes. -/
theorem scope?_eq_none : stack.scope? index = none ↔ stack.depth ≤ index := by
  unfold scope? depth
  rw [List.getElem?_eq_none_iff, List.length_reverse]

/-- A scope that holds something is open. -/
theorem lt_depth_of_held? (held : stack.held? index key = some definition) :
    index < stack.depth := by
  by_contra closed
  have missing : stack.scope? index = none := scope?_eq_none.mpr (Nat.le_of_not_lt closed)
  unfold held? at held
  rw [missing] at held
  cases held

/-- What a scope holds under an identity has that identity. -/
theorem key_of_held? (held : stack.held? index key = some definition) : definition.key = key := by
  obtain ⟨scope, -, found⟩ := Option.bind_eq_some_iff.mp held
  exact Scope.key_of_find? found

/-! ## Opening and closing -/

/-- The innermost scope has the greatest index, and the others keep theirs. -/
theorem scope?_cons (scope : Scope) (outer : List Scope) (index : Nat) :
    scope? ⟨scope :: outer⟩ index =
      if index = outer.length then some scope else scope? ⟨outer⟩ index := by
  unfold scope?
  rw [List.reverse_cons, List.getElem?_append, List.length_reverse]
  by_cases inside : index < outer.length
  · rw [if_pos inside, if_neg (Nat.ne_of_lt inside)]
  · rw [if_neg inside]
    by_cases last : index = outer.length
    · rw [if_pos last, last, Nat.sub_self]
      rfl
    · have outside : outer.reverse[index]? = none :=
        List.getElem?_eq_none (by rw [List.length_reverse]; omega)
      rw [if_neg last, outside, List.getElem?_eq_none_iff, List.length_singleton]
      omega

/-- A scope that is opened is empty and has the next index. -/
theorem scope?_push : stack.push.scope? index =
    if index = stack.depth then some .empty else stack.scope? index :=
  scope?_cons .empty stack.scopes index

/-- The scopes outside the current one stay open when it is closed. -/
theorem scope?_pop : stack.pop.scope? index =
    if index + 1 < stack.depth then stack.scope? index else none := by
  have reversed : stack.pop.scopes.reverse = stack.scopes.reverse.dropLast :=
    (List.dropLast_reverse).symm
  have length : stack.scopes.reverse.length = stack.depth := List.length_reverse
  unfold scope?
  rw [reversed, List.getElem?_dropLast, length]
  have same : index < stack.depth - 1 ↔ index + 1 < stack.depth := by omega
  exact if_congr same rfl rfl

theorem held?_push : stack.push.held? index key = stack.held? index key := by
  unfold held?
  rw [scope?_push]
  by_cases next : index = stack.depth
  · have outside : stack.scope? index = none := scope?_eq_none.mpr (Nat.le_of_eq next.symm)
    rw [if_pos next, outside]
    rfl
  · rw [if_neg next]

theorem held?_pop : stack.pop.held? index key =
    if index + 1 < stack.depth then stack.held? index key else none := by
  unfold held?
  rw [scope?_pop]
  split <;> rfl

theorem depth_pop : stack.pop.depth = stack.depth - 1 := List.length_tail

/-! ## Insertion -/

/-- An insertion at a position replaces the scope there, if that scope takes the macro. -/
theorem insertAt?_eq (definition : Macro) (scopes : List Scope) (position : Nat) :
    insertAt? definition scopes position =
      scopes[position]?.bind fun scope => (scope.insert? definition).map (scopes.set position) := by
  induction scopes generalizing position with
  | nil => rfl
  | cons scope outer hypothesis =>
    cases position with
    | zero => rfl
    | succ position =>
      rw [insertAt?, hypothesis, List.getElem?_cons_succ]
      cases outer[position]? with
      | none => rfl
      | some found =>
        show ((found.insert? definition).map _).map _ = (found.insert? definition).map _
        rw [Option.map_map]
        rfl

/-- The position of the scope of a region is its index, counted from the other end. -/
theorem scope?_target (stack : ScopeStack) (region : Region) :
    stack.scope? (stack.target region) = stack.scopes[position stack.depth region]? := by
  by_cases opened : stack.depth = 0
  · have nothing : stack.scopes = [] := List.length_eq_zero_iff.mp opened
    unfold scope?
    rw [nothing]
    rfl
  · have positive : stack.target region < stack.scopes.length := by
      have length : stack.scopes.length = stack.depth := rfl
      unfold target
      cases region <;> simp only [] <;> omega
    have turned : stack.scopes.length - 1 - stack.target region =
        position stack.depth region := by
      have length : stack.scopes.length = stack.depth := rfl
      unfold target position
      cases region <;> simp only [] <;> omega
    unfold scope?
    rw [List.getElem?_reverse positive, turned]

/-- A macro is inserted into a region by the scope with the index of the region, and every other
scope stays as it is. -/
theorem exists_scope?_of_insert? (inserted : stack.insert? definition region = some extended) :
    extended.depth = stack.depth ∧ ∃ scope grown,
      stack.scope? (stack.target region) = some scope ∧ scope.insert? definition = some grown ∧
      ∀ index, extended.scope? index =
        if index = stack.target region then some grown else stack.scope? index := by
  rw [insert?_eq_insertAt?, insertAt?_eq] at inserted
  obtain ⟨scopes, replaced, rfl⟩ := Option.map_eq_some_iff.mp inserted
  obtain ⟨scope, present, insertion⟩ := Option.bind_eq_some_iff.mp replaced
  obtain ⟨grown, taken, rfl⟩ := Option.map_eq_some_iff.mp insertion
  have length : stack.scopes.length = stack.depth := rfl
  have inside : position stack.depth region < stack.depth :=
    (List.getElem?_eq_some_iff.mp present).1
  refine ⟨List.length_set, scope, grown, (scope?_target stack region).trans present, taken, ?_⟩
  intro index
  by_cases opened : index < stack.depth
  · have before : stack.scope? index = stack.scopes[stack.depth - 1 - index]? :=
      List.getElem?_reverse opened
    have after : scope? ⟨stack.scopes.set (position stack.depth region) grown⟩ index =
        (stack.scopes.set (position stack.depth region) grown)[stack.depth - 1 - index]? := by
      unfold scope?
      dsimp only
      rw [List.getElem?_reverse (by rw [List.length_set]; exact opened), List.length_set, length]
    have same : position stack.depth region = stack.depth - 1 - index ↔
        index = stack.target region := by
      unfold position target at *
      cases region <;> simp only [] at * <;> omega
    rw [before, after, List.getElem?_set]
    by_cases here : index = stack.target region
    · rw [if_pos here, if_pos (same.mpr here), if_pos (length ▸ inside)]
    · rw [if_neg here, if_neg (mt same.mp here)]
  · have other : index ≠ stack.target region := by
      unfold position target at *
      cases region <;> simp only [] at * <;> omega
    have closed : stack.depth ≤ index := Nat.le_of_not_lt opened
    have still : depth ⟨stack.scopes.set (position stack.depth region) grown⟩ = stack.depth :=
      List.length_set
    rw [if_neg other, scope?_eq_none.mpr closed]
    exact scope?_eq_none.mpr (still.symm ▸ closed)

/-- An insertion adds one answer under the identity of its macro, and the scope of its region had
none. -/
theorem held?_of_insert? (inserted : stack.insert? definition region = some extended)
    (index : Nat) (key : MacroKey) : extended.held? index key =
      if index = stack.target region ∧ definition.key = key then some definition
      else stack.held? index key := by
  obtain ⟨-, scope, grown, present, taken, scopes⟩ := exists_scope?_of_insert? inserted
  unfold held?
  rw [scopes index]
  by_cases here : index = stack.target region
  · subst here
    rw [if_pos rfl, present, Option.bind_some, Option.bind_some, Scope.find?_of_insert? taken]
    by_cases same : definition.key = key
    · rw [if_pos same, if_pos ⟨rfl, same⟩]
    · rw [if_neg same, if_neg fun both => same both.2]
  · rw [if_neg here, if_neg fun both => here both.1]

/-- A macro is refused exactly when no scope is open or its identity is taken. -/
theorem insert?_eq_none : stack.insert? definition region = none ↔
    stack.depth = 0 ∨ (stack.held? (stack.target region) definition.key).isSome := by
  rw [insert?_eq_insertAt?, insertAt?_eq, Option.map_eq_none_iff, ← scope?_target]
  unfold held?
  cases present : stack.scope? (stack.target region) with
  | none =>
    have closed : stack.depth ≤ stack.target region := scope?_eq_none.mp present
    have nothing : stack.depth = 0 := by
      unfold target at closed
      cases region <;> simp only [] at closed <;> omega
    exact iff_of_true rfl (.inl nothing)
  | some scope =>
    have opened : stack.depth ≠ 0 := by
      intro nothing
      have missing : stack.scope? (stack.target region) = none :=
        scope?_eq_none.mpr (nothing ▸ Nat.zero_le _)
      rw [missing] at present
      cases present
    rw [Option.bind_some, Option.bind_some, Option.map_eq_none_iff, Scope.insert?_eq_none]
    exact (or_iff_right opened).symm

/-- The scope that takes a macro has none of its identity. -/
theorem held?_eq_none_of_insert? (inserted : stack.insert? definition region = some extended) :
    stack.held? (stack.target region) definition.key = none := by
  by_contra taken
  have present : (stack.held? (stack.target region) definition.key).isSome :=
    Option.isSome_iff_ne_none.mpr taken
  have refused : stack.insert? definition region = none := insert?_eq_none.mpr (.inr present)
  rw [refused] at inserted
  cases inserted

/-! ## Look-up -/

/-- The innermost scope answers for itself, and the others as before. -/
theorem held?_cons (scope : Scope) (outer : List Scope) (index : Nat) (key : MacroKey) :
    held? ⟨scope :: outer⟩ index key =
      if index = outer.length then scope.find? key else held? ⟨outer⟩ index key := by
  unfold held?
  rw [scope?_cons]
  split <;> rfl

/-- Beyond the open scopes nothing is held. -/
theorem held?_eq_none_of_closed (closed : stack.depth ≤ index) : stack.held? index key = none := by
  unfold held?
  rw [scope?_eq_none.mpr closed]
  rfl

/-- What is found is held by the scope with the index that is told, and by no scope inside it. -/
theorem find?_eq_some_iff : stack.find? key = some (index, definition) ↔
    stack.held? index key = some definition ∧
      ∀ above, index < above → stack.held? above key = none := by
  obtain ⟨scopes⟩ := stack
  unfold find?
  induction scopes with
  | nil => exact iff_of_false nofun fun held => nomatch held.1
  | cons scope outer hypothesis =>
    dsimp only at hypothesis ⊢
    rw [findIn?]
    simp only [held?_cons]
    cases here : scope.find? key with
    | some found =>
      dsimp only
      constructor
      · intro same
        cases same
        refine ⟨if_pos rfl, fun above inside => ?_⟩
        rw [if_neg (Nat.ne_of_gt inside)]
        exact held?_eq_none_of_closed (Nat.le_of_lt inside)
      · rintro ⟨held, none_above⟩
        by_cases last : index = outer.length
        · rw [if_pos last] at held
          cases held
          rw [last]
        · rw [if_neg last] at held
          -- The innermost scope is inside the one that holds it, and holds something as well.
          have missing := none_above outer.length (lt_depth_of_held? held)
          rw [if_pos rfl] at missing
          cases missing
    | none =>
      dsimp only
      rw [hypothesis]
      have still : ∀ place, (if place = outer.length then none else held? ⟨outer⟩ place key) =
          held? ⟨outer⟩ place key := by
        intro place
        by_cases last : place = outer.length
        · rw [if_pos last]
          exact (held?_eq_none_of_closed (Nat.le_of_eq last.symm)).symm
        · rw [if_neg last]
      simp only [still]

/-- Stacks whose scopes answer alike under an identity find alike. -/
theorem find?_congr {other : ScopeStack}
    (alike : ∀ index, stack.held? index key = other.held? index key) :
    stack.find? key = other.find? key := by
  apply Option.ext
  rintro ⟨index, definition⟩
  simp only [find?_eq_some_iff, alike]

/-- What is found under the identity of a macro changes with its insertion exactly when no scope
inside the one that takes it holds the identity. -/
theorem find?_ne_iff_of_insert? (inserted : stack.insert? definition region = some extended) :
    extended.find? definition.key ≠ stack.find? definition.key ↔
      ∀ above, stack.target region < above → stack.held? above definition.key = none := by
  have added : extended.held? (stack.target region) definition.key = some definition := by
    rw [held?_of_insert? inserted, if_pos ⟨rfl, rfl⟩]
  have others : ∀ index, index ≠ stack.target region →
      extended.held? index definition.key = stack.held? index definition.key := by
    intro index other
    rw [held?_of_insert? inserted, if_neg fun both => other both.1]
  have missing := held?_eq_none_of_insert? inserted
  constructor
  · intro changed above inside
    by_contra taken
    apply changed
    -- Both look-ups stop at the scopes inside the one that takes the macro.
    apply Option.ext
    rintro ⟨index, found⟩
    rw [find?_eq_some_iff, find?_eq_some_iff]
    have hidden : ∀ first : ScopeStack, first.held? above definition.key ≠ none →
        (∀ place, index < place → first.held? place definition.key = none) →
          stack.target region < index := by
      intro first holds none_above
      by_contra outside
      exact holds (none_above above (by omega))
    have still : extended.held? above definition.key ≠ none := by
      rw [others above (Nat.ne_of_gt inside)]
      exact taken
    constructor
    · rintro ⟨held, none_above⟩
      have further := hidden extended still none_above
      refine ⟨(others index (Nat.ne_of_gt further)).symm.trans held, fun place beyond => ?_⟩
      exact (others place (by omega)).symm.trans (none_above place beyond)
    · rintro ⟨held, none_above⟩
      have further := hidden stack taken none_above
      refine ⟨(others index (Nat.ne_of_gt further)).trans held, fun place beyond => ?_⟩
      exact (others place (by omega)).trans (none_above place beyond)
  · intro free same
    have found : extended.find? definition.key = some (stack.target region, definition) := by
      refine find?_eq_some_iff.mpr ⟨added, fun above inside => ?_⟩
      rw [others above (Nat.ne_of_gt inside)]
      exact free above inside
    rw [same] at found
    have held := (find?_eq_some_iff.mp found).1
    rw [missing] at held
    cases held

end ScopeStack
end TextMacros
