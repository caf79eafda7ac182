import Mathlib.Data.Finmap
import TextMacros.Counter
import TextMacros.Expansion.Call

/-!
# Counters as a finite map

A document that only works on counters has a simple meaning: its operations are taken in order on a
finite map from names to numbers. An operation reads the map, changes it at its own name, or is
refused and leaves it as it is. This machine knows nothing of texts, scopes or journals. The stored
counters represent such a map when both hold the same number under each name, and what the store
does to the one is what the machine does to the other.
-/

namespace TextMacros

/-- A finite map from names, each taken exactly as it is, to numbers. -/
abbrev Tally := Finmap fun _ : Text => Int

/-- An operation on counters. -/
inductive CounterOperation where
  /-- Declares a counter with the value zero. -/
  | declare (name : Text)
  /-- Gives a counter the value that a text denotes. -/
  | assign (name value : Text)
  /-- Puts out the value of a counter. -/
  | read (name : Text)
  /-- Adds one to a counter. -/
  | increment (name : Text)
  /-- Takes one from a counter. -/
  | decrement (name : Text)
deriving DecidableEq

namespace CounterOperation

/-- The counter that an operation is about. -/
def target : CounterOperation → Text
  | declare name | assign name _ | read name | increment name | decrement name => name

/-- The primitive that an operation calls. -/
def primitive : CounterOperation → Primitive
  | declare _ => .newCounter
  | assign _ _ => .setCounter
  | read _ => .counter
  | increment _ => .incrementCounter
  | decrement _ => .decrementCounter

/-- The parameters of an operation. -/
def parameters : CounterOperation → List Text
  | assign name value => [name, value]
  | declare name | read name | increment name | decrement name => [name]

/-- The call of an operation. -/
def call : CounterOperation → Call
  | declare name => .newCounter name
  | assign name value => .setCounter name value
  | read name => .counter name
  | increment name => .adjustCounter 1 name
  | decrement name => .adjustCounter (-1) name

/-- The primitive of an operation takes its parameters. -/
theorem ofParameters?_eq_call (operation : CounterOperation) :
    Call.ofParameters? operation.primitive operation.parameters = some operation.call := by
  cases operation <;> rfl

/-- The primitive of an operation is called by its name. -/
theorem ofName?_name (operation : CounterOperation) :
    Primitive.ofName? operation.primitive.name = some operation.primitive := by
  have named : ∀ primitive, Primitive.ofName? primitive.name = some primitive := by
    intro primitive
    cases primitive <;> decide
  exact named operation.primitive

/-! ## The machine -/

/-- Changes the number under a name by an amount, unless the sum is not between -2^63 and
2^63 - 1. -/
def change (primitive : Primitive) (name : Text) (amount : Int) (tally : Tally) :
    Except Cause (Text × Tally) :=
  match tally.lookup name with
  | none => .error (.counterNotFound name)
  | some number =>
    if -2 ^ 63 ≤ number + amount ∧ number + amount ≤ 2 ^ 63 - 1 then
      .ok ([], tally.insert name (number + amount))
    else
      .error (.notAnInteger primitive (toString number).toList)

/-- What an operation puts out and the map behind it, or why it is refused. A value that denotes no
integer is refused before the name is looked up. -/
def take (tally : Tally) : CounterOperation → Except Cause (Text × Tally)
  | declare name =>
    if name ∈ tally then .error (.duplicateCounter name) else .ok ([], tally.insert name 0)
  | assign name value =>
    match Integer.parse? value with
    | none => .error (.notAnInteger .setCounter value)
    | some integer =>
      if name ∈ tally then .ok ([], tally.insert name integer.value)
      else .error (.counterNotFound name)
  | read name =>
    match tally.lookup name with
    | none => .error (.counterNotFound name)
    | some number => .ok ((toString number).toList, tally)
  | increment name => change .incrementCounter name 1 tally
  | decrement name => change .decrementCounter name (-1) tally

/-- An operation changes no number under another name. -/
theorem lookup_of_take {operation : CounterOperation} {tally later : Tally} {output : Text}
    (taken : operation.take tally = .ok (output, later)) {name : Text}
    (other : name ≠ operation.target) : later.lookup name = tally.lookup name := by
  have inserted : ∀ number, (tally.insert operation.target number).lookup name =
      tally.lookup name := fun number => Finmap.lookup_insert_of_ne tally other
  have changed : ∀ primitive amount, change primitive operation.target amount tally =
      .ok (output, later) → later.lookup name = tally.lookup name := by
    intro primitive amount taken
    unfold change at taken
    split at taken
    · cases taken
    · split at taken
      · cases taken
        exact inserted _
      · cases taken
  cases operation with
  | declare target =>
    simp only [take] at taken
    split at taken
    · cases taken
    · cases taken
      exact inserted 0
  | assign target value =>
    simp only [take] at taken
    split at taken
    · cases taken
    · split at taken
      · cases taken
        exact inserted _
      · cases taken
  | read target =>
    simp only [take] at taken
    split at taken
    · cases taken
    · cases taken
      rfl
  | increment target => exact changed .incrementCounter 1 taken
  | decrement target => exact changed .decrementCounter (-1) taken

end CounterOperation

/-! ## The store -/

/-- The integer of a number in range is written as the number is. -/
theorem Integer.text_eq_toString (integer : Integer) :
    integer.text = (toString integer.value).toList := by
  obtain ⟨value, lower, upper⟩ := integer
  unfold Integer.text Numeral.ofNat
  cases value with
  | ofNat number =>
    have natural : ¬ Int.ofNat number < 0 := Int.not_lt.mpr (Int.natCast_nonneg number)
    show (if Int.ofNat number < 0 then _ else Nat.toDigits 10 number) = number.repr.toList
    rw [if_neg natural, Nat.toList_repr]
  | negSucc number =>
    have negative : Int.negSucc number < 0 := Int.negSucc_lt_zero number
    show (if Int.negSucc number < 0 then '-' :: Nat.toDigits 10 (number + 1) else _) =
      ("-" ++ (number + 1).repr).toList
    rw [if_pos negative, String.toList_append, Nat.toList_repr]
    rfl

/-- Integers are told apart by their numbers. -/
theorem Integer.value_injective : Function.Injective Integer.value := by
  intro first second same
  cases first
  cases second
  cases same
  rfl

/-- The stored counters hold the numbers of a map under its names, and no others. -/
def Counters.Represents (counters : Counters) (tally : Tally) : Prop :=
  ∀ name, (counters.get? name).map Integer.value = tally.lookup name

namespace Counters

variable {counters : Counters} {tally : Tally}

/-- No counters represent the empty map. -/
theorem represents_empty : empty.Represents ∅ := fun _ => rfl

/-- A counter is declared when its name is in the map. -/
theorem Represents.contains_iff (represents : counters.Represents tally) (name : Text) :
    counters.contains name = true ↔ name ∈ tally := by
  have same := represents name
  unfold contains
  rw [Finmap.mem_iff, ← same]
  cases counters.get? name <;> simp

/-- A declaration is refused for the names in the map, and adds any other name with zero. -/
theorem Represents.create? (represents : counters.Represents tally) (name : Text) :
    (name ∈ tally ∧ counters.create? name = none) ∨
      (name ∉ tally ∧ ∃ extended, counters.create? name = some extended ∧
        extended.Represents (tally.insert name 0)) := by
  have declared := represents.contains_iff name
  by_cases present : name ∈ tally
  · have refused : counters.create? name = none := by
      unfold Counters.create?
      rw [if_pos (declared.mpr present)]
    exact .inl ⟨present, refused⟩
  · have absent : ¬ counters.contains name = true := mt declared.mp present
    have created : counters.create? name = some ⟨counters.entries ++ [(name, .zero)]⟩ := by
      unfold Counters.create?
      rw [if_neg absent]
    refine .inr ⟨present, _, created, fun other => ?_⟩
    rw [get?_of_create? created other]
    by_cases same : other = name
    · rw [if_pos same, same, Finmap.lookup_insert]
      rfl
    · rw [if_neg same, Finmap.lookup_insert_of_ne tally same]
      exact represents other

/-- A change is refused for the names outside the map, and replaces the number under any other. -/
theorem Represents.set? (represents : counters.Represents tally) (name : Text) (value : Integer) :
    (name ∉ tally ∧ counters.set? name value = none) ∨
      (name ∈ tally ∧ ∃ changed, counters.set? name value = some changed ∧
        changed.Represents (tally.insert name value.value)) := by
  have declared := represents.contains_iff name
  by_cases present : name ∈ tally
  · have changed : counters.set? name value = some ⟨revalue name value counters.entries⟩ := by
      unfold Counters.set?
      rw [if_pos (declared.mpr present)]
    refine .inr ⟨present, _, changed, fun other => ?_⟩
    rw [get?_of_set? changed other]
    by_cases same : other = name
    · rw [if_pos same, same, Finmap.lookup_insert]
      rfl
    · rw [if_neg same, Finmap.lookup_insert_of_ne tally same]
      exact represents other
  · have absent : ¬ counters.contains name = true := mt declared.mp present
    have refused : counters.set? name value = none := by
      unfold Counters.set?
      rw [if_neg absent]
    exact .inl ⟨present, refused⟩

end Counters
end TextMacros
