import TextMacros.Integer

/-!
# Counters

Counters are named integers. They belong to the whole document rather than to a scope, and their
names are taken exactly as they are, blanks included. A counter starts at zero when it is declared,
is never declared twice, and cannot be set before it is declared.
-/

namespace TextMacros

/-- The declared counters and their values. -/
structure Counters where
  /-- Names and values in the order of declaration. -/
  entries : List (Text × Integer)
deriving DecidableEq

namespace Counters

/-- No counters. -/
def empty : Counters := ⟨[]⟩

/-- The number of counters. -/
def size (counters : Counters) : Nat := counters.entries.length

/-- The value of a counter, if it is declared. -/
def get? (counters : Counters) (name : Text) : Option Integer := counters.entries.lookup name

/-- Whether a counter is declared. -/
def contains (counters : Counters) (name : Text) : Bool := (counters.get? name).isSome

/-- Declares a counter with the value zero, unless it exists. -/
def create? (counters : Counters) (name : Text) : Option Counters :=
  if counters.contains name then none else some ⟨counters.entries ++ [(name, .zero)]⟩

/-- The entries with a new value for one name. -/
def revalue (name : Text) (value : Integer) (entries : List (Text × Integer)) :
    List (Text × Integer) :=
  entries.map fun (known, old) => (known, if known = name then value else old)

/-- Changes the value of a counter, if it exists. -/
def set? (counters : Counters) (name : Text) (value : Integer) : Option Counters :=
  if counters.contains name then some ⟨revalue name value counters.entries⟩ else none

theorem lookup_revalue (name other : Text) (value : Integer) (entries : List (Text × Integer)) :
    (revalue name value entries).lookup other =
      (entries.lookup other).map fun old => if other = name then value else old := by
  induction entries with
  | nil => rfl
  | cons entry rest hypothesis =>
    obtain ⟨known, old⟩ := entry
    unfold revalue at hypothesis ⊢
    rw [List.map_cons, List.lookup_cons, List.lookup_cons, hypothesis]
    by_cases same : other = known
    · subst same
      simp
    · have differ : (other == known) = false := by simpa using same
      simp [differ]

@[simp] theorem get?_empty (name : Text) : empty.get? name = none := rfl

/-- A declaration adds one counter with the value zero and keeps every other value. -/
theorem get?_of_create? {counters extended : Counters} {name : Text}
    (created : counters.create? name = some extended) (other : Text) :
    extended.get? other = if other = name then some .zero else counters.get? other := by
  unfold create? contains at created
  split at created
  · simp at created
  · rename_i absent
    simp only [Option.some.injEq] at created
    subst created
    have missing : counters.entries.lookup name = none :=
      Option.not_isSome_iff_eq_none.mp absent
    unfold get?
    rw [List.lookup_append, List.lookup_cons]
    by_cases same : other = name
    · subst same
      simp [missing]
    · have differ : (other == name) = false := by simpa using same
      simp [differ, same]

/-- A change gives one counter its new value and keeps every other value. -/
theorem get?_of_set? {counters changed : Counters} {name : Text} {value : Integer}
    (set : counters.set? name value = some changed) (other : Text) :
    changed.get? other = if other = name then some value else counters.get? other := by
  unfold set? contains at set
  split at set
  · rename_i present
    simp only [Option.some.injEq] at set
    subst set
    unfold get? at present ⊢
    rw [lookup_revalue]
    by_cases same : other = name
    · subst same
      obtain ⟨old, found⟩ := Option.isSome_iff_exists.mp present
      simp [found]
    · simp [same]
  · simp at set

end Counters
end TextMacros
