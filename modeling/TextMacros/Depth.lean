/-!
# Depth of nesting

Fragments are nested up to a limit. Entering a fragment at the limit is refused and changes nothing,
so there is nothing to undo after a refusal.
-/

namespace TextMacros

/-- How many fragments are open, and how many may be. -/
structure Depth where
  /-- The number of open fragments. -/
  level : Nat
  /-- The greatest number of open fragments. -/
  limit : Nat
deriving DecidableEq

namespace Depth

/-- The limit when none is chosen. -/
def defaultLimit : Nat := 500

/-- No open fragments. -/
def ofLimit (limit : Nat) : Depth := ⟨0, limit⟩

/-- How many more fragments may be opened. -/
def remaining (depth : Depth) : Nat := depth.limit - depth.level

/-- The depth inside one more fragment. -/
def deeper (depth : Depth) : Depth := { depth with level := depth.level + 1 }

/-- Enters a fragment, unless the limit is reached. -/
def enter? (depth : Depth) : Option Depth :=
  if depth.limit ≤ depth.level then none else some depth.deeper

/-- Leaves a fragment. Outside of all fragments there is nothing to leave. -/
def exit (depth : Depth) : Depth := { depth with level := depth.level - 1 }

/-- The refusal of an entry in words. -/
def refusal (depth : Depth) : String := s!"more than {depth.limit} nested expansions"

@[simp] theorem exit_deeper (depth : Depth) : depth.deeper.exit = depth := rfl

/-- Entering is refused exactly when nothing remains. -/
theorem enter?_eq_none {depth : Depth} : depth.enter? = none ↔ depth.remaining = 0 := by
  simp [enter?, remaining]
  omega

/-- Where a fragment may be entered, something remains. -/
theorem remaining_ne_zero {depth inside : Depth} (entered : depth.enter? = some inside) :
    depth.remaining ≠ 0 := by
  rw [ne_eq, ← enter?_eq_none, entered]
  simp

/-- One fragment deeper, one less remains. -/
theorem remaining_deeper (depth : Depth) : depth.deeper.remaining = depth.remaining - 1 := by
  simp [remaining, deeper]
  omega

end Depth
end TextMacros
