import TextMacros.Text.Blank
import TextMacros.Text.Numeral

/-!
# Integers

Counters and arithmetic work on the integers of 64 bits with sign. Arithmetic never wraps: a result
outside the range is no result. An integer is read from a numeral with an optional sign, with white
space around it ignored, and written canonically.
-/

namespace TextMacros

/-- The first number above all integers, 2^63. The least integer is its opposite. -/
def integerBound : Int := 9223372036854775808

/-- An integer from -2^63 to 2^63 - 1. -/
structure Integer where
  /-- The number itself. -/
  value : Int
  /-- The least integer is -2^63. -/
  lower : -integerBound ≤ value
  /-- The greatest integer is 2^63 - 1. -/
  upper : value < integerBound
deriving DecidableEq

namespace Integer

/-- The integer of a number in range. -/
def ofInt? (number : Int) : Option Integer :=
  if inRange : -integerBound ≤ number ∧ number < integerBound then
    some ⟨number, inRange.1, inRange.2⟩
  else
    none

/-- The integer zero. -/
def zero : Integer := ⟨0, by decide, by decide⟩

instance : Inhabited Integer := ⟨zero⟩

/-- A number has an integer exactly when it is in range, and the integer is that number. -/
theorem ofInt?_eq_some {number : Int} {integer : Integer} :
    ofInt? number = some integer ↔ integer.value = number := by
  unfold ofInt?
  split
  · constructor
    · rintro ⟨⟩
      rfl
    · rintro rfl
      rfl
  · rename_i outside
    constructor
    · simp
    · rintro rfl
      exact absurd ⟨integer.lower, integer.upper⟩ outside

/-- The sum with a number, unless it leaves the range. -/
def add? (integer : Integer) (number : Int) : Option Integer := ofInt? (integer.value + number)

/-- Reads an integer; white space around it is ignored. -/
def parse? (text : Text) : Option Integer :=
  match text.trim with
  | '-' :: digits => (Numeral.natural? digits).bind fun number => ofInt? (-number)
  | '+' :: digits => (Numeral.natural? digits).bind fun number => ofInt? number
  | digits => (Numeral.natural? digits).bind fun number => ofInt? number

/-- The canonical numeral of an integer, with a minus sign in front when it is negative. -/
def text (integer : Integer) : Text :=
  let digits := Numeral.ofNat integer.value.natAbs
  if integer.value < 0 then '-' :: digits else digits

end Integer
end TextMacros
