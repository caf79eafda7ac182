import TextMacros.Text

/-!
# Decimal numerals

A numeral is a non-empty run of ASCII digits, most significant first; leading zeros are allowed.
The canonical numeral of a number has none.
-/

namespace TextMacros
namespace Numeral

/-- The number that a run of digits denotes, behind digits already read. -/
def accumulate (number : Nat) (digits : Text) : Nat :=
  digits.foldl (fun total digit => 10 * total + (digit.toNat - '0'.toNat)) number

/-- The number that a numeral denotes. -/
def natural? (text : Text) : Option Nat :=
  if text.isEmpty ∨ ¬ text.all Char.isDigit then none else some (accumulate 0 text)

/-- The canonical numeral of a number. -/
def ofNat (number : Nat) : Text := Nat.toDigits 10 number

end Numeral
end TextMacros
