import TextMacros.Text.Unprintable

/-!
# Quoted texts

Diagnostics show a raw text between double quotes, on one line and in printable characters only.
The quote, the backslash and the common control characters have two-character escapes; any other
unprintable character is written by the hexadecimal number of its code point.
-/

namespace TextMacros
namespace Text

/-- The escape of a character by its code point. -/
def numbered (symbol : Char) : Text :=
  ['\\', 'u', '\x7b'] ++ Nat.toDigits 16 symbol.toNat ++ ['\x7d']

/-- A character as it stands between quotes. -/
def quotedSymbol (symbol : Char) : Text :=
  match symbol with
  | '"' => ['\\', '"']
  | '\\' => ['\\', '\\']
  | '\n' => ['\\', 'n']
  | '\r' => ['\\', 'r']
  | '\t' => ['\\', 't']
  | '\x00' => ['\\', '0']
  | symbol => if isUnprintable symbol then numbered symbol else [symbol]

/-- A text between quotes. -/
def quoted (text : Text) : Text := ['"'] ++ text.flatMap quotedSymbol ++ ['"']

/-- Quoted texts in brackets, separated by commas. -/
def quotedList (texts : List Text) : Text :=
  ['['] ++ join [',', ' '] (texts.map quoted) ++ [']']

end Text
end TextMacros
