import TextMacros.Text

/-!
# Characters of YAML

The characters that a YAML text may hold, the blanks within its lines and the breaks between them.
A carriage return and a line feed together are one break. In a scalar every break stands for a line
feed, except that the separators of lines and of paragraphs stand for themselves.
-/

namespace TextMacros
namespace Yaml

/-- The blanks within a line. -/
def isSpace (symbol : Char) : Bool := symbol = ' ' ∨ symbol = '\t'

/-- The characters that end a line. -/
def isBreak (symbol : Char) : Bool :=
  symbol = '\n' ∨ symbol = '\r' ∨ symbol = '\u0085' ∨ symbol = '\u2028' ∨ symbol = '\u2029'

/-- Blanks and breaks. -/
def isWhite (symbol : Char) : Bool := isSpace symbol ∨ isBreak symbol

/-- The characters that a text may hold: the printable ones, and the blanks and breaks. -/
def isAllowed (symbol : Char) : Bool :=
  isWhite symbol ∨ (' ' ≤ symbol ∧ symbol ≤ '~') ∨ ('\u00a0' ≤ symbol ∧ symbol ≤ '\ufffd') ∨
    0x10000 ≤ symbol.toNat

/-- The characters that make the names of anchors, handles and directives. -/
def isWordSymbol (symbol : Char) : Bool := symbol.isAlphanum ∨ symbol = '_' ∨ symbol = '-'

/-- What a break stands for in a scalar. -/
def breakMeaning (symbol : Char) : Char :=
  if symbol = '\u2028' ∨ symbol = '\u2029' then symbol else '\n'

/-- The characters that structure sequences and mappings in brackets and braces. -/
def isFlowIndicator (symbol : Char) : Bool := ",[]\x7b\x7d".toList.contains symbol

/-- Whether a blank or break stands in front of a text, or nothing does. -/
def endsWord : Text → Bool
  | [] => true
  | symbol :: _ => isWhite symbol

/-- Whether a text begins with a sign that stands three times and by itself, as the marks of a
document do. -/
def beginsMark (sign : Char) : Text → Bool
  | first :: second :: third :: rest =>
    first = sign ∧ second = sign ∧ third = sign ∧ endsWord rest
  | _ => false

/-- A text without the break in front. -/
def dropBreak : Text → Text
  | [] => []
  | '\r' :: '\n' :: rest => rest
  | symbol :: rest => if isBreak symbol then rest else symbol :: rest

/-- A text from the end of its first line on, when blanks or a comment fill the rest of that
line. -/
def dropRemark? (text : Text) : Option Text :=
  let rest := match text.dropWhile isSpace with
    | '#' :: comment => comment.dropWhile fun symbol => !isBreak symbol
    | rest => rest
  if rest.isEmpty ∨ rest.head?.any isBreak then some (dropBreak rest) else none

end Yaml
end TextMacros
