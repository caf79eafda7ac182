import TextMacros.Text

/-!
# Blank characters

Three classes of blanks have a meaning. Characters that may stand between the tokens of a macro
are *ignorable*; characters that separate the words of a name are *name blanks*; the characters
that Unicode calls white space separate the words of a message and are trimmed around values.
Each class is contained in the next.
-/

namespace TextMacros

/-- The blanks that may separate tokens: space, tab and the two line end characters. -/
def isIgnorable (symbol : Char) : Bool :=
  symbol = ' ' ∨ symbol = '\t' ∨ symbol = '\n' ∨ symbol = '\r'

/-- The blanks that separate the words of a name: ASCII white space only, so that a no-break space
belongs to its word. -/
def isNameBlank (symbol : Char) : Bool :=
  isIgnorable symbol ∨ symbol = '\x0b' ∨ symbol = '\x0c'

/-- The characters with the Unicode property `White_Space`. -/
def isBlank (symbol : Char) : Bool :=
  isNameBlank symbol ∨ symbol = '\u0085' ∨ symbol = '\u00a0' ∨ symbol = '\u1680' ∨
    ('\u2000' ≤ symbol ∧ symbol ≤ '\u200a') ∨ symbol = '\u2028' ∨ symbol = '\u2029' ∨
    symbol = '\u202f' ∨ symbol = '\u205f' ∨ symbol = '\u3000'

namespace Text

/-- A text without the longest front part whose characters pass a test. -/
def trimStartBy (test : Char → Bool) (text : Text) : Text := text.dropWhile test

/-- A text without the longest end part whose characters pass a test. -/
def trimEndBy (test : Char → Bool) (text : Text) : Text := (text.reverse.dropWhile test).reverse

/-- A text without the Unicode white space around it. -/
def trim (text : Text) : Text := trimEndBy isBlank (trimStartBy isBlank text)

/-- The words of a text: its maximal runs of characters that are not separators. -/
def wordsBy (separates : Char → Bool) (text : Text) : List Text :=
  (text.splitOnP separates).filter fun word => !word.isEmpty

end Text
end TextMacros
