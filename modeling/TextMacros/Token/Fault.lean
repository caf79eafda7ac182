import TextMacros.Text

/-!
# Token faults

A fault says what the reader of tokens met instead of what it needed, and where. A fault inside a
parameter keeps the fault of the token, with the number of the parameter around it; running out of
text is the same fault everywhere.
-/

namespace TextMacros
namespace Token

/-- The character that begins every invocation and every token, and that closes a token behind its
delimiter. -/
def introducer : Char := '\\'

/-- What would have been accepted in the place of an unexpected character. -/
inductive Expectation where
  /-- One particular character. -/
  | exactly (symbol : Char)
  /-- The comma before a further parameter or the parenthesis behind the last. -/
  | separator
  /-- Nothing but ignorable blanks up to the end. -/
  | blanks
deriving DecidableEq

/-- The expectation in words. -/
def Expectation.describe : Expectation → String
  | .exactly symbol => s!"'{symbol}'"
  | .separator => "',' or ')'"
  | .blanks => "nothing but whitespace"

/-- What went wrong while reading tokens. -/
inductive Problem where
  /-- The text ended inside a token or list. -/
  | unexpectedEnd
  /-- A parenthesis stands where a delimiter must be, and would open a parameter list. -/
  | parenthesisDelimiter
  /-- A delimiter is not followed by the character that closes the token. -/
  | missingCloser (delimiter found : Char)
  /-- A character stands where another one is needed. -/
  | unexpectedSymbol (expected : Expectation) (found : Char)
  /-- The token of a parameter, counted from one, is faulty. -/
  | malformedParameter (index : Nat) (reason : Problem)
deriving DecidableEq

/-- The problem in words. -/
def Problem.describe : Problem → String
  | .unexpectedEnd => "the text ended while a token was still open"
  | .parenthesisDelimiter => "'(' cannot be a delimiter here because it opens a parameter list"
  | .missingCloser delimiter found =>
    s!"delimiter '{delimiter}' must be followed by '\\', found '{found}'"
  | .unexpectedSymbol expected found => s!"expected {expected.describe}, found '{found}'"
  | .malformedParameter index reason => s!"parameter {index} is malformed: {reason.describe}"

/-- A problem and the position of the character that shows it. -/
structure Fault where
  /-- Bytes before the character; the size of the text when it ended. -/
  offset : Nat
  /-- What went wrong. -/
  problem : Problem
deriving DecidableEq

/-- The fault of a token as the fault of a parameter. The end of the text stays what it is. -/
def Fault.inParameter (index : Nat) (fault : Fault) : Fault :=
  match fault.problem with
  | .unexpectedEnd => fault
  | problem => ⟨fault.offset, .malformedParameter index problem⟩

end Token
end TextMacros
