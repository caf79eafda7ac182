import TextMacros.Text.Blank
import TextMacros.Token.Cursor

/-!
# Readers of tokens

A delimited token is the introducer, a delimiter that the token chooses, its content, the delimiter
again and one more introducer. The content is read literally up to the first delimiter. A parameter
list is a sequence of such tokens in parentheses, separated by commas; ignorable blanks may stand
around its tokens.

Each reader moves strictly forward, because it needs at least one character.
-/

namespace TextMacros
namespace Token

/-- Skips the blanks that may stand between tokens. -/
def skipIgnorable : Reader Unit := do
  let _ ← takeWhile isIgnorable

/-- Reads one particular character, with ignorable blanks before it, and returns its position. The
character itself is found first even when it is a blank, so a blank can close the token that it
delimits. -/
def expectSymbol (expected : Char) : Reader Nat := do
  let _ ← takeWhile fun symbol => isIgnorable symbol ∧ symbol ≠ expected
  let (offset, symbol) ← require
  if symbol = expected then
    return offset
  else
    throw ⟨offset, .unexpectedSymbol (.exactly expected) symbol⟩

/-- Reads the character that a token or name has chosen as its delimiter. Where a parenthesis would
open a parameter list, it cannot be chosen. -/
def senseDelimiter (parenthesisOpensList : Bool) : Reader Char := do
  let (offset, symbol) ← require
  if parenthesisOpensList ∧ symbol = '(' then
    throw ⟨offset, .parenthesisDelimiter⟩
  else
    return symbol

/-- Reads the introducer that must follow a closing delimiter. -/
def expectCloser (delimiter : Char) : Reader Unit := do
  let (offset, symbol) ← require
  if symbol = introducer then
    return ()
  else
    throw ⟨offset, .missingCloser delimiter symbol⟩

/-- Reads the content of a token whose delimiter is known, and the end of the token. -/
def readContent (delimiter : Char) : Reader Text := do
  let content ← takeWhile (· ≠ delimiter)
  let _ ← require
  expectCloser delimiter
  return content

/-- Reads a whole token, with ignorable blanks before it. -/
def readToken : Reader Text := do
  let _ ← expectSymbol introducer
  let delimiter ← senseDelimiter false
  readContent delimiter

/-- How a name ended. -/
inductive NameEnd where
  /-- The delimiter of the name: there are no parameters. -/
  | delimiter
  /-- A parenthesis that opens a parameter list. -/
  | parameterList
deriving DecidableEq

/-- Reads a name up to its delimiter or the parenthesis of a parameter list. -/
def readName (delimiter : Char) : Reader (Text × NameEnd) := do
  let name ← takeWhile fun symbol => symbol ≠ delimiter ∧ symbol ≠ '('
  let (_, symbol) ← require
  return (name, if symbol = delimiter then .delimiter else .parameterList)

/-- Reads the token of a parameter, counted from one. -/
def readParameterToken (index : Nat) : Reader Text := fun cursor =>
  match readToken cursor with
  | .ok parameter later => .ok parameter later
  | .error fault later => .error (fault.inParameter index) later

/-- Reads what follows a parameter, and tells whether it is a comma, so that another one follows. -/
def readSeparator : Reader Bool := do
  let _ ← takeWhile isIgnorable
  let (offset, symbol) ← require
  if symbol = ',' then
    return true
  else if symbol = ')' then
    return false
  else
    throw ⟨offset, .unexpectedSymbol .separator symbol⟩

/-- Reads a parameter and what follows it. -/
def readParameter (index : Nat) : Reader (Text × Bool) := do
  let parameter ← readParameterToken index
  let more ← readSeparator
  return (parameter, more)

theorem strictlyForward_expectSymbol (expected : Char) : StrictlyForward (expectSymbol expected) :=
  (forward_takeWhile _).bind_strict fun _ => strictlyForward_require.bind fun _ =>
    (forward_pure _).ite (forward_throw _)

theorem strictlyForward_senseDelimiter (parenthesisOpensList : Bool) :
    StrictlyForward (senseDelimiter parenthesisOpensList) :=
  strictlyForward_require.bind fun _ => (forward_throw _).ite (forward_pure _)

theorem strictlyForward_expectCloser (delimiter : Char) :
    StrictlyForward (expectCloser delimiter) :=
  strictlyForward_require.bind fun _ =>
    (forward_pure _).ite (forward_throw _)

theorem strictlyForward_readContent (delimiter : Char) : StrictlyForward (readContent delimiter) :=
  (forward_takeWhile _).bind_strict fun _ => strictlyForward_require.bind fun _ =>
    (strictlyForward_expectCloser delimiter).forward.bind fun _ => forward_pure _

theorem strictlyForward_readToken : StrictlyForward readToken :=
  (strictlyForward_expectSymbol introducer).bind fun _ =>
    (strictlyForward_senseDelimiter false).forward.bind fun delimiter =>
      (strictlyForward_readContent delimiter).forward

theorem strictlyForward_readName (delimiter : Char) : StrictlyForward (readName delimiter) :=
  (forward_takeWhile _).bind_strict fun _ => strictlyForward_require.bind fun _ => forward_pure _

theorem strictlyForward_readParameterToken (index : Nat) :
    StrictlyForward (readParameterToken index) := by
  intro cursor
  obtain ⟨piece, reads, nonempty⟩ := strictlyForward_readToken cursor
  unfold readParameterToken
  cases outcome : readToken cursor with
  | ok parameter later =>
    rw [outcome] at reads nonempty
    exact ⟨piece, reads, fun _ _ _ => nonempty parameter later rfl⟩
  | error fault later =>
    rw [outcome] at reads
    exact ⟨piece, reads, by simp⟩

theorem strictlyForward_readSeparator : StrictlyForward readSeparator :=
  (forward_takeWhile _).bind_strict fun _ => strictlyForward_require.bind fun _ =>
    (forward_pure _).ite ((forward_pure _).ite (forward_throw _))

theorem strictlyForward_readParameter (index : Nat) : StrictlyForward (readParameter index) :=
  (strictlyForward_readParameterToken index).bind fun _ =>
    strictlyForward_readSeparator.forward.bind fun _ => forward_pure _

/-- Reads the parameters of a list from the one with a given number on, and the closing
parenthesis. -/
def readParametersFrom (index : Nat) : Reader (List Text) := fun cursor =>
  match _success : readParameter index cursor with
  | .error fault later => .error fault later
  | .ok (parameter, false) later => .ok [parameter] later
  | .ok (parameter, true) later =>
    match readParametersFrom (index + 1) later with
    | .error fault last => .error fault last
    | .ok parameters last => .ok (parameter :: parameters) last
termination_by cursor => cursor.unread.length
decreasing_by exact (strictlyForward_readParameter index).length_lt _success

/-- Reads a parameter list behind its opening parenthesis. It has at least one parameter. -/
def readParameterList : Reader (List Text) := readParametersFrom 1

theorem strictlyForward_readParametersFrom (index : Nat) :
    StrictlyForward (readParametersFrom index) := by
  intro cursor
  fun_induction readParametersFrom index cursor with
  | case1 index cursor fault later outcome =>
    obtain ⟨piece, reads, _⟩ := strictlyForward_readParameter index cursor
    rw [outcome] at reads
    exact ⟨piece, reads, by simp⟩
  | case2 index cursor parameter later outcome =>
    obtain ⟨piece, reads, nonempty⟩ := strictlyForward_readParameter index cursor
    rw [outcome] at reads nonempty
    exact ⟨piece, reads, fun _ _ _ => nonempty (parameter, false) later rfl⟩
  | case3 index cursor parameter later outcome fault last rest hypothesis =>
    obtain ⟨piece, reads, nonempty⟩ := strictlyForward_readParameter index cursor
    obtain ⟨back, readBack, _⟩ := hypothesis
    rw [outcome] at reads
    rw [rest] at readBack
    exact ⟨piece ++ back, reads.trans readBack, by simp⟩
  | case4 index cursor parameter later outcome parameters last rest hypothesis =>
    obtain ⟨piece, reads, nonempty⟩ := strictlyForward_readParameter index cursor
    obtain ⟨back, readBack, _⟩ := hypothesis
    rw [outcome] at reads nonempty
    rw [rest] at readBack
    exact ⟨piece ++ back, reads.trans readBack, fun _ _ _ =>
      List.append_ne_nil_of_left_ne_nil (nonempty (parameter, true) later rfl) back⟩

theorem strictlyForward_readParameterList : StrictlyForward readParameterList :=
  strictlyForward_readParametersFrom 1

/-- Reads the rest of the text, which must be ignorable. -/
def expectOnlyIgnorable : Reader Unit := do
  let _ ← takeWhile isIgnorable
  match ← next? with
  | none => return ()
  | some (offset, symbol) => throw ⟨offset, .unexpectedSymbol .blanks symbol⟩

/-- Reads the parameters of a name that ended in a given way, up to the delimiter of the name. -/
def readParameters (delimiter : Char) : NameEnd → Reader (List Text)
  | .delimiter => return []
  | .parameterList => do
    let parameters ← readParameterList
    let _ ← expectSymbol delimiter
    return parameters

theorem forward_readParameters (delimiter : Char) (ending : NameEnd) :
    Forward (readParameters delimiter ending) := by
  cases ending
  · exact forward_pure _
  · exact strictlyForward_readParameterList.forward.bind fun _ =>
      (strictlyForward_expectSymbol delimiter).forward.bind fun _ => forward_pure _

/-- Reads a name with an optional parameter list, up to the end of the name's own token. This is
the form of an invocation behind its introducer, and of the left side of a definition. -/
def readSignature : Reader (Text × List Text) := do
  let delimiter ← senseDelimiter true
  let (name, ending) ← readName delimiter
  let parameters ← readParameters delimiter ending
  expectCloser delimiter
  return (name, parameters)

theorem strictlyForward_readSignature : StrictlyForward readSignature :=
  (strictlyForward_senseDelimiter true).bind fun delimiter =>
    (strictlyForward_readName delimiter).forward.bind fun (_, ending) =>
      (forward_readParameters delimiter ending).bind fun _ =>
        (strictlyForward_expectCloser delimiter).forward.bind fun _ => forward_pure _

end Token
end TextMacros
