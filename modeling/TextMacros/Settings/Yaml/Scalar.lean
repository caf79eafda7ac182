import TextMacros.Settings.Json
import TextMacros.Settings.Yaml.Place

/-!
# Scalars of YAML

A scalar is a text in one of several styles. A plain scalar stands as it is, and ends at a comment,
at a colon with a blank behind it, at an indicator in brackets, or where the indentation ends. A
quoted scalar ends at its quote. Both may span lines, whose breaks are folded. A block scalar
consists of the lines that are indented below its indicator; it is literal, or folded like a plain
scalar as far as its lines are not indented further.

Each reader takes a scalar from the front of a text and returns what follows. Its turns take at
least one character each, so the length of the text bounds their number.
-/

namespace TextMacros
namespace Yaml

/-- How a scalar is written. -/
inductive Style where
  /-- As it is. -/
  | plain
  /-- In single or double quotes. -/
  | quoted
  /-- As a block whose breaks are kept. -/
  | literal
  /-- As a block whose breaks are folded. -/
  | folded
deriving DecidableEq

/-- A name for a kind of value, as bytes, which need not encode a text. -/
abbrev Tag := List UInt8

/-- A text, how it is written and what kind of value it is said to be. -/
structure Scalar where
  /-- How the scalar is written. -/
  style : Style
  /-- The kind that a tag names. -/
  tag? : Option Tag
  /-- The text that it denotes. -/
  text : Text
deriving DecidableEq

/-- The scalar that stands where nothing is written. -/
def Scalar.empty : Scalar := ⟨.plain, none, []⟩

/-- The characters of a plain scalar up to a blank, a break or its end. In brackets a colon must not
touch an indicator. -/
def plainRun? (inFlow : Bool) : Text → Option (Text × Text)
  | [] => some ([], [])
  | symbol :: rest =>
    if isWhite symbol ∨ (symbol = ':' ∧ endsWord rest) ∨ (inFlow ∧ isFlowIndicator symbol) then
      some ([], symbol :: rest)
    else if inFlow ∧ symbol = ':' ∧
        rest.head?.any (fun next => isFlowIndicator next ∨ next = '?') then
      none
    else
      (plainRun? inFlow rest).map fun (run, behind) => (symbol :: run, behind)

/-- Whether a plain scalar ends behind a gap. -/
def endsPlain (inFlow : Bool) (indent : Nat) (gap : Gap) (behind : Text) : Bool :=
  behind.head? = some '#' ∨
    gap.column?.any fun column =>
      (!inFlow ∧ column < indent) ∨
        (column = 0 ∧ (beginsMark '-' behind ∨ beginsMark '.' behind))

/-- The further runs of a plain scalar, whether the gap behind the last has a break, and what
follows that gap. -/
def plainRest? (inFlow : Bool) (indent : Nat) : Nat → Text → Option (Text × Bool × Text)
  | 0, text => some ([], false, text)
  | bound + 1, text =>
    let white := text.takeWhile isWhite
    let gap := Gap.ofText white
    let behind := text.drop white.length
    let ending := some ([], !gap.breaks.isEmpty, behind)
    if gap.hasTabWithin indent then none
    else if white.isEmpty ∨ endsPlain inFlow indent gap behind then ending
    else do
      let (run, rest) ← plainRun? inFlow behind
      if run.isEmpty then
        ending
      else
        let (content, broken, last) ← plainRest? inFlow indent bound rest
        return (gap.folded ++ run ++ content, broken, last)

/-- A plain scalar whose further lines have a least indentation. -/
def plain? (inFlow : Bool) (indent : Nat) (text : Text) : Option (Scalar × Bool × Text) := do
  let (run, rest) ← plainRun? inFlow text
  let (content, broken, last) ← plainRest? inFlow indent rest.length rest
  return (⟨.plain, none, run ++ content⟩, broken, last)

/-- A run of a quoted scalar up to a blank, a break or a quote. -/
structure QuotedRun where
  /-- What the run denotes. -/
  text : Text
  /-- Whether an escaped break ends the run. -/
  escaped : Bool
  /-- What follows the run, and the escaped break. -/
  rest : Text

/-- A run that begins with one more character. -/
def QuotedRun.cons (symbol : Char) (run : QuotedRun) : QuotedRun :=
  { run with text := symbol :: run.text }

/-- A run in single quotes. A quote in it is doubled. -/
def singleRun? : Text → Option QuotedRun
  | [] => some ⟨[], false, []⟩
  | '\'' :: '\'' :: rest => (singleRun? rest).map (·.cons '\'')
  | symbol :: rest =>
    if symbol = '\'' ∨ isWhite symbol then some ⟨[], false, symbol :: rest⟩
    else (singleRun? rest).map (·.cons symbol)

/-- The character behind the backslash of a short escape. -/
def shortEscape? : Char → Option Char
  | '0' => some '\x00'
  | 'a' => some '\x07'
  | 'b' => some '\x08'
  | 't' => some '\t'
  | '\t' => some '\t'
  | 'n' => some '\n'
  | 'v' => some '\x0b'
  | 'f' => some '\x0c'
  | 'r' => some '\r'
  | 'e' => some '\x1b'
  | ' ' => some ' '
  | '"' => some '"'
  | '/' => some '/'
  | '\\' => some '\\'
  | 'N' => some '\u0085'
  | '_' => some '\u00a0'
  | 'L' => some '\u2028'
  | 'P' => some '\u2029'
  | _ => none

/-- The character that hexadecimal digits number. -/
def numbered? (digits : Text) : Option Char := do
  let number ← Json.hexNumber? digits
  if number.isValidChar then some (Char.ofNat number) else none

/-- A run in double quotes, with escapes. -/
def doubleRun? : Text → Option QuotedRun
  | [] => some ⟨[], false, []⟩
  | '\\' :: 'x' :: a :: b :: rest => do
    let symbol ← numbered? [a, b]
    (doubleRun? rest).map (·.cons symbol)
  | '\\' :: 'u' :: a :: b :: c :: d :: rest => do
    let symbol ← numbered? [a, b, c, d]
    (doubleRun? rest).map (·.cons symbol)
  | '\\' :: 'U' :: a :: b :: c :: d :: e :: f :: g :: h :: rest => do
    let symbol ← numbered? [a, b, c, d, e, f, g, h]
    (doubleRun? rest).map (·.cons symbol)
  | '\\' :: escaped :: rest =>
    if isBreak escaped then
      some ⟨[], true, dropBreak (escaped :: rest)⟩
    else do
      let symbol ← shortEscape? escaped
      (doubleRun? rest).map (·.cons symbol)
  | symbol :: rest =>
    if symbol = '"' ∨ isWhite symbol then some ⟨[], false, symbol :: rest⟩
    else if symbol = '\\' then none
    else (doubleRun? rest).map (·.cons symbol)

/-- The text of a quoted scalar and what follows it. No line of it may begin with the mark of a
document, and the blanks behind an escaped break are dropped. -/
def quotedFrom? (quote : Char) (run? : Text → Option QuotedRun) :
    Nat → (lineStart : Bool) → Text → Option (Text × Text)
  | 0, _, _ => none
  | bound + 1, lineStart, text =>
    if lineStart ∧ (beginsMark '-' text ∨ beginsMark '.' text) then
      none
    else do
      let run ← run? text
      match run.rest with
      | [] => none
      | symbol :: rest =>
        if symbol = quote then
          return (run.text, rest)
        else
          let white := run.rest.takeWhile isWhite
          let gap := Gap.ofText white
          let atStart := gap.column? = some 0 ∨ (run.escaped ∧ white.isEmpty)
          let (content, behind) ← quotedFrom? quote run? bound atStart (run.rest.drop white.length)
          return (run.text ++ (if run.escaped then gap.breaks else gap.folded) ++ content, behind)

/-- A quoted scalar, from behind its opening quote. -/
def quoted? (quote : Char) (text : Text) : Option (Scalar × Text) :=
  let run? := if quote = '"' then doubleRun? else singleRun?
  (quotedFrom? quote run? (text.length + 1) false text).map fun (content, rest) =>
    (⟨.quoted, none, content⟩, rest)

/-- What becomes of the breaks at the end of a block. -/
inductive Chomping where
  /-- All are dropped. -/
  | strip
  /-- The first is kept. -/
  | clip
  /-- All are kept. -/
  | keep
deriving DecidableEq

/-- The chomping that stands in front of a text, if any, and what follows it. -/
def chomping? : Text → Option Chomping × Text
  | '-' :: rest => (some .strip, rest)
  | '+' :: rest => (some .keep, rest)
  | text => (none, text)

/-- The number of columns, if any, by which a block is said to be indented, and what follows it. -/
def increment? : Text → Option (Option Nat × Text)
  | [] => some (none, [])
  | symbol :: rest =>
    if symbol = '0' then none
    else if symbol.isDigit then some (some (symbol.toNat - '0'.toNat), rest)
    else some (none, symbol :: rest)

/-- Chomping and increment of a block, in any order, and the lines behind them. -/
def blockHeader? (text : Text) : Option (Chomping × Option Nat × Text) := do
  let (before?, rest) := chomping? text
  let (increment, rest) ← increment? rest
  let (chomping, rest) := match before? with
    | some chomping => (chomping, rest)
    | none => ((chomping? rest).1.getD .clip, (chomping? rest).2)
  return (chomping, increment, ← dropRemark? rest)

/-- The blank lines in front of a line of a block, and the indentation of that line. -/
structure Margin where
  /-- The widest line of blanks so far. -/
  widest : Nat
  /-- What the breaks of the blank lines stand for. -/
  breaks : Text
  /-- The indentation of the line. -/
  column : Nat
  /-- The line behind its indentation, and all that follows. -/
  rest : Text

/-- Skips blank lines and the indentation of the next line, which ends at a given column if one is
given. A tab must not stand in it. -/
def margin? (indent? : Option Nat) (column widest : Nat) (breaks : Text) : Text → Option Margin
  | [] => some ⟨max widest column, breaks, column, []⟩
  | '\r' :: '\n' :: rest => margin? indent? 0 (max widest column) (breaks ++ ['\n']) rest
  | symbol :: rest =>
    if isSpace symbol ∧ indent?.all (column < ·) then
      if symbol = '\t' then none else margin? indent? (column + 1) widest breaks rest
    else if isBreak symbol then
      margin? indent? 0 (max widest column) (breaks ++ [breakMeaning symbol]) rest
    else
      some ⟨max widest column, breaks, column, symbol :: rest⟩

/-- The text of a block whose lines have a given indentation, from a margin on, and what follows the
block. The break before the margin is pending; it is folded between two lines that begin without a
blank. -/
def blockFrom? (folds : Bool) (indent : Nat) (chomping : Chomping) :
    Nat → (pending : Text) → (indented : Bool) → Margin → Option (Text × Text)
  | 0, _, _, _ => none
  | bound + 1, pending, indented, margin =>
    if margin.column = indent ∧ !margin.rest.isEmpty then do
      let line := margin.rest.takeWhile fun symbol => !isBreak symbol
      let behind := margin.rest.drop line.length
      let further := line.head?.any isSpace
      let joint :=
        if folds ∧ pending = ['\n'] ∧ !indented ∧ !further then
          if margin.breaks.isEmpty then [' '] else []
        else
          pending
      let next ← margin? (some indent) 0 0 [] (dropBreak behind)
      let ending := (behind.take 1).map breakMeaning
      let (content, rest) ← blockFrom? folds indent chomping bound ending further next
      return (joint ++ margin.breaks ++ line ++ content, rest)
    else
      match chomping with
      | .strip => some ([], margin.rest)
      | .clip => some (pending, margin.rest)
      | .keep => some (pending ++ margin.breaks, margin.rest)

/-- A block scalar, from behind its indicator. Its lines are indented at least as far as
required. -/
def block? (folds : Bool) (required : Nat) (text : Text) : Option (Scalar × Text) := do
  let (chomping, increment, rest) ← blockHeader? text
  let given := increment.map fun columns => required - 1 + columns
  let first ← margin? given 0 0 [] rest
  let indent := given.getD (max first.widest (max required 1))
  let (content, rest) ← blockFrom? folds indent chomping (rest.length + 1) [] false first
  return (⟨if folds then .folded else .literal, none, content⟩, rest)

end Yaml
end TextMacros
