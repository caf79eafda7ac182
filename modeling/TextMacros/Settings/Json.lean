import TextMacros.Settings
import TextMacros.Text.Blank
import TextMacros.Text.Numeral

/-!
# JSON

Values of the JSON data format, as far as settings need them. A text is read in two steps: first
into tokens, then into one value that takes all of them. Of a number it is kept whether it is a
natural number, written without sign, fraction and exponent. A string may name code units that are
no characters; such a string is well formed but denotes no text.
-/

namespace TextMacros

/-- A JSON value. -/
inductive Json where
  /-- One of the words `null`, `true` and `false`. -/
  | word
  /-- A number, and its value when it is a natural number. -/
  | number (natural? : Option Nat)
  /-- A string, and its text when it denotes one. -/
  | string (text? : Option Text)
  /-- A sequence of values. -/
  | array (items : List Json)
  /-- Named values, in order. -/
  | object (members : List (Option Text × Json))

namespace Json

/-- The smallest pieces of a JSON text. -/
inductive Token where
  /-- A value that is neither array nor object. -/
  | scalar (value : Json)
  /-- One of the characters that structure arrays and objects. -/
  | punctuation (symbol : Char)

/-- Whether a character may separate tokens. -/
def isSeparator (symbol : Char) : Bool := isIgnorable symbol

/-- The value of a hexadecimal digit. -/
def hexDigit? (symbol : Char) : Option Nat :=
  if symbol.isDigit then some (symbol.toNat - '0'.toNat)
  else if 'a' ≤ symbol ∧ symbol ≤ 'f' then some (symbol.toNat - 'a'.toNat + 10)
  else if 'A' ≤ symbol ∧ symbol ≤ 'F' then some (symbol.toNat - 'A'.toNat + 10)
  else none

/-- The number that hexadecimal digits denote. -/
def hexNumber? (digits : Text) : Option Nat :=
  digits.foldlM (fun total digit => (hexDigit? digit).map (16 * total + ·)) 0

/-- A piece of a string: a character, or a code unit of UTF-16 given by its number. -/
inductive Piece where
  /-- A character. -/
  | symbol (symbol : Char)
  /-- A code unit. -/
  | unit (value : Nat)

/-- The text of some pieces. Two code units may make one character; a code unit that is half of a
character denotes nothing by itself. -/
def textOfPieces? : List Piece → Option Text
  | [] => some []
  | .symbol symbol :: rest => (textOfPieces? rest).map (symbol :: ·)
  | .unit high :: .unit low :: rest =>
    if 0xd800 ≤ high ∧ high < 0xdc00 then
      if 0xdc00 ≤ low ∧ low < 0xe000 then
        (textOfPieces? rest).map
          (Char.ofNat (0x10000 + 0x400 * (high - 0xd800) + (low - 0xdc00)) :: ·)
      else
        none
    else if 0xdc00 ≤ high ∧ high < 0xe000 then
      none
    else
      (textOfPieces? (.unit low :: rest)).map (Char.ofNat high :: ·)
  | .unit value :: rest =>
    if 0xd800 ≤ value ∧ value < 0xe000 then none
    else (textOfPieces? rest).map (Char.ofNat value :: ·)

/-- The character behind the backslash of a short escape. -/
def shortEscape? : Char → Option Char
  | '"' => some '"'
  | '\\' => some '\\'
  | '/' => some '/'
  | 'b' => some '\x08'
  | 'f' => some '\x0c'
  | 'n' => some '\n'
  | 'r' => some '\r'
  | 't' => some '\t'
  | _ => none

/-- The pieces of a string and what follows it, from behind the opening quote. -/
def stringPieces? : Text → Option (List Piece × Text)
  | [] => none
  | '"' :: rest => some ([], rest)
  | '\\' :: 'u' :: first :: second :: third :: fourth :: rest => do
    let number ← hexNumber? [first, second, third, fourth]
    let (pieces, rest) ← stringPieces? rest
    return (.unit number :: pieces, rest)
  | '\\' :: symbol :: rest => do
    let meant ← shortEscape? symbol
    let (pieces, rest) ← stringPieces? rest
    return (.symbol meant :: pieces, rest)
  | symbol :: rest =>
    if symbol.toNat < 0x20 ∨ symbol = '\\' then none
    else (stringPieces? rest).map fun (pieces, rest) => (.symbol symbol :: pieces, rest)

/-- Whether digits make the whole part of a number: no digit follows a leading zero. -/
def isWholePart (digits : Text) : Bool :=
  !digits.isEmpty ∧ (digits.length = 1 ∨ digits.head? ≠ some '0')

/-- A text without a fraction in front, and whether there was one; a fraction has digits. -/
def dropFraction? : Text → Option (Bool × Text)
  | '.' :: rest =>
    let digits := rest.takeWhile Char.isDigit
    if digits.isEmpty then none else some (true, rest.drop digits.length)
  | text => some (false, text)

/-- A text without an exponent in front, and whether there was one; an exponent has digits. -/
def dropExponent? : Text → Option (Bool × Text)
  | [] => some (false, [])
  | symbol :: rest =>
    if symbol = 'e' ∨ symbol = 'E' then
      let unsigned := match rest with
        | '+' :: unsigned => unsigned
        | '-' :: unsigned => unsigned
        | unsigned => unsigned
      let digits := unsigned.takeWhile Char.isDigit
      if digits.isEmpty then none else some (true, unsigned.drop digits.length)
    else
      some (false, symbol :: rest)

/-- The number in front of a text, and what follows it. -/
def number? (text : Text) : Option (Json × Text) :=
  let (negative, unsigned) : Bool × Text := match text with
    | '-' :: unsigned => (true, unsigned)
    | unsigned => (false, unsigned)
  let digits := unsigned.takeWhile Char.isDigit
  if isWholePart digits then do
    let (fraction, rest) ← dropFraction? (unsigned.drop digits.length)
    let (exponent, rest) ← dropExponent? rest
    let natural? := if negative ∨ fraction ∨ exponent then none else Numeral.natural? digits
    return (.number natural?, rest)
  else
    none

/-- The words that are values. -/
def words : List Text := ["null".toList, "true".toList, "false".toList]

/-- The token in front of a text, and what follows it. -/
def token? (text : Text) : Option (Token × Text) :=
  match text with
  | [] => none
  | symbol :: rest =>
    if symbol ∈ "[]\x7b\x7d,:".toList then
      some (.punctuation symbol, rest)
    else if symbol = '"' then
      (stringPieces? rest).map fun (pieces, rest) =>
        (.scalar (.string (textOfPieces? pieces)), rest)
    else
      match words.find? (·.isPrefixOf text) with
      | some letters => some (.scalar .word, text.drop letters.length)
      | none => (number? text).map fun (value, rest) => (.scalar value, rest)

/-- The tokens of a text, when it consists of tokens. Each token takes at least one character, so
the length of the text bounds their number. -/
def tokensWithin? : Nat → Text → Option (List Token)
  | 0, text => if text.isEmpty then some [] else none
  | bound + 1, text =>
    match text.dropWhile isSeparator with
    | [] => some []
    | symbol :: rest => do
      let (token, rest) ← token? (symbol :: rest)
      return token :: (← tokensWithin? bound rest)

/-- The tokens of a text. -/
def tokens? (text : Text) : Option (List Token) := tokensWithin? text.length text

/-- Tokens that are fewer than some others. -/
abbrev Fewer (tokens : List Token) := { rest : List Token // rest.length < tokens.length }

mutual

/-- The value in front of some tokens, and the tokens behind it. -/
def value? (tokens : List Token) : Option (Json × Fewer tokens) :=
  match tokens with
  | .scalar value :: rest => some (value, ⟨rest, Nat.lt_add_one _⟩)
  | .punctuation '[' :: .punctuation ']' :: rest =>
    some (.array [], ⟨rest, Nat.lt_succ_of_lt (Nat.lt_add_one _)⟩)
  | .punctuation '[' :: rest => do
    let (items, ⟨behind, fewer⟩) ← items? rest
    return (.array items, ⟨behind, Nat.lt_add_one_of_lt fewer⟩)
  | .punctuation '\x7b' :: .punctuation '\x7d' :: rest =>
    some (.object [], ⟨rest, Nat.lt_succ_of_lt (Nat.lt_add_one _)⟩)
  | .punctuation '\x7b' :: rest => do
    let (members, ⟨behind, fewer⟩) ← members? rest
    return (.object members, ⟨behind, Nat.lt_add_one_of_lt fewer⟩)
  | _ => none
termination_by 2 * tokens.length

/-- The items of an array from the first to the closing bracket. -/
def items? (tokens : List Token) : Option (List Json × Fewer tokens) := do
  let (item, ⟨behind, fewer⟩) ← value? tokens
  match _split : behind with
  | .punctuation ',' :: rest => do
    have shorter : rest.length < tokens.length := by simp [_split] at fewer; omega
    let (items, ⟨last, fewest⟩) ← items? rest
    return (item :: items, ⟨last, Nat.lt_trans fewest shorter⟩)
  | .punctuation ']' :: rest => return ([item], ⟨rest, by simp [_split] at fewer; omega⟩)
  | _ => none
termination_by 2 * tokens.length + 1

/-- The members of an object from the first to the closing brace. -/
def members? (tokens : List Token) : Option (List (Option Text × Json) × Fewer tokens) :=
  match tokens with
  | .scalar (.string name) :: .punctuation ':' :: after => do
    let (value, ⟨behind, fewer⟩) ← value? after
    match _split : behind with
    | .punctuation ',' :: rest => do
      have shorter : rest.length < after.length := by simp [_split] at fewer; omega
      let (members, ⟨last, fewest⟩) ← members? rest
      return ((name, value) :: members, ⟨last, by simp; omega⟩)
    | .punctuation '\x7d' :: rest =>
      return ([(name, value)], ⟨rest, by simp [_split] at fewer ⊢; omega⟩)
    | _ => none
  | _ => none
termination_by 2 * tokens.length + 1

end

/-- The value that a text denotes. -/
def ofText? (text : Text) : Option Json := do
  let tokens ← tokens? text
  let (value, ⟨behind, _⟩) ← value? tokens
  if behind.isEmpty then some value else none

end Json
end TextMacros
