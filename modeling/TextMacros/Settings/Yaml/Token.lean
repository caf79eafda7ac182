import TextMacros.Settings.Yaml.Scalar
import TextMacros.Text.Encoding
import TextMacros.Text.Numeral

/-!
# Tokens of YAML

The tokens of a YAML text: scalars, the indicators that structure collections, the names that mark
and recall nodes, the tags that say what kind of value a node is, and the directives and marks of
documents. Where a block collection begins and ends is told by indentation alone, so the tokens for
it stand for no character.
-/

namespace TextMacros
namespace Yaml

/-- The smallest pieces of a YAML text. -/
inductive Token where
  /-- The mark that a document begins. -/
  | documentStart
  /-- The mark that a document ends. -/
  | documentEnd
  /-- A directive that names the version of the format. -/
  | version (major minor : Nat)
  /-- A directive that says what a handle in tags stands for. -/
  | handle (name : Text) (meaning : Tag)
  /-- A sequence begins whose items stand on lines of their own. -/
  | blockSequence
  /-- A mapping begins whose members stand on lines of their own. -/
  | blockMapping
  /-- Such a sequence or mapping ends. -/
  | blockEnd
  /-- A sequence in brackets begins. -/
  | flowSequence
  /-- A sequence in brackets ends. -/
  | flowSequenceEnd
  /-- A mapping in braces begins. -/
  | flowMapping
  /-- A mapping in braces ends. -/
  | flowMappingEnd
  /-- The dash before an item on a line of its own. -/
  | entry
  /-- The comma between items in brackets or braces. -/
  | separator
  /-- A key follows. -/
  | key
  /-- A value follows. -/
  | value
  /-- The node that was given a name stands here again. -/
  | alias (name : Text)
  /-- The next node is given a name. -/
  | anchor (name : Text)
  /-- The next node is said to be of a kind. -/
  | tag (handle : Text) (suffix : Tag)
  /-- A scalar. -/
  | scalar (scalar : Scalar)
deriving DecidableEq

namespace Token

/-- The name of an anchor or alias, and what follows it. -/
def name? (text : Text) : Option (Text × Text) :=
  let name := text.takeWhile isWordSymbol
  let rest := text.drop name.length
  if !name.isEmpty ∧ (endsWord rest ∨ rest.head?.any "?:,]\x7d%@`".toList.contains) then
    some (name, rest)
  else
    none

/-- The characters of tags; some more may stand in a tag that is written out in full. -/
def isTagSymbol (full : Bool) (symbol : Char) : Bool :=
  isWordSymbol symbol ∨ ";/?:@&=+$.!~*'()%".toList.contains symbol ∨
    (full ∧ ",[]".toList.contains symbol)

/-- The number of bytes that encode a character, as its first byte tells. -/
def encodedLength? (lead : UInt8) : Option Nat :=
  if lead < 0x80 then some 1
  else if lead < 0xc0 then none
  else if lead < 0xe0 then some 2
  else if lead < 0xf0 then some 3
  else if lead < 0xf8 then some 4
  else none

/-- The bytes that characters of a tag stand for, where some bytes of a character are still to come.
A percent sign with two hexadecimal digits stands for one byte. -/
def tagBytes? : (pending : Nat) → Text → Option (List UInt8)
  | pending, [] => if pending = 0 then some [] else none
  | pending, '%' :: high :: low :: rest => do
    let byte := (← Json.hexNumber? [high, low]).toUInt8
    if pending = 0 then
      (tagBytes? ((← encodedLength? byte) - 1) rest).map (byte :: ·)
    else if 0x80 ≤ byte ∧ byte < 0xc0 then
      (tagBytes? (pending - 1) rest).map (byte :: ·)
    else
      none
  | pending, symbol :: rest =>
    if pending = 0 ∧ symbol ≠ '%' then (tagBytes? 0 rest).map (symbol.toUInt8 :: ·) else none

/-- The part of a tag in front of a text, perhaps empty, and what follows it. A zero byte ends what
the part stands for. -/
def tagPart? (full : Bool) (text : Text) : Option (Tag × Text) := do
  let part := text.takeWhile (isTagSymbol full)
  return ((← tagBytes? 0 part).takeWhile (· ≠ 0), text.drop part.length)

/-- A part of a tag that must not be empty. -/
def nonEmptyTagPart? (full : Bool) (text : Text) : Option (Tag × Text) :=
  if text.head?.any (isTagSymbol full) then tagPart? full text else none

/-- What may be a handle in front of a text: an exclamation mark and a word, perhaps closed by one
more exclamation mark. -/
def takeHandle : Text → Text × Text
  | '!' :: rest =>
    let word := rest.takeWhile isWordSymbol
    match rest.drop word.length with
    | '!' :: behind => ('!' :: word ++ ['!'], behind)
    | behind => ('!' :: word, behind)
  | text => ([], text)

/-- Whether a text is a handle of more than one exclamation mark. -/
def isLongHandle (handle : Text) : Bool := 2 ≤ handle.length ∧ handle.getLast? = some '!'

/-- The handle and suffix of a tag, and what follows them. -/
def tagParts? (text : Text) : Option (Token × Text) :=
  match text with
  | '!' :: '<' :: rest => do
    let (suffix, rest) ← nonEmptyTagPart? true rest
    match rest with
    | '>' :: rest => return (tag [] suffix, rest)
    | _ => none
  | text =>
    let (head, rest) := takeHandle text
    if isLongHandle head then do
      let (suffix, rest) ← nonEmptyTagPart? false rest
      return (tag head suffix, rest)
    else do
      let (part, rest) ← tagPart? false rest
      let suffix := Text.bytes (head.drop 1) ++ part
      return (if suffix.isEmpty then tag [] (Text.bytes ['!']) else tag ['!'] suffix, rest)

/-- A tag and what follows it, which must not touch the tag. -/
def tag? (inFlow : Bool) (text : Text) : Option (Token × Text) := do
  let (found, rest) ← tagParts? text
  if endsWord rest ∨ (inFlow ∧ rest.head? = some ',') then some (found, rest) else none

/-- A number of a version and what follows it. -/
def versionNumber? (text : Text) : Option (Nat × Text) := do
  let digits := text.takeWhile Char.isDigit
  if 9 < digits.length then none
  else (Numeral.natural? digits).map fun number => (number, text.drop digits.length)

/-- What a directive of a given name says, and what follows it. -/
def directiveValue? (name text : Text) : Option (Token × Text) :=
  match name.string with
  | "YAML" => do
    let (major, rest) ← versionNumber? text
    match rest with
    | '.' :: rest =>
      let (minor, rest) ← versionNumber? rest
      return (version major minor, rest)
    | _ => none
  | "TAG" => do
    let (name, rest) := takeHandle text
    if (isLongHandle name ∨ name = ['!']) ∧ rest.head?.any isSpace then
      let (meaning, rest) ← nonEmptyTagPart? true (rest.dropWhile isSpace)
      if endsWord rest then some (handle name meaning, rest) else none
    else
      none
  | _ => none

/-- A directive from behind its percent sign, and the lines behind it. -/
def directive? (text : Text) : Option (Token × Text) := do
  let name := text.takeWhile isWordSymbol
  let rest := text.drop name.length
  if endsWord rest then
    let (directive, rest) ← directiveValue? name (rest.dropWhile isSpace)
    return (directive, ← dropRemark? rest)
  else
    none

end Token
end Yaml
end TextMacros
