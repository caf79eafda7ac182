import TextMacros.Settings.Yaml.Token

/-!
# The tokens of a text

A text is taken apart into tokens from front to back. What a character means depends on the block
collections that are open, each known by its column, on the brackets and braces that are open, and
on whether a key may begin.

That a node is a key shows only at the colon behind it. Each node that may be one is therefore
remembered as a candidate until the colon, and the tokens before a key are put in front of it then.
A key must not span lines and is short; a node that stands where only a key can stand must become
one.
-/

namespace TextMacros
namespace Yaml

/-- A node that may turn out to be a key. -/
structure Candidate where
  /-- The number of tokens before the node. -/
  index : Nat
  /-- Whether the node stands where only a key can stand. -/
  required : Bool
  /-- The place where the node begins. -/
  place : Place

namespace Candidate

/-- The greatest distance in bytes between a key and its colon. -/
def reach : Nat := 1024

/-- Whether a candidate can no longer become a key at some place. -/
def isStale (place : Place) (candidate : Candidate) : Bool :=
  candidate.place.line < place.line ∨ candidate.place.offset + reach < place.offset

/-- No candidate, unless the candidate must become a key. -/
def drop? : Option Candidate → Option (Option Candidate)
  | some candidate => if candidate.required then none else some none
  | none => some none

/-- The candidate as far as it can still become a key. -/
def keep? (place : Place) : Option Candidate → Option (Option Candidate)
  | some candidate =>
    if candidate.isStale place then drop? (some candidate) else some (some candidate)
  | none => some none

end Candidate

/-- A text that is taken apart as far as some place. -/
structure Stream where
  /-- The place. -/
  place : Place
  /-- The text behind the place. -/
  unread : Text
  /-- The tokens before the place. -/
  tokens : Array Token
  /-- The columns of the open block collections, innermost first. -/
  columns : List Nat
  /-- The candidate within the innermost brackets or braces. -/
  candidate? : Option Candidate
  /-- The candidates outside of the open brackets and braces, innermost first. -/
  outer : List (Option Candidate)
  /-- Whether a key may begin here. -/
  keyAllowed : Bool

namespace Stream

/-- The stream in front of a text. -/
def start (text : Text) : Stream := ⟨.start, text, #[], [], none, [], true⟩

/-- Whether the place is within brackets or braces. -/
def inFlow (stream : Stream) : Bool := !stream.outer.isEmpty

/-- The least column at which content of the innermost block collection may continue. -/
def indent (stream : Stream) : Nat :=
  match stream.columns with
  | [] => 0
  | column :: _ => column + 1

/-- The stream after the text is read up to its given end part. -/
def readTo (stream : Stream) (rest : Text) : Stream :=
  { stream with
    place := stream.place.behind (stream.unread.take (stream.unread.length - rest.length))
    unread := rest }

/-- The stream with one more token before the place. -/
def push (stream : Stream) (token : Token) : Stream :=
  { stream with tokens := stream.tokens.push token }

/-- The stream with a token in front of later ones. -/
def insert (stream : Stream) (index : Nat) (token : Token) : Stream :=
  { stream with
    tokens := (stream.tokens.extract 0 index).push token ++
      stream.tokens.extract index stream.tokens.size }

/-- Where the place is among blanks, breaks and comments. -/
inductive Zone where
  /-- In front of a line. -/
  | lineStart
  /-- Behind some blanks of a line. -/
  | line
  /-- In a comment. -/
  | comment
deriving DecidableEq

/-- Skips blanks, breaks and comments, and tells whether a key may begin behind them. Outside of
brackets a key may begin on each new line, and not behind a tab. A byte order mark may stand in
front of a line. -/
def skipFrom (inFlow : Bool) : Zone → (keyAllowed : Bool) → Text → Bool × Text
  | _, keyAllowed, [] => (keyAllowed, [])
  | zone, keyAllowed, symbol :: rest =>
    if isBreak symbol then skipFrom inFlow .lineStart (keyAllowed || !inFlow) rest
    else if zone = .comment ∨ symbol = '#' then skipFrom inFlow .comment keyAllowed rest
    else if symbol = ' ' ∨ (symbol = '\t' ∧ (inFlow ∨ !keyAllowed)) ∨
        (symbol = '\ufeff' ∧ zone = .lineStart) then
      skipFrom inFlow .line keyAllowed rest
    else (keyAllowed, symbol :: rest)

/-- Skips what stands between two tokens. -/
def skip (stream : Stream) : Stream :=
  let zone := if stream.place.column = 0 then Zone.lineStart else Zone.line
  let (keyAllowed, rest) := skipFrom stream.inFlow zone stream.keyAllowed stream.unread
  { stream.readTo rest with keyAllowed }

/-- Drops the candidates that can no longer become keys. -/
def refresh? (stream : Stream) : Option Stream := do
  let candidate? ← Candidate.keep? stream.place stream.candidate?
  let outer ← stream.outer.mapM (Candidate.keep? stream.place)
  return { stream with candidate?, outer }

/-- Closes the block collections of which a column is no part; without a column, all. -/
def closeBlocks (stream : Stream) (column? : Option Nat) : Stream :=
  if stream.inFlow then
    stream
  else
    let open_ := stream.columns.dropWhile fun column => column?.all (· < column)
    { stream with
      columns := open_
      tokens := stream.tokens ++
        Array.replicate (stream.columns.length - open_.length) Token.blockEnd }

/-- Opens a block collection at a column, with its token in front of later ones, unless one is open
there. -/
def openBlock (stream : Stream) (column index : Nat) (token : Token) : Stream :=
  if !stream.inFlow ∧ stream.columns.head?.all (· < column) then
    { stream.insert index token with columns := column :: stream.columns }
  else
    stream

/-- Forgets the candidate. -/
def dropCandidate? (stream : Stream) : Option Stream :=
  (Candidate.drop? stream.candidate?).map fun candidate? => { stream with candidate? }

/-- Remembers the node at the place as a candidate, if a key may begin here. -/
def setCandidate? (stream : Stream) : Option Stream :=
  if stream.keyAllowed then
    stream.dropCandidate?.map fun dropped =>
      let required := !stream.inFlow ∧ stream.indent = stream.place.column + 1
      { dropped with candidate? := some ⟨stream.tokens.size, required, stream.place⟩ }
  else
    some stream

/-- Reads a token of a node that may be a key. -/
def node? (stream : Stream) (token : Token) (rest : Text) (keyAllowed : Bool) : Option Stream :=
  stream.setCandidate?.map fun noted => { (noted.push token).readTo rest with keyAllowed }

/-- Reads a token that is no part of a key. -/
def mark? (stream : Stream) (token : Token) (rest : Text) (keyAllowed : Bool) : Option Stream :=
  stream.dropCandidate?.map fun dropped => { (dropped.push token).readTo rest with keyAllowed }

/-- Reads a token that closes all block collections. -/
def boundary? (stream : Stream) (token : Token) (rest : Text) : Option Stream :=
  (stream.closeBlocks none).mark? token rest false

/-- Reads an opening bracket or brace. -/
def openFlow? (stream : Stream) (token : Token) (rest : Text) : Option Stream :=
  (stream.node? token rest true).map fun opened =>
    { opened with candidate? := none, outer := opened.candidate? :: opened.outer }

/-- Reads a closing bracket or brace. -/
def closeFlow? (stream : Stream) (token : Token) (rest : Text) : Option Stream :=
  (stream.mark? token rest false).map fun closed =>
    match closed.outer with
    | [] => closed
    | candidate? :: outer => { closed with candidate?, outer }

/-- Opens a block collection at the place for an indicator, where a key may begin. -/
def indicated? (stream : Stream) (collection : Token) : Option Stream :=
  if stream.inFlow ∨ stream.keyAllowed then
    some (stream.openBlock stream.place.column stream.tokens.size collection)
  else
    none

/-- Reads the dash of an item. -/
def entry? (stream : Stream) (rest : Text) : Option Stream := do
  (← stream.indicated? .blockSequence).mark? .entry rest true

/-- Reads the question mark before a key. -/
def key? (stream : Stream) (rest : Text) : Option Stream := do
  (← stream.indicated? .blockMapping).mark? .key rest !stream.inFlow

/-- Reads the colon before a value. The candidate, if there is one, becomes a key. -/
def value? (stream : Stream) (rest : Text) : Option Stream :=
  match stream.candidate? with
  | some candidate =>
    let keyed := (stream.insert candidate.index .key).openBlock candidate.place.column
      candidate.index .blockMapping
    some { (keyed.push .value).readTo rest with candidate? := none, keyAllowed := false }
  | none => do
    let opened ← stream.indicated? .blockMapping
    return { (opened.push .value).readTo rest with keyAllowed := !stream.inFlow }

/-- Reads a plain scalar. -/
def plain? (stream : Stream) : Option Stream := do
  let (scalar, broken, rest) ← Yaml.plain? stream.inFlow stream.indent stream.unread
  stream.node? (.scalar scalar) rest broken

/-- Reads a quoted scalar. -/
def quoted? (stream : Stream) (quote : Char) (rest : Text) : Option Stream := do
  let (scalar, behind) ← Yaml.quoted? quote rest
  stream.node? (.scalar scalar) behind false

/-- Reads a block scalar. There is none in brackets and braces. -/
def block? (stream : Stream) (folds : Bool) (rest : Text) : Option Stream := do
  let (scalar, behind) ← Yaml.block? folds stream.indent rest
  if stream.inFlow then none else stream.mark? (.scalar scalar) behind true

/-- Reads the token at the place that begins with a given character. -/
def tokenOf? (stream : Stream) (symbol : Char) (rest : Text) : Option Stream :=
  match symbol with
  | '[' => stream.openFlow? .flowSequence rest
  | '\x7b' => stream.openFlow? .flowMapping rest
  | ']' => stream.closeFlow? .flowSequenceEnd rest
  | '\x7d' => stream.closeFlow? .flowMappingEnd rest
  | ',' => stream.mark? .separator rest true
  | '-' => if endsWord rest then stream.entry? rest else stream.plain?
  | '?' => if stream.inFlow ∨ endsWord rest then stream.key? rest else stream.plain?
  | ':' => if stream.inFlow ∨ endsWord rest then stream.value? rest else stream.plain?
  | '*' => (Token.name? rest).bind fun (name, behind) => stream.node? (.alias name) behind false
  | '&' => (Token.name? rest).bind fun (name, behind) => stream.node? (.anchor name) behind false
  | '!' =>
    (Token.tag? stream.inFlow stream.unread).bind fun (tag, behind) => stream.node? tag behind false
  | '\'' => stream.quoted? '\'' rest
  | '"' => stream.quoted? '"' rest
  | '|' => stream.block? false rest
  | '>' => stream.block? true rest
  | symbol => if isWhite symbol ∨ "#%@`".toList.contains symbol then none else stream.plain?

/-- Reads the token at the place. -/
def token? (stream : Stream) : Option Stream :=
  match stream.unread with
  | [] => some stream
  | symbol :: rest =>
    if stream.place.column = 0 ∧ symbol = '%' then
      (Token.directive? rest).bind fun (directive, behind) => stream.boundary? directive behind
    else if stream.place.column = 0 ∧ beginsMark '-' stream.unread then
      stream.boundary? .documentStart (stream.unread.drop 3)
    else if stream.place.column = 0 ∧ beginsMark '.' stream.unread then
      stream.boundary? .documentEnd (stream.unread.drop 3)
    else
      stream.tokenOf? symbol rest

/-- The tokens before the end, which closes all block collections. -/
def finish? (stream : Stream) : Option (List Token) :=
  (stream.closeBlocks none).dropCandidate?.map (·.tokens.toList)

/-- Reads token after token up to the end. Each takes at least one character, so the length of the
text bounds their number. -/
def readWithin? : Nat → Stream → Option (List Token)
  | 0, _ => none
  | bound + 1, stream => do
    let fresh ← stream.skip.refresh?
    let stream := fresh.closeBlocks (some fresh.place.column)
    if stream.unread.isEmpty then stream.finish? else readWithin? bound (← stream.token?)

end Stream

/-- The tokens of a text, which must not hold control characters. -/
def Token.ofText? (text : Text) : Option (List Token) :=
  if text.all isAllowed then Stream.readWithin? (text.length + 1) (Stream.start text) else none

end Yaml
end TextMacros
