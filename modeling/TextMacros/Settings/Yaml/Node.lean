import TextMacros.Settings.Yaml.Token.Stream

/-!
# Nodes of YAML

A document is one node: a scalar, a sequence of nodes, or a mapping whose keys and values are nodes.
Where a node may stand and none does, it is an empty scalar. A tag can say what kind of value a node
is, and a node can be given a name and stand again under that name.

The number of a name is how many names there are when it is given, and a document keeps for each
number the node that was named last under it. A name that is given again thereby shares its new
number with the next new name, and both stand for one node.

Nodes are read from tokens by readers that stand for the positions in which a node can occur. Every
second turn of a reader takes a token, so the number of tokens bounds how deep the readers go.
-/

namespace TextMacros
namespace Yaml

/-- A node of a document. -/
inductive Node where
  /-- A scalar. -/
  | scalar (scalar : Scalar)
  /-- Nodes in order. -/
  | sequence (items : List Node)
  /-- Keys and values in order. -/
  | mapping (members : List (Node × Node))
  /-- The named node of a number, which stands here again. -/
  | recalled (number : Nat)

namespace Node

/-- The node that stands where nothing is written. -/
def empty : Node := .scalar .empty

/-- The tokens that are not read, and the names in front of them. -/
structure Progress where
  /-- The tokens that are not read. -/
  tokens : List Token
  /-- The names and their numbers, each name once. -/
  numbers : List (Text × Nat)
  /-- The named nodes by their numbers, latest first, as far as they are scalars. -/
  named : List (Nat × Option Scalar)

/-- A reader of tokens. -/
abbrev Reading (α : Type) := StateT Progress Option α

/-- The next token. -/
def next? : Reading (Option Token) := do return (← get).tokens.head?

/-- Whether the next token is one of some tokens, or there is none. -/
def nextIsIn (tokens : List Token) : Reading Bool := do
  return (← next?).any tokens.contains

/-- Takes the next token. -/
def take : Reading Unit := modify fun progress => { progress with tokens := progress.tokens.drop 1 }

/-- Takes the next token if it is a given one, and tells whether it is. -/
def accept (token : Token) : Reading Bool := do
  if (← next?) = some token then
    take
    return true
  return false

/-- Takes the next token, which must be a given one. -/
def expect (token : Token) : Reading Unit := do
  if !(← accept token) then failure

/-- What every document takes the handles of tags to stand for. -/
def standardHandles : List (Text × Tag) :=
  [(['!'], Text.bytes ['!']), (['!', '!'], Text.bytes "tag:yaml.org,2002:".toList)]

/-- The tag that a handle and a suffix make. -/
def tagOf? (handles : List (Text × Tag)) (handle : Text) (suffix : Tag) : Option Tag :=
  if handle.isEmpty then some suffix else (handles.lookup handle).map (· ++ suffix)

/-- Takes the name that is given to a node, if any. -/
def anchor? : Reading (Option Text) := do
  match ← next? with
  | some (.anchor name) => do
    take
    return some name
  | _ => return none

/-- Takes the tag of a node, if any. -/
def tag? (handles : List (Text × Tag)) : Reading (Option Tag) := do
  match ← next? with
  | some (.tag handle suffix) => do
    take
    return some (← tagOf? handles handle suffix)
  | _ => return none

/-- Takes the name and tag of a node, in any order. -/
def properties (handles : List (Text × Tag)) : Reading (Option Text × Option Tag) := do
  let before? ← anchor?
  let tag? ← tag? handles
  if before?.isSome then return (before?, tag?)
  if tag?.isNone then return (none, none)
  return (← anchor?, tag?)

/-- Notes a node under its name, if it has one. -/
def note (name? : Option Text) (scalar? : Option Scalar) : Reading Unit :=
  match name? with
  | some name =>
    modify fun progress =>
      let number := progress.numbers.length
      { progress with
        numbers := (name, number) :: progress.numbers.filter (·.1 ≠ name)
        named := (number, scalar?) :: progress.named }
  | none => return ()

/-- The node of a name. -/
def nodeOf (name : Text) : Reading Node := do
  match (← get).numbers.lookup name with
  | some number => return .recalled number
  | none => failure

/-- Whether one more item follows in brackets or braces. -/
def more (first : Bool) (ending : Token) : Reading Bool := do
  if ← accept ending then return false
  if first then return true
  expect .separator
  return !(← accept ending)

mutual

/-- Reads a node. In a block it may be a block collection; as a part of a member it may be a
sequence that is not indented further. -/
def read (handles : List (Text × Tag)) :
    Nat → (inBlock : Bool) → (inMember : Bool) → Reading Node
  | 0, _, _ => failure
  | bound + 1, inBlock, inMember => do
    if let some (.alias name) ← next? then
      take
      return ← nodeOf name
    let (name?, tag?) ← properties handles
    match ← next? with
    | some (.scalar written) =>
      take
      let tagged := { written with tag? }
      note name? (some tagged)
      return .scalar tagged
    | some .flowSequence =>
      take
      note name? none
      return .sequence (← flowItems handles bound true)
    | some .flowMapping =>
      take
      note name? none
      return .mapping (← flowMembers handles bound true)
    | token? =>
      if token? = some .entry ∧ inMember then
        note name? none
        return .sequence (← memberItems handles bound)
      else if token? = some .blockSequence ∧ inBlock then
        take
        note name? none
        return .sequence (← blockItems handles bound)
      else if token? = some .blockMapping ∧ inBlock then
        take
        note name? none
        return .mapping (← blockMembers handles bound)
      else if name?.isSome ∨ tag?.isSome then
        let tagged := { Scalar.empty with tag? }
        note name? (some tagged)
        return .scalar tagged
      else
        failure

/-- Reads a node of a block, which is empty where one of some tokens follows. -/
def readUnless (handles : List (Text × Tag)) :
    Nat → (inMember : Bool) → List Token → Reading Node
  | 0, _, _ => failure
  | bound + 1, inMember, endings => do
    if ← nextIsIn endings then return empty
    read handles bound true inMember

/-- Reads the items of an indented sequence, and its end. -/
def blockItems (handles : List (Text × Tag)) : Nat → Reading (List Node)
  | 0 => failure
  | bound + 1 => do
    if ← accept .blockEnd then return []
    expect .entry
    let item ← readUnless handles bound false [.entry, .blockEnd]
    return item :: (← blockItems handles bound)

/-- Reads the items of a sequence that ends where no further item follows. -/
def memberItems (handles : List (Text × Tag)) : Nat → Reading (List Node)
  | 0 => failure
  | bound + 1 => do
    if !(← accept .entry) then return []
    let item ← readUnless handles bound false [.entry, .key, .value, .blockEnd]
    return item :: (← memberItems handles bound)

/-- Reads the members of an indented mapping, and its end. -/
def blockMembers (handles : List (Text × Tag)) : Nat → Reading (List (Node × Node))
  | 0 => failure
  | bound + 1 => do
    if ← accept .blockEnd then return []
    expect .key
    let key ← readUnless handles bound true [.key, .value, .blockEnd]
    let value ← if ← accept .value then
        readUnless handles bound true [.key, .value, .blockEnd]
      else
        pure empty
    return (key, value) :: (← blockMembers handles bound)

/-- Reads a key and value in brackets or braces, from behind the token of the key. In brackets a
missing key takes the place of the token behind it, which is skipped. -/
def flowMember (handles : List (Text × Tag)) : Nat → (ending : Token) → Reading (Node × Node)
  | 0, _ => failure
  | bound + 1, ending => do
    let key ← if ← nextIsIn [.value, .separator, ending] then do
        if ending = .flowSequenceEnd then take
        pure empty
      else
        read handles bound false false
    if !(← accept .value) then return (key, empty)
    if ← nextIsIn [.separator, ending] then return (key, empty)
    return (key, ← read handles bound false false)

/-- Reads the items of a sequence in brackets, and the closing bracket. A key among them makes a
mapping of one member. -/
def flowItems (handles : List (Text × Tag)) : Nat → (first : Bool) → Reading (List Node)
  | 0, _ => failure
  | bound + 1, first => do
    if !(← more first .flowSequenceEnd) then return []
    let item ← if ← accept .key then
        pure (Node.mapping [← flowMember handles bound .flowSequenceEnd])
      else
        read handles bound false false
    return item :: (← flowItems handles bound false)

/-- Reads the members of a mapping in braces, and the closing brace. A member without a colon has an
empty value. -/
def flowMembers (handles : List (Text × Tag)) :
    Nat → (first : Bool) → Reading (List (Node × Node))
  | 0, _ => failure
  | bound + 1, first => do
    if !(← more first .flowMappingEnd) then return []
    let member ← if ← accept .key then
        flowMember handles bound .flowMappingEnd
      else
        pure (← read handles bound false false, empty)
    return member :: (← flowMembers handles bound false)

end

/-- Whether a token is a directive. -/
def isDirective : Token → Bool
  | .version _ _ | .handle _ _ => true
  | _ => false

/-- The handles that the directives of a document declare. The version is named at most once and is
a known one, and no handle is declared twice. -/
def handlesOf? : (versioned : Bool) → List (Text × Tag) → List Token → Option (List (Text × Tag))
  | versioned, handles, .version major minor :: rest =>
    if !versioned ∧ major = 1 ∧ (minor = 1 ∨ minor = 2) then handlesOf? true handles rest else none
  | versioned, handles, .handle name meaning :: rest =>
    if (handles.lookup name).isNone then handlesOf? versioned ((name, meaning) :: handles) rest
    else none
  | _, handles, _ => some handles

/-- Reads the node of a document behind its directives and its mark. -/
def content (handles : List (Text × Tag)) (bound : Nat) : Reading Node := do
  match ← next? with
  | none | some .documentStart | some .documentEnd => return empty
  | some token =>
    if isDirective token then return empty
    read handles bound true false

/-- Reads one document. Without directives it needs no mark in front. -/
def document (bound : Nat) : Reading Node := do
  let directives := (← get).tokens.takeWhile isDirective
  if directives.isEmpty ∧ (← next?) ≠ some .documentStart then
    read standardHandles bound true false
  else
    let handles ← handlesOf? false [] directives
    modify fun progress => { progress with tokens := progress.tokens.drop directives.length }
    expect .documentStart
    content (handles ++ standardHandles) bound

end Node

/-- A node and the named nodes that stand in it again. -/
structure Document where
  /-- The node. -/
  root : Node
  /-- The named nodes by their numbers, as far as they are scalars. -/
  named : List (Nat × Option Scalar)

namespace Document

/-- The scalar that a node of the document is, if it is one. -/
def scalar? (document : Document) : Node → Option Scalar
  | .scalar written => some written
  | .recalled number => (document.named.lookup number).join
  | _ => none

/-- The only document that a text holds; a text without tokens holds an empty node. -/
def ofText? (text : Text) : Option Document := do
  let tokens ← Token.ofText? text
  if tokens.isEmpty then
    return ⟨.empty, []⟩
  let (root, progress) ← (Node.document (3 * tokens.length + 3)).run ⟨tokens, [], []⟩
  if progress.tokens.all (· = .documentEnd) then some ⟨root, progress.named⟩ else none

end Document
end Yaml
end TextMacros
