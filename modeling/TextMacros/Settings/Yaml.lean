import TextMacros.Settings.Choice
import TextMacros.Settings.Yaml.Node

/-!
# Settings in YAML

A settings file in YAML holds one mapping whose keys are scalars; a file without content holds the
empty mapping. Every scalar can be read as a text. A plain scalar can be read as a number too, and
so can a literal block that is tagged as an integer. Collections can be read as neither.
-/

namespace TextMacros
namespace Yaml

/-- The number that the digits of a base denote. -/
def digitsInBase? (base : Nat) (digits : Text) : Option Nat :=
  if digits.isEmpty then none
  else digits.foldlM (fun total digit =>
    (Json.hexDigit? digit).bind fun value =>
      if value < base then some (base * total + value) else none) 0

/-- The natural number that a plain scalar denotes. A base is named in front of its digits; a
decimal number has no leading zero. -/
def natural? (text : Text) : Option Nat :=
  let unsigned := match text with
    | '+' :: unsigned => unsigned
    | unsigned => unsigned
  match unsigned with
  | '0' :: 'x' :: digits => digitsInBase? 16 digits
  | '0' :: 'o' :: digits => digitsInBase? 8 digits
  | '0' :: 'b' :: digits => digitsInBase? 2 digits
  | '0' :: _ :: _ => none
  | digits => digitsInBase? 10 digits

/-- The tag of integers. -/
def integerTag : Tag := Text.bytes "tag:yaml.org,2002:int".toList

/-- Whether a scalar can be a number. -/
def Scalar.isNumeral (scalar : Scalar) : Bool :=
  scalar.style = .plain ∨ (scalar.style = .literal ∧ scalar.tag? = some integerTag)

/-- What a scalar can be read as. -/
def Scalar.offer (scalar : Scalar) : Offer :=
  ⟨if scalar.isNumeral then natural? scalar.text else none, some scalar.text⟩

namespace Document

/-- What a node of the document can be read as. -/
def offer (document : Document) (node : Node) : Offer :=
  match document.scalar? node with
  | some scalar => scalar.offer
  | none => ⟨none, none⟩

/-- A key and what its value can be read as, if the key is a scalar. -/
def member? (document : Document) : Node × Node → Option (Text × Offer)
  | (key, value) => (document.scalar? key).map fun name => (name.text, document.offer value)

/-- The keys and values of the mapping that the document is. -/
def members? (document : Document) : Option (List (Text × Offer)) :=
  match document.root with
  | .mapping members => members.mapM document.member?
  | .scalar written => if written.style = .plain ∧ written.text.isEmpty then some [] else none
  | _ => none

end Document
end Yaml
end TextMacros
