import TextMacros.Macro
import TextMacros.Failure
import TextMacros.Name
import TextMacros.Token.Reader

/-!
# Definitions

A definition is a signature, an equals sign and a token that holds the body, with ignorable blanks
around them. The signature is an introducer and then the form of an invocation: a name in a
delimiter of its choice, with the formal parameters in a list. The formal parameters must differ
from each other. The body is taken as it is written.
-/

namespace TextMacros

namespace Token

/-- Reads the name, the formal parameters and the body of a definition, which must be the whole
text. -/
def readDefinition : Reader (Text × List Text × Text) := do
  let _ ← expectSymbol introducer
  let (name, parameters) ← readSignature
  let _ ← expectSymbol '='
  let body ← readToken
  expectOnlyIgnorable
  return (name, parameters, body)

end Token

/-- The first text in a list that occurs before, in the list or among those seen already. -/
def firstRepeatedAfter? (seen : List Text) : List Text → Option Text
  | [] => none
  | text :: rest => if text ∈ seen then some text else firstRepeatedAfter? (text :: seen) rest

/-- The first text in a list that occurs before. -/
def firstRepeated? (texts : List Text) : Option Text := firstRepeatedAfter? [] texts

theorem firstRepeatedAfter?_eq_none {seen texts : List Text} :
    firstRepeatedAfter? seen texts = none ↔ texts.Nodup ∧ ∀ text ∈ texts, text ∉ seen := by
  induction texts generalizing seen with
  | nil => simp [firstRepeatedAfter?]
  | cons text rest hypothesis =>
    unfold firstRepeatedAfter?
    split
    · rename_i found
      simp [found]
    · rename_i new
      rw [hypothesis, List.nodup_cons]
      grind

/-- No text is repeated exactly when all are different. -/
theorem firstRepeated?_eq_none {texts : List Text} : firstRepeated? texts = none ↔ texts.Nodup := by
  simp [firstRepeated?, firstRepeatedAfter?_eq_none]

/-- Reads the macro that a fragment defines. -/
def Macro.ofDefinition (fragment : Fragment) : Except Failure Macro :=
  let failed (fault : DefinitionFault) (span : Span) : Failure :=
    ⟨.malformedDefinition fault, fragment, span⟩
  let whole := Span.between 0 fragment.text.size
  match Token.readDefinition (Token.Cursor.start fragment.text) with
  | .error fault _ =>
    .error (failed (.token fault.problem) (Span.ofSymbolAt fragment.text fault.offset))
  | .ok (written, parameters, body) _ =>
    match Name.canonical? written with
    | none => .error (failed .emptyName whole)
    | some name =>
      match firstRepeated? parameters with
      | some parameter => .error (failed (.repeatedParameter parameter name) whole)
      | none => .ok ⟨name, parameters, body⟩

end TextMacros
