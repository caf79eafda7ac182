import TextMacros.Text.Blank
import TextMacros.Token.Fault

/-!
# Written forms

The texts that stand for tokens, parameter lists, signatures and definitions, said without a reader.
A token or a name chooses its own delimiter, so a delimiter may be any character, a blank, a comma,
a parenthesis or the introducer included; the conditions below are all that keeps these uses apart.
Each form relates a value to a text that spells it; one value has many spellings.
-/

namespace TextMacros
namespace Token

/-- Ignorable blanks, perhaps none. -/
def Gap (text : Text) : Prop := ∀ symbol ∈ text, isIgnorable symbol = true

instance (text : Text) : Decidable (Gap text) :=
  List.decidableBAll (isIgnorable · = true) text

/-- The spellings of a token: the introducer, a delimiter, the content, the delimiter and the
introducer. The content does not hold the delimiter. -/
inductive TokenForm (content : Text) : Text → Prop
  /-- A token with the delimiter of its choice. -/
  | delimited (delimiter : Char) (outside : delimiter ∉ content) :
    TokenForm content ([introducer, delimiter] ++ content ++ [delimiter, introducer])

/-- The spellings of a parameter list behind its opening parenthesis, the closing one included.
There is at least one parameter. -/
inductive ListForm : List Text → Text → Prop
  /-- The last parameter and the closing parenthesis. -/
  | last {parameter token before after : Text} (gapBefore : Gap before)
    (written : TokenForm parameter token) (gapAfter : Gap after) :
    ListForm [parameter] (before ++ token ++ after ++ [')'])
  /-- A parameter, a comma and the others. -/
  | more {parameter token before after others : Text} {parameters : List Text}
    (gapBefore : Gap before) (written : TokenForm parameter token) (gapAfter : Gap after)
    (rest : ListForm parameters others) :
    ListForm (parameter :: parameters) (before ++ token ++ after ++ [','] ++ others)

/-- The spellings of a name with its parameters, from its first delimiter to the last introducer. -/
inductive SignatureForm (name : Text) : List Text → Text → Prop
  /-- A name without parameters. -/
  | plain (delimiter : Char) (allowed : delimiter ≠ '(') (outside : delimiter ∉ name)
    (closed : '(' ∉ name) :
    SignatureForm name [] ([delimiter] ++ name ++ [delimiter, introducer])
  /-- A name with a parameter list. The blanks behind the list do not hold the delimiter, which may
  be a blank itself. -/
  | list (delimiter : Char) {parameters : List Text} {list gap : Text} (allowed : delimiter ≠ '(')
    (outside : delimiter ∉ name) (closed : '(' ∉ name) (written : ListForm parameters list)
    (blank : Gap gap) (beyond : delimiter ∉ gap) :
    SignatureForm name parameters
      ([delimiter] ++ name ++ ['('] ++ list ++ gap ++ [delimiter, introducer])

/-- The spellings of a definition: an introducer and a signature, an equals sign and the token of
the body, with blanks around each. -/
inductive DefinitionForm (name : Text) (parameters : List Text) (body : Text) : Text → Prop
  /-- A definition is the whole text. -/
  | whole {first second third fourth signature token : Text} (gapFirst : Gap first)
    (head : SignatureForm name parameters signature) (gapSecond : Gap second) (gapThird : Gap third)
    (written : TokenForm body token) (gapFourth : Gap fourth) :
    DefinitionForm name parameters body
      (first ++ [introducer] ++ signature ++ second ++ ['='] ++ third ++ token ++ fourth)

end Token
end TextMacros
