import TextMacros.Files.Path
import TextMacros.Retrieval.Error
import TextMacros.Text.Blank

/-!
# Locators

A locator is a path or a URL. What stands before the first `://` is its scheme, when it has the form
of one: a letter, then letters, digits and the signs `+`, `-` and `.`. The schemes `http` and
`https`, in any case, lead to the network. The scheme `file` leads to a path, and a locator without
a scheme is a path. A relative path may be seen from a directory.
-/

namespace TextMacros
namespace Locator

/-- What separates a scheme from the rest of a URL. -/
def schemeMark : Text := "://".toList

/-- Whether a text has the form of a scheme. -/
def isScheme : Text → Bool
  | [] => false
  | first :: rest =>
    first.isAlpha ∧
      rest.all fun symbol => symbol.isAlphanum ∨ symbol = '+' ∨ symbol = '-' ∨ symbol = '.'

/-- Whether two texts are equal up to the case of ASCII letters. -/
def equalIgnoringCase (first second : Text) : Bool :=
  first.map Char.toLower = second.map Char.toLower

/-- Whether a locator leads to the network. White space around it is ignored. -/
def isNetwork (locator : Text) : Bool :=
  match locator.trim.splitOnce? schemeMark with
  | some (scheme, _) =>
    equalIgnoringCase scheme "http".toList ∨ equalIgnoringCase scheme "https".toList
  | none => false

/-- The path that a locator names. -/
def path (locator : Text) : Except RetrievalError Text :=
  if locator.isEmpty then
    .error (.invalidLocator locator .empty)
  else
    match locator.splitOnce? schemeMark with
    | some (scheme, rest) =>
      if scheme = "file".toList then
        if rest.isEmpty then .error (.invalidLocator locator .noPath) else .ok rest
      else if isScheme scheme then
        .error (.unsupportedScheme scheme)
      else
        plain locator
    | none => plain locator
where
  /-- A locator without a scheme. -/
  plain (locator : Text) : Except RetrievalError Text :=
    if "file:".toList.isPrefixOf locator then
      .error (.invalidLocator locator .noSlashes)
    else
      .ok locator

/-- The path that a locator names, seen from a directory when there is one. -/
def resolve (directory? : Option Text) (locator : Text) : Except RetrievalError Text :=
  (path locator).map fun path => (directory?.map (Path.join · path)).getD path

end Locator
end TextMacros
