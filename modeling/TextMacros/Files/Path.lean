import TextMacros.Text

/-!
# Paths

A path is a text in which slashes separate names. A path that begins with a slash is absolute; any
other path is relative to a directory and can be joined to one.
-/

namespace TextMacros
namespace Path

/-- The names between the slashes of a path, empty ones included. -/
def names (path : Text) : List Text := path.splitOn '/'

/-- Whether a path begins at the root rather than at some directory. -/
def isAbsolute (path : Text) : Bool := path.head? = some '/'

/-- A relative path as seen from outside its directory; an absolute path stays what it is. -/
def join (directory path : Text) : Text :=
  if isAbsolute path then path
  else if directory.isEmpty ∨ directory.getLast? = some '/' then directory ++ path
  else directory ++ '/' :: path

/-- The name of the file that a path leads to, if the path ends in a name. -/
def fileName? (path : Text) : Option Text :=
  match ((names path).filter fun name => !name.isEmpty ∧ name ≠ ['.']).getLast? with
  | none => none
  | some name => if name = ['.', '.'] then none else some name

/-- The part of a file name behind its last dot. A dot in front of the name does not count. -/
def extension? (path : Text) : Option Text :=
  match fileName? path with
  | none => none
  | some name =>
    let reversed := name.reverse
    let extension := reversed.takeWhile (· ≠ '.')
    match reversed.dropWhile (· ≠ '.') with
    | _ :: _ :: _ => some extension.reverse
    | _ => none

end Path
end TextMacros
