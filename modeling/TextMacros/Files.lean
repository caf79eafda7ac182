import TextMacros.Files.Path
import TextMacros.Retrieval
import TextMacros.Text.Encoding

/-!
# Files

The files that a program can reach, as a value. Files and directories are known by the names that
lead to them from the root. A path is followed name by name, from the root when it is absolute and
from the working directory otherwise: each name but the last must lead to a directory, one dot stays
where it is, and two dots lead back.
-/

namespace TextMacros

/-- Names that lead from the root to a file or directory. -/
abbrev Route := List Text

/-- The reachable files and directories. -/
structure Files where
  /-- The directory where relative paths begin. -/
  workingDirectory : Route
  /-- The files with their contents. -/
  contents : List (Route × List UInt8)
  /-- Directories, besides the working directory and those that hold something. -/
  directories : List Route

/-- Where a path leads. -/
inductive Destination where
  /-- To a directory. -/
  | directory (route : Route)
  /-- To a file. -/
  | file (route : Route) (content : List UInt8)

namespace Files

/-- The content of a file. -/
def content? (files : Files) (route : Route) : Option (List UInt8) := files.contents.lookup route

/-- Whether names lead to a directory. -/
def isDirectory (files : Files) (route : Route) : Bool :=
  route.isPrefixOf files.workingDirectory ∨ files.directories.any route.isPrefixOf ∨
    files.contents.any fun (known, _) => route.isPrefixOf known ∧ route ≠ known

/-- Follows the names of a path from a directory. -/
def follow (files : Files) (route : Route) : List Text → Except AccessError Destination
  | [] => .ok (.directory route)
  | name :: rest =>
    if name.isEmpty ∨ name = ['.'] then
      files.follow route rest
    else if name = ['.', '.'] then
      files.follow route.dropLast rest
    else
      let next := route ++ [name]
      if files.isDirectory next then
        files.follow next rest
      else
        match files.content? next with
        | none => .error .notFound
        | some content => if rest.isEmpty then .ok (.file next content) else .error .notADirectory

/-- The directory where a path begins. -/
def origin (files : Files) (path : Text) : Route :=
  if Path.isAbsolute path then [] else files.workingDirectory

/-- Where a path leads. -/
def locate (files : Files) (path : Text) : Except AccessError Destination :=
  if path.contains '\x00' then .error .nullInPath
  else if path.isEmpty then .error .notFound
  else files.follow (files.origin path) (Path.names path)

/-- The content of the file that a path leads to. -/
def read (files : Files) (path : Text) : Except AccessError (List UInt8) :=
  match files.locate path with
  | .error error => .error error
  | .ok (.directory _) => .error .isADirectory
  | .ok (.file _ content) => .ok content

/-- The text in the file that a path leads to. -/
def readText (files : Files) (path : Text) : Except AccessError Text :=
  match files.read path with
  | .error error => .error error
  | .ok content =>
    match Text.ofBytes? content with
    | none => .error .invalidEncoding
    | some text => .ok text

/-- The files with a content for one of them, which is new or replaced. -/
def put (files : Files) (route : Route) (content : List UInt8) : Files :=
  { files with
    contents := (route, content) :: files.contents.filter fun (known, _) => known ≠ route }

/-- The files after a content is written where a path leads. The path must end in a name, and the
directory before the name must exist. -/
def write (files : Files) (path : Text) (content : List UInt8) : Except AccessError Files :=
  if path.contains '\x00' then
    .error .nullInPath
  else if path.isEmpty then
    .error .notFound
  else
    let names := Path.names path
    let named := (names.reverse.dropWhile List.isEmpty).reverse
    match named.getLast? with
    | none => .error .isADirectory
    | some name =>
      match files.follow (files.origin path) named.dropLast with
      | .error error => .error error
      | .ok (.file _ _) => .error .notADirectory
      | .ok (.directory route) =>
        if named.length < names.length ∨ name = ['.'] ∨ name = ['.', '.'] ∨
            files.isDirectory (route ++ [name]) then
          .error .isADirectory
        else
          .ok (files.put (route ++ [name]) content)

end Files

namespace Retriever

/-- The retriever that reads files, with relative paths taken from a directory. White space around a
locator is ignored. -/
def ofFiles (files : Files) (directory : Option Text) : Retriever where
  fetch locator :=
    let locator := locator.trim
    match Locator.resolve directory locator with
    | .error error => ⟨.error error, []⟩
    | .ok path =>
      let result := match files.readText path with
        | .ok text => .ok text
        | .error .notFound => .error (.notFound locator)
        | .error cause => .error (.unreadable locator cause)
      ⟨result, [.retrieving locator path]⟩

end Retriever
end TextMacros
