import TextMacros.CommandLine.Run

/-!
# Demanded files

A run of the program depends on files, but only on those whose paths it follows. These are the paths
of its command line, the paths in the commands that its editor may read, and the paths of the
locators that it retrieves, which its journal tells. Whoever supplies the files can therefore begin
with none, run the program, add what the run demanded, and run it again, until nothing new is
demanded.
-/

namespace TextMacros
namespace CommandLine

/-- The paths that an action follows, except for retrieved locators. -/
def Action.paths (input : List UInt8) : Action → List Text
  | .expand inputs output? _ => inputs ++ output?.toList
  | .editor =>
    (encodedLines input).filterMap fun encoded =>
      match (Text.ofBytes? encoded).bind Command.parse? with
      | some (.openFile path) | some (.saveFile path) => some path
      | _ => none
  | .primitives => []

/-- The paths of the locators that were retrieved. -/
def retrievedPaths (journal : Journal) : List Text :=
  journal.toList.filterMap fun
    | .retrieving _ path => some path
    | _ => none

/-- The paths that a run followed. -/
def demandedPaths (surroundings : Surroundings) (arguments : Arguments) (run : Run) : List Text :=
  arguments.config?.toList ++ arguments.action.paths surroundings.input ++
    retrievedPaths run.journal

/-- The names that a path leads through, as if every one of them were a directory. -/
def routeOf (workingDirectory : Route) (path : Text) : Route :=
  (Path.names path).foldl
    (fun route name =>
      if name.isEmpty ∨ name = ['.'] then route
      else if name = ['.', '.'] then route.dropLast
      else route ++ [name])
    (if Path.isAbsolute path then [] else workingDirectory)

/-- The absolute path of a route. -/
def pathOf (route : Route) : Text := '/' :: Text.join ['/'] route

/-- The files that are new or have a new content. -/
def changes (before after : Files) : List (Route × List UInt8) :=
  after.contents.filter fun (route, content) => before.content? route ≠ some content

end CommandLine
end TextMacros
