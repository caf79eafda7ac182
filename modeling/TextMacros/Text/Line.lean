import TextMacros.Text.Blank

/-!
# Lines

A line end is a line feed, with or without a carriage return before it. `Text.lines` takes a stored
text apart: every line feed ends a line, and what follows the last one is a line of its own only
when it is not empty. `Text.trimLineEnd` takes the end off a line as it was typed, where any run of
line end characters counts.
-/

namespace TextMacros
namespace Text

/-- A line without the carriage return that belonged to its line feed. -/
def dropCarriageReturn (line : Text) : Text :=
  if line.getLast? = some '\r' then line.dropLast else line

/-- The lines of a stored text. -/
def lines (text : Text) : List Text :=
  let parts := text.splitOn '\n'
  let remainder := parts.getLast?.getD []
  parts.dropLast.map dropCarriageReturn ++ if remainder.isEmpty then [] else [remainder]

/-- A typed line without the line end characters behind it. -/
def trimLineEnd (line : Text) : Text :=
  trimEndBy (fun symbol => symbol = '\n' ∨ symbol = '\r') line

/-- Lines joined by line feeds, with none behind the last. -/
def ofLines (lines : List Text) : Text := join ['\n'] lines

end Text
end TextMacros
