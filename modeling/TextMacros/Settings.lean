import TextMacros.Text.Quoted

/-!
# Settings

The settings of an expansion. Whatever a user leaves out has a default.
-/

namespace TextMacros

/-- The settings of an expansion. -/
structure Settings where
  /-- How many fragments may be nested. -/
  maxDepth : Nat
  /-- The label of the document in diagnostics. -/
  sourceName : Text
  /-- What a page break expands to. -/
  pageMarker : Text
deriving DecidableEq

namespace Settings

/-- The first number that is too large for a limit of nesting, 2^64. -/
def depthBound : Nat := 18446744073709551616

/-- The settings when nothing is chosen. -/
def default : Settings := ⟨500, "input".toList, "<NEW PAGE BODY>".toList⟩

instance : Inhabited Settings := ⟨default⟩

/-- The settings as the journal shows them. -/
def describe (settings : Settings) : String :=
  s!"EngineConfig \x7b max_depth: {settings.maxDepth}, " ++
    s!"source_name: {settings.sourceName.quoted.string}, " ++
    s!"page_marker: {settings.pageMarker.quoted.string} \x7d"

end Settings
end TextMacros
