import TextMacros.Text.Blank

/-!
# Names

A macro is called by the words of its name. How the words are spaced does not matter, so each name
has one canonical spelling: its words separated by single spaces. A text without words is no name.
-/

namespace TextMacros
namespace Name

/-- The words of a name as it was written. -/
def words (written : Text) : List Text := written.wordsBy isNameBlank

/-- The canonical spelling of a name, unless it has no words. -/
def canonical? (written : Text) : Option Text :=
  if (words written).isEmpty then none else some (Text.join [' '] (words written))

/-- A text has no canonical spelling exactly when it has no words. -/
theorem canonical?_eq_none {written : Text} : canonical? written = none ↔ words written = [] := by
  simp [canonical?]

end Name
end TextMacros
