import TextMacros.Settings.Yaml.Symbol

/-!
# Places and gaps in a YAML text

The meaning of a YAML text depends on where its lines break and how far they are indented. A place
counts lines, the characters before it on its line, and all bytes before it. A gap is a run of
blanks and breaks. Within a scalar a gap is folded: a single line feed becomes a blank, further
breaks are kept, and the blanks around breaks are dropped.
-/

namespace TextMacros
namespace Yaml

/-- A place in a text. -/
structure Place where
  /-- Breaks before the place. -/
  line : Nat
  /-- Characters between the last break and the place. -/
  column : Nat
  /-- Bytes before the place. -/
  offset : Nat

namespace Place

/-- The place in front of a text. -/
def start : Place := ⟨0, 0, 0⟩

/-- The place behind a piece of text that begins at a place. -/
def behind (place : Place) : Text → Place
  | [] => place
  | '\r' :: '\n' :: rest => behind ⟨place.line + 1, 0, place.offset + 2⟩ rest
  | symbol :: rest =>
    let offset := place.offset + symbol.utf8Size
    if isBreak symbol then behind ⟨place.line + 1, 0, offset⟩ rest
    else behind ⟨place.line, place.column + 1, offset⟩ rest

end Place

/-- A run of blanks and breaks. -/
structure Gap where
  /-- The blanks before the first break. -/
  blanks : Text
  /-- What the breaks stand for. -/
  breaks : Text
  /-- The blanks behind each break. -/
  margins : List Text

namespace Gap

/-- A gap with one more break in front. -/
def breakBefore (meaning : Char) (gap : Gap) : Gap :=
  ⟨[], meaning :: gap.breaks, gap.blanks :: gap.margins⟩

/-- The gap that blanks and breaks make. -/
def ofText : Text → Gap
  | [] => ⟨[], [], []⟩
  | '\r' :: '\n' :: rest => (ofText rest).breakBefore '\n'
  | symbol :: rest =>
    let gap := ofText rest
    if isBreak symbol then gap.breakBefore (breakMeaning symbol)
    else { gap with blanks := symbol :: gap.blanks }

/-- What a gap stands for between two words of a scalar. -/
def folded (gap : Gap) : Text :=
  match gap.breaks with
  | [] => gap.blanks
  | ['\n'] => [' ']
  | '\n' :: rest => rest
  | breaks => breaks

/-- The column behind a gap with breaks. -/
def column? (gap : Gap) : Option Nat := gap.margins.getLast?.map List.length

/-- Whether a tab stands where a line must be indented by blanks of one column. -/
def hasTabWithin (indent : Nat) (gap : Gap) : Bool :=
  gap.margins.any fun margin => (margin.take indent).contains '\t'

end Gap
end Yaml
end TextMacros
