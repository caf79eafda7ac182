import TextMacros.Settings

/-!
# Choices

A settings file chooses some of the settings by their keys and leaves the others at their defaults.
Each value in the file is offered with the ways in which it can be read; a choice takes the one that
its key needs. Keys that belong to no setting are ignored, and no setting is chosen twice.
-/

namespace TextMacros

/-- A value of a settings file and what it can be read as. -/
structure Offer where
  /-- The natural number, if it is one. -/
  natural? : Option Nat
  /-- The text, if it is one. -/
  text? : Option Text

/-- The settings that are chosen so far. -/
structure Choice where
  /-- How many fragments may be nested. -/
  maxDepth? : Option Nat
  /-- The label of the document. -/
  sourceName? : Option Text
  /-- What a page break expands to. -/
  pageMarker? : Option Text

namespace Choice

/-- Nothing is chosen. -/
def initial : Choice := ⟨none, none, none⟩

/-- The keys of the settings, in their order. -/
def keys : List Text := ["max_depth".toList, "source_name".toList, "page_marker".toList]

/-- A value for a setting that is not chosen yet. -/
def once {α : Type} (chosen? offered? : Option α) : Option α :=
  if chosen?.isSome then none else offered?

/-- Adds the choice of a key, unless the value does not fit or the setting is chosen already. -/
def add? (choice : Choice) (key : Text) (offer : Offer) : Option Choice :=
  match key.string with
  | "max_depth" =>
    (once choice.maxDepth? (offer.natural?.filter (· < Settings.depthBound))).map fun number =>
      { choice with maxDepth? := number }
  | "source_name" =>
    (once choice.sourceName? offer.text?).map fun text => { choice with sourceName? := text }
  | "page_marker" =>
    (once choice.pageMarker? offer.text?).map fun text => { choice with pageMarker? := text }
  | _ => some choice

/-- The settings, with defaults for what is not chosen. -/
def settings (choice : Choice) : Settings where
  maxDepth := choice.maxDepth?.getD Settings.default.maxDepth
  sourceName := choice.sourceName?.getD Settings.default.sourceName
  pageMarker := choice.pageMarker?.getD Settings.default.pageMarker

/-- The settings that a list of keys and values chooses. -/
def settingsOf? (members : List (Text × Offer)) : Option Settings :=
  (members.foldlM (fun (choice : Choice) (key, offer) => choice.add? key offer) initial).map
    settings

end Choice
end TextMacros
