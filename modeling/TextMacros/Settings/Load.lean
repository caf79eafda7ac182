import TextMacros.Files
import TextMacros.Settings

/-!
# Settings files

Settings are loaded from a file in YAML or JSON. The extension of the file name decides: `yaml` and
`yml` mean YAML, anything else JSON. How a text in either format is read is left open: whatever
loads settings is given a reader for each format.
-/

namespace TextMacros

/-- Why settings could not be loaded. -/
inductive SettingsError where
  /-- The file cannot be read. -/
  | unreadable (path : Text) (cause : AccessError)
  /-- The file does not hold settings. -/
  | malformed (path : Text)
deriving DecidableEq

/-- The failure in words, followed by its cause. -/
def SettingsError.explain : SettingsError → String
  | .unreadable path cause => s!"could not read config file '{path.string}': {cause.describe}"
  | .malformed path => s!"invalid config file '{path.string}'"

/-- The readers of the formats in which settings are written. A text that is not in the format, or
does not hold settings, has none. -/
structure SettingsFormats where
  /-- The settings that a text in JSON chooses. -/
  json? : Text → Option Settings
  /-- The settings that a text in YAML chooses. -/
  yaml? : Text → Option Settings

namespace SettingsFormats

/-- The settings that the text of a file chooses. -/
def parse? (formats : SettingsFormats) (path text : Text) : Option Settings :=
  match (Path.extension? path).map Text.string with
  | some "yaml" | some "yml" => formats.yaml? text
  | _ => formats.json? text

/-- Loads the settings from a file. -/
def load (formats : SettingsFormats) (files : Files) (path : Text) :
    Observed (Except SettingsError Settings) :=
  match files.readText path with
  | .error cause => ⟨.error (.unreadable path cause), []⟩
  | .ok text =>
    match formats.parse? path text with
    | none => ⟨.error (.malformed path), []⟩
    | some settings => ⟨.ok settings, [.settingsLoaded path settings]⟩

end SettingsFormats
end TextMacros
