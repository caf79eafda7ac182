import TextMacros.Settings.Load
import TextMacros.Settings.Yaml

/-!
# Settings in JSON and YAML

The two formats in which settings are written. A JSON object chooses settings by their keys, and a
JSON array by their order; a YAML document chooses them by the keys of its mapping.
-/

namespace TextMacros
namespace Settings

/-- What a JSON value can be read as. -/
def offerOfJson : Json → Offer
  | .number natural? => ⟨natural?, none⟩
  | .string text? => ⟨none, text?⟩
  | _ => ⟨none, none⟩

/-- The settings that a JSON value chooses. -/
def ofJson? : Json → Option Settings
  | .object members => do
    let named ← members.mapM fun (key?, value) => key?.map fun key => (key, offerOfJson value)
    Choice.settingsOf? named
  | .array items =>
    if items.length ≤ Choice.keys.length then
      Choice.settingsOf? (Choice.keys.zip (items.map offerOfJson))
    else
      none
  | _ => none

/-- The settings that a text in JSON chooses. -/
def ofJsonText? (text : Text) : Option Settings := (Json.ofText? text).bind ofJson?

/-- The settings that a text in YAML chooses. -/
def ofYamlText? (text : Text) : Option Settings := do
  Choice.settingsOf? (← (← Yaml.Document.ofText? text).members?)

end Settings

/-- The readers of JSON and YAML. -/
def SettingsFormats.standard : SettingsFormats := ⟨Settings.ofJsonText?, Settings.ofYamlText?⟩

/-- Loads the settings from a file in JSON or YAML. -/
def Settings.load (files : Files) (path : Text) : Observed (Except SettingsError Settings) :=
  SettingsFormats.standard.load files path

end TextMacros
