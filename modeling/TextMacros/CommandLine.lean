import TextMacros.CommandLine.Run
import TextMacros.Settings.Formats

/-!
# The program

The program as it is run: its settings are written in JSON or YAML.
-/

namespace TextMacros
namespace CommandLine

/-- Performs the action of a command line, with settings in JSON or YAML. -/
def execute (surroundings : Surroundings) (arguments : Arguments) : Run :=
  run .standard surroundings arguments

end CommandLine
end TextMacros
