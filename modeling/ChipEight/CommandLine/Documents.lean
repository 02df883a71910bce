/-
# Documents of the command line

Configurations and key maps are written in YAML.
-/
import ChipEight.CommandLine.Session
import ChipEight.Config.Reading
import ChipEight.KeyMap.Reading

namespace ChipEight.CommandLine

/-- Documents are understood as YAML. -/
def Parsers.yaml : Parsers where
  config bytes := (Config.ofBytes bytes).mapError Yaml.Error.message
  keymap bytes := (KeyMap.definitionsOfBytes bytes).mapError Yaml.Error.message

end ChipEight.CommandLine
