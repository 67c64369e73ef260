import HeaderAbi.Settings.Form
import HeaderAbi.Yaml.Printer
import HeaderAbi.Yaml.Reader

/-!
# Settings as texts

Settings are kept in YAML files.  A text without anything but white space holds the usual settings.
-/

namespace HeaderAbi

/-- Why a settings file cannot be used. -/
inductive SettingsFault where
  | notFound (path : String)
  | unreadable (reason : String)
  /-- The text is no YAML, or does not describe settings. -/
  | malformed
deriving DecidableEq, Inhabited

namespace SettingsFault

def message : SettingsFault → String
  | .notFound path => "Config file not found: " ++ path
  | .unreadable reason => "Failed to read config file: " ++ reason
  | .malformed => "Failed to parse config file: "

end SettingsFault

namespace Settings

/-- The settings that a text describes. -/
def parse (text : String) : Except SettingsFault Settings :=
  if text.toList.all Text.isBlank then .ok {}
  else match (Yaml.parse? text).bind ofData? with
    | some s => .ok s
    | none => .error .malformed

/-- The text that describes settings. -/
def render (s : Settings) : String := Yaml.render s.toData

/-- The names under which a directory holds settings, in the order in which they are looked for. -/
def fileNames : List String :=
  [".abi-tools.yaml", ".abi-tools.yml", "abi-tools.yaml", "abi-tools.yml"]

end Settings

end HeaderAbi
