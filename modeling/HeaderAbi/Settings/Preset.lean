import HeaderAbi.Settings.Layer

/-!
# Presets

Named settings for common uses, and the layers that the settings in force are made of.
-/

namespace HeaderAbi

/-- A named choice of settings. -/
inductive Preset where
  /-- Fail on breaking changes. -/
  | balanced
  /-- Fail on any change of the interface, and pair functions by name. -/
  | strict
  /-- Report and never fail. -/
  | advisory
  /-- Feed a code scanning service; a first run has no reference. -/
  | ci
deriving DecidableEq, Inhabited

namespace Preset

def all : List Preset := [.balanced, .strict, .advisory, .ci]

def word : Preset → String
  | .balanced => "default"
  | .strict => "strict"
  | .advisory => "advisory"
  | .ci => "ci"

/-- Other words for a preset. -/
def aliases : Preset → List String
  | .balanced => ["balanced"]
  | .strict => ["release"]
  | .advisory => ["advice"]
  | .ci => ["ci-cd", "pipeline"]

def description : Preset → String
  | .balanced => "Fail on breaking changes, summary output"
  | .strict => "Fail on any ABI growth and pair changed signatures by name"
  | .advisory => "Report every change including informational ones, never fail"
  | .ci => "SARIF output for code scanning, first run without a reference passes"

/-- The preset that a word names, in upper or lower case. -/
def ofWord? (word : String) : Option Preset :=
  let w := Text.lowerAscii word
  all.find? fun p => p.word == w || p.aliases.contains w

def settings : Preset → Settings
  | .balanced => {}
  | .strict => { comparison := { matching := .byName }, behavior := { failOnExtension := true } }
  | .advisory => { output := { format := .markdown }, behavior := { adviceOnly := true } }
  | .ci =>
    { output := { format := .sarif, noColor := true },
      behavior := { allowMissingReference := true, quiet := true } }

end Preset

namespace Settings

/-- The layers in force, from the bottom up: a preset, a settings file and the command line. -/
def layered (preset : Option Preset) (file : Option Settings) (given : Settings) : Settings :=
  let base : Settings := (preset.map Preset.settings).getD {}
  (match file with
    | some f => base.overlay f
    | none => base).overlay given

end Settings

end HeaderAbi
