import HeaderAbi.Settings.File

/-!
# Example settings files

Two texts to start a settings file from: the usual settings as they are written, and the same
settings with a comment on every field.
-/

namespace HeaderAbi.Settings

/-- The usual settings under a short comment. -/
def exampleText : String :=
  "# abi-tools configuration\n" ++
  "# Place this file at .abi-tools.yaml in your project root or ~/.config/abi-tools/\n\n" ++
  render {}

/-- The lines of the commented example. -/
def commentedLines : List String := [
  "# abi-tools Configuration File",
  "# =============================",
  "#",
  "# This file configures abi-tools behavior. Place it at:",
  "#   - .abi-tools.yaml in your project root",
  "#   - ~/.config/abi-tools/abi-tools.yaml for global config",
  "#",
  "# CLI arguments always override file settings.",
  "",
  "# Diff engine configuration",
  "diff:",
  "  # Function matching: by-uid, by-name",
  "  # by-name pairs a removed and an added function sharing a unique name",
  "  function_matching: by-uid",
  "  # Compare categories concurrently",
  "  parallel: true",
  "  # Regular expressions on UIDs; matching entries are dropped",
  "  ignore_patterns: []",
  "  # ignore_patterns:",
  "  #   - '^detail::'",
  "",
  "# Output configuration",
  "output:",
  "  # Format: summary, json, sarif, markdown, table, csv",
  "  format: summary",
  "  # Output file path (omit for stdout)",
  "  # file: abi-report.json",
  "  # Disable colored output",
  "  no_color: false",
  "  # title: libfoo ABI report",
  "",
  "# Filtering options (the verdict always counts every change)",
  "filtering:",
  "  # Minimum impact shown: informational, non_breaking, breaking",
  "  min_impact: informational",
  "  # Maximum entries shown per category and impact",
  "  # max_items: 50",
  "",
  "# Behavior flags",
  "behavior:",
  "  # Exit with code 2 when the ABI only grew",
  "  fail_on_extension: false",
  "  # Report only; exit 0 regardless of the verdict",
  "  advice_only: false",
  "  # Treat a missing reference dump as an empty ABI",
  "  allow_missing_reference: false",
  "  # Suppress non-essential output",
  "  quiet: false",
  "",
  "# Dump writing",
  "dump:",
  "  # Format when the output extension is not recognized: json, yaml, binary",
  "  format: json",
  "  # Pretty-print JSON dumps",
  "  pretty: true",
  "  # Extract header units in parallel",
  "  parallel: true"]

/-- The usual settings with a comment on every field. -/
def commentedText : String := String.join (commentedLines.map (· ++ "\n"))

end HeaderAbi.Settings
