import HeaderAbi.Yaml.Place

/-!
# The words of YAML

The words that a YAML text is cut into.  Block collections have no brackets of their own; the lexer
writes `openItems`, `openEntries` and `close` where the indentation grows and shrinks.
-/

namespace HeaderAbi.Yaml

/-- A word of a YAML text. -/
inductive Token where
  /-- `%YAML` with a version. -/
  | version (major minor : Nat)
  /-- `%TAG` with a handle and what it stands for. -/
  | tagHandle (handle expansion : String)
  | documentStart
  | documentEnd
  /-- A list starts, one item a dash. -/
  | openItems
  /-- A map starts, one entry a line. -/
  | openEntries
  /-- The indentation shrinks below that of a list or map. -/
  | close
  | openBracket
  | closeBracket
  | openBrace
  | closeBrace
  | comma
  | dash
  /-- What follows is a key. -/
  | key
  /-- What follows is the value of a key. -/
  | value
  | alias (name : String)
  | anchor (name : String)
  | tag (handle suffix : String)
  /-- A scalar; `isPlain` when it is written without quotes and not as a block. -/
  | scalar (text : String) (isPlain : Bool)
deriving DecidableEq, Inhabited

end HeaderAbi.Yaml
