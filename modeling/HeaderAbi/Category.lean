/-!
# Categories

The four kinds of entity a snapshot holds, in the order in which reports list them.
-/

namespace HeaderAbi

/-- The category of an entity. -/
inductive Category where
  | records
  | enums
  | functions
  | globals
deriving DecidableEq, Inhabited

namespace Category

/-- Every category, in report order. -/
def all : List Category := [.records, .enums, .functions, .globals]

/-- The plural key of structured output. -/
def key : Category → String
  | .records => "records"
  | .enums => "enums"
  | .functions => "functions"
  | .globals => "global_vars"

/-- The heading of a report section. -/
def title : Category → String
  | .records => "Records"
  | .enums => "Enums"
  | .functions => "Functions"
  | .globals => "Global variables"

/-- The singular noun of messages. -/
def noun : Category → String
  | .records => "record"
  | .enums => "enum"
  | .functions => "function"
  | .globals => "global variable"

/-- Position in report order. -/
def rank : Category → Nat
  | .records => 0
  | .enums => 1
  | .functions => 2
  | .globals => 3

def ofKey? (key : String) : Option Category :=
  all.find? (·.key == key)

end Category

end HeaderAbi
