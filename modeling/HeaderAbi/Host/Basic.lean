import HeaderAbi.Text.Measure

/-!
# The machine that a command runs on

A command reads and writes files, prints, and asks for the time, for its environment and for the
width of texts.  `Host` is what it needs of the machine for that.  Commands are written for any host,
so that the same command runs on a real machine and on one in memory.
-/

namespace HeaderAbi

/-- Why a file cannot be read or written. -/
structure FileFault where
  reason : String
  /-- The file, or the directory it is to lie in, is not there. -/
  notFound : Bool := false
deriving DecidableEq, Inhabited

/-- What a command needs of the machine it runs on. -/
class Host (m : Type → Type) where
  readFile : String → m (Except FileFault ByteArray)
  /-- Write a file, in the place of what was there. -/
  writeFile : String → ByteArray → m (Except FileFault Unit)
  /-- The path leads to a file or a directory. -/
  isPresent : String → m Bool
  /-- The path leads to a file. -/
  isFile : String → m Bool
  /-- The absolute path of the directory that relative paths start from. -/
  workingDirectory : m String
  /-- The home directory of the user. -/
  homeDirectory : m (Option String)
  /-- The directory in which programs keep settings of the user. -/
  settingsDirectory : m (Option String)
  /-- A variable of the environment. -/
  environment? : String → m (Option String)
  /-- The present time, as it stands in reports. -/
  time : m String
  /-- Standard output is a terminal. -/
  isTerminal : m Bool
  /-- How wide texts are on a terminal. -/
  measure : m Measure
  /-- Write to standard output. -/
  print : ByteArray → m Unit
  /-- Write a line to standard error. -/
  note : String → m Unit

namespace Host

variable {m : Type → Type} [Monad m] [Host m]

/-- Print a text and end the line. -/
def printLine (text : String) : m Unit := print (text ++ "\n").toUTF8

/-- The paths that lead somewhere. -/
def presentAmong (paths : List String) : m (List String) := do
  let found ← paths.mapM fun p => do return (p, ← isPresent p)
  return (found.filter (·.2)).map (·.1)

end Host

end HeaderAbi
