import HeaderAbi.Host.Basic
import HeaderAbi.FilePath
import HeaderAbi.Settings.File
import HeaderAbi.Settings.Layer

/-!
# Finding settings

Settings files are looked for in the working directory, in the nearest directory above it that holds
a repository, in the user's directory for settings, and in the home directory.  A file that the user
names is taken instead.
-/

namespace HeaderAbi.Settings

variable {m : Type → Type} [Monad m] [Host m]

/-- The first of some directories or paths for which a question is answered with yes. -/
def firstWhere (question : String → m Bool) : List String → m (Option String)
  | [] => return none
  | p :: ps => do if ← question p then return some p else firstWhere question ps

/-- The settings file in a directory. -/
def fileIn? (directory : String) : m (Option String) :=
  firstWhere Host.isFile (fileNames.map (FilePath.join directory))

/-- The settings file in the first of some directories that has one. -/
def fileAmong? : List String → m (Option String)
  | [] => return none
  | d :: ds => do
    match ← fileIn? d with
    | some path => return some path
    | none => fileAmong? ds

/-- The directory of the repository that a directory lies in. -/
def repository? (directory : String) : m (Option String) :=
  firstWhere (fun d => Host.isPresent (FilePath.join d ".git")) (FilePath.ancestors directory)

/-- The settings file to use: the one that the user names, else the first that is found. -/
def discover (named : Option String) : m (Option String) := do
  if named.isSome then return named
  let here ← Host.workingDirectory
  let repository ← repository? here
  let ofUser := (← Host.settingsDirectory).map (FilePath.join · "abi-tools")
  fileAmong? ([here] ++ repository.toList ++ ofUser.toList ++ (← Host.homeDirectory).toList)

/-- The settings that a file holds. -/
def load (path : String) : m (Except SettingsFault Settings) := do
  if !(← Host.isPresent path) then return .error (.notFound path)
  match ← Host.readFile path with
  | .error fault => return .error (.unreadable fault.reason)
  | .ok bytes =>
    match String.fromUTF8? bytes with
    | none => return .error (.unreadable "stream did not contain valid UTF-8")
    | some text => return parse text

/-- The settings of the settings file to use, if there is one that can be used. -/
def loadAny (named : Option String) : m (Option Settings) := do
  match ← discover named with
  | none => return none
  | some path => return (← load path).toOption

/-- The settings of the settings file under some overriding ones, and whether a file was used. -/
def loadUnder (named : Option String) (above : Settings) : m (Settings × Bool) := do
  let file ← loadAny named
  return ((file.getD {}).overlay above, file.isSome)

end HeaderAbi.Settings
