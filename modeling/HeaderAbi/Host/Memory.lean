import HeaderAbi.Host.Basic

/-!
# A machine in memory

`Machine` is a machine whose state is a value: files by their places, and what was printed.  A
command that runs on it is a function from machines to machines.

The place of a path is the list of its components, from the root; `.` and empty components go away,
`..` takes one away.  A directory is there if it was put there or if a file lies in it.
-/

namespace HeaderAbi

/-- The components of a path from the root. -/
abbrev Place := List String

/-- A machine in memory. -/
structure Machine where
  files : List (Place × ByteArray) := []
  directories : List Place := []
  workingDirectory : String := "/"
  home : Option String := none
  environment : List (String × String) := []
  time : String := ""
  measure : Measure := .uniform
  printed : ByteArray := ByteArray.empty
  /-- The lines on standard error, first line first. -/
  notes : List String := []

namespace Machine

/-- The place reached from another one, the components last first. -/
def walk (place : Place) (component : String) : Place :=
  if component.isEmpty || component == "." then place
  else if component == ".." then place.drop 1
  else component :: place

/-- The place of a path. -/
def place (machine : Machine) (path : String) : Place :=
  let components (p : String) : List String := p.splitOn "/"
  let start := if path.startsWith "/" then [] else components machine.workingDirectory
  ((start ++ components path).foldl walk []).reverse

/-- The path can only lead to a directory. -/
def endsInDirectory (path : String) : Bool :=
  path.endsWith "/" || path.endsWith "/." || path.endsWith "/.." || path == "." || path == ".."

def content? (machine : Machine) (place : Place) : Option ByteArray :=
  (machine.files.find? (·.1 == place)).map (·.2)

def hasDirectory (machine : Machine) (place : Place) : Bool :=
  place.isEmpty || machine.directories.any (place.isPrefixOf ·) ||
    machine.files.any fun (p, _) => place.isPrefixOf p && place != p

def noSuchFile : FileFault := ⟨"No such file or directory (os error 2)", true⟩

def notADirectory : FileFault := ⟨"Not a directory (os error 20)", false⟩

def isADirectory : FileFault := ⟨"Is a directory (os error 21)", false⟩

/-- A path to this place goes through a file. -/
def passesFile (machine : Machine) (place : Place) : Bool :=
  (List.range place.length).any fun n => (machine.content? (place.take n)).isSome

def read (machine : Machine) (path : String) : Except FileFault ByteArray :=
  let place := machine.place path
  if path.isEmpty then .error noSuchFile
  else match machine.content? place with
    | some bytes => if endsInDirectory path then .error notADirectory else .ok bytes
    | none =>
      if machine.hasDirectory place then .error isADirectory
      else if machine.passesFile place then .error notADirectory
      else .error noSuchFile

def isPresent (machine : Machine) (path : String) : Bool :=
  match machine.read path with
  | .ok _ => true
  | .error fault => fault == isADirectory

def isFile (machine : Machine) (path : String) : Bool :=
  match machine.read path with
  | .ok _ => true
  | .error _ => false

def write (machine : Machine) (path : String) (bytes : ByteArray) : Except FileFault Machine :=
  let place := machine.place path
  if path.isEmpty then .error noSuchFile
  else if machine.passesFile place then .error notADirectory
  else if !machine.hasDirectory place.dropLast then .error noSuchFile
  else if machine.hasDirectory place then .error isADirectory
  else if endsInDirectory path then
    .error (if (machine.content? place).isSome then notADirectory else isADirectory)
  else .ok { machine with files := (place, bytes) :: machine.files.filter (·.1 != place) }

instance : Host (StateM Machine) where
  readFile path := fun machine => (machine.read path, machine)
  writeFile path bytes := fun machine => match machine.write path bytes with
    | .ok written => (.ok (), written)
    | .error fault => (.error fault, machine)
  isPresent path := fun machine => (machine.isPresent path, machine)
  isFile path := fun machine => (machine.isFile path, machine)
  workingDirectory := fun machine => (machine.workingDirectory, machine)
  homeDirectory := fun machine => (machine.home, machine)
  settingsDirectory := fun machine => (machine.home.map (· ++ "/.config"), machine)
  environment? name := fun machine => ((machine.environment.find? (·.1 == name)).map (·.2), machine)
  time := fun machine => (machine.time, machine)
  isTerminal := fun machine => (false, machine)
  measure := fun machine => (machine.measure, machine)
  print bytes := fun machine => ((), { machine with printed := machine.printed ++ bytes })
  note line := fun machine => ((), { machine with notes := machine.notes ++ [line] })

end Machine

end HeaderAbi
