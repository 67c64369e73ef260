import HeaderAbi.Text.Blank

/-!
# Paths

The parts of a slash-separated path that the program looks at: its last component, that component's
extension, and the path of the directory it lies in.  Doubled slashes, a `.` in the middle and
slashes at the end make no difference.
-/

namespace HeaderAbi.FilePath

/-- A reversed path without slashes and `/.` at its end.  The root keeps its slash. -/
def dropTrailing : List Char → List Char
  | ['/'] => ['/']
  | '/' :: rest => dropTrailing rest
  | '.' :: '/' :: rest => dropTrailing ('/' :: rest)
  | cs => cs

/-- The last component of a path; none for the root, `.` and `..`. -/
def fileName? (path : String) : Option String :=
  let last := (dropTrailing path.toList.reverse).takeWhile (· != '/')
  match String.ofList last.reverse with
  | "" => none
  | "." => none
  | ".." => none
  | name => some name

/-- What follows the last dot of the last component, unless the dot comes first. -/
def extension? (path : String) : Option String := do
  let name := (← fileName? path).toList.reverse
  let after := name.takeWhile (· != '.')
  match name.dropWhile (· != '.') with
  | [] => none
  | ['.'] => none
  | _ => some (String.ofList after.reverse)

/-- The directory that a path lies in; empty for a bare name, none for the root and for nothing. -/
def parent? (path : String) : Option String :=
  match dropTrailing path.toList.reverse with
  | [] => none
  | ['/'] => none
  | cs => some (String.ofList (dropTrailing (cs.dropWhile (· != '/'))).reverse)

/-- The path of a name inside a directory. -/
def join (directory name : String) : String :=
  if name.startsWith "/" then name
  else if directory.isEmpty then name
  else if directory.endsWith "/" then directory ++ name
  else directory ++ "/" ++ name

/-- The directories above a path, nearest first.  Each is shorter than the one before, so `fuel`
need not exceed the length of the path. -/
def above (fuel : Nat) (path : String) : List String :=
  match fuel, parent? path with
  | fuel + 1, some directory => directory :: above fuel directory
  | _, _ => []

/-- A path and the directories above it, nearest first. -/
def ancestors (path : String) : List String :=
  path :: above path.length path

end HeaderAbi.FilePath
