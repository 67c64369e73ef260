import HeaderAbi.FilePath

/-!
# Formats of dumps

The three forms in which a snapshot is kept, and how one is told from another: by the first bytes of
the content, or by the extension of a path.
-/

namespace HeaderAbi

/-- The form of a dump. -/
inductive DumpFormat where
  | json
  | yaml
  | binary
deriving DecidableEq, Inhabited

namespace DumpFormat

def all : List DumpFormat := [.json, .yaml, .binary]

def name : DumpFormat → String
  | .json => "json"
  | .yaml => "yaml"
  | .binary => "binary"

def ofName? (name : String) : Option DumpFormat :=
  all.find? (·.name == name)

/-- The usual extension of a file of that form. -/
def fileExtension : DumpFormat → String
  | .json => "json"
  | .yaml => "yaml"
  | .binary => "abidump"

def isText : DumpFormat → Bool
  | .binary => false
  | _ => true

/-- The bytes that open a binary dump: `ABID`. -/
def magic : List UInt8 := [0x41, 0x42, 0x49, 0x44]

/-- The form of some bytes: binary after the magic bytes, JSON when the first byte that is not blank
opens an object, and YAML otherwise. -/
def detect (bytes : List UInt8) : DumpFormat :=
  if magic.isPrefixOf bytes then .binary
  else match bytes.find? (!Text.isAsciiBlank ·) with
    | some b => if b == 0x7B then .json else .yaml
    | none => .yaml

/-- The form that the extension of a path tells, in upper or lower case. -/
def ofPath? (path : String) : Option DumpFormat := do
  match Text.lowerAscii (← FilePath.extension? path) with
  | "json" => some .json
  | "yaml" | "yml" => some .yaml
  | "abidump" | "bin" => some .binary
  | _ => none

/-- The form in which to write a path: the extension decides, else the fallback. -/
def forPath (path : String) (fallback : DumpFormat) : DumpFormat :=
  (ofPath? path).getD fallback

end DumpFormat

end HeaderAbi
