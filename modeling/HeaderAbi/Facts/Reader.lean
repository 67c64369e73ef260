import HeaderAbi.Error
import HeaderAbi.Facts.Form
import HeaderAbi.Json.Reader

/-!
# Reading facts

A facts document is a JSON text.  Its version is judged before its shape, so that a document of
another version is told apart from a broken one.
-/

namespace HeaderAbi

/-- The unsigned integer under a key of a record; `none` if there is no such integer. -/
def Data.versionField? (key : String) (d : Data) : Option Nat :=
  match d with
  | .object fields => ((fields.find? (·.1 == key)).map (·.2)).bind Data.asNat?
  | .mapping entries =>
    ((entries.find? fun e => match e.1 with
      | .text s => s == key
      | _ => false).map (·.2)).bind Data.asNat?
  | .tagged _ content => content.versionField? key
  | _ => none

/-- A version number as it is reported: one that does not fit 32 bits counts as the greatest that
does. -/
def clampVersion (n : Nat) : UInt32 :=
  UInt32.ofNat (min n (0xFFFFFFFF))

namespace Facts

/-- The facts that a text holds. -/
def parse (text : String) : Except Error Facts :=
  match Json.parse? text with
  | none => .error (.extraction "" (.unreadable ""))
  | some d =>
    match d.versionField? "facts_version" with
    | none => .error (.extraction "" .missingVersion)
    | some version =>
      if version ≠ factsVersion.toNat then
        .error (.extraction "" (.unsupportedVersion (clampVersion version) factsVersion))
      else match ofData? d with
        | none => .error (.extraction "" (.unreadable ""))
        | some facts => .ok facts

end Facts

end HeaderAbi
