import HeaderAbi.Dump.Binary
import HeaderAbi.Json.Printer
import HeaderAbi.Json.Reader
import HeaderAbi.Yaml.Printer
import HeaderAbi.Yaml.Reader

/-!
# The content of a dump

From a snapshot to the bytes of a dump and back.

* `Snapshot.encode` writes a snapshot in one of the three forms.
* `Snapshot.decodeAs` reads bytes of a known form, `Snapshot.decode` finds the form out first.

The version of a dump is judged before its shape, and every entity goes through the checks of a
draft, so that what is read is as sound as what was extracted.
-/

namespace HeaderAbi

namespace Document

/-- A dump that cannot be read, of a text form. -/
def malformed (format : String) (reason : Malformed) : Error :=
  .dump ("decoding " ++ format ++ " dump") (.malformed reason)

/-- The document that the data of a text describe. -/
def ofContent (format : String) (content : Option Data) : Except Error Document := do
  let some d := content | throw (malformed format .unreadable)
  let some found := d.versionField? "format_version" | throw (malformed format .missingVersion)
  let version := clampVersion found
  if !supportedVersions.contains version then
    throw (unsupported version)
  let some doc := ofData? d | throw (malformed format .unreadable)
  return doc

/-- The document of some bytes in a known form. -/
def decode (format : DumpFormat) (bytes : ByteArray) : Except Error Document :=
  match format with
  | .json => ofContent "JSON" ((String.fromUTF8? bytes).bind Json.parse?)
  | .yaml =>
    ofContent "YAML" (((String.fromUTF8? bytes).bind Yaml.parse?).bind Data.resolve?)
  | .binary => BinaryDump.decode bytes.toList

/-- The text of a document, in a text form. -/
def encode (format : DumpFormat) (pretty : Bool) (d : Document) : ByteArray :=
  match format with
  | .json => (if pretty then Json.pretty d.toData else Json.compact d.toData).toUTF8
  | .yaml => (Yaml.render d.toData).toUTF8
  | .binary => ⟨(BinaryDump.encode d).toArray⟩

end Document

namespace Snapshot

/-- A snapshot as the bytes of a dump; `pretty` concerns JSON alone. -/
def encode (s : Snapshot) (format : DumpFormat) (pretty : Bool) : ByteArray :=
  (Document.ofSnapshot s).encode format pretty

/-- The snapshot that bytes of a known form hold. -/
def decodeAs (format : DumpFormat) (bytes : ByteArray) : Except Error Snapshot :=
  if bytes.data.all Text.isAsciiBlank then
    .error (.dump "reading dump" (.malformed .emptyInput))
  else do (← Document.decode format bytes).toSnapshot

/-- The snapshot that bytes hold, in the form that they are found to have. -/
def decode (bytes : ByteArray) : Except Error Snapshot :=
  decodeAs (DumpFormat.detect bytes.toList) bytes

end Snapshot

end HeaderAbi
