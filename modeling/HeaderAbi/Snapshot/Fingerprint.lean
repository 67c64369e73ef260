import HeaderAbi.Checksum
import HeaderAbi.Json.Printer
import HeaderAbi.Snapshot.Basic
import HeaderAbi.Text.Hex

/-!
# Fingerprints

A fingerprint is a checksum of a canonical text: each category's key, followed by its entities in
the order of their identifiers.  The text does not depend on the order in which entities were added.
-/

namespace HeaderAbi

namespace Table

/-- The key of the category and the compact JSON of its entities, in order. -/
def canonicalText {α : Type} [Entity α] (t : Table α) : String :=
  (Entity.category α).key ++ String.join (t.sorted.map fun a => Json.compact (Entity.toData a))

end Table

namespace Snapshot

/-- The text of which the fingerprint is the checksum, without the version in front. -/
def canonicalText (s : Snapshot) : String :=
  s.records.canonicalText ++ s.enums.canonicalText ++ s.functions.canonicalText ++
    s.globals.canonicalText

/-- The bytes of which the fingerprint is the checksum: the version as four little-endian bytes,
then the canonical text. -/
def canonicalBytes (s : Snapshot) : ByteArray :=
  ⟨#[1, 0, 0, 0]⟩ ++ s.canonicalText.toUTF8

/-- A checksum of what the snapshot holds. -/
def fingerprint (s : Snapshot) : UInt64 :=
  checksum s.canonicalBytes

/-- The fingerprint in hexadecimal. -/
def fingerprintText (s : Snapshot) : String :=
  Text.hex64 s.fingerprint

end Snapshot

end HeaderAbi
