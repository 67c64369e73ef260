import HeaderAbi.Checksum
import HeaderAbi.Dump.Document
import HeaderAbi.Dump.Format

/-!
# Binary dumps

A binary dump is a header of sixteen bytes (the magic bytes, the version, the checksum of the
payload) followed by the packed document.
-/

namespace HeaderAbi.BinaryDump

/-- The number of bytes in front of the payload. -/
def headerSize : Nat := 16

/-- The checksum of a list of bytes. -/
def checksumOf (payload : List UInt8) : UInt64 :=
  checksum ⟨payload.toArray⟩

/-- A document as a binary dump. -/
def encode (d : Document) : List UInt8 :=
  let payload := Document.codec.encode d
  DumpFormat.magic ++ littleEndian 4 d.formatVersion.toNat ++
    littleEndian 8 (checksumOf payload).toNat ++ payload

/-- The context of everything that is wrong with the bytes. -/
def malformed (reason : Malformed) : Error :=
  .dump "decoding binary dump" (.malformed reason)

/-- The document of a binary dump. -/
def decode (bytes : List UInt8) : Except Error Document := do
  if bytes.length < headerSize then
    throw (malformed (.truncatedHeader bytes.length))
  if bytes.take 4 ≠ DumpFormat.magic then
    throw (malformed .badMagic)
  let version := UInt32.ofNat (ofLittleEndian ((bytes.drop 4).take 4))
  if !supportedVersions.contains version then
    throw (Document.unsupported version)
  let payload := bytes.drop headerSize
  if (checksumOf payload).toNat ≠ ofLittleEndian ((bytes.drop 8).take 8) then
    throw (malformed .checksumMismatch)
  match Document.codec.decode payload with
  | none => throw (malformed .unreadable)
  | some (d, rest) =>
    if !rest.isEmpty then
      throw (malformed (.trailingBytes rest.length))
    if d.formatVersion ≠ version then
      throw (malformed (.versionsDisagree version d.formatVersion))
    return d

end HeaderAbi.BinaryDump
