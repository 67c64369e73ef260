/-!
# Packed bytes

A `Codec` writes values of a type as bytes and reads them back from the front of a byte sequence.
Codecs are built from parts: the codec of a record runs the codecs of its fields in order.  Numbers
take as few bytes as a width of 1, 2, 4 or 8 allows; a wider number than necessary is accepted, one
wider than its type is not.
-/

namespace HeaderAbi

/-- A way to write values as bytes and to read them back. -/
structure Codec (α : Type) where
  encode : α → List UInt8
  /-- The value at the front and the bytes after it. -/
  decode : List UInt8 → Option (α × List UInt8)

namespace Codec

variable {α β : Type}

/-- One value after the other. -/
def pair (a : Codec α) (b : Codec β) : Codec (α × β) where
  encode p := a.encode p.1 ++ b.encode p.2
  decode bytes := do
    let (x, bytes) ← a.decode bytes
    let (y, bytes) ← b.decode bytes
    return ((x, y), bytes)

/-- The codec of a type that has the same values under other names. -/
def via (c : Codec α) (into : α → β) (back : β → α) : Codec β where
  encode b := c.encode (back b)
  decode bytes := (c.decode bytes).map fun (a, rest) => (into a, rest)

/-- The codec of a part of a type: values outside it are refused. -/
def viaSome (c : Codec α) (into : α → Option β) (back : β → α) : Codec β where
  encode b := c.encode (back b)
  decode bytes := do
    let (a, rest) ← c.decode bytes
    return (← into a, rest)

end Codec

/-- The `width` little-endian bytes of a number. -/
def littleEndian : (width : Nat) → Nat → List UInt8
  | 0, _ => []
  | w + 1, n => UInt8.ofNat n :: littleEndian w (n / 256)

/-- The number that little-endian bytes spell. -/
def ofLittleEndian : List UInt8 → Nat
  | [] => 0
  | b :: bs => b.toNat + 256 * ofLittleEndian bs

/-- Split off a number of bytes; `none` when there are fewer. -/
def takeBytes (n : Nat) (bytes : List UInt8) : Option (List UInt8 × List UInt8) :=
  if bytes.length < n then none else some (bytes.take n, bytes.drop n)

namespace Codec

/-- The bytes of a number below `2 ^ 64`: one byte below 251, else a byte that tells the width and
as many bytes. -/
def encodeNat (n : Nat) : List UInt8 :=
  if n < 251 then [UInt8.ofNat n]
  else if n < 0x10000 then 251 :: littleEndian 2 n
  else if n < 0x100000000 then 252 :: littleEndian 4 n
  else 253 :: littleEndian 8 n

/-- The width that the first byte of a longer number tells. -/
def widthOf? (first : UInt8) : Option Nat :=
  if first == 251 then some 2
  else if first == 252 then some 4
  else if first == 253 then some 8
  else none

/-- Read a number of at most `width` bytes. -/
def decodeNat (width : Nat) : List UInt8 → Option (Nat × List UInt8)
  | [] => none
  | b :: bytes =>
    if b.toNat < 251 then some (b.toNat, bytes)
    else do
      let w ← widthOf? b
      if w > width then none
      else
        let (digits, rest) ← takeBytes w bytes
        return (ofLittleEndian digits, rest)

/-- A length. -/
def length : Codec Nat := ⟨encodeNat, decodeNat 8⟩

def uint64 : Codec UInt64 :=
  length.via UInt64.ofNat UInt64.toNat

def uint32 : Codec UInt32 :=
  Codec.via ⟨encodeNat, decodeNat 4⟩ UInt32.ofNat UInt32.toNat

/-- Signed numbers in the order 0, -1, 1, -2, 2 and so on. -/
def zigzag (n : Int) : Nat :=
  if 0 ≤ n then 2 * n.toNat else 2 * (-n).toNat - 1

def unzigzag (n : Nat) : Int :=
  if n % 2 = 0 then Int.ofNat (n / 2) else -(Int.ofNat (n / 2)) - 1

def int64 : Codec Int64 :=
  length.via (fun n => Int64.ofInt (unzigzag n)) fun n => zigzag n.toInt

/-- One byte, zero or one. -/
def bool : Codec Bool where
  encode b := [if b then 1 else 0]
  decode
    | [] => none
    | b :: rest => if b == 0 then some (false, rest) else if b == 1 then some (true, rest) else none

variable {α : Type}

/-- A byte that tells whether a value follows. -/
def option (c : Codec α) : Codec (Option α) where
  encode
    | none => [0]
    | some a => 1 :: c.encode a
  decode
    | [] => none
    | b :: rest =>
      if b == 0 then some (none, rest)
      else if b == 1 then (c.decode rest).map fun (a, rest) => (some a, rest)
      else none

/-- Read a number of values. -/
def decodeMany (decode : List UInt8 → Option (α × List UInt8)) :
    Nat → List UInt8 → Option (List α × List UInt8)
  | 0, bytes => some ([], bytes)
  | n + 1, bytes => do
    let (a, bytes) ← decode bytes
    let (as, bytes) ← decodeMany decode n bytes
    return (a :: as, bytes)

/-- A length and as many values. -/
def list (c : Codec α) : Codec (List α) where
  encode as := encodeNat as.length ++ as.flatMap c.encode
  decode bytes := do
    let (n, bytes) ← length.decode bytes
    decodeMany c.decode n bytes

/-- The number of bytes of a text and its bytes. -/
def text : Codec String where
  encode s := encodeNat s.utf8ByteSize ++ s.toUTF8.toList
  decode bytes := do
    let (n, bytes) ← length.decode bytes
    let (content, rest) ← takeBytes n bytes
    return (← String.fromUTF8? ⟨content.toArray⟩, rest)

/-- A value out of a list, told by its position. -/
def oneOf [BEq α] (all : List α) : Codec α :=
  Codec.viaSome ⟨encodeNat, decodeNat 4⟩ (fun n => all[n]?) fun a => all.idxOf a

end Codec

end HeaderAbi
