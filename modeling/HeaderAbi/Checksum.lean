/-!
# The checksum of dumps

The 64-bit variant of the XXH3 hash, without seed.  Inputs of up to 240 bytes are mixed piece by
piece; longer ones run through eight accumulators in stripes of 64 bytes.
-/

namespace HeaderAbi.Checksum

/-- The constant bytes that inputs are mixed with. -/
def secret : ByteArray := ⟨#[
  0xb8, 0xfe, 0x6c, 0x39, 0x23, 0xa4, 0x4b, 0xbe, 0x7c, 0x01, 0x81, 0x2c,
  0xf7, 0x21, 0xad, 0x1c, 0xde, 0xd4, 0x6d, 0xe9, 0x83, 0x90, 0x97, 0xdb,
  0x72, 0x40, 0xa4, 0xa4, 0xb7, 0xb3, 0x67, 0x1f, 0xcb, 0x79, 0xe6, 0x4e,
  0xcc, 0xc0, 0xe5, 0x78, 0x82, 0x5a, 0xd0, 0x7d, 0xcc, 0xff, 0x72, 0x21,
  0xb8, 0x08, 0x46, 0x74, 0xf7, 0x43, 0x24, 0x8e, 0xe0, 0x35, 0x90, 0xe6,
  0x81, 0x3a, 0x26, 0x4c, 0x3c, 0x28, 0x52, 0xbb, 0x91, 0xc3, 0x00, 0xcb,
  0x88, 0xd0, 0x65, 0x8b, 0x1b, 0x53, 0x2e, 0xa3, 0x71, 0x64, 0x48, 0x97,
  0xa2, 0x0d, 0xf9, 0x4e, 0x38, 0x19, 0xef, 0x46, 0xa9, 0xde, 0xac, 0xd8,
  0xa8, 0xfa, 0x76, 0x3f, 0xe3, 0x9c, 0x34, 0x3f, 0xf9, 0xdc, 0xbb, 0xc7,
  0xc7, 0x0b, 0x4f, 0x1d, 0x8a, 0x51, 0xe0, 0x4b, 0xcd, 0xb4, 0x59, 0x31,
  0xc8, 0x9f, 0x7e, 0xc9, 0xd9, 0x78, 0x73, 0x64, 0xea, 0xc5, 0xac, 0x83,
  0x34, 0xd3, 0xeb, 0xc3, 0xc5, 0x81, 0xa0, 0xff, 0xfa, 0x13, 0x63, 0xeb,
  0x17, 0x0d, 0xdd, 0x51, 0xb7, 0xf0, 0xda, 0x49, 0xd3, 0x16, 0x55, 0x26,
  0x29, 0xd4, 0x68, 0x9e, 0x2b, 0x16, 0xbe, 0x58, 0x7d, 0x47, 0xa1, 0xfc,
  0x8f, 0xf8, 0xb8, 0xd1, 0x7a, 0xd0, 0x31, 0xce, 0x45, 0xcb, 0x3a, 0x8f,
  0x95, 0x16, 0x04, 0x28, 0xaf, 0xd7, 0xfb, 0xca, 0xbb, 0x4b, 0x40, 0x7e]⟩

def prime32A : UInt64 := 0x9E3779B1
def prime32B : UInt64 := 0x85EBCA77
def prime32C : UInt64 := 0xC2B2AE3D
def prime64A : UInt64 := 0x9E3779B185EBCA87
def prime64B : UInt64 := 0xC2B2AE3D27D4EB4F
def prime64C : UInt64 := 0x165667B19E3779F9
def prime64D : UInt64 := 0x85EBCA77C2B2AE63
def prime64E : UInt64 := 0x27D4EB2F165667C5

/-- The byte at a position; zero beyond the end. -/
def byteAt (b : ByteArray) (i : Nat) : UInt64 :=
  if h : i < b.size then b[i].toUInt64 else 0

/-- The number whose little-endian bytes start at a position. -/
def word (b : ByteArray) (i bytes : Nat) : UInt64 :=
  (List.range bytes).foldr (fun k acc => acc <<< 8 ||| byteAt b (i + k)) 0

def word32 (b : ByteArray) (i : Nat) : UInt64 := word b i 4

def word64 (b : ByteArray) (i : Nat) : UInt64 := word b i 8

/-- The eight bytes in reverse order. -/
def swapBytes (x : UInt64) : UInt64 :=
  (List.range 8).foldl (fun acc k => acc <<< 8 ||| (x >>> (8 * UInt64.ofNat k) &&& 0xFF)) 0

def rotateLeft (x : UInt64) (n : UInt64) : UInt64 :=
  x <<< n ||| x >>> (64 - n)

/-- The two halves of the 128-bit product, combined. -/
def foldProduct (a b : UInt64) : UInt64 :=
  let p := a.toNat * b.toNat
  UInt64.ofNat p ^^^ UInt64.ofNat (p >>> 64)

/-- The final mixing of the medium and long inputs. -/
def avalanche (h : UInt64) : UInt64 :=
  let h := h ^^^ h >>> 37
  let h := h * 0x165667919E3779F9
  h ^^^ h >>> 32

/-- The final mixing of the shortest inputs. -/
def avalancheShort (h : UInt64) : UInt64 :=
  let h := (h ^^^ h >>> 33) * prime64B
  let h := (h ^^^ h >>> 29) * prime64C
  h ^^^ h >>> 32

/-- Up to three bytes. -/
def hash1to3 (b : ByteArray) : UInt64 :=
  let n := b.size
  if n == 0 then avalancheShort (word64 secret 56 ^^^ word64 secret 64)
  else
    let combined := byteAt b 0 <<< 16 ||| byteAt b (n / 2) <<< 24 ||| byteAt b (n - 1) |||
      UInt64.ofNat n <<< 8
    avalancheShort (combined ^^^ (word32 secret 0 ^^^ word32 secret 4))

def hash4to8 (b : ByteArray) : UInt64 :=
  let n := b.size
  let h := (word32 b (n - 4) + word32 b 0 <<< 32) ^^^ (word64 secret 8 ^^^ word64 secret 16)
  let h := h ^^^ rotateLeft h 49 ^^^ rotateLeft h 24
  let h := h * 0x9FB21C651E98DF25
  let h := h ^^^ (h >>> 35 + UInt64.ofNat n)
  let h := h * 0x9FB21C651E98DF25
  h ^^^ h >>> 28

def hash9to16 (b : ByteArray) : UInt64 :=
  let n := b.size
  let low := word64 b 0 ^^^ (word64 secret 24 ^^^ word64 secret 32)
  let high := word64 b (n - 8) ^^^ (word64 secret 40 ^^^ word64 secret 48)
  avalanche (UInt64.ofNat n + swapBytes low + high + foldProduct low high)

/-- Sixteen bytes of the input mixed with sixteen of the secret. -/
def mix16 (b : ByteArray) (i k : Nat) : UInt64 :=
  foldProduct (word64 b i ^^^ word64 secret k) (word64 b (i + 8) ^^^ word64 secret (k + 8))

/-- Up to 128 bytes: pairs of pieces from both ends towards the middle. -/
def hash17to128 (b : ByteArray) : UInt64 :=
  let n := b.size
  avalanche ((List.range ((n - 1) / 32 + 1)).foldl
    (fun acc k => acc + mix16 b (16 * k) (32 * k) + mix16 b (n - 16 * (k + 1)) (32 * k + 16))
    (UInt64.ofNat n * prime64A))

def hash129to240 (b : ByteArray) : UInt64 :=
  let n := b.size
  let first := (List.range 8).foldl (fun acc k => acc + mix16 b (16 * k) (16 * k))
    (UInt64.ofNat n * prime64A)
  let rest := (List.range (n / 16 - 8)).foldl
    (fun acc k => acc + mix16 b (16 * (k + 8)) (16 * k + 3)) (avalanche first)
  avalanche (rest + mix16 b (n - 16) 119)

/-- The eight accumulators of a long input, at the start. -/
def startLanes : List UInt64 :=
  [prime32C, prime64A, prime64B, prime64C, prime64D, prime32B, prime64E, prime32A]

/-- Take in a stripe of 64 bytes: each lane takes the product of its keyed halves and the plain word
of its neighbour. -/
def accumulate (b : ByteArray) (lanes : List UInt64) (i k : Nat) : List UInt64 :=
  lanes.mapIdx fun (lane : Nat) (acc : UInt64) =>
    let neighbour := if lane % 2 == 0 then lane + 1 else lane - 1
    let keyed := word64 b (i + 8 * lane) ^^^ word64 secret (k + 8 * lane)
    let product := (keyed &&& (0xFFFFFFFF : UInt64)) * (keyed >>> (32 : UInt64))
    acc + word64 b (i + 8 * neighbour) + product

/-- Mix the lanes at the end of a block. -/
def scramble (lanes : List UInt64) : List UInt64 :=
  lanes.mapIdx fun (lane : Nat) (acc : UInt64) =>
    ((acc ^^^ acc >>> 47) ^^^ word64 secret (128 + 8 * lane)) * prime32A

/-- Combine the lanes pair by pair. -/
def combine (start : UInt64) (k : Nat) : List UInt64 → UInt64
  | a :: b :: rest =>
    foldProduct (a ^^^ word64 secret k) (b ^^^ word64 secret (k + 8)) + combine start (k + 16) rest
  | _ => start

/-- More than 240 bytes: blocks of sixteen stripes, then the stripes left over and the last 64 bytes
of the input. -/
def hashLong (b : ByteArray) : UInt64 :=
  let n := b.size
  let blocks := (n - 1) / 1024
  let stripes (lanes : List UInt64) (start count : Nat) : List UInt64 :=
    (List.range count).foldl (fun lanes s => accumulate b lanes (start + 64 * s) (8 * s)) lanes
  let lanes := (List.range blocks).foldl
    (fun lanes block => scramble (stripes lanes (1024 * block) 16)) startLanes
  let lanes := stripes lanes (1024 * blocks) ((n - 1 - 1024 * blocks) / 64)
  let lanes := accumulate b lanes (n - 64) 121
  avalanche (combine (UInt64.ofNat n * prime64A) 11 lanes)

end HeaderAbi.Checksum

namespace HeaderAbi

/-- The checksum of a sequence of bytes. -/
def checksum (b : ByteArray) : UInt64 :=
  if b.size ≤ 3 then Checksum.hash1to3 b
  else if b.size ≤ 8 then Checksum.hash4to8 b
  else if b.size ≤ 16 then Checksum.hash9to16 b
  else if b.size ≤ 128 then Checksum.hash17to128 b
  else if b.size ≤ 240 then Checksum.hash129to240 b
  else Checksum.hashLong b

end HeaderAbi
