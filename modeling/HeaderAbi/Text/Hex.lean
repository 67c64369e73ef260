import HeaderAbi.Data.Scalar
import HeaderAbi.Json.Printer

/-!
# Hexadecimal text

Bytes and 64-bit numbers as lower-case hexadecimal digits.
-/

namespace HeaderAbi.Text

/-- The two digits of a byte. -/
def hexByte (b : UInt8) : List Char :=
  [Json.hexDigit (b.toNat / 16), Json.hexDigit (b.toNat % 16)]

/-- The digits of a sequence of bytes. -/
def hexOfBytes (b : ByteArray) : String :=
  String.ofList (b.toList.flatMap hexByte)

/-- The sixteen digits of a number. -/
def hex64 (n : UInt64) : String :=
  String.ofList ((List.range 8).reverse.flatMap fun k =>
    hexByte (UInt8.ofNat (n.toNat >>> (8 * k))))

/-- The bytes that pairs of digits spell. -/
def bytesOfHex? : List Char → Option (List UInt8)
  | [] => some []
  | [_] => none
  | a :: b :: rest => do
    let high ← Data.digit? 16 a
    let low ← Data.digit? 16 b
    return UInt8.ofNat (high * 16 + low) :: (← bytesOfHex? rest)

end HeaderAbi.Text
