/-!
# Hexadecimal text

Numbers and bytes in hexadecimal, padded with zeros to a least width. A number too large for the
width is written in full, so no digit is ever lost.
-/

namespace Cil.Hex

/-- The digits of a number in lower case, at least `width` of them. -/
def padded (width n : Nat) : List Char := (Nat.toDigits 16 n).leftpad width '0'

/-- A number as `0x` and at least `width` digits. -/
def number (width n : Nat) : String := "0x" ++ String.ofList (padded width n)

/-- The label of an instruction offset, such as `IL_002a`. -/
def label (offset : Nat) : String := "IL_" ++ String.ofList (padded 4 offset)

/-- Bytes in upper case, two digits each, with a space between two bytes. -/
def spaced (bytes : List UInt8) : String :=
  " ".intercalate (bytes.map fun byte => String.ofList ((padded 2 byte.toNat).map Char.toUpper))

/-- Bytes in lower case, two digits each, with nothing in between. -/
def packed (bytes : List UInt8) : String :=
  String.join (bytes.map fun byte => String.ofList (padded 2 byte.toNat))

end Cil.Hex
