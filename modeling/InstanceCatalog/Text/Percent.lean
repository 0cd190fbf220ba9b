import InstanceCatalog.Text.Ascii
import InstanceCatalog.Text.Utf8

/-! # Percent encoding

A byte can be written as a percent sign and two hexadecimal digits. -/

namespace InstanceCatalog.Text

/-- A character as its bytes in hexadecimal. -/
def percentChar (c : Char) : List Char :=
  (Utf8.encodeChar c).flatMap fun b ↦ '%' :: (Quoted.hex 2 b.toNat).map Char.toUpper

/-- A text in which only the characters of a class stand as they are. -/
def percentEncode (safe : Char → Bool) (s : List Char) : List Char :=
  s.flatMap fun c ↦ if safe c then [c] else percentChar c

/-- The bytes that a percent-encoded text stands for; a percent sign without two digits stands for
itself. -/
def percentBytes : List Char → Bytes
  | [] => []
  | '%' :: a :: b :: s =>
    if isHexDigit a && isHexDigit b then (ofHexDigits [a, b]).toUInt8 :: percentBytes s
    else 0x25 :: percentBytes (a :: b :: s)
  | c :: s => Utf8.encodeChar c ++ percentBytes s

def percentDecode (s : List Char) : List Char := Utf8.decodeLossy (percentBytes s)

end InstanceCatalog.Text
