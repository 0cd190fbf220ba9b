/-! # ASCII -/

namespace InstanceCatalog.Text

def isAscii (c : Char) : Bool := c.toNat < 0x80

def isAsciiLetter (c : Char) : Bool := ('a' ≤ c && c ≤ 'z') || ('A' ≤ c && c ≤ 'Z')

def isAsciiDigit (c : Char) : Bool := '0' ≤ c && c ≤ '9'

def isHexDigit (c : Char) : Bool :=
  isAsciiDigit c || ('a' ≤ c && c ≤ 'f') || ('A' ≤ c && c ≤ 'F')

/-- The value of a hexadecimal digit in letters of either case. -/
def hexValue (c : Char) : Nat :=
  if isAsciiDigit c then c.toNat - 0x30 else c.toLower.toNat - 0x61 + 10

/-- The number a run of hexadecimal digits writes. -/
def ofHexDigits (ds : List Char) : Nat := ds.foldl (fun n d ↦ 16 * n + hexValue d) 0

end InstanceCatalog.Text
