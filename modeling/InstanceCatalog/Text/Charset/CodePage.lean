import InstanceCatalog.Text.Utf8

/-! # Code pages

A code page gives a character for each byte.  The last bytes are listed, and those before them stand
for the characters of their number. -/

namespace InstanceCatalog.Text

structure CodePage where
  /-- The name of the page, then its other names. -/
  names : List String
  /-- The characters of the last bytes, with a replacement character for a byte that has none. -/
  listed : String
deriving DecidableEq, Repr

namespace CodePage

/-- The characters of bytes; a byte may have none. -/
def decode (p : CodePage) (bs : Bytes) : List (Option Char) :=
  let table := p.listed.toList.toArray
  let start := 0x100 - table.size
  bs.map fun b ↦
    if b.toNat < start then some (Char.ofNat b.toNat)
    else table[b.toNat - start]?.filter (· != '\ufffd')

end CodePage

end InstanceCatalog.Text
