import InstanceCatalog.Text.Utf8

/-! # Checksums

Two checksums of bytes: the remainder by a polynomial over bits, and a pair of sums. -/

namespace InstanceCatalog.Deflate

open Text

/-- The remainder by the polynomial, one bit on. -/
def crcBit (r : UInt32) : UInt32 := if r &&& 1 = 1 then (r >>> 1) ^^^ 0xEDB88320 else r >>> 1

/-- So many bits on. -/
def crcBits : Nat → UInt32 → UInt32
  | 0, r => r
  | n + 1, r => crcBits n (crcBit r)

def crcByte (r : UInt32) (b : UInt8) : UInt32 := crcBits 8 (r ^^^ b.toUInt32)

def crc32 (bs : Bytes) : Nat := ((bs.foldl crcByte 0xFFFFFFFF) ^^^ 0xFFFFFFFF).toNat

/-- The modulus of sums. -/
def sumLimit : Nat := 65521

/-- The sum of the bytes, from one, and the sum of all those sums. -/
def sums (bs : Bytes) : Nat × Nat :=
  bs.foldl (fun (a, b) x ↦ ((a + x.toNat) % sumLimit, (b + a + x.toNat) % sumLimit)) (1, 0)

def adler32 (bs : Bytes) : Nat := 0x10000 * (sums bs).2 + (sums bs).1

end InstanceCatalog.Deflate
