import InstanceCatalog.Text.CodePoint
import InstanceCatalog.Text.Utf8

/-! # Characters in units of some bytes

UTF-16 writes a character in one or two units of two bytes, UTF-32 in one unit of four.  The bytes
of a unit come in either order, which a mark at the start of a text can tell. -/

namespace InstanceCatalog.Text

inductive ByteOrder where
  /-- The lowest byte first. -/
  | little
  /-- The highest byte first. -/
  | big
deriving DecidableEq, Repr

/-- The number that bytes make up. -/
def ByteOrder.number : ByteOrder → Bytes → Nat
  | .little, bs => bs.foldr (fun b n ↦ b.toNat + 0x100 * n) 0
  | .big, bs => bs.foldl (fun n b ↦ 0x100 * n + b.toNat) 0

/-- How wide the units of a text are. -/
inductive UnitWidth where
  | two
  | four
deriving DecidableEq, Repr

namespace Utf16

/-- The first unit of a pair. -/
def isHigh (n : Nat) : Bool := 0xD800 ≤ n && n < 0xDC00

/-- The second unit of a pair. -/
def isLow (n : Nat) : Bool := 0xDC00 ≤ n && n < 0xE000

def ofPair (high low : Nat) : Char :=
  Char.ofNat (0x10000 + 0x400 * (high - 0xD800) + (low - 0xDC00))

/-- The characters of some numbers, where a pair of units stands for one.  Another unit has none. -/
def joined : List (Option Nat) → List (Option Char)
  | [] => []
  | none :: ns => none :: joined ns
  | [some n] => [CodePoint.char? n]
  | some n :: m :: ns =>
    match m with
    | some m =>
      if isHigh n && isLow m then some (ofPair n m) :: joined ns
      else CodePoint.char? n :: joined (some m :: ns)
    | none => CodePoint.char? n :: none :: joined ns

/-- The characters of some bytes, with a gap for each unit that has none.  All that is left after
the first unit of a pair is one gap if it is less than a unit. -/
def decode (o : ByteOrder) : Bytes → List (Option Char)
  | [] => []
  | [_] => [none]
  | a :: b :: rest =>
    let n := o.number [a, b]
    if isHigh n then
      match rest with
      | c :: d :: rest =>
        let m := o.number [c, d]
        if isLow m then some (ofPair n m) :: decode o rest else none :: decode o (c :: d :: rest)
      | _ => [none]
    else CodePoint.char? n :: decode o rest

end Utf16

namespace Utf32

/-- The characters of some bytes, with a gap for each unit that has none. -/
def decode (o : ByteOrder) : Bytes → List (Option Char)
  | [] => []
  | a :: b :: c :: d :: rest => CodePoint.char? (o.number [a, b, c, d]) :: decode o rest
  | _ => [none]

end Utf32

namespace UnitWidth

def bytes : UnitWidth → Nat
  | .two => 2
  | .four => 4

/-- The mark that tells the order of the bytes. -/
def mark : UnitWidth → ByteOrder → Bytes
  | .two, .little => [0xFF, 0xFE]
  | .two, .big => [0xFE, 0xFF]
  | .four, .little => [0xFF, 0xFE, 0, 0]
  | .four, .big => [0, 0, 0xFE, 0xFF]

def decode : UnitWidth → ByteOrder → Bytes → List (Option Char)
  | .two => Utf16.decode
  | .four => Utf32.decode

/-- The order that a mark at the start tells, and what follows the mark. -/
def marked? (w : UnitWidth) (bs : Bytes) : Option (ByteOrder × Bytes) :=
  [ByteOrder.little, .big].findSome? fun o ↦
    if (w.mark o).isPrefixOf bs then some (o, bs.drop w.bytes) else none

end UnitWidth

end InstanceCatalog.Text
