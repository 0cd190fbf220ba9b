import InstanceCatalog.Binary64.Digits

/-! # Written forms of a binary number

Digits are laid out around a point while the number is neither small nor large, and otherwise with
one digit before the point and a power of ten after an `e`. -/

namespace InstanceCatalog.Binary64

/-- The decisions of a layout. -/
structure Layout where
  /-- The first power of ten that is written with an exponent. -/
  large : Int
  /-- Whether a whole number without exponent ends in `.0`. -/
  keepPoint : Bool

/-- Numbers in full: shortest digits, an exponent from `10 ^ 16` on. -/
def full : Layout := ⟨16, true⟩

/-- Numbers in tables: an exponent from `10 ^ 6` on, and no point that nothing follows. -/
def brief : Layout := ⟨6, false⟩

namespace Layout

/-- The exponent of a number written with one, in at least two digits. -/
def exponent (x : Int) : List Char :=
  let ds := Numeral.digits x.natAbs
  'e' :: (if x < 0 then '-' else '+') :: (if ds.length < 2 then '0' :: ds else ds)

/-- Digits around a point. -/
def positional (l : Layout) (d : Digits) : List Char :=
  if d.point ≤ 0 then '0' :: '.' :: List.replicate (-d.point).toNat '0' ++ d.digits
  else
    let n := d.point.toNat
    let whole := d.digits.take n ++ List.replicate (n - d.digits.length) '0'
    match d.digits.drop n with
    | [] => if l.keepPoint then whole ++ ['.', '0'] else whole
    | fraction => whole ++ '.' :: fraction

/-- One digit, the others after a point, and an exponent. -/
def scientific (d : Digits) : List Char :=
  let tail := d.digits.drop 1
  d.digits.take 1 ++ (if tail.isEmpty then [] else '.' :: tail) ++ exponent (d.point - 1)

def write (l : Layout) (d : Digits) : List Char :=
  if -3 ≤ d.point ∧ d.point ≤ l.large then l.positional d else scientific d

end Layout

/-- A number by its layout and the digits chosen for it. -/
def written (l : Layout) (digits : Nat → Int → Digits) : Binary64 → List Char
  | .finite negative m e =>
    let body := if m = 0 then (if l.keepPoint then ['0', '.', '0'] else ['0'])
      else l.write (digits m e)
    if negative then '-' :: body else body
  | .infinite negative => if negative then ['-', 'i', 'n', 'f'] else ['i', 'n', 'f']
  | .nan => ['n', 'a', 'n']

/-- The shortest text that reads back as the same number. -/
def text (x : Binary64) : String := String.ofList (written full shortest x)

/-- A number to six significant digits. -/
def sixDigits (x : Binary64) : String := String.ofList (written brief (rounded 6) x)

end InstanceCatalog.Binary64
