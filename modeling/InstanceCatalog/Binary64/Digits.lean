import InstanceCatalog.Binary64.Basic

/-! # Decimal digits of a binary number

`shortest` gives the fewest digits that read back as the same number, and of those the nearest to
it.  `rounded` gives a fixed number of digits, a tie going to the even last digit. -/

namespace InstanceCatalog.Binary64

/-- The positive number `0.d₁d₂… * 10 ^ point`, with no zero at the end of the digits. -/
structure Digits where
  digits : List Char
  point : Int
deriving DecidableEq, Repr

/-- The greatest `e` with `10 ^ e ≤ num / den`, for positive `num` and `den`. -/
def floorLog10 (num den : Nat) : Int :=
  if den ≤ num then (Numeral.digits (num / den)).length - 1
  else -((Numeral.digits ((den - 1) / num)).length : Int)

/-- The digits of `n * 10 ^ e`. -/
def Digits.ofScaled (n : Nat) (e : Int) : Digits :=
  let ds := Numeral.digits n
  ⟨(ds.reverse.dropWhile (· == '0')).reverse, e + ds.length⟩

/-- The real numbers that round to one binary number, as quarters of its unit: from `low` to `high`,
around `mid`, with the ends if `closed`. -/
structure Interval where
  low : Nat
  mid : Nat
  high : Nat
  closed : Bool

/-- Below a power of two the next number is half a unit away, so a quarter rounds up to it. -/
def interval (m : Nat) (e : Int) : Interval where
  low := if m = Nat.pow 2 (precision - 1) ∧ leastExponent < e then 4 * m - 1 else 4 * m - 2
  mid := 4 * m
  high := 4 * m + 2
  closed := m % 2 = 0

/-- The multiple of `10 ^ k` that lies in the interval in units of `2 ^ e`, if one does: of two the
nearer to the middle, and of two equally near the even one. -/
def onGrid? (i : Interval) (e k : Int) : Option Nat :=
  let unit := scaleUp 10 (scaleDown 2 e) k
  let scale := scaleUp 2 (scaleDown 10 k) e
  let c := i.mid * scale / unit
  let inside (c : Nat) : Bool :=
    if i.closed then i.low * scale ≤ c * unit && c * unit ≤ i.high * scale
    else i.low * scale < c * unit && c * unit < i.high * scale
  let nearest := roundEven (i.mid * scale) unit
  if inside nearest then some nearest
  else if inside c then some c
  else if inside (c + 1) then some (c + 1)
  else none

/-- The number to `n` significant digits. -/
def rounded (n : Nat) (m : Nat) (e : Int) : Digits :=
  let num := scaleUp 2 m e
  let den := scaleDown 2 e
  let k := floorLog10 num den - n + 1
  Digits.ofScaled (roundEven (num * scaleDown 10 k) (scaleUp 10 den k)) k

/-- The fewest digits that read back.  Seventeen always do. -/
def shortest (m : Nat) (e : Int) : Digits :=
  let top := floorLog10 (scaleUp 2 m e) (scaleDown 2 e)
  let grids := (List.range 17).map fun n : Nat ↦ top - n
  let hit? := grids.findSome? fun k ↦ (onGrid? (interval m e) (e - 2) k).map fun c ↦ (c, k)
  match hit? with
  | some (c, k) => Digits.ofScaled c k
  | none => rounded 17 m e

end InstanceCatalog.Binary64
