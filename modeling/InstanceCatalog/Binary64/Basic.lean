import InstanceCatalog.Numeral.Decimal

/-! # Binary floating-point numbers of 64 bits

A finite number is `± mantissa * 2 ^ exponent` with a mantissa below `2 ^ 53` and an exponent of at
least `-1074`; the mantissa is at least `2 ^ 52` unless the exponent is the least one, so each
number has one form.  A real number is rounded to the nearest of them, a tie to the even mantissa,
and from `2 ^ 1024` on to an infinity. -/

namespace InstanceCatalog

inductive Binary64 where
  | finite (negative : Bool) (mantissa : Nat) (exponent : Int)
  | infinite (negative : Bool)
  | nan
deriving DecidableEq, Repr

namespace Binary64

def precision : Nat := 53
def leastExponent : Int := -1074
def greatestExponent : Int := 971

def isFinite : Binary64 → Bool
  | .finite .. => true
  | _ => false

@[simp] theorem isFinite_finite (s : Bool) (m : Nat) (e : Int) : isFinite (.finite s m e) = true :=
  rfl
@[simp] theorem isFinite_infinite (s : Bool) : isFinite (.infinite s) = false := rfl
@[simp] theorem isFinite_nan : isFinite .nan = false := rfl

/-- The quotient rounded to the nearest natural number, a tie to the even one. -/
def roundEven (num den : Nat) : Nat :=
  let q := num / den
  let r := num % den
  if 2 * r < den ∨ (2 * r = den ∧ q % 2 = 0) then q else q + 1

/-- The numerator of `n * base ^ e` over the denominator `scaleDown base e`. -/
def scaleUp (base n : Nat) (e : Int) : Nat := n * base.pow e.toNat

def scaleDown (base : Nat) (e : Int) : Nat := base.pow (-e).toNat

/-- The greatest `e` with `2 ^ e ≤ num / den`, for positive `num` and `den`. -/
def floorLog2 (num den : Nat) : Int :=
  let e : Int := num.log2 - den.log2
  if scaleUp 2 den e ≤ num * scaleDown 2 e then e else e - 1

/-- The number nearest to `± num / den`. -/
def ofRatio (negative : Bool) (num den : Nat) : Binary64 :=
  if num = 0 then .finite negative 0 leastExponent
  else
    let e := max (floorLog2 num den - (precision - 1)) leastExponent
    let m := roundEven (num * scaleDown 2 e) (scaleUp 2 den e)
    let (m, e) := if m = Nat.pow 2 precision then (Nat.pow 2 (precision - 1), e + 1) else (m, e)
    if greatestExponent < e then .infinite negative else .finite negative m e

/-- The number nearest to a decimal.  A decimal far out of range is not expanded: from `10 ^ 310` on
it is infinite, and below `10 ^ -330` it is zero. -/
def ofDecimal (d : Numeral.Decimal) : Binary64 :=
  let size : Int := (Numeral.digits d.coefficient).length + d.exponent
  if d.coefficient = 0 ∨ size < -330 then .finite d.negative 0 leastExponent
  else if 310 < size then .infinite d.negative
  else ofRatio d.negative (scaleUp 10 d.coefficient d.exponent) (scaleDown 10 d.exponent)

end Binary64

end InstanceCatalog
