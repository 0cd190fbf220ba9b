import InstanceCatalog.Numeral.Lenient

/-! # Decimal numerals

A plain decimal numeral is an optional sign, digits with an optional point among or around them, and
an optional exponent.  It stands for a decimal coefficient times a power of ten. -/

namespace InstanceCatalog.Numeral

open Text

/-- The number `coefficient * 10 ^ exponent`, with a sign that zero keeps. -/
structure Decimal where
  negative : Bool
  coefficient : Nat
  exponent : Int
deriving DecidableEq, Repr

namespace Decimal

/-- The exponent that ends a numeral: nothing, or a letter e, an optional sign and digits. -/
def exponent? : List Char → Option Int
  | [] => some 0
  | c :: s =>
    let (negative, ds) := splitSign s
    if (c = 'e' ∨ c = 'E') ∧ isDigits ds then some (applySign negative (ofDigits ds)) else none

/-- The fraction after the digits of a numeral, if a point starts one, and what follows it. -/
def splitFraction : List Char → List Char × List Char
  | '.' :: s => (s.takeWhile isAsciiDigit, s.dropWhile isAsciiDigit)
  | s => ([], s)

def ofPlain? (s : List Char) : Option Decimal :=
  let (negative, body) := splitSign s
  let whole := body.takeWhile isAsciiDigit
  let (fraction, rest) := splitFraction (body.dropWhile isAsciiDigit)
  if whole.isEmpty && fraction.isEmpty then none
  else (exponent? rest).map fun e ↦ ⟨negative, ofDigits (whole ++ fraction), e - fraction.length⟩

end Decimal

end InstanceCatalog.Numeral
