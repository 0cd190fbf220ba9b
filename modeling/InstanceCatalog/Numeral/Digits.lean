import InstanceCatalog.Text.Digit

/-! # Runs of decimal digits -/

namespace InstanceCatalog.Numeral

open Text

/-- The number a run of ASCII digits writes. -/
def ofDigits (ds : List Char) : Nat := ds.foldl (fun n d ↦ 10 * n + (d.toNat - 0x30)) 0

@[simp] theorem ofDigits_nil : ofDigits [] = 0 := rfl

theorem ofDigits_concat (ds : List Char) (d : Char) :
    ofDigits (ds ++ [d]) = 10 * ofDigits ds + (d.toNat - 0x30) := by simp [ofDigits]

/-- The digits of a number, without leading zeros. -/
def digits (n : Nat) : List Char := Nat.toDigits 10 n

/-- An integer with a minus when it is negative and no sign otherwise. -/
def signed : Int → List Char
  | .ofNat n => digits n
  | .negSucc n => '-' :: digits (n + 1)

def decimal (i : Int) : String := String.ofList (signed i)

/-- The sign in front of a numeral, with whether it is a minus, and what follows it. -/
def splitSign : List Char → Bool × List Char
  | '-' :: s => (true, s)
  | '+' :: s => (false, s)
  | s => (false, s)

@[simp] theorem splitSign_nil : splitSign [] = (false, []) := rfl
@[simp] theorem splitSign_minus (s : List Char) : splitSign ('-' :: s) = (true, s) := rfl
@[simp] theorem splitSign_plus (s : List Char) : splitSign ('+' :: s) = (false, s) := rfl

def applySign (negative : Bool) (n : Nat) : Int := if negative then -n else n

/-- One or more ASCII digits and nothing else. -/
def isDigits (s : List Char) : Bool := !s.isEmpty && s.all isAsciiDigit

end InstanceCatalog.Numeral
