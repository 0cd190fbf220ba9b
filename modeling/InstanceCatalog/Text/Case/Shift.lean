/-! # Runs of letters that change case by one distance -/

namespace InstanceCatalog.Text.Case

/-- Every `step`-th code point from `first` to `last` moves by `distance`. -/
structure Shift where
  first : Nat
  last : Nat
  step : Nat
  distance : Int

namespace Shift

def moves (s : Shift) (n : Nat) : Bool := s.first ≤ n && n ≤ s.last && (n - s.first) % s.step == 0

/-- The code point where the first shift that moves `n` takes it, or `n` itself. -/
def apply (shifts : List Shift) (n : Nat) : Nat :=
  match shifts.find? (·.moves n) with
  | some s => (n + s.distance).toNat
  | none => n

end Shift

end InstanceCatalog.Text.Case
