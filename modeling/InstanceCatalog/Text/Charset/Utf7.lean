import InstanceCatalog.Text.Charset.Units

/-! # UTF-7

All but plain ASCII is written in units of 16 bits, which run through digits of six bits each
between a plus sign and the first character that is no digit. -/

namespace InstanceCatalog.Text.Charset.Utf7

/-- The value of a digit. -/
def digit? (b : UInt8) : Option Nat :=
  let n := b.toNat
  if 0x41 ≤ n ∧ n ≤ 0x5A then some (n - 0x41)
  else if 0x61 ≤ n ∧ n ≤ 0x7A then some (n - 0x61 + 26)
  else if 0x30 ≤ n ∧ n ≤ 0x39 then some (n - 0x30 + 52)
  else if n = 0x2B then some 62
  else if n = 0x2F then some 63
  else none

/-- How far a run of digits is read. -/
structure Run where
  /-- How many bits are left over. -/
  bits : Nat := 0
  /-- The number of the bits that are left over. -/
  number : Nat := 0
  /-- The first unit of a pair, if the second is still to come. -/
  high : Option Nat := none

/-- Whether a run may end: less than a digit is left over, and no bit of it is set. -/
def Run.mayEnd (r : Run) : Bool := r.bits < 6 && (r.bits == 0 || r.number == 0)

/-- The code points up to the next unit, and the first unit of a pair that it may be. -/
def nextUnit (high : Option Nat) (n : Nat) : List Nat × Option Nat :=
  match high with
  | some h =>
    if Utf16.isLow n then ([(Utf16.ofPair h n).toNat], none)
    else if Utf16.isHigh n then ([h], some n)
    else ([h, n], none)
  | none => if Utf16.isHigh n then ([], some n) else ([n], none)

/-- A run with one more digit, and the code points that it completes. -/
def Run.add (r : Run) (d : Nat) : List Nat × Run :=
  let bits := r.bits + 6
  let number := 0x40 * r.number + d
  if bits < 16 then ([], { r with bits, number })
  else
    let left := Nat.pow 2 (bits - 16)
    let (ns, high) := nextUnit r.high (number / left)
    (ns, ⟨bits - 16, number % left, high⟩)

/-- The first unit of a pair of which the second one never came, in front of a byte.  It is lost if
that byte is not ASCII. -/
def Run.loneUnit? (r : Run) (b : UInt8) : Option Nat := if b < 0x80 then r.high else none

/-- Reads bytes after what is read already, which is in reverse, within a run of digits or outside
of one. -/
def readOn (done : List (Option Nat)) (run : Option Run) (bs : Bytes) : List (Option Nat) :=
  match run, bs with
  | none, [] => done.reverse
  | some r, [] => if r.mayEnd && r.high.isNone then done.reverse else (none :: done).reverse
  | none, b :: bs =>
    if b = 0x2B then
      match bs with
      | [] => readOn done (some {}) []
      | c :: rest =>
        if c = 0x2D then readOn (some b.toNat :: done) none rest
        else if (digit? c).isSome then readOn done (some {}) (c :: rest)
        else readOn (none :: done) none rest
    else if b < 0x80 then readOn (some b.toNat :: done) none bs
    else readOn (none :: done) none bs
  | some r, b :: bs =>
    match digit? b with
    | some d =>
      let (ns, r) := r.add d
      readOn ((ns.map some).reverse ++ done) (some r) bs
    | none =>
      if !r.mayEnd then readOn (none :: done) none bs
      else
        let done := (r.loneUnit? b).toList.map some ++ done
        if b = 0x2D then readOn done none bs else readOn done none (b :: bs)
termination_by (bs.length, run.toList.length)

/-- The code points of some bytes, with gaps.  Some may be units of pairs. -/
def decode (bs : Bytes) : List (Option Nat) := readOn [] none bs

end InstanceCatalog.Text.Charset.Utf7
