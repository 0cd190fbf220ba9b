import InstanceCatalog.Deflate.Bits

/-! # Prefix codes

A prefix code is a tree in which each bit chooses a branch.  It is given by the length of the code
of each symbol: in each depth of the tree the symbols come first, in their order, and the branches
that go deeper come after them. -/

namespace InstanceCatalog.Deflate

/-- A branch of a code. -/
inductive CodeTree where
  /-- Bits that are no code. -/
  | missing
  | symbol (n : Nat)
  | fork (zero one : CodeTree)
deriving Repr

namespace CodeTree

def isWhole : CodeTree → Bool
  | .missing => false
  | .symbol _ => true
  | .fork zero one => zero.isWhole && one.isWhole

/-- Reads a symbol, or bits that are none. -/
def read : CodeTree → Reader (Option Nat)
  | .missing => return none
  | .symbol n => return some n
  | .fork zero one => do
    let b ← Reader.bit
    if b then one.read else zero.read

end CodeTree

/-- A code for more than nothing: each symbol takes a bit at least. -/
structure PrefixCode where
  zero : CodeTree
  one : CodeTree

namespace PrefixCode

/-- The code of no symbols. -/
def empty : PrefixCode := ⟨.missing, .missing⟩

def read (c : PrefixCode) : Reader (Option Nat) := do
  let b ← Reader.bit
  if b then c.one.read else c.zero.read

/-- The longest code of a symbol. -/
def depth : Nat := 15

/-- The symbols with codes of some length. -/
def symbols (lengths : List Nat) (length : Nat) : List CodeTree :=
  (lengths.zipIdx.filter (·.1 == length)).map fun l ↦ .symbol l.2

/-- Branches two by two. -/
def pairs : List CodeTree → List PrefixCode
  | [] => []
  | [t] => [⟨t, .missing⟩]
  | t :: u :: ts => ⟨t, u⟩ :: pairs ts

/-- The branches in a depth that is so far above the deepest one. -/
def level (lengths : List Nat) : Nat → List CodeTree
  | 0 => symbols lengths depth
  | above + 1 =>
    symbols lengths (depth - (above + 1))
      ++ (pairs (level lengths above)).map fun c ↦ .fork c.zero c.one

/-- The code in which symbols have the given lengths, of which zero stands for no code.  The code
uses all bits; `loose` allows that of a single symbol, which uses half of them.  A code of no
symbols reads none. -/
def ofLengths? (loose : Bool) (lengths : List Nat) : Option PrefixCode :=
  match pairs (level lengths (depth - 1)) with
  | [] => some empty
  | [c] =>
    if c.zero.isWhole && c.one.isWhole || loose && lengths.all (· ≤ 1) then some c else none
  | _ => none

theorem lt_of_run_read {c : PrefixCode} {s : Bits} {n : Option Nat} {rest : Bits}
    (h : c.read.run s = .ok (n, rest)) : rest.length < s.length :=
  Reader.lt_of_run_bit_bind h

end PrefixCode

end InstanceCatalog.Deflate
