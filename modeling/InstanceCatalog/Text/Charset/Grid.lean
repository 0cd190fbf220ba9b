/-! # Characters in rows and cells

The sets of East Asia have their characters in rows of cells.  Rows have numbers of their own, and
the cells of a row are numbered from one. -/

namespace InstanceCatalog.Text.Charset

/-- Some rows of characters, with a replacement character in a cell that has none. -/
structure Grid where
  /-- The number of the first row. -/
  first : Nat
  rows : Array (Array Char)

namespace Grid

def ofRows (first : Nat) (rows : List String) : Grid :=
  ⟨first, (rows.map (·.toList.toArray)).toArray⟩

/-- The character in a cell, if there is one. -/
def char? (g : Grid) (row cell : Nat) : Option Char := do
  guard (g.first ≤ row ∧ 1 ≤ cell)
  let cells ← g.rows[row - g.first]?
  let c ← cells[cell - 1]?
  guard (c ≠ '\ufffd')
  return c

/-- The character in a cell of the first of some grids that has one. -/
def charOf? (gs : List Grid) (row cell : Nat) : Option Char := gs.findSome? (·.char? row cell)

/-- The characters from one to another that a grid has not, in order. -/
def missing (g : Grid) (low high : Char) : Array Char :=
  let marked := g.rows.foldl (fun marked cells ↦ cells.foldl (fun marked c ↦
    if low ≤ c ∧ c ≤ high then marked.setIfInBounds (c.toNat - low.toNat) true else marked) marked)
    (Array.replicate (high.toNat + 1 - low.toNat) false)
  (Array.range marked.size).filterMap fun i ↦
    if marked[i]? = some false then some (Char.ofNat (low.toNat + i)) else none

end Grid

end InstanceCatalog.Text.Charset
