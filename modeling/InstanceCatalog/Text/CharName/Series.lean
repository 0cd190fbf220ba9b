import InstanceCatalog.Text.Pieces

/-! # Names in a row -/

namespace InstanceCatalog.Text.CharName

/-- The names of some characters, one after the other. -/
structure Series where
  /-- The number of the first character. -/
  first : Nat
  /-- What all of the names start with. -/
  head : String
  /-- What is left of each name, with commas between. -/
  tails : String

/-- The number of the character that a name has in a series. -/
def Series.find? (s : Series) (name : List Char) : Option Nat :=
  if s.head.toList.isPrefixOf name then
    ((splitAt (· == ',') s.tails.toList).idxOf? (name.drop s.head.length)).map (s.first + ·)
  else none

end InstanceCatalog.Text.CharName
