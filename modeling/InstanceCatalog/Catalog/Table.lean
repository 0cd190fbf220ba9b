import InstanceCatalog.Binary64.Written
import InstanceCatalog.Catalog.Record

/-! # Records as lines of a table

A short field is filled up to its width; a long one takes the space it needs. -/

namespace InstanceCatalog

namespace Text

/-- Spaces after a text up to a width. -/
def padAfter (width : Nat) (s : List Char) : List Char :=
  s ++ List.replicate (width - s.length) ' '

/-- Spaces before a text up to a width. -/
def padBefore (width : Nat) (s : List Char) : List Char :=
  List.replicate (width - s.length) ' ' ++ s

end Text

namespace Record

open Text

def line (r : Record) : String :=
  String.ofList <|
    ' ' :: ' ' :: padAfter 14 r.name.toList ++ ' ' :: padBefore 3 (Numeral.signed r.cpus)
      ++ " vCPU  ".toList ++ padBefore 7 r.memory.sixDigits.toList
      ++ " GiB  ".toList ++ r.clockSpeed.sixDigits.toList
      ++ " GHz  ".toList ++ r.storage.toList

end Record

end InstanceCatalog
