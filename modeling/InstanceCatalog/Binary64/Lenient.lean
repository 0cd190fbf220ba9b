import InstanceCatalog.Binary64.Basic

/-! # Reading binary numbers from lenient numerals -/

namespace InstanceCatalog.Binary64

open Numeral

/-- The numbers with names, in small letters. -/
def ofName? (negative : Bool) (s : String) : Option Binary64 :=
  if s = "inf" ∨ s = "infinity" then some (.infinite negative)
  else if s = "nan" then some .nan
  else none

/-- A decimal numeral with white space around it, digits of any script and underscores between
digits, or the name of an infinity or of no number. -/
def ofLenient? (s : List Char) : Option Binary64 :=
  match dropUnderscores? false ((Text.trim isMargin s).map asciiDigit) with
  | none => none
  | some t =>
    let (negative, body) := splitSign t
    match ofName? negative (String.ofList (body.map Char.toLower)) with
    | some x => some x
    | none => (Decimal.ofPlain? t).map ofDecimal

end InstanceCatalog.Binary64
