import InstanceCatalog.Numeral.Digits
import InstanceCatalog.Text.Quoted

/-! # Values that explain an error -/

namespace InstanceCatalog

/-- What stands beside a key in the context of an error. -/
inductive Detail where
  | text (s : String)
  | number (i : Int)
  | flag (b : Bool)
  | missing
  | items (ds : List Detail)

namespace Detail

mutual

/-- A value as it is shown: texts in marks, lists in brackets. -/
def shown : Detail → String
  | .text s => Text.quoted s
  | .number i => Numeral.decimal i
  | .flag b => if b then "True" else "False"
  | .missing => "None"
  | .items ds => "[" ++ shownItems ds ++ "]"

def shownItems : List Detail → String
  | [] => ""
  | [d] => shown d
  | d :: e :: ds => shown d ++ ", " ++ shownItems (e :: ds)

end

@[simp] theorem shown_text (s : String) : shown (.text s) = Text.quoted s := by simp [shown]
@[simp] theorem shown_number (i : Int) : shown (.number i) = Numeral.decimal i := by simp [shown]

end Detail

end InstanceCatalog
