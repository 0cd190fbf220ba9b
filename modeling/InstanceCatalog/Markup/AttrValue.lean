import InstanceCatalog.Numeral.Digits

/-! # Attribute values

A value is one text, or it was taken apart into words.  Documents hold texts alone, so words are put
together again. -/

namespace InstanceCatalog.Markup

inductive AttrValue where
  | text (s : String)
  | words (ws : List String)
  | number (i : Int)
deriving DecidableEq, Repr

/-- A value as one text, with single spaces between words. -/
def AttrValue.joined : AttrValue → String
  | .text s => s
  | .words ws => " ".intercalate ws
  | .number i => Numeral.decimal i

end InstanceCatalog.Markup
