import InstanceCatalog.Text.Case.Context
import InstanceCatalog.Text.Case.Lower
import InstanceCatalog.Text.Case.Upper

/-! # Small letters and capitals

Case is changed over whole texts: a capital may become several letters, and the small form of a
capital sigma depends on the letters around it. -/

namespace InstanceCatalog.Text

namespace Case

/-- The small letters of a character on its own. -/
def lowerChar (c : Char) : List Char :=
  if c.toNat < 0x80 then [c.toLower]
  else if c = 'İ' then ['i', '\u0307']
  else [Char.ofNat (Shift.apply lowerShifts c.toNat)]

/-- The capitals of a character. -/
def upperChar (c : Char) : List Char :=
  if c.toNat < 0x80 then [c.toUpper]
  else match upperSpreads.lookup c.toNat with
    | some ns => ns.map Char.ofNat
    | none => [Char.ofNat (Shift.apply upperShifts c.toNat)]

/-- Whether the first character that is not looked through has case. -/
def nextIsCased (s : List Char) : Bool :=
  match s.dropWhile isTransparent with
  | [] => false
  | c :: _ => isCased c

/-- A sigma ends a word when a cased letter stands before it and none after it. -/
def lowerSigma (before after : List Char) : Char :=
  if nextIsCased before && !nextIsCased after then 'ς' else 'σ'

/-- Small letters for a text whose earlier characters, last first, are `before`. -/
def lowerFrom (before : List Char) : List Char → List Char
  | [] => []
  | c :: s => (if c = 'Σ' then [lowerSigma before s] else lowerChar c) ++ lowerFrom (c :: before) s

@[simp] theorem lowerFrom_nil (before : List Char) : lowerFrom before [] = [] := rfl

theorem lowerFrom_cons {c : Char} (h : c ≠ 'Σ') (before s : List Char) :
    lowerFrom before (c :: s) = lowerChar c ++ lowerFrom (c :: before) s := by simp [lowerFrom, h]

end Case

/-- A text in small letters. -/
def lower (s : List Char) : List Char := Case.lowerFrom [] s

/-- A text in capitals. -/
def upper (s : List Char) : List Char := s.flatMap Case.upperChar

end InstanceCatalog.Text
