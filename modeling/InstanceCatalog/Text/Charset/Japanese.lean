import InstanceCatalog.Text.Charset.Japanese.Basic
import InstanceCatalog.Text.Charset.Japanese.Extension
import InstanceCatalog.Text.Charset.Japanese.Supplement
import InstanceCatalog.Text.Charset.Japanese.Vendor
import InstanceCatalog.Text.Charset.Reading

/-! # Japanese text

The characters of Japanese stand in rows of 94 cells.  One way of coding keeps bytes for small kana
and squeezes two rows into each byte that leads; the other takes the row and the cell as they are,
with the highest bit set. -/

namespace InstanceCatalog.Text.Charset

/-- Which characters of Japanese there are. -/
inductive Japanese where
  | basic
  /-- With those that vendors added. -/
  | vendor
  /-- With the extension in its first edition. -/
  | extended2000
  | extended2004
deriving DecidableEq, Repr

namespace Japanese

/-- The cells of the extension that came with its second edition. -/
def newIn2004 : List (Nat × Nat) :=
  [(14, 1), (15, 94), (47, 52), (47, 94), (84, 7), (94, 90), (94, 91), (94, 92), (94, 93), (94, 94)]

/-- The cells of the extension in which two characters make up one letter. -/
def pairs : List ((Nat × Nat) × String) :=
  [((4, 87), "か\u309a"), ((4, 88), "き\u309a"), ((4, 89), "く\u309a"), ((4, 90), "け\u309a"),
    ((4, 91), "こ\u309a"), ((5, 87), "カ\u309a"), ((5, 88), "キ\u309a"), ((5, 89), "ク\u309a"),
    ((5, 90), "ケ\u309a"), ((5, 91), "コ\u309a"), ((5, 92), "セ\u309a"), ((5, 93), "ツ\u309a"),
    ((5, 94), "ト\u309a"), ((6, 88), "ㇷ\u309a"), ((11, 36), "æ\u0300"), ((11, 40), "ɔ\u0300"),
    ((11, 41), "ɔ\u0301"), ((11, 42), "ʌ\u0300"), ((11, 43), "ʌ\u0301"), ((11, 44), "ə\u0300"),
    ((11, 45), "ə\u0301"), ((11, 46), "ɚ\u0300"), ((11, 47), "ɚ\u0301"), ((11, 69), "˩˥"),
    ((11, 70), "˥˩")]

def basic? (row cell : Nat) : Option Char := Grid.charOf? [Grid.signs, Grid.kanji] row cell

def supplement? (row cell : Nat) : Option Char :=
  Grid.charOf? [Grid.supplementLetters, Grid.supplementKanji] row cell

/-- The character of the first plane of the extension, for two bytes.  Cells of the second edition
are gaps of both bytes in the first. -/
def firstPlane (edition : Japanese) (row cell : Nat) : Reading Char :=
  if edition = .extended2000 ∧ newIn2004.contains (row, cell) then .gap 1
  else match pairs.lookup (row, cell) with
    | some s => .chars s.toList 1
    | none =>
      .ofChar? (basic? row cell <|> Grid.charOf? [Grid.extensionSigns, Grid.extensionMiddle,
        Grid.extensionKanji] row cell) 1

/-- The character of the second plane of the extension.  One was another in the first edition. -/
def secondPlane? (edition : Japanese) (row cell : Nat) : Option Char :=
  if edition = .extended2000 ∧ row = 93 ∧ cell = 27 then some '鬝'
  else Grid.charOf? [Grid.secondPlaneStart, Grid.secondPlaneEnd] row cell

/-! ## Shifted rows -/

/-- The first number of the small kana. -/
def smallKana : Nat := 0xFF61

/-- The small kana of a byte. -/
def kana? (n : Nat) : Option Char :=
  if 0xA1 ≤ n ∧ n ≤ 0xDF then some (Char.ofNat (smallKana + (n - 0xA1))) else none

/-- The character of a byte on its own. -/
def single? (edition : Japanese) (n : Nat) : Option Char :=
  match edition with
  | .basic => if n < 0x80 then some (Char.ofNat n) else kana? n
  | .vendor =>
    if n ≤ 0x80 then some (Char.ofNat n)
    else if n = 0xA0 then some '\uf8f0'
    else if 0xFD ≤ n then some (Char.ofNat (0xF8F1 + (n - 0xFD)))
    else kana? n
  | _ =>
    if n = 0x5C then some '¥' else if n = 0x7E then some '‾'
    else if n < 0x80 then some (Char.ofNat n) else kana? n

/-- The last byte that leads a pair. -/
def lastLead : Japanese → Nat
  | .basic => 0xEA
  | _ => 0xFC

/-- The row and the cell of a pair of bytes.  A byte leads two rows. -/
def shiftedCell? (lead trail : Nat) : Option (Nat × Nat) :=
  let pair := lead - (if lead < 0xE0 then 0x81 else 0xC1)
  let place := trail - (if trail < 0x80 then 0x40 else 0x41)
  if trail < 0x40 ∨ trail = 0x7F ∨ 0xFC < trail then none
  else some (2 * pair + place / 94 + 1, place % 94 + 1)

/-- The characters that vendors read in other ways. -/
def vendorReadings : List ((Nat × Nat) × Char) :=
  [((1, 33), '～'), ((1, 34), '∥'), ((1, 61), '－'), ((1, 81), '￠'), ((1, 82), '￡'),
    ((2, 44), '￢')]

/-- The character of a cell among those of vendors; users have 20 rows of their own. -/
def vendor? (row cell : Nat) : Option Char :=
  vendorReadings.lookup (row, cell)
    <|> Grid.charOf? [Grid.vendorSigns, Grid.vendorKanji, Grid.vendorExtras] row cell
    <|> basic? row cell
    <|> (if 95 ≤ row ∧ row ≤ 114 then some (Char.ofNat (0xE000 + 94 * (row - 95) + (cell - 1)))
      else none)

/-- The rows of the second plane that follow those of the first. -/
def rowsBehind : List Nat := [1, 8, 3, 4, 5, 12, 13, 14, 15]

/-- What a cell stands for in shifted rows.  Where the byte of a backslash stands for another sign,
the backslash has a cell. -/
def shifted (edition : Japanese) (row cell : Nat) : Reading Char :=
  match edition with
  | .basic => .ofChar? (basic? row cell) 1
  | .vendor => .ofChar? (vendor? row cell) 1
  | _ =>
    if row = 1 ∧ cell = 32 then .chars ['\\'] 1
    else if row ≤ 94 then firstPlane edition row cell
    else .ofChar? (secondPlane? edition (rowsBehind[row - 95]?.getD (row - 26)) cell) 1

/-- The rule of text with shifted rows. -/
def shiftRule (edition : Japanese) (b : UInt8) (bs : Bytes) : Reading Char :=
  let lead := b.toNat
  match single? edition lead with
  | some c => .chars [c] 0
  | none =>
    if lead = 0x80 ∨ lead = 0xA0 ∨ edition.lastLead < lead then .gap 0
    else .withSecond bs fun trail ↦
      match shiftedCell? lead trail with
      | some (row, cell) => shifted edition row cell
      | none => .gap 0

/-! ## Rows as they are -/

/-- The rule of text in which rows and cells are as they are.  One byte stands before small kana,
and another before a supplement.  The cell of a tilde stands for a wide one. -/
def extendedRule (edition : Japanese) (b : UInt8) (bs : Bytes) : Reading Char :=
  if b < 0x80 then .chars [Char.ofNat b.toNat] 0
  else if b = 0x8E then .withSecond bs fun n ↦ .ofChar? (kana? n) 1
  else if b = 0x8F then
    match bs with
    | row :: cell :: _ =>
      let row := row.toNat - 0xA0
      let cell := cell.toNat - 0xA0
      let second := if edition = .basic then none else secondPlane? edition row cell
      .ofChar? (second <|> supplement? row cell) 2
    | _ => .unfinished
  else .withSecond bs fun n ↦
    let row := b.toNat - 0xA0
    let cell := n - 0xA0
    if edition = .basic then .ofChar? (basic? row cell) 1
    else if row = 2 ∧ cell = 18 then .chars ['～'] 1
    else firstPlane edition row cell

end Japanese

end InstanceCatalog.Text.Charset
