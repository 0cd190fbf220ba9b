import InstanceCatalog.Text.Charset.Chinese.HongKong
import InstanceCatalog.Text.Charset.Chinese.National
import InstanceCatalog.Text.Charset.Chinese.Simplified
import InstanceCatalog.Text.Charset.Chinese.Traditional
import InstanceCatalog.Text.Charset.Reading

/-! # Chinese text

The simplified characters stand in rows of 94 cells, and later sets put the other ideographs around
them, in the order of their code points.  The traditional characters have rows of their own. -/

namespace InstanceCatalog.Text.Charset

namespace Chinese

/-! ## Simplified characters -/

def simplified? (row cell : Nat) : Option Char :=
  Grid.charOf? [Grid.simplifiedSigns, Grid.simplified] row cell

/-- The number of a pair of bytes in rows of 190, if it has one. -/
def wideNumber? (lead trail : Nat) : Option Nat :=
  if lead < 0x81 ∨ trail < 0x40 ∨ trail = 0x7F ∨ 0xFE < trail then none
  else some (190 * (lead - 0x81) + (trail - if trail < 0x7F then 0x40 else 0x41))

/-- The place of a number among the ideographs that stand before the simplified ones and beside
them, in rows of 190 and of 96. -/
def ideographPlace? (n : Nat) : Option Nat :=
  if n / 190 < 32 then some n
  else if 41 ≤ n / 190 ∧ n % 190 < 96 then some (32 * 190 + 96 * (n / 190 - 41) + n % 190)
  else none

/-- The ideographs that are not simplified, and then some that are compatible with others. -/
def otherIdeographs : Array Char :=
  Grid.simplified.missing '一' '龥'
    ++ ("\uf92c\uf979\uf995\uf9e7\uf9f1\ufa0c\ufa0d\ufa0e\ufa0f\ufa11\ufa13\ufa14"
      ++ "\ufa18\ufa1f\ufa20\ufa21\ufa23\ufa24\ufa27\ufa28\ufa29").toList.toArray

/-- The signs beside simplified characters by the numbers of their first ones. -/
def widerSigns : List (Nat × String) :=
  [(6366, "ⅰⅱⅲⅳⅴⅵⅶⅷⅸⅹ"),
    (7189, "︵︶︹︺︿﹀︽︾﹁﹂﹃﹄"),
    (7203, "︻︼︷︸︱"),
    (7209, "︳︴"),
    (7410, "ˊˋ˙–―‥‵℅℉↖↗↘↙∕∟∣≒≦≧⊿═║╒╓╔╕╖╗╘╙╚╛╜╝╞╟╠╡╢╣╤╥╦╧╨╩╪╫╬╭╮╯╰╱╲╳▁▂▃▄▅▆▇█▉▊▋▌▍▎"
      ++ "▏▓▔▕▼▽◢◣◤◥☉⊕〒〝〞"),
    (7532, "ɑ"),
    (7534, "ńň"),
    (7537, "ɡ"),
    (7600, "〡〢〣〤〥〦〧〨〩㊣㎎㎏㎜㎝㎞㎡㏄㏎㏑㏒㏕︰￢￤"),
    (7625, "℡㈱"),
    (7628, "‐"),
    (7632, "ー゛゜ヽヾ〆ゝゞ﹉﹊﹋﹌﹍﹎﹏﹐﹑﹒﹔﹕﹖﹗﹙﹚﹛﹜﹝﹞﹟﹠﹡﹢﹣﹤﹥﹦﹨﹩﹪﹫"),
    (7685, "〇")]

/-- The wider characters around the simplified ones. -/
def wider? (n : Nat) : Option Char :=
  (ideographPlace? n).bind (otherIdeographs[·]?)
    <|> widerSigns.findSome? fun s ↦ if s.1 ≤ n then s.2.toList[n - s.1]? else none

/-- The character of a pair of bytes in the wider set, which reads two signs in its own way. -/
def extended? (lead trail : Nat) : Option Char :=
  if lead = 0xA1 ∧ trail = 0xA4 then some '·'
  else if lead = 0xA1 ∧ trail = 0xAA then some '—'
  else simplified? (lead - 0xA0) (trail - 0xA0) <|> (wideNumber? lead trail).bind wider?

def national? (lead trail : Nat) : Option Char :=
  extended? lead trail
    <|> (wideNumber? lead trail).bind (NumberSpan.char? NumberSpan.nationalPairs)

/-- The character of four bytes, of which the second and the fourth are digits. -/
def ofFour? (a b c d : Nat) : Option Char :=
  let n := ((a - 0x81) * 10 + (b - 0x30)) * 1260 + (c - 0x81) * 10 + (d - 0x30)
  let beyond := n - 15 * 12600
  if a < 0x81 ∨ 0xFE < a ∨ c < 0x81 ∨ 0xFE < c ∨ d < 0x30 ∨ 0x39 < d then none
  else if n < 4 * 12600 then NumberSpan.char? NumberSpan.nationalFours n
  else if 15 * 12600 ≤ n ∧ beyond < 0x100000 then some (Char.ofNat (0x10000 + beyond))
  else none

/-- The rule of a set in which each byte from 0x80 on leads a pair. -/
def pairRule (char? : Nat → Nat → Option Char) (b : UInt8) (bs : Bytes) : Reading Char :=
  if b < 0x80 then .chars [Char.ofNat b.toNat] 0
  else .withSecond bs fun n ↦ .ofChar? (char? b.toNat n) 1

def simplifiedRule : UInt8 → Bytes → Reading Char :=
  pairRule fun lead trail ↦ simplified? (lead - 0xA0) (trail - 0xA0)

def extendedRule : UInt8 → Bytes → Reading Char := pairRule extended?

/-- The rule of the set of all characters: a digit in the second place means four bytes. -/
def nationalRule (b : UInt8) (bs : Bytes) : Reading Char :=
  if b < 0x80 then .chars [Char.ofNat b.toNat] 0
  else .withSecond bs fun n ↦
    if 0x30 ≤ n ∧ n ≤ 0x39 then
      match bs with
      | _ :: c :: d :: _ => .ofChar? (ofFour? b.toNat n c.toNat d.toNat) 3
      | _ => .unfinished
    else .ofChar? (national? b.toNat n) 1

/-- The rule of text in seven bits, in which a tilde and a brace start and end the pairs, and a
tilde at the end of a line is passed over.  The state says whether there are pairs. -/
def tildeRule (pairs : Bool) (b : UInt8) (bs : Bytes) : Reading Char × Bool :=
  if b = 0x7E then
    match bs with
    | [] => (.unfinished, pairs)
    | c :: _ =>
      if c = 0x7E ∧ !pairs then (.chars ['~'] 1, pairs)
      else if c = 0x7B ∧ !pairs then (.chars [] 1, true)
      else if c = 0x0A ∧ !pairs then (.chars [] 1, pairs)
      else if c = 0x7D ∧ pairs then (.chars [] 1, false)
      else (.gap 0, pairs)
  else if 0x80 ≤ b then (.gap 0, pairs)
  else if pairs then
    (.withSecond bs fun n ↦ .ofChar? (simplified? (b.toNat - 0x20) (n - 0x20)) 1, pairs)
  else (.chars [Char.ofNat b.toNat] 0, pairs)

/-! ## Traditional characters -/

/-- The character of a pair of bytes in grids for the cells below and above. -/
def ofHalves? (low high : List Grid) (lead trail : Nat) : Option Char :=
  if trail < 0x80 then Grid.charOf? low lead (trail - 0x3F)
  else Grid.charOf? high lead (trail - 0xA0)

def traditional? : Nat → Nat → Option Char :=
  ofHalves? [Grid.traditionalLow] [Grid.traditionalHigh]

/-- The signs that vendors read in other ways, and one that they added. -/
def vendorSigns : List ((Nat × Nat) × Char) :=
  [((0xA1, 0x45), '‧'), ((0xA1, 0x4E), '﹑'), ((0xA1, 0xC2), '¯'), ((0xA1, 0xE3), '～'),
    ((0xA1, 0xF2), '⊕'), ((0xA1, 0xF3), '⊙'), ((0xA2, 0x41), '∕'), ((0xA2, 0x42), '﹨'),
    ((0xA2, 0x44), '￥'), ((0xA2, 0x46), '￠'), ((0xA2, 0x47), '￡'), ((0xA3, 0xE1), '€')]

/-- The characters that vendors added after the others. -/
def vendorEnd : String :=
  "碁銹裏墻恒粧嫺╔╦╗╠╬╣╚╩╝╒╤╕╞╪╡╘╧╛╓╥╖╟╫╢╙╨╜║═╭╮╰╯▓"

def vendor? (lead trail : Nat) : Option Char :=
  vendorSigns.lookup (lead, trail) <|> traditional? lead trail
    <|> (if lead = 0xF9 ∧ 0xD6 ≤ trail then vendorEnd.toList[trail - 0xD6]? else none)

/-- The pairs of bytes in Hong Kong that stand for a letter of two characters. -/
def hongKongPairs : List ((Nat × Nat) × String) :=
  [((0x88, 0x62), "Ê\u0304"), ((0x88, 0x64), "Ê\u030c"), ((0x88, 0xA3), "ê\u0304"),
    ((0x88, 0xA5), "ê\u030c")]

/-- The character of a pair of bytes in Hong Kong, where the cells between common and other
characters are taken anew. -/
def hongKong? (lead trail : Nat) : Option Char :=
  let between := 0xC6 ≤ lead ∧ lead ≤ 0xC8 ∧ (0xC7 ≤ lead ∨ 0xA1 ≤ trail)
  (if between then none else traditional? lead trail)
    <|> ofHalves? [Grid.hongKongStartLow, Grid.hongKongMiddleLow, Grid.hongKongEndLow]
      [Grid.hongKongStartHigh, Grid.hongKongMiddleHigh, Grid.hongKongEndHigh] lead trail

def traditionalRule : UInt8 → Bytes → Reading Char := pairRule traditional?

def vendorRule : UInt8 → Bytes → Reading Char := pairRule vendor?

def hongKongRule (b : UInt8) (bs : Bytes) : Reading Char :=
  match bs.head?.bind fun c ↦ hongKongPairs.lookup (b.toNat, c.toNat) with
  | some s => .chars s.toList 1
  | none => pairRule hongKong? b bs

end Chinese

end InstanceCatalog.Text.Charset
