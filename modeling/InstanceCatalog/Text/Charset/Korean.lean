import InstanceCatalog.Text.Charset.Korean.Basic
import InstanceCatalog.Text.Charset.Reading
import InstanceCatalog.Text.CodePoint

/-! # Korean text

A syllable is made of a letter at its start, a vowel, and perhaps a letter at its end.  One set has
the common syllables only; others add the rest of them, or code each letter in five bits. -/

namespace InstanceCatalog.Text.Charset

namespace Korean

def basic? (row cell : Nat) : Option Char :=
  Grid.charOf? [Grid.koreanSigns, Grid.syllables, Grid.hanja] row cell

/-! ## Syllables -/

/-- The letters at the start of syllables. -/
def starts : List Char := "ㄱㄲㄴㄷㄸㄹㅁㅂㅃㅅㅆㅇㅈㅉㅊㅋㅌㅍㅎ".toList

def vowels : List Char := "ㅏㅐㅑㅒㅓㅔㅕㅖㅗㅘㅙㅚㅛㅜㅝㅞㅟㅠㅡㅢㅣ".toList

/-- The letters at the end of syllables. -/
def ends : List Char := "ㄱㄲㄳㄴㄵㄶㄷㄹㄺㄻㄼㄽㄾㄿㅀㅁㅂㅄㅅㅆㅇㅈㅊㅋㅌㅍㅎ".toList

/-- The syllable of some letters, by their places. -/
def syllable (start vowel ending : Nat) : Char := Char.ofNat (Hangul.syllable start vowel ending)

/-- The letter of a byte. -/
def letter? (b : UInt8) : Option Char :=
  if 0xA1 ≤ b then some (Char.ofNat (0x3131 + (b.toNat - 0xA1))) else none

/-- The byte that stands for no letter. -/
def filler : UInt8 := 0xD4

/-- The syllable of the letters that three bytes stand for. -/
def composed? (start vowel ending : UInt8) : Option Char := do
  let s ← starts.idxOf? (← letter? start)
  let v ← vowels.idxOf? (← letter? vowel)
  let e ← if ending = filler then some 0
    else (letter? ending).bind ends.idxOf? |>.map (· + 1)
  return syllable s v e

/-- The rule of rows and cells as they are.  A syllable may be written letter by letter behind a
filler. -/
def basicRule (b : UInt8) (bs : Bytes) : Reading Char :=
  if b < 0x80 then .chars [Char.ofNat b.toNat] 0
  else if b = 0xA4 ∧ bs.head? = some filler then
    match bs with
    | _ :: m₁ :: start :: m₂ :: vowel :: m₃ :: ending :: _ =>
      if m₁ = b ∧ m₂ = b ∧ m₃ = b then .ofChar? (composed? start vowel ending) 7 else .gap 0
    | _ => .unfinished
  else .withSecond bs fun n ↦ .ofChar? (basic? (b.toNat - 0xA0) (n - 0xA0)) 1

/-! ## All syllables in order -/

/-- The syllables that the basic set has not. -/
def otherSyllables : Array Char := Grid.syllables.missing '가' '힣'

/-- The place of a byte among those that trail: letters of either case, and those from 0x81 on. -/
def trailPlace? (n : Nat) : Option Nat :=
  if 0x41 ≤ n ∧ n ≤ 0x5A then some (n - 0x41)
  else if 0x61 ≤ n ∧ n ≤ 0x7A then some (n - 0x61 + 26)
  else if 0x81 ≤ n ∧ n ≤ 0xFE then some (n - 0x81 + 52)
  else none

/-- The number of a pair of bytes outside the basic set, in rows of 178 and then of 84. -/
def unifiedNumber? (lead trail : Nat) : Option Nat := do
  let place ← trailPlace? trail
  guard (0x81 ≤ lead)
  if lead ≤ 0xA0 then return 178 * (lead - 0x81) + place
  guard (place < 84)
  return 178 * 32 + 84 * (lead - 0xA1) + place

/-- The rule of the set of all syllables. -/
def unifiedRule (b : UInt8) (bs : Bytes) : Reading Char :=
  if b < 0x80 then .chars [Char.ofNat b.toNat] 0
  else .withSecond bs fun n ↦
    .ofChar? (basic? (b.toNat - 0xA0) (n - 0xA0)
      <|> (unifiedNumber? b.toNat n).bind (otherSyllables[·]?)) 1

/-! ## Letters in five bits -/

/-- A place that five bits stand for. -/
inductive Slot where
  | empty
  | letter (place : Nat)
deriving DecidableEq, Repr

def startSlot? (code : Nat) : Option Slot :=
  if code = 1 then some .empty
  else if 2 ≤ code ∧ code ≤ 20 then some (.letter (code - 2))
  else none

/-- The codes of vowels leave out two of each eight. -/
def vowelSlot? (code : Nat) : Option Slot :=
  if code = 2 then some .empty
  else if 3 ≤ code ∧ code ≤ 29 ∧ 2 ≤ code % 8 then
    some (.letter (code / 8 * 6 + code % 8 - 3))
  else none

def endSlot? (code : Nat) : Option Slot :=
  if code = 1 then some .empty
  else if 2 ≤ code ∧ code ≤ 17 then some (.letter (code - 2))
  else if 19 ≤ code ∧ code ≤ 29 then some (.letter (code - 3))
  else none

/-- What slots stand for: a syllable, a letter on its own, or a blank. -/
def ofSlots? : Slot → Slot → Slot → Option Char
  | .empty, .empty, .empty => some '\u3000'
  | .letter s, .empty, .empty => starts[s]?
  | .empty, .letter v, .empty => vowels[v]?
  | .empty, .empty, .letter e => ends[e]?
  | .letter s, .letter v, .empty => some (syllable s v 0)
  | .letter s, .letter v, .letter e => some (syllable s v (e + 1))
  | _, _, _ => none

/-- The character of two bytes that code letters. -/
def lettered? (lead trail : Nat) : Option Char := do
  ofSlots? (← startSlot? (lead / 4 % 32)) (← vowelSlot? (lead % 4 * 8 + trail / 32))
    (← endSlot? (trail % 32))

/-- The character of two bytes that code a cell of the basic set; letters and syllables are not
coded so.  A byte leads two rows. -/
def shifted? (lead trail : Nat) : Option Char := do
  guard (0xD9 ≤ lead ∧ lead ≠ 0xDF ∧ lead ≤ 0xF9)
  guard (0x31 ≤ trail ∧ (trail < 0x80 ∨ 0x91 ≤ trail) ∧ trail % 0x80 ≠ 0x7F)
  guard (lead ≠ 0xDA ∨ trail < 0xA1 ∨ 0xD3 < trail)
  let row := if lead < 0xE0 then 2 * (lead - 0xD9) else 2 * lead - 0x197
  let place := trail - if trail < 0x91 then 0x31 else 0x43
  basic? (row + place / 94 + 1) (place % 94 + 1)

/-- The rule of letters in five bits. -/
def letteredRule (b : UInt8) (bs : Bytes) : Reading Char :=
  if b < 0x80 then .chars [Char.ofNat b.toNat] 0
  else .withSecond bs fun n ↦
    .ofChar? (if b < 0xD8 then lettered? b.toNat n else shifted? b.toNat n) 1

end Korean

end InstanceCatalog.Text.Charset
