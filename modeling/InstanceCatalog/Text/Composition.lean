import InstanceCatalog.Text.CombiningClass
import InstanceCatalog.Text.Composition.Pairs
import InstanceCatalog.Text.CodePoint

/-! # Composed text

A letter with its marks can be written in several ways.  The composed one is had in three steps:
every character is taken apart, the marks after a letter are put in the order of their classes, and
what one character can stand for is put together again.  A text is composed if these steps leave it
as it is. -/

namespace InstanceCatalog.Text

namespace Composition

/-- The characters that no composed text holds. -/
def foreign : List Span :=
  [(0x340, 0x341), (0x343, 0x344), (0x374, 0x374), (0x37E, 0x37E), (0x387, 0x387), (0x958, 0x95F),
   (0x9DC, 0x9DD), (0x9DF, 0x9DF), (0xA33, 0xA33), (0xA36, 0xA36), (0xA59, 0xA5B), (0xA5E, 0xA5E),
   (0xB5C, 0xB5D), (0xF43, 0xF43), (0xF4D, 0xF4D), (0xF52, 0xF52), (0xF57, 0xF57), (0xF5C, 0xF5C),
   (0xF69, 0xF69), (0xF73, 0xF73), (0xF75, 0xF76), (0xF78, 0xF78), (0xF81, 0xF81), (0xF93, 0xF93),
   (0xF9D, 0xF9D), (0xFA2, 0xFA2), (0xFA7, 0xFA7), (0xFAC, 0xFAC), (0xFB9, 0xFB9), (0x1F71, 0x1F71),
   (0x1F73, 0x1F73), (0x1F75, 0x1F75), (0x1F77, 0x1F77), (0x1F79, 0x1F79), (0x1F7B, 0x1F7B),
   (0x1F7D, 0x1F7D), (0x1FBB, 0x1FBB), (0x1FBE, 0x1FBE), (0x1FC9, 0x1FC9), (0x1FCB, 0x1FCB),
   (0x1FD3, 0x1FD3), (0x1FDB, 0x1FDB), (0x1FE3, 0x1FE3), (0x1FEB, 0x1FEB), (0x1FEE, 0x1FEF),
   (0x1FF9, 0x1FF9), (0x1FFB, 0x1FFB), (0x1FFD, 0x1FFD), (0x2000, 0x2001), (0x2126, 0x2126),
   (0x212A, 0x212B), (0x2329, 0x232A), (0x2ADC, 0x2ADC), (0xF900, 0xFA0D), (0xFA10, 0xFA10),
   (0xFA12, 0xFA12), (0xFA15, 0xFA1E), (0xFA20, 0xFA20), (0xFA22, 0xFA22), (0xFA25, 0xFA26),
   (0xFA2A, 0xFA6D), (0xFA70, 0xFAD9), (0xFB1D, 0xFB1D), (0xFB1F, 0xFB1F), (0xFB2A, 0xFB36),
   (0xFB38, 0xFB3C), (0xFB3E, 0xFB3E), (0xFB40, 0xFB41), (0xFB43, 0xFB44), (0xFB46, 0xFB4E),
   (0x1D15E, 0x1D164), (0x1D1BB, 0x1D1C0), (0x2F800, 0x2FA1D)]

/-- How often a character can be taken apart. -/
def depth : Nat := 4

/-- A character taken apart, at most `n` times over. -/
def apart : Nat → Nat → List Nat
  | 0, c => [c]
  | n + 1, c =>
    match pairs.find? (·.whole == c) with
    | some p => apart n p.first ++ [p.second]
    | none => [c]

/-- A mark put among the marks before it, which stand in reverse: it moves past those of a higher
class. -/
def place (c : Char) : List Char → List Char
  | [] => [c]
  | d :: ds =>
    if combiningClass c ≠ 0 ∧ combiningClass c < combiningClass d then d :: place c ds
    else c :: d :: ds

/-- A text with the marks after each letter in the order of their classes. -/
def inOrder (s : List Char) : List Char := (s.foldl (fun done c ↦ place c done) []).reverse

/-- The syllable of two parts of Hangul: a leading consonant and a vowel, or an open syllable and a
trailing consonant. -/
def hangul? (a b : Nat) : Option Nat :=
  if 0x1100 ≤ a ∧ a < 0x1113 ∧ 0x1161 ≤ b ∧ b < 0x1176 then
    some (Hangul.syllable (a - 0x1100) (b - 0x1161) 0)
  else if Hangul.firstSyllable ≤ a ∧ a < 0xD7A4 ∧ (a - Hangul.firstSyllable) % 28 = 0
      ∧ 0x11A7 < b ∧ b < 0x11C3 then
    some (a + (b - 0x11A7))
  else none

/-- The character that stands for two. -/
def whole? (a b : Char) : Option Char :=
  match hangul? a.toNat b.toNat with
  | some n => some (Char.ofNat n)
  | none =>
    match pairs.find? fun p ↦ p.first == a.toNat && p.second == b.toNat with
    | some p => some (Char.ofNat p.whole)
    | none => none

/-- Puts characters together.  `letter` is the last one that later characters may join, and `marks`
are those after it that did not join, last first. -/
def together (letter : Option Char) (marks : List Char) : List Char → List Char
  | [] => letter.toList ++ marks.reverse
  | c :: s =>
    let near := match marks.head? with
      | none => true
      | some m => combiningClass m < combiningClass c
    match (if near then letter.bind (whole? · c) else none) with
    | some w => together (some w) marks s
    | none =>
      if combiningClass c = 0 then letter.toList ++ marks.reverse ++ together (some c) [] s
      else together letter (c :: marks) s

def compose (s : List Char) : List Char :=
  together none [] (inOrder (s.flatMap fun c ↦ (apart depth c.toNat).map Char.ofNat))

end Composition

def isComposed (s : List Char) : Bool :=
  !s.any (Span.covers Composition.foreign) && Composition.compose s == s

end InstanceCatalog.Text
