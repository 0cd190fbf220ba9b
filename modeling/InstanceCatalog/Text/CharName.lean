import InstanceCatalog.Text.Ascii
import InstanceCatalog.Text.CharName.FromBracket
import InstanceCatalog.Text.CharName.FromBrahmi
import InstanceCatalog.Text.CharName.FromCuneiform
import InstanceCatalog.Text.CharName.FromHebrew
import InstanceCatalog.Text.CharName.FromLinear
import InstanceCatalog.Text.CharName.FromMusic
import InstanceCatalog.Text.CharName.FromOperator
import InstanceCatalog.Text.CharName.FromPhonetic
import InstanceCatalog.Text.CharName.FromRadical
import InstanceCatalog.Text.CharName.FromSaurashtra
import InstanceCatalog.Text.CharName.FromSpace
import InstanceCatalog.Text.CharName.FromThai
import InstanceCatalog.Text.CharName.FromTile
import InstanceCatalog.Text.CharName.Other
import InstanceCatalog.Text.CodePoint

/-! # Names of characters

Most names are listed.  The name of an ideograph ends with its number, and that of a Hangul syllable
is made of the names of its letters; these two are written in capital letters only. -/

namespace InstanceCatalog.Text.CharName

def series : List Series :=
  fromSpace ++ fromHebrew ++ fromThai ++ fromPhonetic ++ fromOperator ++ fromBracket ++ fromRadical
    ++ fromSaurashtra ++ fromLinear ++ fromBrahmi ++ fromCuneiform ++ fromMusic ++ fromTile ++ other

/-! ## Names that end with a number -/

/-- What stands in front of a name's number, with the first and the last of the characters. -/
def numbered : List (String × Nat × Nat) :=
  [("CJK COMPATIBILITY IDEOGRAPH-", 0xF900, 0xFA6D),
   ("CJK COMPATIBILITY IDEOGRAPH-", 0xFA70, 0xFAD9),
   ("CJK COMPATIBILITY IDEOGRAPH-", 0x2F800, 0x2FA1D),
   ("KHITAN SMALL SCRIPT CHARACTER-", 0x18B00, 0x18CD5),
   ("NUSHU CHARACTER-", 0x1B170, 0x1B2FB)]

/-- The number at the end of a name, after some text. -/
def numberAfter? (head : String) (name : List Char) : Option Nat :=
  let digits := name.drop head.length
  if head.toList.isPrefixOf name && digits.all isHexDigit then some (ofHexDigits digits) else none

/-- The number of the character of such a name, which has no zero in front of its number. -/
def ofNumbered? (name : List Char) : Option Nat :=
  numbered.findSome? fun (head, first, last) ↦
    (numberAfter? head name).filter fun n ↦
      first ≤ n && n ≤ last && (name.drop head.length).head? != some '0'

/-- The ideographs, from first ones to last ones. -/
def ideographs : List (Nat × Nat) :=
  [(0x3400, 0x4DBF), (0x4E00, 0x9FFF), (0x20000, 0x2A6DF), (0x2A700, 0x2B738), (0x2B740, 0x2B81D),
   (0x2B820, 0x2CEA1), (0x2CEB0, 0x2EBE0), (0x30000, 0x3134A)]

/-- The number of the ideograph of a name, which writes it in four or five digits. -/
def ofIdeograph? (name : List Char) : Option Nat :=
  let head := "CJK UNIFIED IDEOGRAPH-"
  let count := name.length - head.length
  (numberAfter? head name).filter fun n ↦
    (count == 4 || count == 5) && !name.any Char.isLower
      && ideographs.any fun (first, last) ↦ first ≤ n && n ≤ last

/-! ## Names of syllables -/

/-- The names of the consonants at the start of a syllable; one of them is silent. -/
def starts : List String :=
  ["G", "GG", "N", "D", "DD", "R", "M", "B", "BB", "S", "SS", "", "J", "JJ", "C", "K", "T", "P",
   "H"]

def vowels : List String :=
  ["A", "AE", "YA", "YAE", "EO", "E", "YEO", "YE", "O", "WA", "WAE", "OE", "YO", "U", "WEO", "WE",
   "WI", "YU", "EU", "YI", "I"]

/-- The names of the consonants at the end of a syllable, after that of none. -/
def ends : List String :=
  ["", "G", "GG", "GS", "N", "NJ", "NH", "D", "L", "LG", "LM", "LB", "LS", "LT", "LP", "LH", "M",
   "B", "BS", "S", "SS", "NG", "J", "C", "K", "T", "P", "H"]

/-- A letter in the name of a vowel. -/
def isVowelLetter (c : Char) : Bool := "AEIOUWY".toList.contains c

/-- The number of the syllable of a name. -/
def ofSyllable? (name : List Char) : Option Nat := do
  let head := "HANGUL SYLLABLE ".toList
  guard (head.isPrefixOf name)
  let letters := name.drop head.length
  let fromVowel := letters.dropWhile (!isVowelLetter ·)
  let start ← starts.idxOf? (String.ofList (letters.takeWhile (!isVowelLetter ·)))
  let vowel ← vowels.idxOf? (String.ofList (fromVowel.takeWhile isVowelLetter))
  let ending ← ends.idxOf? (String.ofList (fromVowel.dropWhile isVowelLetter))
  return Hangul.syllable start vowel ending

/-- The number of the character with a name.  Listed names may be written in letters of either
case. -/
def find? (name : List Char) : Option Nat :=
  let capital := name.map Char.toUpper
  ofSyllable? name <|> ofIdeograph? name <|> ofNumbered? capital
    <|> series.findSome? (·.find? capital)

end InstanceCatalog.Text.CharName
