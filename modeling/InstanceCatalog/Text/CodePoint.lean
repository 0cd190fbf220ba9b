/-! # Code points

A number up to the last code point stands for a character, unless it stands for half of a pair.
Tables give code points by their spans, and the syllables of Hangul stand in the order of their
letters: a consonant at the start, a vowel, and perhaps a consonant at the end. -/

namespace InstanceCatalog.Text

namespace CodePoint

def last : Nat := 0x10FFFF

/-- The character of a number, if it has one. -/
def char? (n : Nat) : Option Char := if n.isValidChar then some (Char.ofNat n) else none

end CodePoint

/-- The first and the last code point of a span. -/
abbrev Span := Nat × Nat

namespace Span

def covers (spans : List Span) (c : Char) : Bool :=
  spans.any fun s ↦ s.1 ≤ c.toNat && c.toNat ≤ s.2

end Span

namespace Hangul

/-- The number of the first syllable. -/
def firstSyllable : Nat := 0xAC00

/-- The number of the syllable of some letters, by their places.  The consonant at the end is
counted from one, and zero stands for none. -/
def syllable (start vowel ending : Nat) : Nat :=
  firstSyllable + 28 * (21 * start + vowel) + ending

end Hangul

end InstanceCatalog.Text
