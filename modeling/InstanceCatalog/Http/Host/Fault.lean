import InstanceCatalog.Numeral.Digits
import InstanceCatalog.Text.Quoted

/-! # What is wrong with a host name

A host name is made of labels between dots.  A label beyond ASCII also has an encoded form, which
starts with `xn--`. -/

namespace InstanceCatalog.Http

open Text

/-- What is wrong with a label, with the place where it is. -/
inductive LabelFault where
  | empty
  | long
  /-- The label is not composed text. -/
  | notComposed
  /-- Two hyphens stand where those of an encoded label do. -/
  | hyphensInside
  | hyphenAtEnd
  | markFirst
  | badCharacter (place : Nat)
  /-- A joiner beside characters that it does not join. -/
  | badJoiner (place : Nat)
  /-- A joiner after a character without a name. -/
  | strayJoiner (place : Nat)
  /-- A sign that is allowed in other places only. -/
  | badSign (place : Nat)
  | noDirection (place : Nat)
  | firstHasNoDirection
  | againstRightToLeft (place : Nat)
  | againstLeftToRight (place : Nat)
  | mixedNumbers
  | endsWithoutDirection
deriving DecidableEq, Repr

inductive HostFault where
  | longName
  /-- Nothing follows the start of an encoded label. -/
  | nothingEncoded
  | encodedHyphenAtEnd
  /-- An encoded label cannot be decoded. -/
  | notDecoded
  /-- An encoded label is not the one that encoding gives. -/
  | notCanonical
  /-- A label by its code points, of which some may be no character. -/
  | inLabel (label : List Nat) (f : LabelFault)
deriving DecidableEq, Repr

namespace LabelFault

/-- A code point in capital hexadecimal digits, at least four of them. -/
def codePoint (n : Nat) : String :=
  let width := if n < 0x10000 then 4 else if n < 0x100000 then 5 else 6
  "U+" ++ String.ofList ((Quoted.hex width n).map Char.toUpper)

/-- The place of a character, counted from one. -/
def shownPlace (place : Nat) : String := Numeral.decimal (place + 1 : Nat)

def message (label : List Nat) : LabelFault → String
  | .empty => "Empty Label"
  | .long => "Label too long"
  | .notComposed => "Label must be in Normalization Form C"
  | .hyphensInside => "Label has disallowed hyphens in 3rd and 4th position"
  | .hyphenAtEnd => "Label must not start or end with a hyphen"
  | .markFirst => "Label begins with an illegal combining character"
  | .badCharacter place =>
    "Codepoint " ++ point place ++ " at position " ++ shownPlace place ++ " of " ++ shown
      ++ " not allowed"
  | .badJoiner place =>
    "Joiner " ++ point place ++ " not allowed at position " ++ shownPlace place ++ " in " ++ shown
  | .strayJoiner place =>
    "Unknown codepoint adjacent to joiner " ++ point place ++ " at position " ++ shownPlace place
      ++ " in " ++ shown
  | .badSign place =>
    "Codepoint " ++ point place ++ " not allowed at position " ++ shownPlace place ++ " in "
      ++ shown
  | .noDirection place =>
    "Unknown directionality in label " ++ shown ++ " at position " ++ shownPlace place
  | .firstHasNoDirection =>
    "First codepoint in label " ++ shown ++ " must be directionality L, R or AL"
  | .againstRightToLeft place =>
    "Invalid direction for codepoint at position " ++ shownPlace place
      ++ " in a right-to-left label"
  | .againstLeftToRight place =>
    "Invalid direction for codepoint at position " ++ shownPlace place
      ++ " in a left-to-right label"
  | .mixedNumbers => "Can not mix numeral types in a right-to-left label"
  | .endsWithoutDirection => "Label ends with illegal codepoint directionality"
where
  shown : String := String.ofList (Quoted.encodePoints label)
  point (place : Nat) : String := codePoint (label.getD place 0)

end LabelFault

namespace HostFault

def message : HostFault → String
  | .longName => "Domain too long"
  | .nothingEncoded => "Malformed A-label, no Punycode eligible content found"
  | .encodedHyphenAtEnd => "A-label must not end with a hyphen"
  | .notDecoded => "Invalid A-label"
  | .notCanonical => "A-label is not the canonical Punycode encoding of its U-label"
  | .inLabel label f => f.message label

end HostFault

end InstanceCatalog.Http
