import InstanceCatalog.Http.Host.Allowed
import InstanceCatalog.Http.Host.Fault
import InstanceCatalog.Text.Composition
import InstanceCatalog.Text.Direction
import InstanceCatalog.Text.Joining
import InstanceCatalog.Text.Punycode
import InstanceCatalog.Text.Script

/-! # Labels of a host name

A label is checked as a whole, then character by character, then for the directions in which it is
written.  A label beyond ASCII is sent in its encoded form.  What an encoded label stands for need
not be a text: it is a label by its code points until it is checked. -/

namespace InstanceCatalog.Http.Host

open Text

/-! ## Characters -/

/-- Signs that some places allow. -/
def isSign (c : Char) : Bool :=
  Span.covers [(0xB7, 0xB7), (0x375, 0x375), (0x5F3, 0x5F4), (0x660, 0x669), (0x6F0, 0x6F9),
    (0x30FB, 0x30FB)] c

def isArabicDigit (c : Char) : Bool := Span.covers [(0x660, 0x669)] c

def isEasternDigit (c : Char) : Bool := Span.covers [(0x6F0, 0x6F9)] c

/-- Whether a sign may stand after `before`, which is in reverse, and in front of `after`. -/
def signAllowed (before after : List Char) (c : Char) : Bool :=
  if c = '·' then before.head? == some 'l' && after.head? == some 'l'
  else if c = '͵' then after.head?.any Script.isGreek
  else if c = '׳' || c = '״' then before.head?.any Script.isHebrew
  else if c = '・' then (before ++ after).any fun d ↦ d != '・' && Script.isJapanese d
  else if isArabicDigit c then !(before ++ after).any isEasternDigit
  else !(before ++ after).any isArabicDigit

/-- Whether a joiner may stand after `before`, which is in reverse, and in front of `after`: it
changes the form of a consonant, or keeps two letters apart that would join. -/
def joinerAllowed (before after : List Char) (c : Char) : Bool :=
  before.head?.any (combiningClass · == viramaClass)
    || (c == '\u200c' && Joining.joinsAfter before && Joining.joinsBefore after)

/-- Whether a joiner may be looked at after `before`, which is in reverse: what stands before it
has a name or a class. -/
def joinerStray (before : List Char) : Bool :=
  before.head?.any fun c ↦ combiningClass c == 0 && !isNamed c

/-- Checks the characters of a label after some that are checked, which are in reverse. -/
def checkCharacters (before : List Char) : List Char → Except LabelFault Unit
  | [] => .ok ()
  | c :: after => do
    let place := before.length
    if !isAllowed c then
      if isJoiner c then
        if joinerStray before then throw (.strayJoiner place)
        if !joinerAllowed before after c then throw (.badJoiner place)
      else if isSign c then
        if !signAllowed before after c then throw (.badSign place)
      else throw (.badCharacter place)
    checkCharacters (c :: before) after

/-! ## Directions -/

/-- The directions of the characters of a label, from a place on. -/
def directions (place : Nat) : List Char → Except LabelFault (List Direction)
  | [] => .ok []
  | c :: s => do
    let some d := direction? c | throw (.noDirection place)
    return d :: (← directions (place + 1) s)

/-- Whether the last direction that is not one of a mark is among some. -/
def endsWith (ends ds : List Direction) : Bool :=
  (ds.reverse.dropWhile (· == .mark)).head?.any ends.contains

/-- Checks a label that is written from right to left, with the kind of numbers seen in it. -/
def checkRightToLeft (numbers : Option Direction) (place : Nat) :
    List Direction → Except LabelFault Unit
  | [] => .ok ()
  | d :: ds => do
    if d = .left then throw (.againstRightToLeft place)
    if d = .number ∨ d = .arabicNumber then
      if numbers.any (· != d) then throw .mixedNumbers
      checkRightToLeft (some d) (place + 1) ds
    else checkRightToLeft numbers (place + 1) ds

def checkLeftToRight (place : Nat) : List Direction → Except LabelFault Unit
  | [] => .ok ()
  | d :: ds => do
    if d = .right ∨ d = .arabic ∨ d = .arabicNumber then throw (.againstLeftToRight place)
    checkLeftToRight (place + 1) ds

/-- Directions matter in a label with characters that are written from right to left. -/
def checkDirections (label : List Char) : Except LabelFault Unit := do
  let ds ← directions 0 label
  if ds.any fun d ↦ d == .right || d == .arabic || d == .arabicNumber then
    match ds.head? with
    | some .right | some .arabic =>
      checkRightToLeft none 0 ds
      if !endsWith [.right, .arabic, .number, .arabicNumber] ds then throw .endsWithoutDirection
    | some .left =>
      checkLeftToRight 0 ds
      if !endsWith [.left, .number] ds then throw .endsWithoutDirection
    | _ => throw .firstHasNoDirection

/-! ## Labels -/

def checkLabel (label : List Char) : Except LabelFault Unit := do
  if label.isEmpty then throw .empty
  if 254 < label.length then throw .long
  if !isComposed label then throw .notComposed
  if label[2]? = some '-' ∧ label[3]? = some '-' then throw .hyphensInside
  if label.head? = some '-' ∨ label.getLast? = some '-' then throw .hyphenAtEnd
  if label.head?.any isMark then throw .markFirst
  checkCharacters [] label
  checkDirections label

/-- A character for a code point that may be none; no label can hold the one that stands for
those. -/
def standIn (n : Nat) : Char := (CodePoint.char? n).getD '\uffff'

/-- The label of some code points, if it is one. -/
def ofPoints (points : List Nat) : Except HostFault (List Char) := do
  let label := points.map standIn
  (checkLabel label).mapError (.inLabel points)
  return label

def inLabel (label : List Char) (f : LabelFault) : HostFault := .inLabel (label.map Char.toNat) f

/-- What an encoded label starts with. -/
def encodedMark : List Char := "xn--".toList

/-- The longest label that is sent. -/
def labelLimit : Nat := 63

/-- The text of a label of ASCII characters in small letters, decoded if it is an encoded one. -/
def decodeLabel (label : List Char) : Except HostFault (List Char) := do
  let label := label.map Char.toLower
  if encodedMark.isPrefixOf label then
    let encoded := label.drop encodedMark.length
    if encoded.isEmpty then throw .nothingEncoded
    if encoded.getLast? = some '-' then throw .encodedHyphenAtEnd
    let some points := Punycode.decode? encoded | throw .notDecoded
    if Punycode.encode points ≠ encoded then throw .notCanonical
    ofPoints points
  else
    (checkLabel label).mapError (inLabel label)
    return label

/-- A label as it is sent. -/
def encodeLabel (label : List Char) : Except HostFault (List Char) := do
  let sent ← if label.all isAscii then do
      let _ ← decodeLabel label
      pure label
    else do
      (checkLabel label).mapError (inLabel label)
      pure (encodedMark ++ Punycode.encode (label.map Char.toNat))
  if labelLimit < sent.length then throw (inLabel label .long)
  return sent

end InstanceCatalog.Http.Host
