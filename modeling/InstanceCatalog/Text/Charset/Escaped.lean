import InstanceCatalog.Text.CharName
import InstanceCatalog.Text.Charset.Reading
import InstanceCatalog.Text.CodePoint

/-! # Text with escapes

A byte stands for the code point of its number, and a backslash starts an escape.  The raw form has
escapes for code points only; in the full form some letters stand for control characters, characters
have names, and a line may go on behind a backslash.  An escape may stand for a unit of a pair. -/

namespace InstanceCatalog.Text.Charset.Escaped

/-- The number of digits in the escape of a code point. -/
def digitCount? (letter : UInt8) : Option Nat :=
  if letter = 0x75 then some 4 else if letter = 0x55 then some 8 else none

def isHexByte (b : UInt8) : Bool := isHexDigit (Char.ofNat b.toNat)

/-- Reads a code point in hexadecimal digits, of which there have to be so many, after a backslash
and a letter. -/
def readDigits (count : Nat) (bs : Bytes) : Reading Nat :=
  let digits := (bs.take count).takeWhile isHexByte
  let n := ofHexDigits (digits.map fun b ↦ Char.ofNat b.toNat)
  if digits.length = count then
    if n ≤ CodePoint.last then .chars [n] (1 + count) else .gap (1 + count)
  else if (bs.drop digits.length).isEmpty then .unfinished
  else .gap (1 + digits.length)

def backslash : UInt8 := 0x5C

/-- The rule of the raw form. -/
def rawRule (b : UInt8) (bs : Bytes) : Reading Nat :=
  if b = backslash then
    match bs with
    | [] => .chars [b.toNat] 0
    | letter :: rest =>
      match digitCount? letter with
      | some count => readDigits count rest
      | none => .chars [b.toNat, letter.toNat] 1
  else .chars [b.toNat] 0

/-- Reads the name of a character between braces, after a backslash and a letter. -/
def readName (bs : Bytes) : Reading Nat :=
  match bs with
  | [] => .unfinished
  | b :: rest =>
    let name := rest.takeWhile (· ≠ 0x7D)
    if b ≠ 0x7B then .gap 1
    else if (rest.drop name.length).isEmpty then .unfinished
    else if name.isEmpty then .gap 2
    else match CharName.find? (name.map fun b ↦ Char.ofNat b.toNat) with
      | some n => .chars [n] (3 + name.length)
      | none => .gap (3 + name.length)

/-- The code points of the letters after a backslash. -/
def letters : List (Char × Nat) :=
  [('\\', 0x5C), ('\'', 0x27), ('"', 0x22), ('a', 7), ('b', 8), ('t', 9), ('n', 10), ('v', 11),
    ('f', 12), ('r', 13)]

def isOctalByte (b : UInt8) : Bool := 0x30 ≤ b && b ≤ 0x37

/-- The rule of the full form. -/
def fullRule (b : UInt8) (bs : Bytes) : Reading Nat :=
  if b = backslash then
    match bs with
    | [] => .unfinished
    | letter :: rest =>
      let octal := (bs.take 3).takeWhile isOctalByte
      if !octal.isEmpty then
        .chars [octal.foldl (fun n d ↦ 8 * n + (d.toNat - 0x30)) 0] octal.length
      else if letter = 0x0A then .chars [] 1
      else if letter = 0x78 then readDigits 2 rest
      else if letter = 0x4E then readName rest
      else match digitCount? letter, letters.lookup (Char.ofNat letter.toNat) with
        | some count, _ => readDigits count rest
        | none, some n => .chars [n] 1
        | none, none => .chars [b.toNat, letter.toNat] 1
  else .chars [b.toNat] 0

end InstanceCatalog.Text.Charset.Escaped
