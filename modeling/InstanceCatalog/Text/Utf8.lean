import InstanceCatalog.Numeral.Digits
import InstanceCatalog.Text.Quoted

/-! # UTF-8

A character takes one to four bytes.  Where bytes begin no character, the shortest run that no
character begins with is bad as a whole: strict decoding stops there, lossy decoding writes one
replacement character for the run. -/

namespace InstanceCatalog.Text

abbrev Bytes := List UInt8

namespace Utf8

/-- The bytes of a character. -/
def encodeChar (c : Char) : Bytes :=
  let n := c.toNat
  let tail (n : Nat) : UInt8 := (0x80 + n % 0x40).toUInt8
  if n < 0x80 then [n.toUInt8]
  else if n < 0x800 then [(0xC0 + n / 0x40).toUInt8, tail n]
  else if n < 0x10000 then [(0xE0 + n / 0x1000).toUInt8, tail (n / 0x40), tail n]
  else [(0xF0 + n / 0x40000).toUInt8, tail (n / 0x1000), tail (n / 0x40), tail n]

def encode (s : List Char) : Bytes := s.flatMap encodeChar

/-- What a first byte says of those after it: how many there are, the bounds of the next one, and
the bits of the code point that the first byte holds. -/
structure Lead where
  tails : Nat
  low : Nat
  high : Nat
  bits : Nat

def lead? (b : Nat) : Option Lead :=
  if b < 0x80 then some ⟨0, 0x80, 0xBF, b⟩
  else if b < 0xC2 then none
  else if b < 0xE0 then some ⟨1, 0x80, 0xBF, b - 0xC0⟩
  else if b < 0xF0 then
    some ⟨2, if b = 0xE0 then 0xA0 else 0x80, if b = 0xED then 0x9F else 0xBF, b - 0xE0⟩
  else if b < 0xF5 then
    some ⟨3, if b = 0xF0 then 0x90 else 0x80, if b = 0xF4 then 0x8F else 0xBF, b - 0xF0⟩
  else none

inductive Problem where
  | badStart
  | badContinuation
  | endOfData
deriving DecidableEq, Repr

def Problem.reason : Problem → String
  | .badStart => "invalid start byte"
  | .badContinuation => "invalid continuation byte"
  | .endOfData => "unexpected end of data"

/-- One step of decoding: a character, or a bad run, and how many bytes it takes after the first. -/
inductive Step where
  | char (c : Char) (more : Nat)
  | bad (p : Problem) (more : Nat)

/-- Reads the bytes that a first byte asks for.  `taken` of them are read, and `n` is the code point
so far. -/
def readTails (low high taken n : Nat) : Nat → Bytes → Step
  | 0, _ => .char (Char.ofNat n) taken
  | _ + 1, [] => .bad .endOfData taken
  | k + 1, b :: bs =>
    if low ≤ b.toNat ∧ b.toNat ≤ high then
      readTails 0x80 0xBF (taken + 1) (64 * n + (b.toNat - 0x80)) k bs
    else .bad .badContinuation taken

def step (b : UInt8) (bs : Bytes) : Step :=
  match lead? b.toNat with
  | none => .bad .badStart 0
  | some l => readTails l.low l.high 0 l.bits l.tails bs

/-- The characters of some bytes, with a replacement character for each bad run.  `skip` bytes
belong to the step before. -/
def decodeLossyFrom : Nat → Bytes → List Char
  | _, [] => []
  | skip + 1, _ :: bs => decodeLossyFrom skip bs
  | 0, b :: bs =>
    match step b bs with
    | .char c more => c :: decodeLossyFrom more bs
    | .bad _ more => '\ufffd' :: decodeLossyFrom more bs

def decodeLossy (bs : Bytes) : List Char := decodeLossyFrom 0 bs

/-- A bad run: its first byte, its place and its length. -/
structure Malformed where
  byte : UInt8
  start : Nat
  length : Nat
  problem : Problem
deriving DecidableEq, Repr

namespace Malformed

def message (m : Malformed) : String :=
  let place := if m.length = 1 then
      "byte 0x" ++ String.ofList (Quoted.hex 2 m.byte.toNat) ++ " in position "
        ++ Numeral.decimal m.start
    else
      "bytes in position " ++ Numeral.decimal m.start ++ "-"
        ++ Numeral.decimal (m.start + m.length - 1 : Nat)
  "'utf-8' codec can't decode " ++ place ++ ": " ++ m.problem.reason

end Malformed

/-- The characters of some bytes, or the first bad run. -/
def decodeFrom : Nat → Nat → Bytes → Except Malformed (List Char)
  | _, _, [] => .ok []
  | place, skip + 1, _ :: bs => decodeFrom (place + 1) skip bs
  | place, 0, b :: bs =>
    match step b bs with
    | .char c more => (decodeFrom (place + 1) more bs).map (c :: ·)
    | .bad p more => .error ⟨b, place, more + 1, p⟩

def decode (bs : Bytes) : Except Malformed (List Char) := decodeFrom 0 0 bs

end Utf8

end InstanceCatalog.Text
