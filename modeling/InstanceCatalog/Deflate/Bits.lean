import InstanceCatalog.Text.Utf8

/-! # Reading bits

The bits of a byte are read from the least to the greatest.  Reading stops where the data end or are
malformed; a reader never leaves more bits than it was given. -/

namespace InstanceCatalog.Deflate

open Text

abbrev Bits := List Bool

def bitsOfByte (b : UInt8) : Bits := (List.range 8).map b.toNat.testBit

def bitsOf (bs : Bytes) : Bits := bs.flatMap bitsOfByte

/-- What is wrong with compressed data. -/
inductive Fault where
  | header
  | method
  | headerFlags
  | headerChecksum
  | dictionary
  | window
  | blockKind
  | storedLength
  | tooManySymbols
  | codeLengths
  | repeatedLength
  | noEndOfBlock
  | literalCode
  | distanceCode
  | literal
  | distance
  /-- A distance to before the start of the output. -/
  | farDistance
  | checksum
  | totalLength
deriving DecidableEq, Repr

namespace Fault

def reason : Fault → String
  | .header => "incorrect header check"
  | .method => "unknown compression method"
  | .headerFlags => "unknown header flags set"
  | .headerChecksum => "header crc mismatch"
  | .dictionary => "need dictionary"
  | .window => "invalid window size"
  | .blockKind => "invalid block type"
  | .storedLength => "invalid stored block lengths"
  | .tooManySymbols => "too many length or distance symbols"
  | .codeLengths => "invalid code lengths set"
  | .repeatedLength => "invalid bit length repeat"
  | .noEndOfBlock => "invalid code -- missing end-of-block"
  | .literalCode => "invalid literal/lengths set"
  | .distanceCode => "invalid distances set"
  | .literal => "invalid literal/length code"
  | .distance => "invalid distance code"
  | .farDistance => "invalid distance too far back"
  | .checksum => "incorrect data check"
  | .totalLength => "incorrect length check"

def message (f : Fault) : String := "Error -3 while decompressing data: " ++ f.reason

end Fault

/-- Why reading stops. -/
inductive Stop where
  /-- The data end. -/
  | cut
  | malformed (f : Fault)
deriving DecidableEq, Repr

/-- A reader gives a value and the bits that are left. -/
structure Reader (α : Type) where
  run : Bits → Except Stop (α × Bits)
  le_of_run : ∀ {s a rest}, run s = .ok (a, rest) → rest.length ≤ s.length

namespace Reader

variable {α β : Type}

def pure (a : α) : Reader α where
  run s := .ok (a, s)
  le_of_run h := by
    cases h
    exact Nat.le_refl _

def bind (x : Reader α) (f : α → Reader β) : Reader β where
  run s := match x.run s with
    | .ok (a, rest) => (f a).run rest
    | .error e => .error e
  le_of_run {s b rest} h := by
    split at h
    · rename_i a mid hx
      exact Nat.le_trans ((f a).le_of_run h) (x.le_of_run hx)
    · cases h

instance : Monad Reader where
  pure := pure
  bind := bind

def stop (e : Stop) : Reader α where
  run _ := .error e
  le_of_run h := by cases h

def fail (f : Fault) : Reader α := stop (.malformed f)

def bit : Reader Bool where
  run
    | [] => .error .cut
    | b :: s => .ok (b, s)
  le_of_run {s b rest} h := by
    cases s with
    | nil => cases h
    | cons c s =>
      cases h
      exact Nat.le_succ _

/-- A number of so many bits, the least first. -/
def number : Nat → Reader Nat
  | 0 => return 0
  | n + 1 => do
    let b ← bit
    let m ← number n
    return b.toNat + 2 * m

/-- Leaves out the bits up to the end of a byte. -/
def alignToByte : Reader Unit where
  run s := .ok ((), s.drop (s.length % 8))
  le_of_run h := by
    cases h
    simp

theorem run_bind_ok {x : Reader α} {f : α → Reader β} {s : Bits} {b : β} {rest : Bits}
    (h : (x >>= f).run s = .ok (b, rest)) :
    ∃ a mid, x.run s = .ok (a, mid) ∧ (f a).run mid = .ok (b, rest) := by
  change (match x.run s with
    | .ok (a, rest) => (f a).run rest
    | .error e => .error e) = .ok (b, rest) at h
  split at h
  · rename_i a mid hx
    exact ⟨a, mid, hx, h⟩
  · cases h

theorem lt_of_run_bit {s : Bits} {b : Bool} {rest : Bits} (h : bit.run s = .ok (b, rest)) :
    rest.length < s.length := by
  cases s with
  | nil => cases h
  | cons c s =>
    cases h
    exact Nat.lt_succ_self _

/-- A reader that begins with a bit leaves less than it was given. -/
theorem lt_of_run_bit_bind {f : Bool → Reader β} {s : Bits} {b : β} {rest : Bits}
    (h : (bit >>= f).run s = .ok (b, rest)) : rest.length < s.length := by
  obtain ⟨a, mid, ha, hf⟩ := run_bind_ok h
  exact Nat.lt_of_le_of_lt ((f a).le_of_run hf) (lt_of_run_bit ha)

end Reader

end InstanceCatalog.Deflate
