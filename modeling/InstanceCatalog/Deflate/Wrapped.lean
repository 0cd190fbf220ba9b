import InstanceCatalog.Deflate.Checksum
import InstanceCatalog.Deflate.Inflate

/-! # Compressed data in wrappers

Compressed data stand between a header and a checksum of what they stand for.  One wrapper is that
of files, the other a short one for streams.  Data that end too early are no mistake: they stand for
what can be read of them. -/

namespace InstanceCatalog.Deflate

open Text

/-- The bytes that some progress has come to. -/
def Progress.bytes (p : Progress) : Except Fault Bytes :=
  match p.rest with
  | .error (.malformed f) => .error f
  | _ => .ok p.output.toList

/-- Reads on after some progress. -/
def Progress.andThen (p : Progress) (x : Bytes → Reader Unit) : Progress :=
  match p.rest with
  | .error _ => p
  | .ok s => ⟨p.output, ((x p.output.toList).run s).map (·.2)⟩

/-- The bytes of data with a header and what comes after the output. -/
def unwrap (data : Bytes) (header : Reader Unit) (trailer : Bytes → Reader Unit) :
    Except Fault Bytes :=
  match header.run (bitsOf data) with
  | .error .cut => .ok []
  | .error (.malformed f) => .error f
  | .ok (_, rest) => ((inflate rest).andThen trailer).bytes

namespace Reader

/-- Leaves out so many bytes. -/
def skipBytes : Nat → Reader Unit
  | 0 => return ()
  | n + 1 => do
    let _ ← number 8
    skipBytes n

/-- Leaves out a text up to the zero after it, which is among so many bytes. -/
def skipText : Nat → Reader Unit
  | 0 => stop .cut
  | n + 1 => do
    if (← number 8) = 0 then return () else skipText n

/-- How many bits are left. -/
def left : Reader Nat where
  run s := .ok (s.length, s)
  le_of_run h := by
    cases h
    exact Nat.le_refl _

def check (ok : Bool) (f : Fault) : Reader Unit := if ok then return () else fail f

/-- A reader that runs only if it is asked for. -/
def when (wanted : Bool) (x : Reader Unit) : Reader Unit := if wanted then x else return ()

end Reader

/-! ## Files -/

namespace File

open Reader

/-- The checksum of the header, which covers all bytes before it. -/
def readHeaderChecksum (data : Bytes) : Reader Unit := do
  let covered := data.take (data.length - (← left) / 8)
  let sum ← number 16
  check (sum == crc32 covered % 0x10000) .headerChecksum

/-- The header: a mark, a method, flags, a time, and what the flags announce. -/
def readHeader (data : Bytes) : Reader Unit := do
  check ((← number 16) == 0x8B1F) .header
  let method ← number 8
  let flags ← number 8
  check (method == 8) .method
  check (flags < 0x20) .headerFlags
  skipBytes 6
  when (flags.testBit 2) (do skipBytes (← number 16))
  when (flags.testBit 3) (skipText data.length)
  when (flags.testBit 4) (skipText data.length)
  when (flags.testBit 1) (readHeaderChecksum data)

/-- The checksum and the length of what the data stand for. -/
def readTrailer (output : Bytes) : Reader Unit := do
  alignToByte
  check ((← number 32) == crc32 output) .checksum
  check ((← number 32) == output.length % 0x100000000) .totalLength

def decode (data : Bytes) : Except Fault Bytes := unwrap data (readHeader data) readTrailer

end File

/-! ## Streams -/

namespace Stream

open Reader

/-- The header: a method with the size of a window, and flags, which make a multiple of 31. -/
def readHeader : Reader Unit := do
  let first ← number 8
  let second ← number 8
  check ((256 * first + second) % 31 == 0) .header
  check (first % 16 == 8) .method
  check (first / 16 ≤ 7) .window
  when (second.testBit 5) (do
    let _ ← number 32
    fail .dictionary)

/-- The checksum, with its greatest byte first. -/
def readTrailer (output : Bytes) : Reader Unit := do
  alignToByte
  let high ← number 8
  let high := 256 * high + (← number 8)
  let high := 256 * high + (← number 8)
  check (256 * high + (← number 8) == adler32 output) .checksum

def decode (data : Bytes) : Except Fault Bytes := unwrap data readHeader readTrailer

end Stream

/-- The bytes that data without a wrapper stand for. -/
def decodeBare (data : Bytes) : Except Fault Bytes := (inflate (bitsOf data)).bytes

end InstanceCatalog.Deflate
