import InstanceCatalog.Deflate.PrefixCode

/-! # Compressed data

Compressed data are blocks.  A stored block holds bytes as they are.  The others hold bytes and
copies of what came before, written in two prefix codes: one for bytes and the lengths of copies,
the other for distances.  The codes are fixed, or the block begins with their lengths. -/

namespace InstanceCatalog.Deflate

open Text

abbrev Output := Array UInt8

/-- The output so far, and the bits that are left or why there are none. -/
structure Progress where
  output : Output
  rest : Except Stop Bits

/-! ## Items -/

structure Codes where
  literals : PrefixCode
  distances : PrefixCode

/-- The least lengths that symbols stand for, each with the number of bits that are added to it. -/
def lengths : Array (Nat × Nat) :=
  #[(3, 0), (4, 0), (5, 0), (6, 0), (7, 0), (8, 0), (9, 0), (10, 0), (11, 1), (13, 1), (15, 1),
    (17, 1), (19, 2), (23, 2), (27, 2), (31, 2), (35, 3), (43, 3), (51, 3), (59, 3), (67, 4),
    (83, 4), (99, 4), (115, 4), (131, 5), (163, 5), (195, 5), (227, 5), (258, 0)]

/-- The least distances, each with the number of bits that are added to it. -/
def distances : Array (Nat × Nat) :=
  #[(1, 0), (2, 0), (3, 0), (4, 0), (5, 1), (7, 1), (9, 2), (13, 2), (17, 3), (25, 3), (33, 4),
    (49, 4), (65, 5), (97, 5), (129, 6), (193, 6), (257, 7), (385, 7), (513, 8), (769, 8),
    (1025, 9), (1537, 9), (2049, 10), (3073, 10), (4097, 11), (6145, 11), (8193, 12), (12289, 12),
    (16385, 13), (24577, 13)]

/-- The symbol at the end of a block. -/
def endSymbol : Nat := 256

inductive Item where
  | byte (b : UInt8)
  | copy (length distance : Nat)
  | endOfBlock
deriving DecidableEq, Repr

namespace Item

/-- The distance after the length of a copy. -/
def readDistance (codes : Codes) (length : Nat) : Reader Item := do
  match (← codes.distances.read).bind (distances[·]?) with
  | none => Reader.fail .distance
  | some (least, extra) => return .copy length (least + (← Reader.number extra))

/-- The item that begins with a symbol. -/
def ofSymbol (codes : Codes) : Option Nat → Reader Item
  | none => Reader.fail .literal
  | some n =>
    if n < endSymbol then return .byte n.toUInt8
    else if n = endSymbol then return .endOfBlock
    else match lengths[n - (endSymbol + 1)]? with
      | none => Reader.fail .literal
      | some (least, extra) => do
        let more ← Reader.number extra
        readDistance codes (least + more)

def read (codes : Codes) : Reader Item := codes.literals.read >>= ofSymbol codes

theorem lt_of_run_read {codes : Codes} {s : Bits} {i : Item} {rest : Bits}
    (h : (read codes).run s = .ok (i, rest)) : rest.length < s.length := by
  obtain ⟨n, mid, hn, hi⟩ := Reader.run_bind_ok h
  exact Nat.lt_of_le_of_lt ((ofSymbol codes n).le_of_run hi) (PrefixCode.lt_of_run_read hn)

end Item

/-- The output with a copy of what stands at a distance before its end, byte by byte. -/
def Output.copy (out : Output) (distance : Nat) : Nat → Output
  | 0 => out
  | n + 1 => Output.copy (out.push (out.getD (out.size - distance) 0)) distance n

/-- Reads items up to the end of a block. -/
def readItems (codes : Codes) (out : Output) (s : Bits) : Progress :=
  match h : (Item.read codes).run s with
  | .error e => ⟨out, .error e⟩
  | .ok (.endOfBlock, rest) => ⟨out, .ok rest⟩
  | .ok (.byte b, rest) =>
    have := Item.lt_of_run_read h
    readItems codes (out.push b) rest
  | .ok (.copy length distance, rest) =>
    have := Item.lt_of_run_read h
    if distance ≤ out.size then readItems codes (out.copy distance length) rest
    else ⟨out, .error (.malformed .farDistance)⟩
termination_by s.length

/-! ## Codes -/

/-- The order in which the lengths for the code of lengths come. -/
def lengthOrder : List Nat := [16, 17, 18, 0, 8, 7, 9, 6, 10, 5, 11, 4, 12, 3, 13, 2, 14, 1, 15]

/-- So many numbers of three bits. -/
def readShort : Nat → Reader (List Nat)
  | 0 => return []
  | n + 1 => do
    let l ← Reader.number 3
    let ls ← readShort n
    return l :: ls

/-- What a symbol above the lengths repeats, how often at least, and in how many bits more times are
written. -/
def repeated (done : List Nat) (symbol : Nat) : Option Nat × Nat × Nat :=
  if symbol = 16 then (done.head?, 3, 2)
  else if symbol = 17 then (some 0, 3, 3)
  else (some 0, 11, 7)

/-- Reads so many lengths after some, which are in reverse.  The last length may be repeated, and so
may zero. -/
def readLengths (code : PrefixCode) (done : List Nat) (left : Nat) : Reader (List Nat) :=
  match left with
  | 0 => return done.reverse
  | left + 1 => do
    let symbol := (← code.read).getD 0
    if symbol < 16 then readLengths code (symbol :: done) left
    else
      let (value, least, extra) := repeated done symbol
      let times := least + (← Reader.number extra)
      match value with
      | none => Reader.fail .repeatedLength
      | some n =>
        if _h : 0 < times ∧ times ≤ left + 1 then
          readLengths code (List.replicate times n ++ done) (left + 1 - times)
        else Reader.fail .repeatedLength
termination_by left
decreasing_by all_goals omega

/-- The code of some lengths, or what is wrong with them. -/
def codeOf (loose : Bool) (lengths : List Nat) (f : Fault) : Reader PrefixCode :=
  match PrefixCode.ofLengths? loose lengths with
  | some c => return c
  | none => Reader.fail f

/-- The codes that a block begins with. -/
def readCodes : Reader Codes := do
  let literalCount := 257 + (← Reader.number 5)
  let distanceCount := 1 + (← Reader.number 5)
  let shortCount := 4 + (← Reader.number 4)
  if 286 < literalCount ∨ 30 < distanceCount then Reader.fail .tooManySymbols
  else
    let short ← readShort shortCount
    let shortLengths := (List.range 19).map fun n ↦ ((lengthOrder.zip short).lookup n).getD 0
    let code ← codeOf false shortLengths .codeLengths
    let lengths ← readLengths code [] (literalCount + distanceCount)
    if lengths.getD endSymbol 0 = 0 then Reader.fail .noEndOfBlock
    else
      let literals ← codeOf true (lengths.take literalCount) .literalCode
      let distances ← codeOf true (lengths.drop literalCount) .distanceCode
      return ⟨literals, distances⟩

/-- The lengths of the codes in blocks that begin with none. -/
def fixedLengths : List Nat :=
  List.replicate 144 8 ++ List.replicate 112 9 ++ List.replicate 24 7 ++ List.replicate 8 8

def fixedCodes : Codes where
  literals := (PrefixCode.ofLengths? false fixedLengths).getD .empty
  distances := (PrefixCode.ofLengths? false (List.replicate 32 5)).getD .empty

/-! ## Blocks -/

/-- Reads so many bytes as they are. -/
def readStored (out : Output) (s : Bits) : Nat → Progress
  | 0 => ⟨out, .ok s⟩
  | n + 1 =>
    match (Reader.number 8).run s with
    | .error e => ⟨out, .error e⟩
    | .ok (b, rest) => readStored (out.push b.toUInt8) rest n

/-- The length of a stored block, which is written twice, once with every bit changed. -/
def readStoredLength : Reader Nat := do
  Reader.alignToByte
  let length ← Reader.number 32
  if length % 0x10000 + length / 0x10000 = 0xFFFF then return length % 0x10000
  else Reader.fail .storedLength

/-- Goes on with what a reader gives. -/
def Progress.after {α : Type} (out : Output) (x : Reader α) (s : Bits)
    (f : α → Bits → Progress) : Progress :=
  match x.run s with
  | .error e => ⟨out, .error e⟩
  | .ok (a, rest) => f a rest

/-- A block of some kind. -/
def readBlock (kind : Nat) (out : Output) (s : Bits) : Progress :=
  match kind with
  | 0 => .after out readStoredLength s fun n rest ↦ readStored out rest n
  | 1 => readItems fixedCodes out s
  | 2 => .after out readCodes s fun codes rest ↦ readItems codes out rest
  | _ => ⟨out, .error (.malformed .blockKind)⟩

/-- Reads at most so many blocks, up to the last one. -/
def readBlocks (out : Output) (s : Bits) : Nat → Progress
  | 0 => ⟨out, .error .cut⟩
  | n + 1 => .after out (Reader.number 3) s fun header rest ↦
    let p := readBlock (header / 2) out rest
    match header % 2, p.rest with
    | 0, .ok rest => readBlocks p.output rest n
    | _, _ => p

/-- What compressed bits stand for.  A block takes a bit at least. -/
def inflate (s : Bits) : Progress := readBlocks #[] s s.length

end InstanceCatalog.Deflate
