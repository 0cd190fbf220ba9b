import InstanceCatalog.Text.Ascii
import InstanceCatalog.Text.CodePoint

/-! # Punycode

A label beyond ASCII is written in two parts.  The first holds its ASCII characters.  The second
holds, for each other character in ascending order, how many steps of an insertion are skipped
before it; the steps are numbered through all places of the label for one code point after the
other.  The numbers are written in digits whose weight adapts to the numbers before. -/

namespace InstanceCatalog.Text.Punycode

/-- The least digit with which a number goes on, in each place of it. -/
def threshold (bias place : Nat) : Nat := min 26 (max 1 (36 * (place + 1) - bias))

theorem threshold_pos (bias place : Nat) : 1 ≤ threshold bias place := by
  simp only [threshold]
  omega

/-- Divides by 35 until at most 455 is left, and counts 36 for each division. -/
def scale (delta divisions : Nat) : Nat × Nat :=
  if 455 < delta then scale (delta / 35) (divisions + 36) else (delta, divisions)
termination_by delta
decreasing_by exact Nat.div_lt_self (by omega) (by omega)

/-- The bias after a number, with so many characters in place. -/
def adapt (first : Bool) (delta count : Nat) : Nat :=
  let delta := if first then delta / 700 else delta / 2
  let (delta, divisions) := scale (delta + delta / count) 0
  divisions + 36 * delta / (delta + 38)

def firstBias : Nat := 72

/-! ## Numbers -/

/-- A digit: 26 letters, then ten figures. -/
def digit (n : Nat) : Char := Char.ofNat (if n < 26 then 0x61 + n else 0x30 + (n - 26))

def digitValue? (c : Char) : Option Nat :=
  if isAsciiDigit c then some (c.toNat - 0x30 + 26)
  else if isAsciiLetter c then some (c.toLower.toNat - 0x61)
  else none

def writeNumber (bias place n : Nat) : List Char :=
  let t := threshold bias place
  if n < t then [digit n]
  else digit (t + (n - t) % (36 - t)) :: writeNumber bias (place + 1) ((n - t) / (36 - t))
termination_by n
decreasing_by
  have := threshold_pos bias place
  exact Nat.lt_of_le_of_lt (Nat.div_le_self _ _) (by omega)

/-- Reads a number whose next digit has a weight, and gives it with the rest. -/
def readNumber? (bias : Nat) : Nat → Nat → List Char → Option (Nat × List Char)
  | _, _, [] => none
  | place, weight, c :: s =>
    let t := threshold bias place
    match digitValue? c with
    | none => none
    | some d =>
      if d < t then some (d * weight, s)
      else (readNumber? bias (place + 1) (weight * (36 - t)) s).map fun r ↦ (d * weight + r.1, r.2)

theorem length_rest_of_readNumber? {bias : Nat} {s : List Char} {place weight : Nat}
    {r : Nat × List Char} (h : readNumber? bias place weight s = some r) :
    r.2.length < s.length := by
  induction s generalizing place weight r with
  | nil => simp [readNumber?] at h
  | cons c s ih =>
    simp only [readNumber?] at h
    split at h
    · simp at h
    · split at h
      · cases h
        simp
      · obtain ⟨q, hq, rfl⟩ := Option.map_eq_some_iff.1 h
        exact Nat.lt_succ_of_lt (show q.2.length < s.length from ih hq)

/-- The second part from its numbers, with so many characters in place before. -/
def writeNumbers (first : Bool) (bias count : Nat) : List Nat → List Char
  | [] => []
  | n :: ns =>
    writeNumber bias 0 n ++ writeNumbers false (adapt first n (count + 1)) (count + 1) ns

/-- The numbers of a second part, and what is left of it where no number can be read. -/
def readNumbers (first : Bool) (bias count : Nat) (s : List Char) : List Nat × List Char :=
  match _h : readNumber? bias 0 1 s with
  | none => ([], s)
  | some (n, rest) =>
    let (ns, left) := readNumbers false (adapt first n (count + 1)) (count + 1) rest
    (n :: ns, left)
termination_by s.length
decreasing_by exact length_rest_of_readNumber? ‹_›

/-! ## Insertions -/

/-- The numbers for one code point in a label: `skipped` steps since the last insertion, with the
code points below it in place.  The skipped steps after its last insertion are left over. -/
def skips (n : Nat) (skipped : Nat) : List Nat → List Nat × Nat
  | [] => ([], skipped)
  | p :: s =>
    if p = n then
      let (ns, left) := skips n 0 s
      (skipped :: ns, left)
    else skips n (if p < n then skipped + 1 else skipped) s

/-- The numbers for some code points in ascending order, counted from the code point `start`. -/
def numbers (label : List Nat) (start skipped count : Nat) : List Nat → List Nat
  | [] => []
  | n :: ns =>
    let (found, left) := skips n (skipped + (n - start) * (count + 1)) label
    found ++ numbers label (n + 1) (left + 1) (count + found.length) ns

/-- A number put into an ascending list, once. -/
def insertOnce (n : Nat) : List Nat → List Nat
  | [] => [n]
  | m :: ms => if n < m then n :: m :: ms else if n = m then m :: ms else m :: insertOnce n ms

def isPlain (n : Nat) : Bool := n < 0x80

/-- The code of some code points, of which some may be no character. -/
def encode (label : List Nat) : List Char :=
  let plain := (label.filter isPlain).map Char.ofNat
  let others := (label.filter (!isPlain ·)).foldr insertOnce []
  (if plain.isEmpty then [] else plain ++ ['-'])
    ++ writeNumbers true firstBias plain.length (numbers label 0x80 0 plain.length others)

/-- Inserts code points into some.  `place` is where the next one would go, and `n` is that one, for
which another may stand. -/
def insertAll (stand : Nat → Nat) (points : List Nat) (n place : Nat) : List Nat → List Nat
  | [] => points
  | skipped :: ns =>
    let step := place + skipped
    let n := stand (n + step / (points.length + 1))
    let place := step % (points.length + 1)
    insertAll stand (points.take place ++ n :: points.drop place) n (place + 1) ns

/-- The two parts of a code, of which the first ends in front of the last hyphen. -/
def parts (s : List Char) : List Char × List Char :=
  let other := (s.reverse.takeWhile (· != '-')).reverse
  (s.take (s.length - other.length - 1), other)

/-- The code points that a text encodes. -/
def decode? (s : List Char) : Option (List Nat) :=
  let (plain, other) := parts s
  let (ns, left) := readNumbers true firstBias plain.length other
  let points := insertAll id (plain.map Char.toNat) 0x80 0 ns
  if left.isEmpty && points.all (· ≤ CodePoint.last) then some points else none

/-- The code points that a text encodes up to where no number can be read.  A question mark stands
for one beyond the last. -/
def decodeLossy (s : List Char) : List Nat :=
  let (plain, other) := parts s
  let stand (n : Nat) : Nat := if n ≤ CodePoint.last then n else '?'.toNat
  insertAll stand (plain.map Char.toNat) 0x80 0
    (readNumbers true firstBias plain.length other).1

end InstanceCatalog.Text.Punycode
