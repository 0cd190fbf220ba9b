import InstanceCatalog.Text.Charset.Chinese
import InstanceCatalog.Text.Charset.Japanese
import InstanceCatalog.Text.Charset.Korean

/-! # Text that switches between sets

A text in seven bits designates the sets that its bytes stand for.  A designation is an escape with
a letter at its end.  One set is in use; shifts put a second one in its place, and a third one is
used for a single character. -/

namespace InstanceCatalog.Text.Charset

/-- A set that can be designated. -/
inductive Designated where
  | ascii
  /-- The upper half of the western set. -/
  | western
  /-- The upper half of the Greek set. -/
  | greek
  /-- ASCII with a yen sign and an overline. -/
  | roman
  /-- The small kana. -/
  | kana
  | simplified
  | japanese
  | korean
  | supplement
  | firstPlane (edition : Japanese)
  | secondPlane
deriving DecidableEq, Repr

/-- The kinds of switching text, by the sets that they designate. -/
inductive Switched where
  | japanese
  | japanese1
  | japanese2
  | japanese3
  | japanese2004
  | japaneseExtended
  | korean
deriving DecidableEq, Repr

namespace Designated

/-- What the first byte of a character stands for, with those after it.  The halves of sets are for
single characters only. -/
def read (d : Designated) (b : UInt8) (bs : Bytes) : Reading Char :=
  let n := b.toNat
  let double (char? : Nat → Nat → Option Char) : Reading Char :=
    .withSecond bs fun m ↦
      match char? (n - 0x20) (m - 0x20) with
      | some c => .chars [c] 1
      | none => .gap 1
  match d with
  | .ascii => .chars [Char.ofNat n] 0
  | .western | .greek => .gap 0
  | .roman => .ofChar? (Japanese.single? .extended2004 n) 0
  | .kana => .ofChar? (Japanese.kana? (n + 0x80)) 0
  | .simplified => double Chinese.simplified?
  | .japanese => double Japanese.basic?
  | .korean => double Korean.basic?
  | .supplement => double Japanese.supplement?
  | .secondPlane => double (Japanese.secondPlane? .extended2004)
  | .firstPlane edition =>
    .withSecond bs fun m ↦
      match Japanese.firstPlane edition (n - 0x20) (m - 0x20) with
      | .chars cs _ => .chars cs 1
      | _ => .gap 1

/-- The upper half of the Greek set. -/
def greekHalf : String :=
  "\u00a0‘’£��¦§¨©�«¬\u00ad�―°±²³΄΅Ά·ΈΉΊ»Ό½ΎΏΐΑΒΓΔΕΖΗΘΙΚΛΜΝΞΟΠΡ�ΣΤΥΦΧΨΩΪΫάέήίΰ"
    ++ "αβγδεζηθικλμνξοπρςστυφχψωϊϋόύώ"

/-- What a byte stands for as a single character of a set. -/
def readSingle (d : Designated) (n : Nat) : Reading Char :=
  match d with
  | .ascii => if n < 0x80 then .chars [Char.ofNat n] 2 else .gap 2
  | .western => if n < 0x80 then .chars [Char.ofNat (n + 0x80)] 2 else .gap 2
  | .greek =>
    let n := (n + 0x80) % 0x100
    if n < 0xA0 then .chars [Char.ofNat n] 2
    else match greekHalf.toList[n - 0xA0]? with
      | some c => if c = '\ufffd' then .gap 2 else .chars [c] 2
      | none => .gap 2
  | _ => .stuck

end Designated

namespace Switched

/-- The letters that designate sets of characters with one byte and with two. -/
def letters : Switched → List (Char × Designated) × List (Char × Designated)
  | .japanese => ([('J', .roman)], [('B', .japanese), ('@', .japanese)])
  | .japanese1 =>
    ([('J', .roman)], [('B', .japanese), ('@', .japanese), ('D', .supplement)])
  | .japanese2 =>
    ([('J', .roman), ('A', .western), ('F', .greek)],
      [('B', .japanese), ('@', .japanese), ('D', .supplement), ('C', .korean), ('A', .simplified)])
  | .japanese3 =>
    ([], [('B', .japanese), ('O', .firstPlane .extended2000), ('P', .secondPlane)])
  | .japanese2004 =>
    ([], [('B', .japanese), ('Q', .firstPlane .extended2004), ('P', .secondPlane)])
  | .japaneseExtended =>
    ([('J', .roman), ('I', .kana)],
      [('B', .japanese), ('@', .japanese), ('D', .supplement)])
  | .korean => ([], [('C', .korean)])

/-- The set that a letter designates. -/
def designated? (k : Switched) (double : Bool) (letter : UInt8) : Option Designated :=
  let letter := Char.ofNat letter.toNat
  if double then k.letters.2.lookup letter
  else if letter = 'B' then some .ascii
  else k.letters.1.lookup letter

/-- What is designated, and how the next byte is taken. -/
structure State where
  first : Designated := .ascii
  second : Designated := .ascii
  third : Designated := .ascii
  /-- Whether the second set is in use. -/
  shifted : Bool := false
  /-- Whether an escape goes on that designates nothing. -/
  escaped : Bool := false
deriving DecidableEq, Repr

/-- The last byte of an escape. -/
def endsEscape (b : UInt8) : Bool := 0x40 ≤ b && b ≤ 0x5A

def escapeByte : UInt8 := 0x1B

/-- How many bytes an escape has after its first one, from some on.  An escape is too long if its
end is not near, and a mark of a revision stands before an escape in Japanese text. -/
def escapeLength (k : Switched) (seen : Nat) (bs : Bytes) : Except (Reading Char) Nat :=
  match bs with
  | [] => .error (if 15 ≤ seen then .gap 0 else .unfinished)
  | b :: bs =>
    if 15 ≤ seen then .error (.gap 0)
    else if endsEscape b then .ok (seen + 1)
    else if b = 0x26 ∧ bs.head? = some 0x40 ∧ k ≠ .korean then escapeLength k (seen + 3) (bs.drop 2)
    else escapeLength k (seen + 1) bs
termination_by bs.length
decreasing_by all_goals simp only [List.length_drop, List.length_cons]; omega

/-- The state after an escape, given by the bytes after its first one. -/
def escape? (k : Switched) (s : State) : Bytes → Option State
  | [0x24, letter] => (k.designated? true letter).map fun d ↦ { s with first := d }
  | [0x28, letter] => (k.designated? false letter).map fun d ↦ { s with first := d }
  | [0x29, letter] => (k.designated? false letter).map fun d ↦ { s with second := d }
  | [0x2E, letter] =>
    if k = .japanese2 then (k.designated? false letter).map fun d ↦ { s with third := d } else none
  | [0x24, 0x28, letter] => (k.designated? true letter).map fun d ↦ { s with first := d }
  | [0x24, 0x29, letter] => (k.designated? true letter).map fun d ↦ { s with second := d }
  | [_, _, 0x1B, 0x24, 0x42] => if k = .korean then none else some { s with first := .japanese }
  | _ => none

/-- The bytes that an escape starts with, after its first one. -/
def startsDesignation (b : UInt8) : Bool := [0x24, 0x26, 0x28, 0x29, 0x2E].contains b

/-- What an escape with some bytes after its first one stands for. -/
def readEscape (k : Switched) (s : State) (bs : Bytes) : Reading Char × State :=
  match bs with
  | [] => (.unfinished, s)
  | b :: rest =>
    if startsDesignation b then
      match k.escapeLength 0 bs with
      | .error r => (r, s)
      | .ok n =>
        match k.escape? s (bs.take n) with
        | some t => (.chars [] n, t)
        | none => (.gap n, s)
    else if k = .japanese2 ∧ b = 0x4E then
      match rest with
      | [] => (.unfinished, s)
      | c :: _ => (s.third.readSingle c.toNat, s)
    else (.chars ['\x1b'] 0, { s with escaped := true })

/-- The rule of switching text.  A line feed ends a shift. -/
def rule (k : Switched) (s : State) (b : UInt8) (bs : Bytes) : Reading Char × State :=
  if s.escaped then (.chars [Char.ofNat b.toNat] 0, { s with escaped := !endsEscape b })
  else if b = escapeByte then k.readEscape s bs
  else if k = .korean ∧ b = 0x0F then (.chars [] 0, { s with shifted := false })
  else if k = .korean ∧ b = 0x0E then (.chars [] 0, { s with shifted := true })
  else if b = 0x0A then (.chars ['\n'] 0, { s with shifted := false })
  else if b < 0x20 then (.chars [Char.ofNat b.toNat] 0, s)
  else if 0x80 ≤ b then (.gap 0, s)
  else ((if s.shifted then s.second else s.first).read b bs, s)

end Switched

end InstanceCatalog.Text.Charset
