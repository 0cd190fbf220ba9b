import InstanceCatalog.Numeral.Digits
import InstanceCatalog.Text.Blank
import InstanceCatalog.Text.Pieces

/-! # Numerals as people type them

Settings may be typed with white space around them, with digits of any script and with underscores
between digits.  These functions bring such a text to plain ASCII digits. -/

namespace InstanceCatalog.Numeral

open Text

/-- White space around a numeral; the separator controls of ASCII are not part of it. -/
def isMargin (c : Char) : Bool := isBlank c && !(0x1C ≤ c.toNat && c.toNat ≤ 0x1F)

/-- A digit of any script as the ASCII digit of its value. -/
def asciiDigit (c : Char) : Char :=
  match digit? c with
  | some n => Char.ofNat (0x30 + n)
  | none => c

theorem asciiDigit_of_isAsciiDigit {c : Char} (h : isAsciiDigit c = true) : asciiDigit c = c := by
  have h' := h
  simp only [isAsciiDigit, Bool.and_eq_true, decide_eq_true_eq, Char.le_def] at h'
  have lo : 0x30 ≤ c.toNat := by simpa using UInt32.le_iff_toNat_le.1 h'.1
  simp only [asciiDigit, digit?_of_isAsciiDigit c h]
  rw [show 0x30 + (c.toNat - 0x30) = c.toNat by omega, Char.ofNat_toNat]

/-- Underscores taken out, if each stands between two digits.  `before` says whether a digit was
read last. -/
def dropUnderscores? (before : Bool) : List Char → Option (List Char)
  | [] => some []
  | c :: s =>
    if c = '_' then
      match s with
      | [] => none
      | d :: _ => if before && isAsciiDigit d then dropUnderscores? false s else none
    else (dropUnderscores? (isAsciiDigit c) s).map (c :: ·)

end InstanceCatalog.Numeral
