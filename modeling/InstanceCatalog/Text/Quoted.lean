import InstanceCatalog.Text.Printable

/-! # Quoted text

A text is shown between two marks, single ones unless it holds single marks and no double one.  The
mark itself, the backslash and every character that does not show are escaped, so the text stays on
one line and can be read back. -/

namespace InstanceCatalog.Text.Quoted

/-- The mark a text is quoted with. -/
def mark (s : List Char) : Char := if '\'' ∈ s ∧ '"' ∉ s then '"' else '\''

/-- The hexadecimal digit of a number below sixteen, in small letters. -/
def hexDigit (n : Nat) : Char := "0123456789abcdef".toList.getD n '0'

/-- The last `k` hexadecimal digits of a number. -/
def hex : Nat → Nat → List Char
  | 0, _ => []
  | k + 1, n => hex k (n / 16) ++ [hexDigit (n % 16)]

@[simp] theorem length_hex (k n : Nat) : (hex k n).length = k := by
  induction k generalizing n with
  | zero => rfl
  | succ k ih => simp [hex, ih]

/-- A character that does not show is written by its code point, in two, four or eight digits. -/
def escapeCode (n : Nat) : List Char :=
  if n < 0x100 then '\\' :: 'x' :: hex 2 n
  else if n < 0x10000 then '\\' :: 'u' :: hex 4 n
  else '\\' :: 'U' :: hex 8 n

/-- One character between marks `q`. -/
def escape (q c : Char) : List Char :=
  if c = '\\' ∨ c = q then ['\\', c]
  else if c = '\n' then ['\\', 'n']
  else if c = '\r' then ['\\', 'r']
  else if c = '\t' then ['\\', 't']
  else if isPrintable c then [c]
  else escapeCode c.toNat

/-- A text between marks. -/
def encode (s : List Char) : List Char :=
  mark s :: s.flatMap (escape (mark s)) ++ [mark s]

/-- Code points between marks.  One that is no character does not show. -/
def encodePoints (points : List Nat) : List Char :=
  let q := mark ((points.filter Nat.isValidChar).map Char.ofNat)
  let shown (n : Nat) : List Char :=
    if n.isValidChar then escape q (Char.ofNat n) else escapeCode n
  q :: points.flatMap shown ++ [q]

end Quoted

/-- A text as it is shown in messages. -/
def quoted (s : String) : String := String.ofList (Quoted.encode s.toList)

end InstanceCatalog.Text
