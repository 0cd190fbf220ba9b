import InstanceCatalog.Numeral.Digits
import InstanceCatalog.Text.Ascii
import InstanceCatalog.Text.Quoted

/-! # Texts that have to be ASCII

The values of headers are ASCII.  The first run of other characters in a text is what is wrong with
it. -/

namespace InstanceCatalog.Text

/-- A run of characters beyond ASCII, and where it starts. -/
structure NotAscii where
  run : List Char
  start : Nat
deriving DecidableEq, Repr

namespace NotAscii

/-- The first such run of a text. -/
def find? (s : List Char) : Option NotAscii :=
  let before := s.takeWhile isAscii
  match (s.dropWhile isAscii).takeWhile (!isAscii ·) with
  | [] => none
  | run => some ⟨run, before.length⟩

def shown (f : NotAscii) : String :=
  match f.run with
  | [c] =>
    "character '" ++ String.ofList (Quoted.escapeCode c.toNat) ++ "' in position "
      ++ Numeral.decimal f.start
  | run =>
    "characters in position " ++ Numeral.decimal f.start ++ "-"
      ++ Numeral.decimal (f.start + run.length - 1 : Nat)

def message (f : NotAscii) : String :=
  "'ascii' codec can't encode " ++ f.shown ++ ": ordinal not in range(128)"

/-- A text passes if it is ASCII. -/
def check (s : List Char) : Except NotAscii Unit :=
  match find? s with
  | some f => .error f
  | none => .ok ()

@[simp] theorem find?_nil : find? [] = none := rfl

end NotAscii

end InstanceCatalog.Text
