import InstanceCatalog.Text.Pieces

/-! # Blank characters, and the words between them

The words of a text are its longest runs of characters that are not blank.  `oneLine` writes the
words with single spaces between them, so that two texts with the same words become one. -/

namespace InstanceCatalog.Text

/-- The white space of all scripts, with the line and separator controls of ASCII. -/
def isBlank (c : Char) : Bool :=
  let n := c.toNat
  (0x09 ≤ n && n ≤ 0x0D) || (0x1C ≤ n && n ≤ 0x20) || n == 0x85 || n == 0xA0 || n == 0x1680
    || (0x2000 ≤ n && n ≤ 0x200A) || n == 0x2028 || n == 0x2029 || n == 0x202F || n == 0x205F
    || n == 0x3000

/-- The pieces between blank characters, the empty ones included. -/
def pieces (s : List Char) : List (List Char) := splitAt isBlank s

@[simp] theorem pieces_nil : pieces [] = [[]] := rfl

theorem pieces_cons_blank {c : Char} (h : isBlank c = true) (s : List Char) :
    pieces (c :: s) = [] :: pieces s := splitAt_cons h s

theorem pieces_cons_other {c : Char} (h : isBlank c = false) (s : List Char) :
    pieces (c :: s) = (pieces s).modifyHead (c :: ·) := splitAt_cons_of_not h s

theorem pieces_ne_nil (s : List Char) : pieces s ≠ [] := splitAt_ne_nil isBlank s

/-- The longest runs of characters that are not blank, in order. -/
def words (s : List Char) : List (List Char) :=
  (pieces s).filter fun w ↦ !w.isEmpty

@[simp] theorem words_nil : words [] = [] := rfl

theorem words_cons_blank {c : Char} (h : isBlank c = true) (s : List Char) :
    words (c :: s) = words s := by simp [words, pieces_cons_blank h]

/-- Words with one space between each two. -/
def joinWords (ws : List (List Char)) : List Char := [' '].intercalate ws

/-- A text written with single spaces between its words and none around them. -/
def oneLine (s : String) : String := String.ofList (joinWords (words s.toList))

end InstanceCatalog.Text
