/-! # Parts of a text: what is between its ends, and the pieces between marks -/

namespace InstanceCatalog.Text

/-- A text without the characters of a class at its ends. -/
def trim (p : Char → Bool) (s : List Char) : List Char :=
  ((s.dropWhile p).reverse.dropWhile p).reverse

@[simp] theorem trim_nil (p : Char → Bool) : trim p [] = [] := rfl

/-- The pieces of a text between characters of a class, the empty ones included. -/
def splitAt (p : Char → Bool) (s : List Char) : List (List Char) :=
  match s with
  | [] => [[]]
  | c :: s => if p c then [] :: splitAt p s else (splitAt p s).modifyHead (c :: ·)

/-- Pieces with a character between each two. -/
def joinWith (c : Char) (pieces : List (List Char)) : List Char := [c].intercalate pieces

/-- The text before the first character of a class, and the text after it if there is one. -/
def cutAt (p : Char → Bool) (s : List Char) : List Char × Option (List Char) :=
  (s.takeWhile (!p ·),
    match s.dropWhile (!p ·) with
    | [] => none
    | _ :: t => some t)

@[simp] theorem splitAt_nil (p : Char → Bool) : splitAt p [] = [[]] := rfl

theorem splitAt_cons {p : Char → Bool} {c : Char} (h : p c = true) (s : List Char) :
    splitAt p (c :: s) = [] :: splitAt p s := by simp [splitAt, h]

theorem splitAt_cons_of_not {p : Char → Bool} {c : Char} (h : p c = false) (s : List Char) :
    splitAt p (c :: s) = (splitAt p s).modifyHead (c :: ·) := by simp [splitAt, h]

theorem splitAt_ne_nil (p : Char → Bool) (s : List Char) : splitAt p s ≠ [] := by
  induction s with
  | nil => simp
  | cons c s ih => cases h : p c <;> simp [splitAt, h, ih]

end InstanceCatalog.Text
