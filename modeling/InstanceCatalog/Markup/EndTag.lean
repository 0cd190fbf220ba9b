import InstanceCatalog.Markup.StartTag

/-! # End tags

An end tag holds a name and nothing that counts after it.  Inside raw text only the end tag of the
element itself is one. -/

namespace InstanceCatalog.Markup.EndTag

open Text

def isStrictChar (c : Char) : Bool := Reference.isNameChar c || c == ':' || c == '_'

/-- A name alone between `</` and `>`, blanks apart, and the text after the tag. -/
def strict? (s : List Char) : Option (List Char × List Char) :=
  match s.dropWhile isBlank with
  | [] => none
  | c :: t =>
    if Text.isAsciiLetter c then
      match (t.dropWhile isStrictChar).dropWhile isBlank with
      | '>' :: rest => some (c :: t.takeWhile isStrictChar, rest)
      | _ => none
    else none

theorem length_rest_of_strict? {s name rest : List Char} (h : strict? s = some (name, rest)) :
    rest.length < s.length := by
  have hs := Reference.length_dropWhile_le isBlank s
  simp only [strict?] at h
  split at h
  · simp at h
  · rename_i c t hc
    rw [hc, List.length_cons] at hs
    simp only [Option.ite_none_right_eq_some] at h
    obtain ⟨-, h⟩ := h
    split at h
    · rename_i rest' hr
      have h₁ := Reference.length_dropWhile_le isBlank (t.dropWhile isStrictChar)
      have h₂ := Reference.length_dropWhile_le isStrictChar t
      rw [hr, List.length_cons] at h₁
      simp only [Option.some.injEq, Prod.mk.injEq] at h
      rw [← h.2]; omega
    · simp at h

/-- The text up to the first `>` with it, and the text after it. -/
def throughClose? : List Char → Option (List Char × List Char)
  | [] => none
  | c :: s =>
    if c = '>' then some ([c], s) else (throughClose? s).map fun (a, b) ↦ (c :: a, b)

theorem length_rest_of_throughClose? {s a b : List Char} (h : throughClose? s = some (a, b)) :
    b.length < s.length := by
  induction s generalizing a with
  | nil => simp [throughClose?] at h
  | cons c s ih =>
    simp only [throughClose?] at h
    split at h
    · simp only [Option.some.injEq, Prod.mk.injEq] at h
      simp [← h.2]
    · obtain ⟨⟨x, y⟩, hx, he⟩ := Option.map_eq_some_iff.1 h
      simp only [Prod.mk.injEq] at he
      have := ih (he.2 ▸ hx)
      simp only [List.length_cons]; omega

def finish (name : List Char) : Token := .finish (String.ofList (lower name))

/-- The end tag that `</` and `s` begin with, if a `>` ends it. -/
def read (s : List Char) : Option Reading :=
  match throughClose? s with
  | none => none
  | some (_, rest) =>
    match strict? s with
    | some (name, rest) => some ⟨[finish name], none, rest⟩
    | none =>
      match s with
      | '>' :: _ => some ⟨[], none, rest⟩
      | c :: _ =>
        if Text.isAsciiLetter c then
          let name := s.takeWhile StartTag.isTagChar
          let after := StartTag.dropGap (s.dropWhile StartTag.isTagChar)
          (throughClose? after).map fun (_, rest) ↦ ⟨[finish name], none, rest⟩
        else some ⟨[.hidden], none, rest⟩
      | [] => none

theorem length_rest_of_read {s : List Char} {r : Reading} (h : read s = some r) :
    r.rest.length < s.length := by
  simp only [read] at h
  split at h
  · simp at h
  · rename_i a rest hc
    have hc := length_rest_of_throughClose? hc
    split at h
    · rename_i name rest' hs
      have := length_rest_of_strict? hs
      simp only [Option.some.injEq] at h
      rw [← h]; exact this
    · split at h
      · simp only [Option.some.injEq] at h
        rw [← h]; exact hc
      · split at h
        · obtain ⟨⟨x, y⟩, hx, he⟩ := Option.map_eq_some_iff.1 h
          rw [← he]
          exact Nat.lt_of_lt_of_le (length_rest_of_throughClose? hx)
            (Nat.le_trans (StartTag.length_dropGap_le _) (Reference.length_dropWhile_le _ _))
        · simp only [Option.some.injEq] at h
          rw [← h]; exact hc
      · simp at h

/-- Inside raw text: the end tag of that element, or text up to the first `>`. -/
def readRaw (r : Raw) (s : List Char) : Option Reading :=
  match throughClose? s with
  | none => none
  | some (through, rest) =>
    let other : Reading := ⟨[.text (String.ofList ('<' :: '/' :: through))], some r, rest⟩
    match strict? s with
    | some (name, rest) =>
      if String.ofList (lower name) = r.tag then some ⟨[finish name], none, rest⟩ else some other
    | none => some other

theorem length_rest_of_readRaw {e : Raw} {s : List Char} {r : Reading}
    (h : readRaw e s = some r) : r.rest.length < s.length := by
  simp only [readRaw] at h
  split at h
  · simp at h
  · rename_i a rest hc
    have hc := length_rest_of_throughClose? hc
    split at h
    · rename_i name rest' hs
      have := length_rest_of_strict? hs
      split at h <;> simp only [Option.some.injEq] at h <;> rw [← h]
      · exact this
      · exact hc
    · simp only [Option.some.injEq] at h
      rw [← h]; exact hc

/-- The characters that count as a letter where raw text looks for its end: both cases, the long s,
and the two Turkish forms of i. -/
def folds (letter c : Char) : Bool :=
  c == letter || c == letter.toUpper || (letter == 's' && c == 'ſ')
    || (letter == 'i' && (c == 'ı' || c == 'İ'))

/-- The text after a word, its letters folded, at the start of a text. -/
def dropFolded? : List Char → List Char → Option (List Char)
  | [], s => some s
  | _ :: _, [] => none
  | l :: ls, c :: s => if folds l c then dropFolded? ls s else none

/-- Whether raw text looks for its end here. -/
def endsRaw (r : Raw) (s : List Char) : Bool :=
  match s with
  | '<' :: '/' :: t =>
    match dropFolded? r.tag.toList (t.dropWhile isBlank) with
    | some u => (u.dropWhile isBlank).head? == some '>'
    | none => false
  | _ => false

/-- The raw text before the place where it may end, and what follows; nothing if it never ends. -/
def splitRaw? (r : Raw) : List Char → Option (List Char × List Char)
  | [] => none
  | c :: s =>
    if endsRaw r (c :: s) then some ([], c :: s)
    else (splitRaw? r s).map fun (a, b) ↦ (c :: a, b)

theorem append_of_splitRaw? {e : Raw} {s a b : List Char} (h : splitRaw? e s = some (a, b)) :
    a ++ b = s := by
  induction s generalizing a with
  | nil => simp [splitRaw?] at h
  | cons c s ih =>
    simp only [splitRaw?] at h
    split at h
    · simp only [Option.some.injEq, Prod.mk.injEq] at h
      simp [← h.1, ← h.2]
    · obtain ⟨⟨x, y⟩, hx, he⟩ := Option.map_eq_some_iff.1 h
      simp only [Prod.mk.injEq] at he
      rw [← he.1, List.cons_append, ih (he.2 ▸ hx)]

end InstanceCatalog.Markup.EndTag
