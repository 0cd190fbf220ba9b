import InstanceCatalog.Markup.Reference
import InstanceCatalog.Markup.Token
import InstanceCatalog.Text.Blank
import InstanceCatalog.Text.Case

/-! # Start tags

After the name come attributes, each with or without a value, with blanks and slashes between them.
An attribute starts only after a blank, a slash or a quote.  A tag that the text does not finish is
no tag yet; one that goes on with something else is text. -/

namespace InstanceCatalog.Markup.StartTag

open Text

def isQuote (c : Char) : Bool := c == '"' || c == '\''

def isTagChar (c : Char) : Bool :=
  !(c == '\t' || c == '\n' || c == '\r' || c == '\x0c' || c == ' ' || c == '/' || c == '>'
    || c == '\x00')

/-- The characters that an attribute's name may hold after the first; the first may be `=` too. -/
def isKeyChar (c : Char) : Bool := !(isBlank c || c == '/' || c == '=' || c == '>')

def isKeyStart (c : Char) : Bool := c == '=' || isKeyChar c

/-- Characters of a value without quotes. -/
def isBareChar (c : Char) : Bool := !(isBlank c || c == '>')

/-- Whether a gap between attributes starts here: a blank, or a slash that is not that of `/>`. -/
def startsGap : List Char → Bool
  | [] => false
  | c :: s => isBlank c || (c == '/' && s.head? != some '>')

def dropGap : List Char → List Char
  | [] => []
  | c :: s => if startsGap (c :: s) then dropGap s else c :: s

theorem length_dropGap_le (s : List Char) : (dropGap s).length ≤ s.length := by
  induction s with
  | nil => simp [dropGap]
  | cons c s ih => simp only [dropGap]; split <;> simp; omega

/-- Where a scan stands: the rest of the text, and whether an attribute may start there. -/
structure Place where
  ready : Bool
  rest : List Char

def Place.afterGap (p : Place) : Place := ⟨p.ready || startsGap p.rest, dropGap p.rest⟩

/-- A value after the equals signs `signs` of an attribute.  A quote that is not closed starts no
value: after a blank the value is empty, after a second sign the value starts at that sign, and else
there is none. -/
def afterSigns? (signs : Nat) (s : List Char) : Option (List Char × Place) :=
  match s.dropWhile isBlank with
  | [] => some ([], ⟨false, []⟩)
  | c :: t =>
    if isQuote c then
      match t.dropWhile (· != c) with
      | _ :: rest => some (t.takeWhile (· != c), ⟨true, rest⟩)
      | [] =>
        if s.head?.any isBlank then some ([], ⟨true, c :: t⟩)
        else if 1 < signs then
          some ('=' :: s.takeWhile isBareChar, ⟨false, s.dropWhile isBareChar⟩)
        else none
    else some ((c :: t).takeWhile isBareChar, ⟨false, (c :: t).dropWhile isBareChar⟩)

theorem length_rest_of_afterSigns? {n : Nat} {s v : List Char} {p : Place}
    (h : afterSigns? n s = some (v, p)) : p.rest.length ≤ s.length := by
  have hs := Reference.length_dropWhile_le isBlank s
  have bare := Reference.length_dropWhile_le isBareChar
  simp only [afterSigns?] at h
  split at h
  · simp only [Option.some.injEq, Prod.mk.injEq] at h
    simp [← h.2]
  · rename_i c t hc
    rw [hc, List.length_cons] at hs
    split at h
    · split at h
      · rename_i hq
        have ht := Reference.length_dropWhile_le (· != c) t
        simp only [Option.some.injEq, Prod.mk.injEq] at h
        rw [hq, List.length_cons] at ht
        rw [← h.2]; simp only; omega
      · split at h
        · simp only [Option.some.injEq, Prod.mk.injEq] at h
          rw [← h.2]; simpa using hs
        · simp only [Option.ite_none_right_eq_some, Option.some.injEq, Prod.mk.injEq] at h
          rw [← h.2.2]; exact bare s
    · simp only [Option.some.injEq, Prod.mk.injEq] at h
      rw [← h.2]; have := bare (c :: t); simp only [List.length_cons] at this ⊢; omega

/-- The value of an attribute whose name was read, if it has one. -/
def value? (s : List Char) : Option (List Char × Place) :=
  let t := s.dropWhile isBlank
  let signs := t.takeWhile (· == '=')
  if signs.isEmpty then none else afterSigns? signs.length (t.dropWhile (· == '='))

theorem length_rest_of_value? {s v : List Char} {p : Place} (h : value? s = some (v, p)) :
    p.rest.length ≤ s.length := by
  simp only [value?, Option.ite_none_left_eq_some] at h
  have h₁ := length_rest_of_afterSigns? h.2
  have h₂ := Reference.length_dropWhile_le (· == '=') (s.dropWhile isBlank)
  have h₃ := Reference.length_dropWhile_le isBlank s
  omega

theorem Place.length_rest_afterGap (p : Place) : p.afterGap.rest.length ≤ p.rest.length :=
  length_dropGap_le p.rest

/-- One attribute with the gap after it, if one starts at the place. -/
def attribute? (p : Place) : Option ((List Char × List Char) × Place) :=
  match p.rest with
  | [] => none
  | c :: s =>
    if p.ready && isKeyStart c then
      let key := c :: s.takeWhile isKeyChar
      let rest := s.dropWhile isKeyChar
      let (value, after) := (value? rest).getD ([], ⟨key.getLast?.any isQuote, rest⟩)
      some ((key, value), after.afterGap)
    else none

theorem length_rest_of_attribute? {p q : Place} {a : List Char × List Char}
    (h : attribute? p = some (a, q)) : q.rest.length < p.rest.length := by
  simp only [attribute?] at h
  split at h
  · simp at h
  · rename_i c s hs
    have hd := Reference.length_dropWhile_le isKeyChar s
    rw [hs, List.length_cons]
    simp only [Option.ite_none_right_eq_some, Option.some.injEq, Prod.mk.injEq] at h
    rw [← h.2.2]
    cases hv : value? (s.dropWhile isKeyChar) with
    | none =>
      have := Place.length_rest_afterGap
        ⟨(c :: s.takeWhile isKeyChar).getLast?.any isQuote, s.dropWhile isKeyChar⟩
      simp only [Option.getD_none] at this ⊢; omega
    | some vp =>
      have h₁ := length_rest_of_value? hv
      have h₂ := Place.length_rest_afterGap vp.2
      simp only [Option.getD_some]; omega

/-- The attributes from a place on, and where they end. -/
def attributes (p : Place) : List (List Char × List Char) × Place :=
  match h : attribute? p with
  | some (a, q) =>
    have : q.rest.length < p.rest.length := length_rest_of_attribute? h
    let (as, q) := attributes q
    (a :: as, q)
  | none => ([], p)
termination_by p.rest.length

theorem length_rest_attributes (p : Place) : (attributes p).2.rest.length ≤ p.rest.length := by
  fun_induction attributes p with
  | case1 p a q h _ as q' hq ih =>
    rw [hq] at ih
    exact Nat.le_of_lt (Nat.lt_of_le_of_lt ih (length_rest_of_attribute? h))
  | case2 p h => exact Nat.le_refl _

/-- A start tag as written: its name, its attributes, and what comes where they end. -/
structure Written where
  name : List Char
  attrs : List (List Char × List Char)
  rest : List Char

/-- The tag at the start of a text that is `<` followed by `s`, where `s` starts with a letter. -/
def written (s : List Char) : Written :=
  let name := s.takeWhile isTagChar
  let p : Place := ⟨name.getLast?.any fun c ↦ isQuote c || isBlank c, s.dropWhile isTagChar⟩
  let (attrs, p) := attributes p.afterGap
  ⟨name, attrs, p.rest⟩

theorem length_rest_written (s : List Char) : (written s).rest.length ≤ s.length := by
  have h₁ := length_rest_attributes (Place.afterGap
    ⟨(s.takeWhile isTagChar).getLast?.any fun c ↦ isQuote c || isBlank c, s.dropWhile isTagChar⟩)
  have h₂ := Place.length_rest_afterGap
    ⟨(s.takeWhile isTagChar).getLast?.any fun c ↦ isQuote c || isBlank c, s.dropWhile isTagChar⟩
  have h₃ := Reference.length_dropWhile_le isTagChar s
  exact Nat.le_trans h₁ (Nat.le_trans h₂ h₃)

/-- Sets the value of a key, which keeps its place if it is there already. -/
def setAttr (key value : String) : List (String × String) → List (String × String)
  | [] => [(key, value)]
  | (k, v) :: as => if k = key then (k, value) :: as else (k, v) :: setAttr key value as

/-- Attributes with small letters in their names and references in their values replaced. -/
def readAttrs (done : List (String × String)) :
    List (List Char × List Char) → Except Failure (List (String × String))
  | [] => .ok done
  | (key, value) :: as => do
    let value ← Reference.value value
    readAttrs (setAttr (String.ofList (lower key)) (String.ofList value) done) as

/-- The start tag that `<` and `s` begin with, if the text finishes it. -/
def read (s : List Char) : Except Failure (Option Reading) :=
  let w := written s
  let tag := String.ofList (lower w.name)
  match w.rest with
  | [] => .ok none
  | '>' :: rest => do
    return some ⟨[.start tag (← readAttrs [] w.attrs) false], Raw.ofTag? tag, rest⟩
  | '/' :: '>' :: rest => do
    return some ⟨[.start tag (← readAttrs [] w.attrs) true], none, rest⟩
  | c :: _ =>
    if Text.isAsciiLetter c || c == '=' || c == '/' then .ok none
    else do
      let _ ← readAttrs [] w.attrs
      return some ⟨[.text (String.ofList ('<' :: s.take (s.length - w.rest.length)))], none, w.rest⟩

theorem length_rest_of_read {s : List Char} {r : Reading} (h : read s = .ok (some r)) :
    r.rest.length ≤ s.length := by
  have hw := length_rest_written s
  have key {x : Except Failure (List (String × String))} {f : List (String × String) → Reading}
      {rest : List Char}
      (h : (do let as ← x; return some (f as) : Except Failure (Option Reading)) = .ok (some r))
      (hf : ∀ as, (f as).rest = rest) (hr : rest.length ≤ s.length) :
      r.rest.length ≤ s.length := by
    cases x with
    | error e => simp [bind, Except.bind] at h
    | ok as =>
      simp only [bind, Except.bind, pure, Except.pure, Except.ok.injEq, Option.some.injEq] at h
      rw [← h, hf]; exact hr
  simp only [read] at h
  split at h
  · simp at h
  · rename_i rest hr
    rw [hr, List.length_cons] at hw
    exact key h (fun _ ↦ rfl) (Nat.le_of_succ_le hw)
  · rename_i rest hr
    rw [hr, List.length_cons, List.length_cons] at hw
    exact key h (fun _ ↦ rfl) (Nat.le_of_succ_le (Nat.le_of_succ_le hw))
  · split at h
    · simp at h
    · exact key h (fun _ ↦ rfl) hw

end InstanceCatalog.Markup.StartTag
