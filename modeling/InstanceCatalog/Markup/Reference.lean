import InstanceCatalog.Failure
import InstanceCatalog.Markup.Entity
import InstanceCatalog.Numeral.Integer

/-! # Character references

In text a reference by number always gives a character, and an unknown name is kept without its
semicolon.  In attribute values numbers that stand for no character vanish, and a name may be the
beginning of a longer word. -/

namespace InstanceCatalog.Markup.Reference

open Text

def replacement : Char := '\ufffd'

/-- What the codes from 0x80 to 0x9F mean in the old Western code page. -/
def western : List Nat :=
  [0x20AC, 0x81, 0x201A, 0x192, 0x201E, 0x2026, 0x2020, 0x2021, 0x2C6, 0x2030, 0x160, 0x2039, 0x152,
    0x8D, 0x17D, 0x8F, 0x90, 0x2018, 0x2019, 0x201C, 0x201D, 0x2022, 0x2013, 0x2014, 0x2DC, 0x2122,
    0x161, 0x203A, 0x153, 0x9D, 0x17E, 0x178]

/-- Whether a number is a code point that a text can hold. -/
def isScalar (n : Nat) : Bool := n < 0xD800 || (0xDFFF < n && n ≤ 0x10FFFF)

/-- The character of a number in text. -/
def ofNumber (n : Nat) : Char :=
  if n = 0 ∨ !isScalar n then replacement
  else if 0x80 ≤ n ∧ n ≤ 0x9F then Char.ofNat (western.getD (n - 0x80) n)
  else Char.ofNat n

/-- Whether a number is a control or a code point set aside, which attribute values leave out. -/
def isVoid (n : Nat) : Bool :=
  (0x01 ≤ n && n ≤ 0x08) || n == 0x0B || (0x0E ≤ n && n ≤ 0x1F) || n == 0x7F
    || (0xFDD0 ≤ n && n ≤ 0xFDEF) || n % 0x10000 == 0xFFFE || n % 0x10000 == 0xFFFF

/-- The text of a number in an attribute value. -/
def ofNumberInValue (n : Nat) : List Char :=
  if isScalar n && isVoid n then [] else [ofNumber n]

/-- The number that decimal digits write, within the limit on conversions. -/
def ofDecimalDigits (ds : List Char) : Except Failure Nat :=
  if Numeral.digitLimit < ds.length then .error (.tooManyDigits ds.length)
  else .ok (Numeral.ofDigits ds)

/-- A number after `&#`: its digits and what follows them. -/
structure Numeric where
  hexadecimal : Bool
  digits : List Char
  rest : List Char

theorem length_dropWhile_le (p : Char → Bool) (s : List Char) :
    (s.dropWhile p).length ≤ s.length := (List.dropWhile_suffix p).length_le

/-- A number after `&#`, in decimal or after an `x` in hexadecimal digits, if there is one. -/
def numeric? : List Char → Option Numeric
  | [] => none
  | c :: s =>
    let n : Numeric :=
      if c == 'x' || c == 'X' then ⟨true, s.takeWhile isHexDigit, s.dropWhile isHexDigit⟩
      else ⟨false, (c :: s).takeWhile isAsciiDigit, (c :: s).dropWhile isAsciiDigit⟩
    if n.digits.isEmpty then none else some n

def Numeric.value (n : Numeric) : Except Failure Nat :=
  if n.hexadecimal then .ok (ofHexDigits n.digits) else ofDecimalDigits n.digits

/-- The character of a number that is ended by a character which could not be one more digit, with
what follows; the end of the text does not end a number. -/
def numericInText (s : List Char) : Except Failure (Option (Char × List Char)) :=
  match numeric? s with
  | none => .ok none
  | some n =>
    match n.rest with
    | [] => .ok none
    | c :: _ =>
      if isHexDigit c then .ok none
      else do
        let v ← n.value
        return some (ofNumber v, if c = ';' then n.rest.drop 1 else n.rest)

theorem length_rest_of_numeric? {s : List Char} {n : Numeric} (h : numeric? s = some n) :
    n.rest.length ≤ s.length := by
  cases s with
  | nil => simp [numeric?] at h
  | cons c s =>
    simp only [numeric?, Option.ite_none_left_eq_some, Option.some.injEq] at h
    obtain ⟨-, rfl⟩ := h
    split
    · simpa using Nat.le_succ_of_le (length_dropWhile_le _ _)
    · exact length_dropWhile_le _ _

theorem length_rest_of_numericInText {s rest : List Char} {c : Char}
    (h : numericInText s = .ok (some (c, rest))) : rest.length ≤ s.length := by
  unfold numericInText at h
  split at h
  · simp at h
  · rename_i n hn
    have hle := length_rest_of_numeric? hn
    split at h
    · simp at h
    · rename_i c' t ht
      split at h
      · simp at h
      · cases hv : n.value with
        | error e => simp [hv, bind, Except.bind] at h
        | ok v =>
          simp only [hv, bind, Except.bind, pure, Except.pure, Except.ok.injEq,
            Option.some.injEq, Prod.mk.injEq] at h
          rw [← h.2]
          split <;> simp <;> omega

def isNameChar (c : Char) : Bool := isAsciiLetter c || isAsciiDigit c || c == '-' || c == '.'

/-- A name without its last mark, at which the name ends when nothing follows it. -/
def cutAtLastMark (name : List Char) : Option (List Char × List Char) :=
  let isMark (c : Char) : Bool := c == '-' || c == '.'
  match name.reverse.dropWhile (!isMark ·) with
  | mark :: before =>
    some (before.reverse, mark :: (name.reverse.takeWhile (!isMark ·)).reverse)
  | [] => none

/-- A name after `&`, and what follows it. -/
def name? (s : List Char) : Option (List Char × List Char) :=
  match s with
  | [] => none
  | c :: t =>
    if isAsciiLetter c then
      let more := t.takeWhile isNameChar
      let rest := t.dropWhile isNameChar
      if rest.isEmpty then (cutAtLastMark more).map fun (a, b) ↦ (c :: a, b)
      else some (c :: more, rest)
    else none

theorem length_rest_of_cutAtLastMark {name a b : List Char}
    (h : cutAtLastMark name = some (a, b)) : b.length ≤ name.length := by
  simp only [cutAtLastMark] at h
  split at h
  · rename_i m before hb
    simp only [Option.some.injEq, Prod.mk.injEq] at h
    have hs := congrArg List.length
      (List.takeWhile_append_dropWhile (p := fun c ↦ !(c == '-' || c == '.')) (l := name.reverse))
    rw [hb] at hs
    rw [← h.2]
    simp only [List.length_append, List.length_cons, List.length_reverse] at hs ⊢
    omega
  · simp at h

theorem length_rest_of_name? {s name rest : List Char} (h : name? s = some (name, rest)) :
    rest.length < s.length := by
  cases s with
  | nil => simp [name?] at h
  | cons c t =>
    have hd := length_dropWhile_le isNameChar t
    have ht := (List.takeWhile_prefix isNameChar (l := t)).length_le
    simp only [name?] at h
    split at h
    · split at h
      · obtain ⟨⟨a, b⟩, hc, he⟩ := Option.map_eq_some_iff.1 h
        simp only [Prod.mk.injEq] at he
        have := length_rest_of_cutAtLastMark hc
        simp only [List.length_cons, ← he.2]; omega
      · simp only [Option.some.injEq, Prod.mk.injEq] at h
        simp only [List.length_cons, ← h.2]; omega
    · simp at h

/-- The text of a name; an unknown one is kept. -/
def ofName (name : List Char) : List Char :=
  (Entity.terminated? (String.ofList name)).getD ('&' :: name)

/-- The text of a name in text with what follows it, less a semicolon. -/
def namedInText (s : List Char) : Option (List Char × List Char) :=
  (name? s).map fun (name, rest) ↦
    (ofName name, match rest with | ';' :: r => r | r => r)

theorem length_rest_of_namedInText {s cs rest : List Char}
    (h : namedInText s = some (cs, rest)) : rest.length < s.length := by
  obtain ⟨⟨a, b⟩, hn, he⟩ := Option.map_eq_some_iff.1 h
  have := length_rest_of_name? hn
  simp only [Prod.mk.injEq] at he
  rw [← he.2]
  split
  · simp only [List.length_cons] at this; omega
  · exact this

/-- The longest beginning of a word, of at least two characters and not all of it, that is a name
known without a semicolon: its text and the rest of the word. -/
def longestName (word : List Char) : Nat → Option (List Char)
  | 0 => none
  | k + 1 =>
    if k + 1 < 2 then none
    else match Entity.bare? (String.ofList (word.take (k + 1))) with
      | some cs => some (cs ++ word.drop (k + 1))
      | none => longestName word k

/-- The text of the word after `&` in an attribute value. -/
def ofWord (word : List Char) : List Char :=
  let known? := match word.reverse with
    | ';' :: r => Entity.terminated? (String.ofList r.reverse)
    | _ => Entity.bare? (String.ofList word)
  match known? with
  | some cs => cs
  | none => (longestName word (word.length - 1)).getD ('&' :: word)

def isWordChar (c : Char) : Bool :=
  !(c == '\t' || c == '\n' || c == '\x0c' || c == ' ' || c == '<' || c == '&' || c == '#'
    || c == ';')

/-- A word of one to thirty-two characters, with a semicolon if one follows. -/
def word? (s : List Char) : Option (List Char × List Char) :=
  let w := (s.take 32).takeWhile isWordChar
  if w.isEmpty then none
  else match s.drop w.length with
    | ';' :: rest => some (w ++ [';'], rest)
    | rest => some (w, rest)

/-- What the reference at the start of `&…` gives in an attribute value, and what follows it. -/
def inValue (s : List Char) : Except Failure (Option (List Char × List Char)) :=
  match s with
  | '#' :: t =>
    match numeric? t with
    | none => .ok none
    | some n => do
      let v ← n.value
      return some (ofNumberInValue v, match n.rest with | ';' :: r => r | r => r)
  | _ => .ok ((word? s).map fun (w, rest) ↦ (ofWord w, rest))

/-- An attribute value with its references replaced.  Each step of `fuel` takes one character or one
reference. -/
def valueWithin : Nat → List Char → Except Failure (List Char)
  | 0, s => .ok s
  | _, [] => .ok []
  | fuel + 1, c :: s =>
    if c = '&' then do
      match ← inValue s with
      | some (cs, rest) => return cs ++ (← valueWithin fuel rest)
      | none => return '&' :: (← valueWithin fuel s)
    else (valueWithin fuel s).map (c :: ·)

def value (s : List Char) : Except Failure (List Char) := valueWithin s.length s

end InstanceCatalog.Markup.Reference
