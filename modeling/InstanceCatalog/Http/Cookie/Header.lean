import InstanceCatalog.Text.Blank
import InstanceCatalog.Text.Pieces

/-! # Headers that set cookies

A header writes cookies in one of two forms.  In the first it is one cookie, whose fields stand
between semicolons.  In the second it is cookies between commas, whose fields are words with values
that may stand in quotes. -/

namespace InstanceCatalog.Http.Cookie

open Text

/-- How a header writes cookies. -/
inductive Form where
  | plain
  | worded
deriving DecidableEq, Repr

/-- The name of the headers of a form, in small letters. -/
def Form.header : Form → String
  | .plain => "set-cookie"
  | .worded => "set-cookie2"

/-- An attribute as it is written.  An attribute without an equals sign has no value. -/
structure Attribute where
  name : List Char
  value : Option (List Char)

/-! ## Fields between semicolons -/

def Attribute.parse (s : List Char) : Attribute :=
  let (name, value) := cutAt (· == '=') (trim isBlank s)
  ⟨trim isBlank name, value.map (trim isBlank)⟩

/-- The attributes of a cookie, if it has a name.  An attribute without a name is left out. -/
def plainCookie? (header : List Char) : Option (List Attribute) :=
  match (splitAt (· == ';') header).map Attribute.parse with
  | [] => none
  | first :: rest =>
    if first.name.isEmpty then none else some (first :: rest.filter (!·.name.isEmpty))

/-! ## Words -/

def endsWord (c : Char) : Bool := isBlank c || c == ';' || c == ','

/-- The text before a closing quote, without the backslashes that escape, and the text after it. -/
def quotedValue? : List Char → Option (List Char × List Char)
  | '"' :: s => some ([], s)
  | '\\' :: c :: s =>
    if c = '\n' then none else (quotedValue? s).map fun r ↦ (c :: r.1, r.2)
  | ['\\'] => none
  | c :: s => (quotedValue? s).map fun r ↦ (c :: r.1, r.2)
  | [] => none

/-- The value after an equals sign, and the text after it. -/
def cutValue (s : List Char) : List Char × List Char :=
  let whole := (s.takeWhile (!endsWord ·), s.dropWhile (!endsWord ·))
  match s with
  | '"' :: t => (quotedValue? t).getD whole
  | _ => whole

theorem length_rest_of_quotedValue? {s : List Char} {r : List Char × List Char}
    (h : quotedValue? s = some r) : r.2.length < s.length := by
  fun_induction quotedValue? s generalizing r with
  | case1 s => cases h; simp
  | case2 => simp at h
  | case3 c s _ ih =>
    obtain ⟨q, hq, rfl⟩ := Option.map_eq_some_iff.1 h
    have := ih hq
    simp only [List.length_cons]
    omega
  | case4 => simp at h
  | case5 c s _ _ _ ih =>
    obtain ⟨q, hq, rfl⟩ := Option.map_eq_some_iff.1 h
    have := ih hq
    simp only [List.length_cons]
    omega
  | case6 => simp at h

theorem length_dropWhile_le {α : Type} (p : α → Bool) (s : List α) :
    (s.dropWhile p).length ≤ s.length := (List.dropWhile_sublist p).length_le

theorem length_rest_cutValue (s : List Char) : (cutValue s).2.length ≤ s.length := by
  unfold cutValue
  split
  · rename_i t
    cases h : quotedValue? t with
    | none => exact length_dropWhile_le _ _
    | some r =>
      have := length_rest_of_quotedValue? h
      simp only [Option.getD_some, List.length_cons]
      omega
  · exact length_dropWhile_le _ _

/-- The attribute with a name, and the text after it. -/
def Attribute.cutWord (name s : List Char) : Attribute × List Char :=
  match s.dropWhile isBlank with
  | '=' :: t =>
    let (value, rest) := cutValue (t.dropWhile isBlank)
    (⟨name, some value⟩, rest)
  | _ => (⟨name, none⟩, s)

theorem Attribute.length_rest_cutWord (name s : List Char) :
    (Attribute.cutWord name s).2.length ≤ s.length := by
  unfold cutWord
  split
  · rename_i t ht
    have h₁ := length_rest_cutValue (t.dropWhile isBlank)
    have h₂ := length_dropWhile_le isBlank t
    have h₃ := length_dropWhile_le isBlank s
    simp only [ht, List.length_cons] at h₃
    simp only
    omega
  · exact Nat.le_refl _

def endsName (c : Char) : Bool := endsWord c || c == '='

/-- The cookies that a text writes in words, after one that has some attributes already, which are
in reverse.  Between two words equals signs and semicolons mean nothing. -/
def wordedCookies (done : List Attribute) (s : List Char) : List (List Attribute) :=
  let cookie := if done.isEmpty then [] else [done.reverse]
  match _h : s with
  | [] => cookie
  | c :: s =>
    if c = ',' then cookie ++ wordedCookies [] s
    else if endsName c then wordedCookies done s
    else
      let found := Attribute.cutWord (c :: s.takeWhile (!endsName ·)) (s.dropWhile (!endsName ·))
      wordedCookies (found.1 :: done) found.2
termination_by s.length
decreasing_by
  · simp
  · simp
  · have h₁ := Attribute.length_rest_cutWord (c :: s.takeWhile (!endsName ·))
      (s.dropWhile (!endsName ·))
    have h₂ := length_dropWhile_le (!endsName ·) s
    simp only [List.length_cons]
    omega

/-! ## Headers -/

/-- The cookies that headers of a form write, each by its attributes, of which the first is its name
and value. -/
def Form.cookies : Form → List (List Char) → List (List Attribute)
  | .plain, headers => headers.filterMap plainCookie?
  | .worded, headers => headers.flatMap (wordedCookies [])

end InstanceCatalog.Http.Cookie
