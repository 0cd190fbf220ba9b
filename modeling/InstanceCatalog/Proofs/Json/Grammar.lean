import InstanceCatalog.Proofs.Json.Number
import InstanceCatalog.Proofs.Text.Quoted

/-! # Texts of JSON

The texts that RFC 8259 allows, with the value that each of them stands for.  `Denotes` has one rule
for each rule of the grammar.  Every value whose numbers are written as such is written as a text
that stands for it, at any depth and in printable characters of ASCII and line breaks alone. -/

namespace InstanceCatalog.JsonValue

open Text

/-! ## Values in values -/

/-- A value stands somewhere in another. -/
inductive Occurs (v : JsonValue) : JsonValue → Prop
  | here : Occurs v v
  | item {items : List JsonValue} {w : JsonValue} : w ∈ items → Occurs v w → Occurs v (array items)
  | member {members : List (String × JsonValue)} {m : String × JsonValue} :
    m ∈ members → Occurs v m.2 → Occurs v (object members)

/-- A property of a value and of all values in it. -/
def Everywhere (P : JsonValue → Prop) (v : JsonValue) : Prop := ∀ w, Occurs w v → P w

/-- A number is written as JSON has it. -/
def Written : JsonValue → Prop
  | number token => IsNumber token.toList
  | _ => True

section Everywhere

variable {P : JsonValue → Prop}

theorem everywhere_array {items : List JsonValue} :
    Everywhere P (array items) ↔ P (array items) ∧ ∀ v ∈ items, Everywhere P v := by
  constructor
  · intro h
    exact ⟨h _ .here, fun v hv w hw ↦ h w (.item hv hw)⟩
  · rintro ⟨hself, hitems⟩ w (_ | ⟨hv, hw⟩ | _)
    · exact hself
    · exact hitems _ hv w hw

theorem everywhere_object {members : List (String × JsonValue)} :
    Everywhere P (object members) ↔
      P (object members) ∧ ∀ m ∈ members, Everywhere P m.2 := by
  constructor
  · intro h
    exact ⟨h _ .here, fun m hm w hw ↦ h w (.member hm hw)⟩
  · rintro ⟨hself, hmembers⟩ w (_ | _ | ⟨hm, hw⟩)
    · exact hself
    · exact hmembers _ hm w hw

theorem everywhere_number {token : String} :
    Everywhere P (number token) ↔ P (number token) := by
  refine ⟨fun h ↦ h _ .here, ?_⟩
  rintro h w ⟨⟩
  exact h

theorem everywhere_string {s : String} : Everywhere P (string s) ↔ P (string s) := by
  refine ⟨fun h ↦ h _ .here, ?_⟩
  rintro h w ⟨⟩
  exact h

theorem everywhere_bool {b : Bool} : Everywhere P (bool b) ↔ P (bool b) := by
  refine ⟨fun h ↦ h _ .here, ?_⟩
  rintro h w ⟨⟩
  exact h

end Everywhere

/-- What holds of a value if it holds of its items or members, holds of every value. -/
theorem induction_on {P : JsonValue → Prop} (v : JsonValue) (hnull : P .null)
    (hbool : ∀ b, P (.bool b)) (hnumber : ∀ t, P (.number t)) (hstring : ∀ s, P (.string s))
    (harray : ∀ vs, (∀ w ∈ vs, P w) → P (.array vs))
    (hobject : ∀ ms, (∀ m ∈ ms, P m.2) → P (.object ms)) : P v := by
  match v with
  | .null => exact hnull
  | .bool b => exact hbool b
  | .number t => exact hnumber t
  | .string s => exact hstring s
  | .array vs =>
    exact harray vs fun w hw ↦ induction_on w hnull hbool hnumber hstring harray hobject
  | .object ms =>
    exact hobject ms fun m hm ↦ induction_on m.2 hnull hbool hnumber hstring harray hobject
termination_by sizeOf v
decreasing_by
  · have := List.sizeOf_lt_of_mem hw
    simp only [array.sizeOf_spec]
    omega
  · obtain ⟨k, w⟩ := m
    have := List.sizeOf_lt_of_mem hm
    simp only [Prod.mk.sizeOf_spec] at this
    simp only [object.sizeOf_spec]
    omega

/-! ## The grammar -/

def isSpace (c : Char) : Bool := c == ' ' || c == '\t' || c == '\n' || c == '\r'

/-- The letters that stand for a character after a backslash. -/
def shortEscapes : List (Char × Char) :=
  [('"', '"'), ('\\', '\\'), ('/', '/'), ('b', '\x08'), ('f', '\x0c'), ('n', '\n'), ('r', '\r'),
    ('t', '\t')]

/-- Four hexadecimal digits that write a number. -/
structure IsUnit (ds : List Char) (n : Nat) : Prop where
  length_eq : ds.length = 4
  digits : ∀ d ∈ ds, isHexDigit d = true
  value : ofHexDigits ds = n

/-- One character of a string: as it is unless it is a control character, a quote or a backslash, or
by a letter, or by its number in one unit or, beyond four digits, in two. -/
inductive DenotesChar : List Char → Char → Prop
  | plain {c : Char} : ' ' ≤ c → c ≠ '"' → c ≠ '\\' → DenotesChar [c] c
  | short {k c : Char} : shortEscapes.lookup k = some c → DenotesChar ['\\', k] c
  | unit {ds : List Char} {c : Char} : IsUnit ds c.toNat → DenotesChar ('\\' :: 'u' :: ds) c
  | pair {high low : List Char} {n m : Nat} {c : Char} : IsUnit high n → IsUnit low m →
    0xD800 ≤ n → n < 0xDC00 → 0xDC00 ≤ m → m < 0xE000 →
    c.toNat = 0x10000 + (n - 0xD800) * 0x400 + (m - 0xDC00) →
      DenotesChar ('\\' :: 'u' :: high ++ '\\' :: 'u' :: low) c

inductive DenotesChars : List Char → List Char → Prop
  | nil : DenotesChars [] []
  | cons {t u cs : List Char} {c : Char} :
    DenotesChar t c → DenotesChars u cs → DenotesChars (t ++ u) (c :: cs)

/-- What a piece of a text stands for: a value with space around it or without, the items of an
array, a member of an object or all of its members. -/
inductive Meaning where
  | value (v : JsonValue)
  | element (v : JsonValue)
  | items (vs : List JsonValue)
  | member (m : String × JsonValue)
  | members (ms : List (String × JsonValue))

/-- A piece of a text and what it stands for. -/
inductive Denotes : List Char → Meaning → Prop
  | null : Denotes "null".toList (.value .null)
  | bool (b : Bool) : Denotes (if b then "true".toList else "false".toList) (.value (.bool b))
  | number {t : List Char} : IsNumber t → Denotes t (.value (.number (String.ofList t)))
  | string {t cs : List Char} :
    DenotesChars t cs → Denotes ('"' :: t ++ ['"']) (.value (.string (String.ofList cs)))
  | emptyArray {w : List Char} :
    w.all isSpace = true → Denotes ('[' :: w ++ [']']) (.value (.array []))
  | array {t : List Char} {vs : List JsonValue} :
    Denotes t (.items vs) → Denotes ('[' :: t ++ [']']) (.value (.array vs))
  | emptyObject {w : List Char} :
    w.all isSpace = true → Denotes ('\x7b' :: w ++ ['\x7d']) (.value (.object []))
  | object {t : List Char} {ms : List (String × JsonValue)} :
    Denotes t (.members ms) → Denotes ('\x7b' :: t ++ ['\x7d']) (.value (.object ms))
  | element {a t b : List Char} {v : JsonValue} : a.all isSpace = true → Denotes t (.value v) →
    b.all isSpace = true → Denotes (a ++ t ++ b) (.element v)
  | item {t : List Char} {v : JsonValue} : Denotes t (.element v) → Denotes t (.items [v])
  | items {t u : List Char} {v : JsonValue} {vs : List JsonValue} : Denotes t (.element v) →
    Denotes u (.items vs) → Denotes (t ++ ',' :: u) (.items (v :: vs))
  | member {a k b t cs : List Char} {v : JsonValue} : a.all isSpace = true → DenotesChars k cs →
    b.all isSpace = true → Denotes t (.element v) →
      Denotes (a ++ '"' :: k ++ '"' :: b ++ ':' :: t) (.member (String.ofList cs, v))
  | lastMember {t : List Char} {m : String × JsonValue} :
    Denotes t (.member m) → Denotes t (.members [m])
  | members {t u : List Char} {m : String × JsonValue} {ms : List (String × JsonValue)} :
    Denotes t (.member m) → Denotes u (.members ms) →
      Denotes (t ++ ',' :: u) (.members (m :: ms))

/-! ## Written strings -/

theorem isUnit_hex {n : Nat} (h : n < 0x10000) : IsUnit (Quoted.hex 4 n) n where
  length_eq := Quoted.length_hex 4 n
  digits := Quoted.forall_mem_hex (by decide) 4 n
  value := (Quoted.ofHexDigits_hex 4 n).trans (Nat.mod_eq_of_lt h)

/-- Each character is written as one of the forms that stand for it. -/
theorem denotesChar_escape (c : Char) : DenotesChar (escape c) c := by
  rw [escape]
  split
  · rename_i hmark
    rcases hmark with rfl | rfl
    · exact .short rfl
    · exact .short rfl
  rename_i hmark
  rw [not_or] at hmark
  split
  · subst ‹c = '\n'›; exact .short rfl
  split
  · subst ‹c = '\r'›; exact .short rfl
  split
  · subst ‹c = '\t'›; exact .short rfl
  split
  · subst ‹c = '\x08'›; exact .short rfl
  split
  · subst ‹c = '\x0c'›; exact .short rfl
  split
  · rename_i hshown
    exact .plain hshown.1 hmark.1 hmark.2
  split
  · rename_i hsmall
    exact .unit (isUnit_hex hsmall)
  · rename_i hlarge
    have hvalid : c.toNat < 0xD800 ∨ 0xDFFF < c.toNat ∧ c.toNat < 0x110000 := c.valid
    simp only [unit]
    refine .pair (isUnit_hex (n := 0xD800 + (c.toNat - 0x10000) / 0x400) ?_)
      (isUnit_hex (n := 0xDC00 + (c.toNat - 0x10000) % 0x400) ?_) ?_ ?_ ?_ ?_ ?_
    all_goals omega

theorem denotesChars_escape (cs : List Char) : DenotesChars (cs.flatMap escape) cs := by
  induction cs with
  | nil => exact .nil
  | cons c cs ih => exact .cons (denotesChar_escape c) ih

/-! ## Written values -/

theorem all_isSpace_newLine (depth : Nat) : (newLine depth).all isSpace = true := by
  rw [newLine, List.all_cons, List.all_replicate]
  split <;> rfl

/-- The items after the first one, up to the end of their array. -/
theorem denotes_items {depth : Nat} {a t w : List Char} {v : JsonValue} {vs : List JsonValue}
    (ha : a.all isSpace = true) (ht : Denotes t (.value v))
    (hvs : ∀ v ∈ vs, Denotes (write depth v) (.value v)) (hw : w.all isSpace = true) :
    Denotes (a ++ t ++ writeItems depth vs ++ w) (.items (v :: vs)) := by
  induction vs generalizing a t v with
  | nil =>
    rw [writeItems, List.append_nil]
    exact .item (.element ha ht hw)
  | cons v' vs ih =>
    obtain ⟨hv, hvs⟩ := List.forall_mem_cons.1 hvs
    have hrest := ih (all_isSpace_newLine depth) hv hvs
    have hfirst : Denotes (a ++ t ++ []) (.element v) := .element ha ht rfl
    have heq : a ++ t ++ writeItems depth (v' :: vs) ++ w =
        a ++ t ++ [] ++ ',' :: (newLine depth ++ write depth v' ++ writeItems depth vs ++ w) := by
      simp [writeItems]
    rw [heq]
    exact .items hfirst hrest

theorem denotes_member {a t b : List Char} {k : String} {v : JsonValue} (ha : a.all isSpace = true)
    (ht : Denotes t (.value v)) (hb : b.all isSpace = true) :
    Denotes (a ++ quote k ++ [':', ' '] ++ t ++ b) (.member (k, v)) := by
  have hvalue : Denotes ([' '] ++ t ++ b) (.element v) := .element rfl ht hb
  have hmember := Denotes.member ha (denotesChars_escape k.toList) (b := []) rfl hvalue
  rw [String.ofList_toList] at hmember
  simpa [quote] using hmember

/-- The members after the first one, up to the end of their object. -/
theorem denotes_members {depth : Nat} {a t w : List Char} {k : String} {v : JsonValue}
    {ms : List (String × JsonValue)} (ha : a.all isSpace = true) (ht : Denotes t (.value v))
    (hms : ∀ m ∈ ms, Denotes (write depth m.2) (.value m.2)) (hw : w.all isSpace = true) :
    Denotes (a ++ quote k ++ [':', ' '] ++ t ++ writeMembers depth ms ++ w)
      (.members ((k, v) :: ms)) := by
  induction ms generalizing a t k v with
  | nil =>
    rw [writeMembers, List.append_nil]
    exact .lastMember (denotes_member ha ht hw)
  | cons m ms ih =>
    obtain ⟨k', v'⟩ := m
    obtain ⟨hv, hms⟩ := List.forall_mem_cons.1 hms
    have hrest := ih (k := k') (all_isSpace_newLine depth) hv hms
    have hfirst := denotes_member (k := k) ha ht (b := []) rfl
    have heq : a ++ quote k ++ [':', ' '] ++ t ++ writeMembers depth ((k', v') :: ms) ++ w =
        a ++ quote k ++ [':', ' '] ++ t ++ [] ++ ',' :: (newLine depth ++ quote k' ++ [':', ' '] ++
          write depth v' ++ writeMembers depth ms ++ w) := by
      simp [writeMembers]
    rw [heq]
    exact .members hfirst hrest

/-- A value is written as a text that stands for it. -/
theorem denotes_write (v : JsonValue) (hv : Everywhere Written v) (depth : Nat) :
    Denotes (write depth v) (.value v) := by
  induction v using induction_on generalizing depth with
  | hnull =>
    rw [write]
    exact .null
  | hbool b =>
    rw [write]
    exact .bool b
  | hnumber t =>
    have ht := Denotes.number (everywhere_number.1 hv)
    rw [String.ofList_toList] at ht
    rwa [write]
  | hstring s =>
    have hs := Denotes.string (denotesChars_escape s.toList)
    rw [String.ofList_toList] at hs
    rwa [write]
  | harray vs ih =>
    cases vs with
    | nil =>
      rw [write]
      exact .emptyArray (w := []) rfl
    | cons v vs =>
      have hall := (everywhere_array.1 hv).2
      obtain ⟨hfirst, hrest⟩ := List.forall_mem_cons.1 fun w hw ↦ ih w hw (hall w hw) (depth + 1)
      rw [write]
      exact .array (denotes_items (all_isSpace_newLine (depth + 1)) hfirst hrest
        (all_isSpace_newLine depth))
  | hobject ms ih =>
    cases ms with
    | nil =>
      rw [write]
      exact .emptyObject (w := []) rfl
    | cons m ms =>
      obtain ⟨k, v⟩ := m
      have hall := (everywhere_object.1 hv).2
      obtain ⟨hfirst, hrest⟩ := List.forall_mem_cons.1 fun m hm ↦ ih m hm (hall m hm) (depth + 1)
      rw [write]
      exact .object (denotes_members (k := k) (all_isSpace_newLine (depth + 1)) hfirst hrest
        (all_isSpace_newLine depth))

/-! ## Shown characters -/

/-- A printable character of ASCII, or a line break. -/
def isShown (c : Char) : Bool := c == '\n' || (' ' ≤ c && c ≤ '~')

theorem all_isShown_unit (n : Nat) : (unit n).all isShown = true := by
  have hdigits : (Quoted.hex 4 n).all isShown = true :=
    List.all_eq_true.2 (Quoted.forall_mem_hex (by decide) 4 n)
  rw [unit, List.all_cons, List.all_cons, hdigits]
  rfl

theorem all_isShown_escape (c : Char) : (escape c).all isShown = true := by
  rw [escape]
  split
  · rename_i hmark
    rcases hmark with rfl | rfl
    · rfl
    · rfl
  iterate 5
    split
    · rfl
  split
  · rename_i hshown
    simpa [isShown] using .inr hshown
  split
  · exact all_isShown_unit _
  · simp only [List.all_append, all_isShown_unit, Bool.and_self]

theorem all_isShown_quote (s : String) : (quote s).all isShown = true := by
  have hchars : (s.toList.flatMap escape).all isShown = true := by
    rw [List.all_flatMap, List.all_eq_true]
    exact fun c _ ↦ all_isShown_escape c
  rw [quote, List.all_append, List.all_cons, hchars]
  rfl

theorem all_isShown_newLine (depth : Nat) : (newLine depth).all isShown = true := by
  rw [newLine, List.all_cons, List.all_replicate]
  split <;> rfl

theorem isShown_of_isNumberChar {c : Char} (h : isNumberChar c = true) : isShown c = true := by
  rw [isNumberChar, Bool.or_eq_true] at h
  rcases h with h | h
  · simp only [isAsciiDigit, Bool.and_eq_true, decide_eq_true_eq] at h
    have hlow : ' ' ≤ c := Char.le_trans (show ' ' ≤ '0' by decide) h.1
    have hhigh : c ≤ '~' := Char.le_trans h.2 (show '9' ≤ '~' by decide)
    simp [isShown, hlow, hhigh]
  · simp only [decide_eq_true_eq, List.mem_cons, List.not_mem_nil, or_false] at h
    rcases h with rfl | rfl | rfl | rfl | rfl
    all_goals rfl

theorem all_isShown_items {depth : Nat} {vs : List JsonValue}
    (h : ∀ v ∈ vs, (write depth v).all isShown = true) :
    (writeItems depth vs).all isShown = true := by
  induction vs with
  | nil => rfl
  | cons v vs ih =>
    obtain ⟨hv, hvs⟩ := List.forall_mem_cons.1 h
    simp [writeItems, all_isShown_newLine, hv, ih hvs, isShown]

theorem all_isShown_members {depth : Nat} {ms : List (String × JsonValue)}
    (h : ∀ m ∈ ms, (write depth m.2).all isShown = true) :
    (writeMembers depth ms).all isShown = true := by
  induction ms with
  | nil => rfl
  | cons m ms ih =>
    obtain ⟨k, v⟩ := m
    obtain ⟨hv, hms⟩ := List.forall_mem_cons.1 h
    simp [writeMembers, all_isShown_newLine, all_isShown_quote, hv, ih hms, isShown]

theorem all_isShown_write (v : JsonValue) (hv : Everywhere Written v) (depth : Nat) :
    (write depth v).all isShown = true := by
  induction v using induction_on generalizing depth with
  | hnull => rw [write]; rfl
  | hbool b => rw [write]; cases b <;> rfl
  | hnumber t =>
    rw [write, List.all_eq_true]
    intro c hc
    have hall := all_isNumberChar (everywhere_number.1 hv)
    exact isShown_of_isNumberChar (List.all_eq_true.1 hall c hc)
  | hstring s =>
    rw [write]
    exact all_isShown_quote s
  | harray vs ih =>
    cases vs with
    | nil => rw [write]; rfl
    | cons v vs =>
      have hall := (everywhere_array.1 hv).2
      obtain ⟨hfirst, hrest⟩ := List.forall_mem_cons.1 fun w hw ↦ ih w hw (hall w hw) (depth + 1)
      simp [write, all_isShown_newLine, hfirst, all_isShown_items hrest, isShown]
  | hobject ms ih =>
    cases ms with
    | nil => rw [write]; rfl
    | cons m ms =>
      obtain ⟨k, v⟩ := m
      have hall := (everywhere_object.1 hv).2
      obtain ⟨hfirst, hrest⟩ := List.forall_mem_cons.1 fun m hm ↦ ih m hm (hall m hm) (depth + 1)
      simp [write, all_isShown_newLine, all_isShown_quote, hfirst, all_isShown_members hrest,
        isShown]

end InstanceCatalog.JsonValue
