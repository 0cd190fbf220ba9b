import InstanceCatalog.Proofs.Json.Grammar
import InstanceCatalog.Proofs.Text.Utf8

/-! # Reading strings and words of JSON

The characters of a string are read one at a time, each by the form in which it is written.  A value
without brackets and quotes is a word, and which one it is is decided when all of it was taken. -/

namespace InstanceCatalog.JsonValue

open Text Numeral

variable {s t rest : List Char} {c : Char} {n : Nat}

/-! ## Strings -/

/-- The number that the next four characters write in hexadecimal digits, and what follows them. -/
def unit? (s : List Char) : Option (Nat × List Char) :=
  if (s.take 4).length = 4 ∧ (s.take 4).all isHexDigit = true then
    some (ofHexDigits (s.take 4), s.drop 4)
  else none

/-- The second of two units, with its mark. -/
def secondUnit? : List Char → Option (Nat × List Char)
  | '\\' :: 'u' :: s => unit? s
  | _ => none

/-- The character that is written by its number. -/
def readUnits (s : List Char) : Option (Char × List Char) := do
  let (n, s) ← unit? s
  if 0xD800 ≤ n ∧ n < 0xDC00 then
    let (m, s) ← secondUnit? s
    if 0xDC00 ≤ m ∧ m < 0xE000 then
      some (Char.ofNat (0x10000 + (n - 0xD800) * 0x400 + (m - 0xDC00)), s)
    else none
  else if n.isValidChar then some (Char.ofNat n, s)
  else none

/-- The first character of a string that goes on. -/
def readChar : List Char → Option (Char × List Char)
  | [] => none
  | '\\' :: 'u' :: s => readUnits s
  | '\\' :: k :: s => (shortEscapes.lookup k).map (·, s)
  | c :: s => if ' ' ≤ c ∧ c ≠ '"' ∧ c ≠ '\\' then some (c, s) else none

/-- The characters of a string up to its second quote. -/
def readChars : Nat → List Char → Option (List Char × List Char)
  | 0, _ => none
  | _, [] => none
  | fuel + 1, c :: s =>
    if c = '"' then some ([], s)
    else do
      let (c, s) ← readChar (c :: s)
      let (cs, s) ← readChars fuel s
      return (c :: cs, s)

theorem unit?_eq_some_iff :
    unit? s = some (n, rest) ↔ ∃ ds, IsUnit ds n ∧ s = ds ++ rest := by
  constructor
  · intro h
    rw [unit?] at h
    split at h
    · rename_i hds
      obtain ⟨rfl, rfl⟩ := Prod.mk.inj (Option.some.inj h)
      exact ⟨s.take 4, ⟨hds.1, List.all_eq_true.1 hds.2, rfl⟩, (List.take_append_drop 4 s).symm⟩
    · cases h
  · rintro ⟨ds, ⟨hlength, hdigits, rfl⟩, rfl⟩
    rw [unit?, List.take_left' hlength, List.drop_left' hlength,
      if_pos ⟨hlength, List.all_eq_true.2 hdigits⟩]

theorem secondUnit?_eq_some_iff :
    secondUnit? s = some (n, rest) ↔ ∃ ds, IsUnit ds n ∧ s = '\\' :: 'u' :: (ds ++ rest) := by
  constructor
  · intro h
    rw [secondUnit?.eq_def] at h
    split at h
    · obtain ⟨ds, hds, rfl⟩ := unit?_eq_some_iff.1 h
      exact ⟨ds, hds, rfl⟩
    · cases h
  · rintro ⟨ds, hds, rfl⟩
    exact unit?_eq_some_iff.2 ⟨ds, hds, rfl⟩

theorem denotesChar_of_readUnits (h : readUnits s = some (c, rest)) :
    ∃ t, DenotesChar ('\\' :: 'u' :: t) c ∧ s = t ++ rest := by
  obtain ⟨⟨n, s'⟩, hunit, hread⟩ := Option.bind_eq_some_iff.1 h
  obtain ⟨high, hhigh, rfl⟩ := unit?_eq_some_iff.1 hunit
  dsimp only at hread
  split at hread
  · rename_i hn
    obtain ⟨⟨m, s''⟩, hsecond, hpair⟩ := Option.bind_eq_some_iff.1 hread
    obtain ⟨low, hlow, rfl⟩ := secondUnit?_eq_some_iff.1 hsecond
    split at hpair
    · rename_i hm
      obtain ⟨rfl, rfl⟩ := Prod.mk.inj (Option.some.inj hpair)
      have hvalid : (0x10000 + (n - 0xD800) * 0x400 + (m - 0xDC00)).isValidChar := by
        refine .inr ⟨?_, ?_⟩
        · omega
        · omega
      refine ⟨high ++ '\\' :: 'u' :: low, .pair hhigh hlow hn.1 hn.2 hm.1 hm.2 ?_, by simp⟩
      exact Utf8.toNat_ofNat hvalid
    · cases hpair
  · split at hread
    · rename_i hvalid
      obtain ⟨rfl, rfl⟩ := Prod.mk.inj (Option.some.inj hread)
      refine ⟨high, .unit ?_, rfl⟩
      rwa [Utf8.toNat_ofNat hvalid]
    · cases hread

theorem denotesChar_of_readChar (h : readChar s = some (c, rest)) :
    ∃ t, DenotesChar t c ∧ s = t ++ rest := by
  rw [readChar.eq_def] at h
  split at h
  · cases h
  · obtain ⟨t, ht, rfl⟩ := denotesChar_of_readUnits h
    exact ⟨_, ht, rfl⟩
  · obtain ⟨c', hlookup, heq⟩ := Option.map_eq_some_iff.1 h
    obtain ⟨rfl, rfl⟩ := Prod.mk.inj heq
    exact ⟨_, .short hlookup, rfl⟩
  · split at h
    · rename_i hplain
      obtain ⟨rfl, rfl⟩ := Prod.mk.inj (Option.some.inj h)
      exact ⟨_, .plain hplain.1 hplain.2.1 hplain.2.2, rfl⟩
    · cases h

theorem readUnits_of_unit {ds : List Char} (h : IsUnit ds c.toNat) (rest : List Char) :
    readUnits (ds ++ rest) = some (c, rest) := by
  have hvalid : c.toNat < 0xD800 ∨ 0xDFFF < c.toNat ∧ c.toNat < 0x110000 := c.valid
  have hunit : unit? (ds ++ rest) = some (c.toNat, rest) := unit?_eq_some_iff.2 ⟨ds, h, rfl⟩
  simp only [readUnits, hunit, Option.bind_eq_bind, Option.bind_some]
  rw [if_neg (by omega), if_pos hvalid, Char.ofNat_toNat]

theorem readUnits_of_pair {high low : List Char} {m : Nat} (hhigh : IsUnit high n)
    (hlow : IsUnit low m) (hn : 0xD800 ≤ n ∧ n < 0xDC00) (hm : 0xDC00 ≤ m ∧ m < 0xE000)
    (rest : List Char) : readUnits (high ++ '\\' :: 'u' :: (low ++ rest)) =
      some (Char.ofNat (0x10000 + (n - 0xD800) * 0x400 + (m - 0xDC00)), rest) := by
  have hfirst : unit? (high ++ '\\' :: 'u' :: (low ++ rest)) = _ :=
    unit?_eq_some_iff.2 ⟨high, hhigh, rfl⟩
  have hsecond : secondUnit? ('\\' :: 'u' :: (low ++ rest)) = _ :=
    secondUnit?_eq_some_iff.2 ⟨low, hlow, rfl⟩
  simp only [readUnits, hfirst, hsecond, Option.bind_eq_bind, Option.bind_some, if_pos hn,
    if_pos hm]

/-- Each form of a character is read as it, whatever comes after. -/
theorem readChar_append (h : DenotesChar t c) (rest : List Char) :
    readChar (t ++ rest) = some (c, rest) := by
  cases h with
  | plain hshown hquote hmark =>
    rw [List.singleton_append, readChar]
    · exact if_pos ⟨hshown, hquote, hmark⟩
    · rintro _ rfl
      exact absurd rfl hmark
    · rintro _ _ rfl
      exact absurd rfl hmark
  | @short k _ hshort =>
    have hk : k ≠ 'u' := by
      rintro rfl
      cases hshort
    change readChar ('\\' :: k :: rest) = _
    rw [readChar, hshort]
    · rfl
    · rintro rfl
      exact hk rfl
  | unit hunit => exact readUnits_of_unit hunit rest
  | @pair high low n m _ hhigh hlow hn hn' hm hm' hc =>
    have hread := readUnits_of_pair hhigh hlow ⟨hn, hn'⟩ ⟨hm, hm'⟩ rest
    rw [← hc, Char.ofNat_toNat] at hread
    simpa [readChar] using hread

theorem exists_cons_of_denotesChar (h : DenotesChar t c) : ∃ d u, t = d :: u ∧ d ≠ '"' := by
  cases h with
  | plain _ hquote => exact ⟨c, [], rfl, hquote⟩
  | short => exact ⟨_, _, rfl, by decide⟩
  | unit => exact ⟨_, _, rfl, by decide⟩
  | pair => exact ⟨_, _, rfl, by decide⟩

theorem denotesChars_of_readChars {fuel : Nat} {cs : List Char}
    (h : readChars fuel s = some (cs, rest)) : ∃ t, DenotesChars t cs ∧ s = t ++ '"' :: rest := by
  induction fuel generalizing s cs with
  | zero => cases h
  | succ fuel ih =>
    cases s with
    | nil => cases h
    | cons c s =>
      rw [readChars] at h
      split at h
      · rename_i hquote
        obtain ⟨rfl, rfl⟩ := Prod.mk.inj (Option.some.inj h)
        exact ⟨[], .nil, by rw [hquote]; rfl⟩
      · obtain ⟨⟨c', s'⟩, hchar, h⟩ := Option.bind_eq_some_iff.1 h
        obtain ⟨⟨cs', s''⟩, hchars, h⟩ := Option.bind_eq_some_iff.1 h
        cases h
        obtain ⟨t, ht, heq⟩ := denotesChar_of_readChar hchar
        obtain ⟨u, hu, rfl⟩ := ih hchars
        exact ⟨t ++ u, .cons ht hu, by rw [heq, List.append_assoc]⟩

theorem readChars_append {cs : List Char} (h : DenotesChars t cs) {fuel : Nat}
    (hfuel : t.length < fuel) (rest : List Char) :
    readChars fuel (t ++ '"' :: rest) = some (cs, rest) := by
  induction h generalizing fuel with
  | nil =>
    obtain ⟨fuel, rfl⟩ : ∃ k, fuel = k + 1 := ⟨fuel - 1, by omega⟩
    rfl
  | @cons t u cs c ht _ ih =>
    obtain ⟨d, t', rfl, hd⟩ := exists_cons_of_denotesChar ht
    rw [List.cons_append, List.length_cons, List.length_append] at hfuel
    obtain ⟨fuel, rfl⟩ : ∃ k, fuel = k + 1 := ⟨fuel - 1, by omega⟩
    have hchar := readChar_append ht (u ++ '"' :: rest)
    rw [List.append_assoc, List.cons_append, readChars, if_neg hd, ← List.cons_append, hchar]
    simp only [Option.bind_eq_bind, Option.bind_some, ih (show u.length < fuel by omega)]
    rfl

/-! ## Words -/

instance : DecidablePred IsWhole := fun w ↦
  decidable_of_iff (w = ['0'] ∨ isDigits w = true ∧ w.head? ≠ some '0') <| by
    constructor
    · rintro (rfl | ⟨hw, hhead⟩)
      · exact .zero
      · exact .digits hw hhead
    · rintro (_ | ⟨hw, hhead⟩)
      · exact .inl rfl
      · exact .inr ⟨hw, hhead⟩

instance : DecidablePred IsFraction := fun f ↦
  decidable_of_iff (f = [] ∨ f.head? = some '.' ∧ isDigits f.tail = true) <| by
    constructor
    · rintro (rfl | ⟨hhead, hf⟩)
      · exact .none
      · obtain ⟨f, rfl⟩ := List.head?_eq_some_iff.1 hhead
        exact .point hf
    · rintro (_ | hf)
      · exact .inl rfl
      · exact .inr ⟨rfl, hf⟩

theorem IsWhole.isAsciiDigit_of_mem {w : List Char} (h : IsWhole w) :
    ∀ c ∈ w, isAsciiDigit c = true := by
  cases h with
  | zero => exact List.forall_mem_singleton.2 rfl
  | digits h => exact (isDigits_iff.1 h).2

theorem IsFraction.head? {f x : List Char} (hf : IsFraction f) (hx : IsExponent x) :
    ∀ c ∈ (f ++ x).head?, isAsciiDigit c = false := by
  cases hf with
  | none =>
    cases hx with
    | none => rintro _ ⟨⟩
    | power hc =>
      rintro _ ⟨⟩
      obtain rfl | rfl := hc <;> rfl
  | point =>
    rintro _ ⟨⟩
    rfl

theorem IsFraction.isExponentMark_of_mem {f : List Char} (h : IsFraction f) :
    ∀ c ∈ f, (!isExponentMark c) = true := by
  cases h with
  | none => simp
  | point h =>
    refine List.forall_mem_cons.2 ⟨rfl, fun c hc ↦ ?_⟩
    have hdigit := (isDigits_iff.1 h).2 c hc
    rw [Bool.not_eq_true', isExponentMark, Bool.or_eq_false_iff, beq_eq_false_iff_ne,
      beq_eq_false_iff_ne]
    constructor
    · rintro rfl
      cases hdigit
    · rintro rfl
      cases hdigit

/-- The parts of a magnitude are its digits, what comes up to a letter e, and the rest. -/
theorem isMagnitude_iff : IsMagnitude s ↔ IsWhole (s.takeWhile isAsciiDigit) ∧
    IsFraction ((s.dropWhile isAsciiDigit).takeWhile fun c ↦ !isExponentMark c) ∧
      IsExponent ((s.dropWhile isAsciiDigit).dropWhile fun c ↦ !isExponentMark c) := by
  constructor
  · rintro ⟨w, f, x, hw, hf, hx, rfl⟩
    have hmark : ∀ c ∈ x.head?, (!isExponentMark c) = false :=
      fun c hc ↦ by rw [hx.head? c hc]; rfl
    rw [takeWhile_run hw.isAsciiDigit_of_mem (hf.head? hx),
      dropWhile_run hw.isAsciiDigit_of_mem (hf.head? hx),
      takeWhile_run hf.isExponentMark_of_mem hmark, dropWhile_run hf.isExponentMark_of_mem hmark]
    exact ⟨hw, hf, hx⟩
  · rintro ⟨hw, hf, hx⟩
    exact ⟨_, _, _, hw, hf, hx, by rw [List.takeWhile_append_dropWhile,
      List.takeWhile_append_dropWhile]⟩

instance : DecidablePred IsMagnitude := fun _ ↦ decidable_of_iff _ isMagnitude_iff.symm

instance : DecidablePred IsNumber := fun s ↦
  decidable_of_iff (IsMagnitude s ∨ s.head? = some '-' ∧ IsMagnitude s.tail) <| by
    constructor
    · rintro (h | ⟨hhead, h⟩)
      · exact ⟨[], s, .inl rfl, h, rfl⟩
      · obtain ⟨m, rfl⟩ := List.head?_eq_some_iff.1 hhead
        exact ⟨['-'], m, .inr rfl, h, rfl⟩
    · rintro ⟨_, m, rfl | rfl, h, rfl⟩
      · exact .inl h
      · exact .inr ⟨rfl, h⟩

/-- The characters that values without brackets and quotes are made of. -/
def inWord (c : Char) : Bool := isAsciiLetter c || isNumberChar c

theorem ne_of_inWord {d : Char} (hc : inWord c = true) (hd : inWord d = false) : c ≠ d := by
  rintro rfl
  rw [hc] at hd
  cases hd

theorem inWord_of_isSpace (h : isSpace c = true) : inWord c = false := by
  simp only [isSpace, Bool.or_eq_true, beq_iff_eq] at h
  obtain ((rfl | rfl) | rfl) | rfl := h
  all_goals rfl

theorem ne_nil_of_isNumber (h : IsNumber t) : t ≠ [] := by
  obtain ⟨minus, m, -, ⟨w, f, x, hw, -, -, rfl⟩, rfl⟩ := h
  have hne : w ≠ [] := by
    cases hw with
    | zero => exact List.cons_ne_nil _ _
    | digits hw => exact (isDigits_iff.1 hw).1
  simp [hne]

theorem inWord_of_isNumber (h : IsNumber t) : t.all inWord = true := by
  rw [List.all_eq_true]
  intro c hc
  rw [inWord, List.all_eq_true.1 (all_isNumberChar h) c hc, Bool.or_true]

def ofWord? (w : List Char) : Option JsonValue :=
  if w = "null".toList then some null
  else if w = "true".toList then some (bool true)
  else if w = "false".toList then some (bool false)
  else if IsNumber w then some (number (String.ofList w))
  else none

theorem denotes_of_ofWord? {w : List Char} {v : JsonValue} (h : ofWord? w = some v) :
    Denotes w (.value v) := by
  rw [ofWord?] at h
  split at h
  · cases h; subst ‹w = _›; exact .null
  split at h
  · cases h; subst ‹w = _›; exact .bool true
  split at h
  · cases h; subst ‹w = _›; exact .bool false
  split at h
  · cases h; exact .number ‹IsNumber w›
  · cases h

theorem ofWord?_of_isNumber {w : List Char} (h : IsNumber w) :
    ofWord? w = some (number (String.ofList w)) := by
  have hchars := all_isNumberChar h
  have hne {k : List Char} (hk : k.all isNumberChar = false) : w ≠ k := by
    rintro rfl
    rw [hchars] at hk
    cases hk
  rw [ofWord?, if_neg (hne rfl), if_neg (hne rfl), if_neg (hne rfl), if_pos h]

end InstanceCatalog.JsonValue
