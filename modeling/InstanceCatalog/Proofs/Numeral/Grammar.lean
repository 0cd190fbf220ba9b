import InstanceCatalog.Numeral.Decimal
import InstanceCatalog.Numeral.Integer
import InstanceCatalog.Proofs.Numeral.Digits
import InstanceCatalog.Proofs.Text.Run
import InstanceCatalog.Proofs.Text.Words
import Mathlib.Data.List.Basic

/-! # Grammar of numerals

Numerals as shapes of a text, and the number that a text of such a shape stands for.  Neither is
said through the readers, which are shown to take these texts and no others, and to give these
numbers. -/

namespace InstanceCatalog.Numeral

open Text

/-! ## Shapes -/

/-- Nothing, a minus or a plus. -/
inductive IsSign : List Char → Prop
  | none : IsSign []
  | minus : IsSign ['-']
  | plus : IsSign ['+']

/-- An optional sign and one or more digits. -/
def IsInteger (s : List Char) : Prop :=
  ∃ sign ds, IsSign sign ∧ isDigits ds = true ∧ s = sign ++ ds

/-- Digits with an optional point after or before them, or among them. -/
inductive IsMantissa : List Char → Prop
  | whole {w : List Char} : isDigits w = true → IsMantissa w
  | pointed {w f : List Char} :
    isDigits w = true → f.all isAsciiDigit = true → IsMantissa (w ++ '.' :: f)
  | fraction {f : List Char} : isDigits f = true → IsMantissa ('.' :: f)

/-- Nothing, or a letter e and an integer. -/
inductive IsExponent : List Char → Prop
  | none : IsExponent []
  | power {c : Char} {x : List Char} : c = 'e' ∨ c = 'E' → IsInteger x → IsExponent (c :: x)

/-- An optional sign, digits with an optional point, and an optional exponent. -/
def IsDecimal (s : List Char) : Prop :=
  ∃ sign m x, IsSign sign ∧ IsMantissa m ∧ IsExponent x ∧ s = sign ++ (m ++ x)

/-! ## Values -/

/-- The number that the digits of a text write, negative if the text starts with a minus. -/
def integerValue (s : List Char) : Int :=
  applySign (s.head? == some '-') (ofDigits (s.filter isAsciiDigit))

def isExponentMark (c : Char) : Bool := c == 'e' || c == 'E'

/-- The number of a decimal: its digits up to the letter e as one number, and the power of ten after
that letter, lowered by one for each digit between the point and the letter. -/
def decimalValue (s : List Char) : Decimal :=
  let m := s.takeWhile fun c ↦ !isExponentMark c
  let power := (s.dropWhile fun c ↦ !isExponentMark c).drop 1
  let fraction := (m.dropWhile (· != '.')).drop 1
  ⟨s.head? == some '-', ofDigits (m.filter isAsciiDigit), integerValue power - fraction.length⟩

/-! ## Signs and digits -/

section Readers

variable {s sign ds body : List Char} {c : Char}

theorem isDigits_iff : isDigits ds = true ↔ ds ≠ [] ∧ ∀ c ∈ ds, isAsciiDigit c = true := by
  cases ds <;> simp [isDigits]

theorem ne_of_isAsciiDigit {c d : Char} (hc : isAsciiDigit c = true) (hd : isAsciiDigit d = false) :
    c ≠ d := by
  rintro rfl; rw [hc] at hd; cases hd

theorem filter_eq_nil_of_isSign (h : IsSign sign) : sign.filter isAsciiDigit = [] := by
  cases h <;> rfl

/-- The sign of a text is found whatever comes after it, unless that looks like a sign too. -/
theorem splitSign_append (h : IsSign sign) (hbody : ∀ c ∈ body.head?, c ≠ '-' ∧ c ≠ '+') :
    splitSign (sign ++ body) = (sign.head? == some '-', body) := by
  cases h with
  | minus => rfl
  | plus => rfl
  | none =>
    cases body with
    | nil => rfl
    | cons c body =>
      obtain ⟨hminus, hplus⟩ := hbody c rfl
      rw [List.nil_append, splitSign]
      · rfl
      · rintro _ ⟨⟩; exact hminus rfl
      · rintro _ ⟨⟩; exact hplus rfl

theorem exists_sign (s : List Char) : ∃ sign, IsSign sign ∧ s = sign ++ (splitSign s).2 ∧
    (splitSign s).1 = (sign.head? == some '-') := by
  rw [splitSign.eq_def]
  split
  · exact ⟨['-'], .minus, rfl, rfl⟩
  · exact ⟨['+'], .plus, rfl, rfl⟩
  · exact ⟨[], .none, rfl, rfl⟩

theorem head?_isAsciiDigit (h : ∀ c ∈ ds, isAsciiDigit c = true) :
    ∀ c ∈ ds.head?, c ≠ '-' ∧ c ≠ '+' := fun c hc ↦
  have hc := h c (List.mem_of_mem_head? hc)
  ⟨ne_of_isAsciiDigit hc rfl, ne_of_isAsciiDigit hc rfl⟩

theorem head?_sign_append (hbody : ∀ c ∈ body.head?, c ≠ '-' ∧ c ≠ '+') :
    ((sign ++ body).head? == some '-') = (sign.head? == some '-') := by
  cases sign with
  | cons c sign => rfl
  | nil =>
    cases body with
    | nil => rfl
    | cons c body => simpa using (hbody c rfl).1

/-! ## Integers -/

theorem splitSign_integer (hsign : IsSign sign) (hds : isDigits ds = true) :
    splitSign (sign ++ ds) = (sign.head? == some '-', ds) :=
  splitSign_append hsign (head?_isAsciiDigit (isDigits_iff.1 hds).2)

theorem filter_integer (hsign : IsSign sign) (hds : isDigits ds = true) :
    (sign ++ ds).filter isAsciiDigit = ds := by
  rw [List.filter_append, filter_eq_nil_of_isSign hsign, List.nil_append,
    List.filter_eq_self.2 (isDigits_iff.1 hds).2]

theorem integerValue_append (hsign : IsSign sign) (hds : isDigits ds = true) :
    integerValue (sign ++ ds) = applySign (sign.head? == some '-') (ofDigits ds) := by
  rw [integerValue, filter_integer hsign hds,
    head?_sign_append (head?_isAsciiDigit (isDigits_iff.1 hds).2)]

theorem isPlainInteger_iff : isPlainInteger s = true ↔ IsInteger s := by
  constructor
  · intro h
    obtain ⟨sign, hsign, hs, -⟩ := exists_sign s
    exact ⟨sign, _, hsign, h, hs⟩
  · rintro ⟨sign, ds, hsign, hds, rfl⟩
    rw [isPlainInteger, splitSign_integer hsign hds]
    exact hds

instance : DecidablePred IsInteger := fun _ ↦ decidable_of_iff _ isPlainInteger_iff

/-- An integer within the limit gives its value, and no other text gives any. -/
theorem plainInteger_eq (s : List Char) : plainInteger s =
    if IsInteger s then
      if digitLimit < (s.filter isAsciiDigit).length then
        .error (.tooManyDigits (s.filter isAsciiDigit).length)
      else .ok (integerValue s)
    else .error .malformed := by
  by_cases hs : IsInteger s
  · rw [if_pos hs]
    obtain ⟨sign, ds, hsign, hds, rfl⟩ := hs
    simp only [plainInteger, splitSign_integer hsign hds, filter_integer hsign hds,
      integerValue_append hsign hds, hds, if_true, convert]
  · rw [if_neg hs]
    rw [← isPlainInteger_iff, Bool.not_eq_true] at hs
    exact plainInteger_of_not_isPlainInteger hs

theorem isDigits_digits (n : Nat) : isDigits (digits n) = true :=
  isDigits_iff.2 ⟨Nat.toDigits_ne_nil, fun _ ↦ isAsciiDigit_of_mem_digits⟩

/-- An integer is written as its digits with a sign or without. -/
theorem exists_sign_of_signed (i : Int) : ∃ sign, IsSign sign ∧
    signed i = sign ++ digits i.natAbs ∧ applySign (sign.head? == some '-') i.natAbs = i := by
  cases i with
  | ofNat n => exact ⟨[], .none, rfl, rfl⟩
  | negSucc n => exact ⟨['-'], .minus, rfl, rfl⟩

/-- An integer is the value of its own numeral. -/
theorem integerValue_signed (i : Int) : integerValue (signed i) = i := by
  obtain ⟨sign, hsign, hs, hvalue⟩ := exists_sign_of_signed i
  rw [hs, integerValue_append hsign (isDigits_digits i.natAbs), ofDigits_digits, hvalue]

theorem signed_injective : Function.Injective signed :=
  Function.LeftInverse.injective integerValue_signed

theorem plainInteger_signed {i : Int} (h : (digits i.natAbs).length ≤ digitLimit) :
    plainInteger (signed i) = .ok i := by
  have hvalue := integerValue_signed i
  obtain ⟨sign, hsign, hs, -⟩ := exists_sign_of_signed i
  have hdigits := isDigits_digits i.natAbs
  rw [hs] at hvalue ⊢
  rw [plainInteger_eq, if_pos ⟨sign, _, hsign, hdigits, rfl⟩, filter_integer hsign hdigits,
    if_neg (not_lt.2 h), hvalue]

/-- The characters that integers are written with. -/
def inSigned (c : Char) : Bool := isAsciiDigit c || c == '-'

theorem inSigned_of_mem_signed {i : Int} : ∀ c ∈ signed i, inSigned c = true := by
  have hdigits {n : Nat} : ∀ c ∈ digits n, inSigned c = true := fun c hc ↦ by
    rw [inSigned, isAsciiDigit_of_mem_digits hc, Bool.true_or]
  cases i with
  | ofNat n => exact hdigits
  | negSucc n => exact List.forall_mem_cons.2 ⟨rfl, hdigits⟩

theorem not_blank_signed (i : Int) : ∀ c ∈ signed i, isBlank c = false := by
  intro c hc
  have hin := inSigned_of_mem_signed c hc
  rw [inSigned, Bool.or_eq_true, beq_iff_eq] at hin
  obtain hdigit | rfl := hin
  · exact isBlank_of_isAsciiDigit hdigit
  · rfl

theorem signed_ne_nil (i : Int) : signed i ≠ [] := by
  cases i with
  | ofNat n => exact Nat.toDigits_ne_nil
  | negSucc n => exact List.cons_ne_nil _ _

/-- An integer with something else after it is found at the start of a text. -/
theorem signed_append_inj {i j : Int} {x y : List Char} (hx : ∀ c ∈ x.head?, inSigned c = false)
    (hy : ∀ c ∈ y.head?, inSigned c = false) (h : signed i ++ x = signed j ++ y) :
    i = j ∧ x = y := by
  obtain ⟨hs, hxy⟩ := run_append_inj inSigned_of_mem_signed hx inSigned_of_mem_signed hy h
  exact ⟨signed_injective hs, hxy⟩

/-! ## Decimals -/

variable {w p f m x : List Char}

/-- A mantissa as its digits before the point, and its point with the digits after it. -/
structure Mantissa (w p f : List Char) : Prop where
  whole : ∀ c ∈ w, isAsciiDigit c = true
  point : p = [] ∧ f = [] ∨ p = '.' :: f
  fraction : ∀ c ∈ f, isAsciiDigit c = true
  nonempty : w ≠ [] ∨ f ≠ []

theorem isMantissa_iff : IsMantissa m ↔ ∃ w p f, Mantissa w p f ∧ m = w ++ p := by
  constructor
  · rintro (hw | ⟨hw, hf⟩ | hf)
    · obtain ⟨hne, hw⟩ := isDigits_iff.1 hw
      exact ⟨m, [], [], ⟨hw, .inl ⟨rfl, rfl⟩, by simp, .inl hne⟩, (List.append_nil m).symm⟩
    · obtain ⟨hne, hw⟩ := isDigits_iff.1 hw
      exact ⟨_, _, _, ⟨hw, .inr rfl, List.all_eq_true.1 hf, .inl hne⟩, rfl⟩
    · obtain ⟨hne, hf⟩ := isDigits_iff.1 hf
      exact ⟨[], _, _, ⟨by simp, .inr rfl, hf, .inr hne⟩, rfl⟩
  · rintro ⟨w, p, f, ⟨hw, hp, hf, hne⟩, rfl⟩
    obtain ⟨rfl, rfl⟩ | rfl := hp
    · rw [List.append_nil]
      exact .whole (isDigits_iff.2 ⟨hne.resolve_right (by simp), hw⟩)
    · by_cases hw' : w = []
      · subst hw'
        exact .fraction (isDigits_iff.2 ⟨hne.resolve_left (by simp), hf⟩)
      · exact .pointed (isDigits_iff.2 ⟨hw', hw⟩) (List.all_eq_true.2 hf)

theorem IsExponent.head? (h : IsExponent x) : ∀ c ∈ x.head?, isExponentMark c = true := by
  cases h with
  | none => rintro c ⟨⟩
  | power hc => rintro _ ⟨⟩; simpa [isExponentMark] using hc

theorem isAsciiDigit_of_isExponentMark (h : isExponentMark c = true) : isAsciiDigit c = false := by
  rw [isExponentMark, Bool.or_eq_true, beq_iff_eq, beq_iff_eq] at h
  obtain rfl | rfl := h <;> rfl

namespace Mantissa

theorem head? (h : Mantissa w p f) (hx : IsExponent x) :
    ∀ c ∈ (p ++ x).head?, isAsciiDigit c = false := by
  obtain ⟨rfl, -⟩ | rfl := h.point
  · exact fun c hc ↦ isAsciiDigit_of_isExponentMark (hx.head? c hc)
  · rintro _ ⟨⟩; rfl

theorem splitFraction (h : Mantissa w p f) (hx : IsExponent x) :
    Decimal.splitFraction (p ++ x) = (f, x) := by
  have hstop : ∀ c ∈ x.head?, isAsciiDigit c = false := fun c hc ↦
    isAsciiDigit_of_isExponentMark (hx.head? c hc)
  obtain ⟨rfl, rfl⟩ | rfl := h.point
  · rw [List.nil_append, Decimal.splitFraction]
    rintro s rfl
    cases hx with
    | power hc => simp at hc
  · rw [List.cons_append, Decimal.splitFraction, takeWhile_run h.fraction hstop,
      dropWhile_run h.fraction hstop]

/-- A mantissa has no letter in it and starts with no sign. -/
theorem not_mark (h : Mantissa w p f) :
    ∀ c ∈ w ++ p, isExponentMark c = false ∧ c ≠ '-' ∧ c ≠ '+' := by
  have hdigit : ∀ c, isAsciiDigit c = true → isExponentMark c = false ∧ c ≠ '-' ∧ c ≠ '+' := by
    intro c hc
    refine ⟨?_, ne_of_isAsciiDigit hc rfl, ne_of_isAsciiDigit hc rfl⟩
    by_contra hmark
    rw [Bool.not_eq_false] at hmark
    rw [isAsciiDigit_of_isExponentMark hmark] at hc
    cases hc
  intro c hc
  obtain hc | hc := List.mem_append.1 hc
  · exact hdigit c (h.whole c hc)
  · obtain ⟨rfl, -⟩ | rfl := h.point
    · cases hc
    · obtain rfl | hc := List.mem_cons.1 hc
      · exact ⟨rfl, by decide, by decide⟩
      · exact hdigit c (h.fraction c hc)

theorem head?_append (h : Mantissa w p f) : ∀ c ∈ (w ++ p ++ x).head?, c ≠ '-' ∧ c ≠ '+' := by
  intro c hc
  refine (h.not_mark c ?_).2
  have hne : w ++ p ≠ [] := by
    obtain ⟨-, rfl⟩ | rfl := h.point
    · exact List.append_ne_nil_of_left_ne_nil (h.nonempty.resolve_right (by simp)) p
    · simp
  rw [List.head?_append_of_ne_nil _ hne] at hc
  exact List.mem_of_mem_head? hc

theorem filter (h : Mantissa w p f) : (w ++ p).filter isAsciiDigit = w ++ f := by
  rw [List.filter_append, List.filter_eq_self.2 h.whole]
  obtain ⟨rfl, rfl⟩ | rfl := h.point
  · rfl
  · rw [List.filter_cons_of_neg (by decide), List.filter_eq_self.2 h.fraction]

/-- What stands after the point, if there is one. -/
theorem drop_point (h : Mantissa w p f) : ((w ++ p).dropWhile (· != '.')).drop 1 = f := by
  have hw : ∀ c ∈ w, (c != '.') = true := fun c hc ↦
    bne_iff_ne.2 (ne_of_isAsciiDigit (h.whole c hc) rfl)
  obtain ⟨rfl, rfl⟩ | rfl := h.point
  · rw [dropWhile_run hw (by rintro c ⟨⟩)]; rfl
  · rw [dropWhile_run hw (by rintro _ ⟨⟩; rfl)]; rfl

end Mantissa

theorem exponent?_of_isExponent (h : IsExponent x) :
    Decimal.exponent? x = some (integerValue (x.drop 1)) := by
  cases h with
  | none => rfl
  | power hc hx =>
    obtain ⟨sign, ds, hsign, hds, rfl⟩ := hx
    simp only [Decimal.exponent?, splitSign_integer hsign hds, hc, hds, and_self, if_true,
      List.drop_succ_cons, List.drop_zero, integerValue_append hsign hds]

theorem isExponent_of_exponent? (h : (Decimal.exponent? x).isSome = true) : IsExponent x := by
  cases x with
  | nil => exact .none
  | cons c s =>
    simp only [Decimal.exponent?] at h
    split at h
    · obtain ⟨hc, hds⟩ := ‹(c = 'e' ∨ c = 'E') ∧ _›
      exact .power hc (isPlainInteger_iff.1 hds)
    · cases h

instance : DecidablePred IsExponent := fun x ↦
  decidable_of_iff ((Decimal.exponent? x).isSome = true)
    ⟨isExponent_of_exponent?, fun h ↦ by rw [exponent?_of_isExponent h]; rfl⟩

theorem ofPlain?_append (hsign : IsSign sign) (hm : Mantissa w p f) (hx : IsExponent x) :
    Decimal.ofPlain? (sign ++ (w ++ p ++ x)) = some
      ⟨sign.head? == some '-', ofDigits (w ++ f), integerValue (x.drop 1) - f.length⟩ := by
  have hne : (w.isEmpty && f.isEmpty) = false := by
    obtain hw | hf := hm.nonempty
    · simp [hw]
    · simp [hf]
  simp only [Decimal.ofPlain?, splitSign_append hsign hm.head?_append]
  simp only [List.append_assoc, takeWhile_run hm.whole (hm.head? hx),
    dropWhile_run hm.whole (hm.head? hx), hm.splitFraction hx, hne, exponent?_of_isExponent hx]
  rfl

theorem decimalValue_append (hsign : IsSign sign) (hm : Mantissa w p f) (hx : IsExponent x) :
    decimalValue (sign ++ (w ++ p ++ x)) =
      ⟨sign.head? == some '-', ofDigits (w ++ f), integerValue (x.drop 1) - f.length⟩ := by
  have hbefore : ∀ c ∈ sign ++ (w ++ p), (!isExponentMark c) = true := by
    intro c hc
    obtain hc | hc := List.mem_append.1 hc
    · cases hsign <;> simp at hc <;> subst hc <;> rfl
    · rw [(hm.not_mark c hc).1]; rfl
  have hmark : ∀ c ∈ x.head?, (!isExponentMark c) = false := fun c hc ↦ by
    rw [hx.head? c hc]; rfl
  have hpoint : ((sign ++ (w ++ p)).dropWhile (· != '.')).drop 1 = f := by
    rw [List.dropWhile_append_of_pos (by cases hsign <;> simp), hm.drop_point]
  have hhead : ((sign ++ (w ++ p ++ x)).head? == some '-') = (sign.head? == some '-') :=
    head?_sign_append hm.head?_append
  have hassoc : sign ++ (w ++ p ++ x) = sign ++ (w ++ p) ++ x := by simp
  rw [decimalValue, hhead, hassoc, takeWhile_run hbefore hmark, dropWhile_run hbefore hmark]
  simp only [hpoint]
  rw [List.filter_append, filter_eq_nil_of_isSign hsign, hm.filter, List.nil_append]

theorem exists_splitFraction (s : List Char) : ∃ p f x, s = p ++ x ∧
    (p = [] ∧ f = [] ∨ p = '.' :: f) ∧ (∀ c ∈ f, isAsciiDigit c = true) ∧
    Decimal.splitFraction s = (f, x) := by
  rw [Decimal.splitFraction.eq_def]
  split
  · refine ⟨_, _, _, ?_, .inr rfl, fun c ↦ List.mem_takeWhile_imp, rfl⟩
    rw [List.cons_append, List.takeWhile_append_dropWhile]
  · exact ⟨[], [], _, rfl, .inl ⟨rfl, rfl⟩, by simp, rfl⟩

theorem isDecimal_of_ofPlain? (h : (Decimal.ofPlain? s).isSome = true) : IsDecimal s := by
  obtain ⟨sign, hsign, hs, -⟩ := exists_sign s
  simp only [Decimal.ofPlain?] at h
  generalize (splitSign s).2 = body at h hs
  obtain ⟨p, f, x, hrest, hp, hf, hsplit⟩ := exists_splitFraction (body.dropWhile isAsciiDigit)
  rw [hsplit] at h
  split at h
  · cases h
  · have hempty : ¬ ((body.takeWhile isAsciiDigit).isEmpty && f.isEmpty) = true := ‹_›
    rw [Bool.and_eq_true, List.isEmpty_iff, List.isEmpty_iff, not_and_or] at hempty
    rw [Option.isSome_map] at h
    have hm : IsMantissa (body.takeWhile isAsciiDigit ++ p) :=
      isMantissa_iff.2 ⟨_, p, f, ⟨fun c ↦ List.mem_takeWhile_imp, hp, hf, hempty⟩, rfl⟩
    refine ⟨sign, _, x, hsign, hm, isExponent_of_exponent? h, ?_⟩
    rw [List.append_assoc, ← hrest, List.takeWhile_append_dropWhile, ← hs]

theorem isDecimal_iff : (Decimal.ofPlain? s).isSome = true ↔ IsDecimal s := by
  refine ⟨isDecimal_of_ofPlain?, ?_⟩
  rintro ⟨sign, m, x, hsign, hm, hx, rfl⟩
  obtain ⟨w, p, f, hparts, rfl⟩ := isMantissa_iff.1 hm
  rw [ofPlain?_append hsign hparts hx]
  rfl

instance : DecidablePred IsDecimal := fun _ ↦ decidable_of_iff _ isDecimal_iff

/-- A decimal gives its value, and no other text gives any. -/
theorem ofPlain?_eq (s : List Char) :
    Decimal.ofPlain? s = if IsDecimal s then some (decimalValue s) else none := by
  by_cases hs : IsDecimal s
  · rw [if_pos hs]
    obtain ⟨sign, m, x, hsign, hm, hx, rfl⟩ := hs
    obtain ⟨w, p, f, hparts, rfl⟩ := isMantissa_iff.1 hm
    rw [ofPlain?_append hsign hparts hx, decimalValue_append hsign hparts hx]
  · rw [if_neg hs]
    rw [← isDecimal_iff, Bool.not_eq_true, Option.isSome_eq_false_iff] at hs
    exact Option.isNone_iff_eq_none.1 hs

end Readers

end InstanceCatalog.Numeral
