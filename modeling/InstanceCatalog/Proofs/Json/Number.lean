import InstanceCatalog.Binary64.Written
import InstanceCatalog.Catalog.Json
import InstanceCatalog.Proofs.Binary64.Range
import InstanceCatalog.Proofs.Numeral.Grammar
import Mathlib.Data.List.DropRight
import Mathlib.Data.Nat.Cast.Order.Field

/-! # Numbers in JSON

The tokens that JSON takes for numbers.  Integers and finite numbers are written as such tokens,
infinities and no number are not. -/

namespace InstanceCatalog

open Text Numeral

namespace JsonValue

/-- A single zero, or digits of which the first is not zero. -/
inductive IsWhole : List Char → Prop
  | zero : IsWhole ['0']
  | digits {w : List Char} : isDigits w = true → w.head? ≠ some '0' → IsWhole w

/-- Nothing, or a point and digits. -/
inductive IsFraction : List Char → Prop
  | none : IsFraction []
  | point {f : List Char} : isDigits f = true → IsFraction ('.' :: f)

/-- A whole number without leading zeros, an optional fraction and an optional exponent. -/
def IsMagnitude (s : List Char) : Prop :=
  ∃ w f x, IsWhole w ∧ IsFraction f ∧ IsExponent x ∧ s = w ++ (f ++ x)

/-- The numbers of RFC 8259: a magnitude, with a minus or without. -/
def IsNumber (s : List Char) : Prop :=
  ∃ minus m, (minus = [] ∨ minus = ['-']) ∧ IsMagnitude m ∧ s = minus ++ m

theorem IsMagnitude.isNumber {m : List Char} (h : IsMagnitude m) (negative : Bool) :
    IsNumber (if negative then '-' :: m else m) := by
  cases negative with
  | true => exact ⟨['-'], m, .inr rfl, h, rfl⟩
  | false => exact ⟨[], m, .inl rfl, h, rfl⟩

/-! ## Characters of a number -/

/-- The characters that stand in a number. -/
def isNumberChar (c : Char) : Bool := isAsciiDigit c || c ∈ ['-', '+', '.', 'e', 'E']

theorem all_isNumberChar {s : List Char} (h : IsNumber s) : s.all isNumberChar = true := by
  have hdigits {ds : List Char} (h : isDigits ds = true) : ds.all isNumberChar = true :=
    List.all_eq_true.2 fun c hc ↦ by rw [isNumberChar, (isDigits_iff.1 h).2 c hc, Bool.true_or]
  obtain ⟨minus, m, hminus, ⟨w, f, x, hw, hf, hx, rfl⟩, rfl⟩ := h
  simp only [List.all_append, Bool.and_eq_true]
  refine ⟨?_, ?_, ?_, ?_⟩
  · obtain rfl | rfl := hminus <;> rfl
  · cases hw with
    | zero => rfl
    | digits hw => exact hdigits hw
  · cases hf with
    | none => rfl
    | point hf => rw [List.all_cons, hdigits hf]; rfl
  · cases hx with
    | none => rfl
    | power hc hx =>
      obtain ⟨sign, ds, hsign, hds, rfl⟩ := hx
      rw [List.all_cons, List.all_append, hdigits hds]
      obtain rfl | rfl := hc <;> cases hsign <;> rfl

/-! ## Integers -/

theorem isWhole_digits (n : Nat) : IsWhole (digits n) := by
  obtain rfl | hn := Nat.eq_zero_or_pos n
  · exact .zero
  · exact .digits (isDigits_digits n) (head?_digits_ne_zero hn)

theorem isMagnitude_digits (n : Nat) : IsMagnitude (digits n) :=
  ⟨_, [], [], isWhole_digits n, .none, .none, by simp⟩

theorem isNumber_signed (i : Int) : IsNumber (signed i) := by
  cases i with
  | ofNat n => exact (isMagnitude_digits n).isNumber false
  | negSucc n => exact (isMagnitude_digits (n + 1)).isNumber true

end JsonValue

namespace Binary64

/-! ## Digits -/

/-- Digits of a positive number: there are some, and the first is not zero. -/
structure Digits.Proper (d : Digits) : Prop where
  isDigits : isDigits d.digits = true
  head? : d.digits.head? ≠ some '0'

theorem Digits.proper_ofScaled {n : Nat} (hn : 0 < n) (e : Int) : (ofScaled n e).Proper := by
  have hhead := head?_digits_ne_zero hn
  have hleading : (ofScaled n e).digits <+: Numeral.digits n := List.rdropWhile_prefix _ _
  have hne : (ofScaled n e).digits ≠ [] := by
    intro h
    have hzeros : ∀ c ∈ Numeral.digits n, (c == '0') = true := List.rdropWhile_eq_nil_iff.1 h
    cases hds : Numeral.digits n with
    | nil => exact Nat.toDigits_ne_nil hds
    | cons d ds =>
      rw [hds] at hhead hzeros
      exact hhead (congrArg some (beq_iff_eq.1 (hzeros d List.mem_cons_self)))
  refine ⟨isDigits_iff.2 ⟨hne, fun c hc ↦ ?_⟩, ?_⟩
  · exact isAsciiDigit_of_mem_digits (hleading.subset hc)
  · obtain ⟨zeros, h⟩ := hleading
    rwa [← h, List.head?_append_of_ne_nil _ hne] at hhead

/-- The power of ten that a floor logarithm names is not above the ratio. -/
theorem floorLog10_le {num den : Nat} (hnum : 0 < num) (hden : 0 < den) :
    (10 : ℚ) ^ floorLog10 num den ≤ (num : ℚ) / den := by
  rw [floorLog10]
  split
  · have hq : 0 < num / den := Nat.div_pos ‹_› hden
    have hpos := length_digits_pos (num / den)
    have hexp : ((Numeral.digits (num / den)).length - 1 : Int) =
        ((Numeral.digits (num / den)).length - 1 : Nat) := by omega
    rw [hexp, zpow_natCast]
    calc (10 : ℚ) ^ ((Numeral.digits (num / den)).length - 1) ≤ (num / den : Nat) := by
          exact_mod_cast (digits_bounds hq).1
      _ ≤ (num : ℚ) / den := Nat.cast_div_le
  · have hq : 0 < (den - 1) / num := Nat.div_pos (by omega) hnum
    have hlt := (digits_bounds hq).2
    rw [Nat.div_lt_iff_lt_mul hnum] at hlt
    have hle : den ≤ 10 ^ (Numeral.digits ((den - 1) / num)).length * num := by omega
    rw [zpow_neg, zpow_natCast, inv_le_iff_one_le_mul₀ (by positivity), div_mul_eq_mul_div,
      one_le_div₀ (by exact_mod_cast hden), mul_comm]
    exact_mod_cast hle

theorem roundEven_pos {num den : Nat} (hden : 0 < den) (h : den ≤ num) : 0 < roundEven num den := by
  have hq : 0 < num / den := Nat.div_pos h hden
  simp only [roundEven]
  split <;> omega

theorem proper_rounded {n m : Nat} {e : Int} (hn : 0 < n) (hm : 0 < m) :
    (rounded n m e).Proper := by
  have hnum := scaleUp_pos two_pos hm e
  have hden := scaleDown_pos two_pos e
  refine Digits.proper_ofScaled (roundEven_pos (scaleUp_pos (by norm_num) hden _) ?_) _
  rw [← one_mul (scaleUp 10 _ _), scaleUp_le_iff (by norm_num) hden, Nat.cast_one, one_mul]
  refine le_trans ?_ (floorLog10_le hnum hden)
  exact zpow_le_zpow_right₀ (by norm_num) (by omega)

theorem pos_of_first {p : Nat → Bool} {a b c : Nat} (hp : ∀ n, p n = true → 0 < n)
    (h : (if p a then some a else if p b then some b
      else if p (b + 1) then some (b + 1) else none) = some c) : 0 < c := by
  split at h
  · exact Option.some.inj h ▸ hp _ ‹_›
  split at h
  · exact Option.some.inj h ▸ hp _ ‹_›
  split at h
  · exact Option.some.inj h ▸ hp _ ‹_›
  · cases h

/-- No number that rounds to a positive one is zero. -/
theorem onGrid?_pos {i : Interval} {e k : Int} {c : Nat} (hlow : 0 < i.low)
    (h : onGrid? i e k = some c) : 0 < c := by
  have hscale : 0 < i.low * scaleUp 2 (scaleDown 10 k) e :=
    Nat.mul_pos hlow (scaleUp_pos two_pos (scaleDown_pos (by norm_num) k) e)
  have hinside (n : Nat) : (if i.closed = true then
      decide (i.low * scaleUp 2 (scaleDown 10 k) e ≤ n * scaleUp 10 (scaleDown 2 e) k) &&
        decide (n * scaleUp 10 (scaleDown 2 e) k ≤ i.high * scaleUp 2 (scaleDown 10 k) e)
      else decide (i.low * scaleUp 2 (scaleDown 10 k) e < n * scaleUp 10 (scaleDown 2 e) k) &&
        decide (n * scaleUp 10 (scaleDown 2 e) k < i.high * scaleUp 2 (scaleDown 10 k) e)) = true →
      0 < n := by
    intro h
    obtain rfl | hn := Nat.eq_zero_or_pos n
    · rw [Nat.zero_mul] at h
      split at h
      · rw [Bool.and_eq_true, decide_eq_true_eq] at h; omega
      · rw [Bool.and_eq_true, decide_eq_true_eq] at h; omega
    · exact hn
  exact pos_of_first hinside h

theorem proper_shortest {m : Nat} (hm : 0 < m) (e : Int) : (shortest m e).Proper := by
  have hlow : 0 < (interval m e).low := by
    simp only [interval]
    split <;> omega
  simp only [shortest]
  split
  · rename_i c k hhit
    obtain ⟨k', -, hk'⟩ := List.exists_of_findSome?_eq_some hhit
    obtain ⟨c', hc', heq⟩ := Option.map_eq_some_iff.1 hk'
    cases heq
    exact Digits.proper_ofScaled (onGrid?_pos hlow hc') k
  · exact proper_rounded (by norm_num) hm

/-! ## Layouts -/

namespace Layout

open JsonValue

variable {d : Digits}

theorem isExponent_exponent (x : Int) : IsExponent (exponent x) := by
  have hpadded (n : Nat) : isDigits (if (Numeral.digits n).length < 2 then
      '0' :: Numeral.digits n else Numeral.digits n) = true := by
    split
    · refine isDigits_iff.2 ⟨by simp, List.forall_mem_cons.2 ⟨rfl, ?_⟩⟩
      exact (isDigits_iff.1 (isDigits_digits n)).2
    · exact isDigits_digits n
  refine .power (.inl rfl) ⟨[if x < 0 then '-' else '+'], _, ?_, hpadded x.natAbs, rfl⟩
  split
  · exact .minus
  · exact .plus

theorem isMagnitude_scientific (h : d.Proper) : IsMagnitude (scientific d) := by
  obtain ⟨hdigits, hhead⟩ := h
  obtain ⟨hne, hall⟩ := isDigits_iff.1 hdigits
  obtain ⟨c, cs, hcs⟩ := List.exists_cons_of_ne_nil hne
  rw [hcs] at hall hhead
  have hw : IsWhole [c] := .digits (by simpa [isDigits] using hall c List.mem_cons_self) hhead
  refine ⟨[c], if cs.isEmpty then [] else '.' :: cs, _, hw, ?_,
    isExponent_exponent (d.point - 1), ?_⟩
  · cases cs with
    | nil => exact .none
    | cons c' cs =>
      exact .point (isDigits_iff.2 ⟨by simp, fun d hd ↦ hall d (List.mem_cons_of_mem _ hd)⟩)
  · rw [scientific, hcs]
    simp

theorem isMagnitude_positional (l : Layout) (h : d.Proper) : IsMagnitude (l.positional d) := by
  obtain ⟨hdigits, hhead⟩ := h
  obtain ⟨hne, hall⟩ := isDigits_iff.1 hdigits
  have hzeros (n : Nat) : ∀ c ∈ List.replicate n '0', isAsciiDigit c = true := fun c hc ↦ by
    rw [List.eq_of_mem_replicate hc]; rfl
  rw [positional]
  split
  · have hfraction : isDigits (List.replicate (-d.point).toNat '0' ++ d.digits) = true :=
      isDigits_iff.2 ⟨List.append_ne_nil_of_right_ne_nil _ hne, fun c hc ↦
        (List.mem_append.1 hc).elim (hzeros _ c) (hall c)⟩
    exact ⟨['0'], _, [], .zero, .point hfraction, .none, by simp⟩
  · have htake : d.digits.take d.point.toNat ≠ [] := by
      rw [Ne, List.take_eq_nil_iff, not_or]
      exact ⟨by omega, hne⟩
    have hw : IsWhole (d.digits.take d.point.toNat ++
        List.replicate (d.point.toNat - d.digits.length) '0') := by
      refine .digits (isDigits_iff.2 ⟨List.append_ne_nil_of_left_ne_nil htake _, ?_⟩) ?_
      · intro c hc
        exact (List.mem_append.1 hc).elim (fun hc ↦ hall c (List.mem_of_mem_take hc)) (hzeros _ c)
      · rw [List.head?_append_of_ne_nil _ htake, List.head?_take, if_neg (by omega)]
        exact hhead
    dsimp only
    split
    · split
      · exact ⟨_, ['.', '0'], [], hw, .point rfl, .none, by simp⟩
      · exact ⟨_, [], [], hw, .none, .none, by simp⟩
    · rename_i hfraction
      have hdrop : isDigits (d.digits.drop d.point.toNat) = true :=
        isDigits_iff.2 ⟨hfraction, fun c hc ↦ hall c (List.mem_of_mem_drop hc)⟩
      exact ⟨_, _, [], hw, .point hdrop, .none, by simp⟩

theorem isMagnitude_write (l : Layout) (h : d.Proper) : IsMagnitude (l.write d) := by
  rw [write]
  split
  · exact isMagnitude_positional l h
  · exact isMagnitude_scientific h

end Layout

open JsonValue

theorem isNumber_written (l : Layout) {digits : Nat → Int → Digits}
    (hdigits : ∀ m e, 0 < m → (digits m e).Proper) {x : Binary64} (h : x.isFinite = true) :
    IsNumber (written l digits x) := by
  cases x with
  | finite negative m e =>
    rw [written]
    refine IsMagnitude.isNumber ?_ negative
    split
    · split
      · exact ⟨['0'], ['.', '0'], [], .zero, .point rfl, .none, rfl⟩
      · exact ⟨['0'], [], [], .zero, .none, .none, rfl⟩
    · exact Layout.isMagnitude_write l (hdigits m e (Nat.pos_of_ne_zero ‹_›))
  | infinite => cases h
  | nan => cases h

theorem isNumber_text {x : Binary64} (h : x.isFinite = true) : IsNumber x.text.toList := by
  rw [text, String.toList_ofList]
  exact isNumber_written full (fun _ e hm ↦ proper_shortest hm e) h

theorem isNumber_sixDigits {x : Binary64} (h : x.isFinite = true) :
    IsNumber x.sixDigits.toList := by
  rw [sixDigits, String.toList_ofList]
  exact isNumber_written brief (fun _ _ ↦ proper_rounded (by norm_num)) h

theorem jsonToken_eq_text {x : Binary64} (h : x.isFinite = true) : x.jsonToken = x.text := by
  cases x with
  | finite => rfl
  | infinite => cases h
  | nan => cases h

/-- A finite number is written as a number of JSON, and nothing else is. -/
theorem isNumber_jsonToken_iff (x : Binary64) :
    IsNumber x.jsonToken.toList ↔ x.isFinite = true := by
  constructor
  · intro h
    have hall := all_isNumberChar h
    cases x with
    | finite => rfl
    | infinite negative => cases negative <;> exact absurd hall (by decide)
    | nan => exact absurd hall (by decide)
  · intro h
    rw [jsonToken_eq_text h]
    exact isNumber_text h

end Binary64

end InstanceCatalog
