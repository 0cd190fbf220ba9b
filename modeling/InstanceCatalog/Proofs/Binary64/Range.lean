import InstanceCatalog.Binary64.Basic
import InstanceCatalog.Proofs.Numeral.Digits
import Mathlib.Algebra.Order.Field.Power
import Mathlib.Data.Rat.Cast.Order
import Mathlib.Tactic.FieldSimp
import Mathlib.Tactic.GCongr
import Mathlib.Tactic.Linarith
import Mathlib.Tactic.NormNum
import Mathlib.Tactic.Positivity
import Mathlib.Tactic.Ring

/-! # The range of binary numbers

A decimal is converted to an infinity from the number halfway between the greatest finite number and
`2 ^ 1024` on, and to a finite number below it. -/

namespace InstanceCatalog

/-- The number that a decimal writes, without its sign. -/
def Numeral.Decimal.magnitude (d : Numeral.Decimal) : ℚ := d.coefficient * 10 ^ d.exponent

namespace Binary64

/-- The least number that is rounded to an infinity. -/
def overflow : ℚ := (2 ^ 54 - 1) * 2 ^ 970

/-! ## Scaling -/

variable {base num den : Nat}

theorem scaleDown_pos (hbase : 0 < base) (e : Int) : 0 < scaleDown base e := Nat.pow_pos hbase

theorem scaleUp_pos (hbase : 0 < base) (hnum : 0 < num) (e : Int) : 0 < scaleUp base num e :=
  Nat.mul_pos hnum (Nat.pow_pos hbase)

theorem cast_scaleUp (hbase : 0 < base) (n : Nat) (e : Int) :
    (scaleUp base n e : ℚ) = n * (base : ℚ) ^ e * scaleDown base e := by
  have hne : (base : ℚ) ≠ 0 := by positivity
  simp only [scaleUp, scaleDown, Nat.pow_eq, Nat.cast_mul, Nat.cast_pow]
  rw [mul_assoc, ← zpow_natCast, ← zpow_natCast, ← zpow_add₀ hne]
  congr 2
  omega

/-- The ratio of a scaled number. -/
theorem scaleUp_div_scaleDown (hbase : 0 < base) (n : Nat) (e : Int) :
    (scaleUp base n e : ℚ) / scaleDown base e = n * (base : ℚ) ^ e := by
  have hpos : (0 : ℚ) < scaleDown base e := by exact_mod_cast scaleDown_pos hbase e
  rw [cast_scaleUp hbase, mul_div_cancel_right₀ _ hpos.ne']

/-- A ratio compared with a multiple of a power. -/
theorem scaleUp_le_iff (hbase : 0 < base) (hden : 0 < den) (n : Nat) (e : Int) :
    n * scaleUp base den e ≤ num * scaleDown base e ↔ n * (base : ℚ) ^ e ≤ (num : ℚ) / den := by
  have hdown : (0 : ℚ) < scaleDown base e := by exact_mod_cast scaleDown_pos hbase e
  have hden' : (0 : ℚ) < den := by exact_mod_cast hden
  rw [← Nat.cast_le (α := ℚ), Nat.cast_mul, Nat.cast_mul, cast_scaleUp hbase, ← mul_assoc,
    mul_le_mul_iff_of_pos_right hdown, le_div_iff₀ hden']
  ring_nf

/-! ## The binary logarithm -/

theorem log2_bounds (hnum : 0 < num) (hden : 0 < den) :
    (2 : ℚ) ^ ((num.log2 : Int) - den.log2 - 1) ≤ (num : ℚ) / den ∧
      (num : ℚ) / den < 2 ^ ((num.log2 : Int) - den.log2 + 1) := by
  have hden' : (0 : ℚ) < den := by exact_mod_cast hden
  have hnumlow : (2 : ℚ) ^ num.log2 ≤ num := by exact_mod_cast Nat.log2_self_le hnum.ne'
  have hnumhigh : (num : ℚ) < 2 ^ (num.log2 + 1) := by exact_mod_cast Nat.lt_log2_self
  have hdenlow : (2 : ℚ) ^ den.log2 ≤ den := by exact_mod_cast Nat.log2_self_le hden.ne'
  have hdenhigh : (den : ℚ) < 2 ^ (den.log2 + 1) := by exact_mod_cast Nat.lt_log2_self
  constructor
  · rw [le_div_iff₀ hden']
    calc (2 : ℚ) ^ ((num.log2 : Int) - den.log2 - 1) * den
        ≤ 2 ^ ((num.log2 : Int) - den.log2 - 1) * 2 ^ (den.log2 + 1) := by gcongr
      _ = 2 ^ num.log2 := by
        rw [← zpow_natCast, ← zpow_natCast, ← zpow_add₀ two_ne_zero]; congr 1; push_cast; ring
      _ ≤ num := hnumlow
  · rw [div_lt_iff₀ hden']
    calc (num : ℚ) < 2 ^ (num.log2 + 1) := hnumhigh
      _ = 2 ^ ((num.log2 : Int) - den.log2 + 1) * 2 ^ den.log2 := by
        rw [← zpow_natCast, ← zpow_natCast, ← zpow_add₀ two_ne_zero]; congr 1; push_cast; ring
      _ ≤ 2 ^ ((num.log2 : Int) - den.log2 + 1) * den := by gcongr

theorem floorLog2_spec (hnum : 0 < num) (hden : 0 < den) :
    (2 : ℚ) ^ floorLog2 num den ≤ (num : ℚ) / den ∧
      (num : ℚ) / den < 2 ^ (floorLog2 num den + 1) := by
  obtain ⟨hlow, hhigh⟩ := log2_bounds hnum hden
  have hcompare : 1 * scaleUp 2 den ((num.log2 : Int) - den.log2) ≤
      num * scaleDown 2 ((num.log2 : Int) - den.log2) ↔ _ :=
    scaleUp_le_iff two_pos hden 1 _
  rw [one_mul, Nat.cast_one, one_mul, Nat.cast_two] at hcompare
  simp only [floorLog2, hcompare]
  split
  · exact ⟨‹_›, hhigh⟩
  · rw [sub_add_cancel]
    exact ⟨hlow, not_le.1 ‹_›⟩

/-! ## Rounding -/

theorem roundEven_le (num den : Nat) : roundEven num den ≤ num / den + 1 := by
  simp only [roundEven]
  split <;> omega

/-- A ratio is rounded above an odd number from halfway on. -/
theorem lt_roundEven_iff {n : Nat} (hden : 0 < den) (hodd : n % 2 = 1) :
    n < roundEven num den ↔ (2 * n + 1) * den ≤ 2 * num := by
  have hdiv := Nat.div_add_mod num den
  have hmod := Nat.mod_lt num hden
  have hhalf : (2 * n + 1) * den = 2 * (den * n) + den := by ring
  rw [hhalf]
  simp only [roundEven]
  obtain hlt | heq | hgt := Nat.lt_trichotomy (num / den) n
  · have hbelow : den * (num / den) + den ≤ den * n := Nat.mul_le_mul_left den hlt
    split <;> omega
  · subst heq
    split <;> omega
  · have habove : den * n + den ≤ den * (num / den) := Nat.mul_le_mul_left den hgt
    split <;> omega

/-! ## Overflow -/

/-- Powers from the limit's on. -/
theorem two_zpow_add (k : Nat) : (2 : ℚ) ^ (970 + k : Int) = 2 ^ k * 2 ^ 970 := by
  rw [zpow_add₀ two_ne_zero, zpow_natCast, mul_comm]
  rfl

theorem overflow_le_two_zpow : overflow ≤ 2 ^ (1024 : Int) := by
  rw [overflow, show (1024 : Int) = 970 + (54 : Nat) from rfl, two_zpow_add]
  gcongr
  norm_num

theorem two_zpow_le_overflow : (2 : ℚ) ^ (1023 : Int) ≤ overflow := by
  rw [overflow, show (1023 : Int) = 970 + (53 : Nat) from rfl, two_zpow_add]
  gcongr
  norm_num

/-- A ratio in the last binade is rounded out of it from the limit on. -/
theorem roundEven_eq_pow_iff (hden : 0 < den) (hlt : (num : ℚ) / den < 2 ^ (1024 : Int)) :
    roundEven (num * scaleDown 2 971) (scaleUp 2 den 971) = 2 ^ 53 ↔
      overflow ≤ (num : ℚ) / den := by
  have hdown : scaleDown 2 971 = 1 := rfl
  have hup : (scaleUp 2 den 971 : ℚ) = den * (2 * 2 ^ 970) := by
    rw [cast_scaleUp two_pos, hdown, Nat.cast_one, mul_one]
    exact congrArg _ (two_zpow_add 1)
  have hscaled : 0 < scaleUp 2 den 971 := scaleUp_pos two_pos hden 971
  have hden' : (0 : ℚ) < den := by exact_mod_cast hden
  rw [hdown, mul_one]
  generalize scaleUp 2 den 971 = scaled at hup hscaled
  have hdiv : num / scaled < 2 ^ 53 := by
    rw [Nat.div_lt_iff_lt_mul hscaled, ← Nat.cast_lt (α := ℚ), Nat.cast_mul, hup]
    rw [div_lt_iff₀ hden', show (1024 : Int) = 970 + (54 : Nat) from rfl, two_zpow_add] at hlt
    rw [Nat.cast_pow, Nat.cast_ofNat]
    generalize (2 : ℚ) ^ 970 = unit at hlt ⊢
    linarith
  have hle := roundEven_le num scaled
  have heq : roundEven num scaled = 2 ^ 53 ↔ 2 ^ 53 - 1 < roundEven num scaled := by omega
  rw [heq, lt_roundEven_iff hscaled (by norm_num), ← Nat.cast_le (α := ℚ), le_div_iff₀ hden',
    overflow, Nat.cast_mul, hup]
  generalize (2 : ℚ) ^ 970 = unit
  push_cast
  constructor <;> intro h <;> linarith

/-- The last step of a conversion: a mantissa that has grown by a digit is halved. -/
theorem settled_isFinite_iff (negative : Bool) (m : Nat) (e : Int) :
    (match (if m = Nat.pow 2 precision then (Nat.pow 2 (precision - 1), e + 1) else (m, e)) with
      | (m, e) => if greatestExponent < e then infinite negative
          else finite negative m e).isFinite = true ↔
      e < 971 ∨ e = 971 ∧ m ≠ 2 ^ 53 := by
  have hpow : Nat.pow 2 precision = 2 ^ 53 := rfl
  simp only [hpow, greatestExponent]
  by_cases hm : m = 2 ^ 53
  · simp only [hm, if_true]
    split <;> simp <;> omega
  · simp only [hm, if_false]
    split <;> simp <;> omega

theorem ofRatio_isFinite_iff (negative : Bool) (hden : 0 < den) :
    (ofRatio negative num den).isFinite = true ↔ (num : ℚ) / den < overflow := by
  rw [ofRatio]
  split
  · subst ‹num = 0›
    simp only [isFinite_finite, Nat.cast_zero, zero_div, true_iff]
    exact lt_of_lt_of_le (by positivity) two_zpow_le_overflow
  · obtain ⟨hlow, hhigh⟩ := floorLog2_spec (Nat.pos_of_ne_zero ‹num ≠ 0›) hden
    generalize floorLog2 num den = e at hlow hhigh
    refine (settled_isFinite_iff negative (roundEven _ _) (max (e - 52) (-1074))).trans ?_
    obtain hlt | rfl | hgt := lt_trichotomy e 1023
    · have hsmall : (num : ℚ) / den < overflow :=
        calc (num : ℚ) / den < 2 ^ (e + 1) := hhigh
          _ ≤ 2 ^ (1023 : Int) := zpow_le_zpow_right₀ one_le_two hlt
          _ ≤ overflow := two_zpow_le_overflow
      simp only [hsmall, iff_true]
      left
      omega
    · have hround := roundEven_eq_pow_iff hden hhigh
      change (971 : Int) < 971 ∨ (971 : Int) = 971 ∧
        roundEven (num * scaleDown 2 971) (scaleUp 2 den 971) ≠ 2 ^ 53 ↔ _
      rw [← not_le (a := overflow), ← hround]
      simp
    · have hlarge : overflow ≤ (num : ℚ) / den :=
        calc overflow ≤ 2 ^ (1024 : Int) := overflow_le_two_zpow
          _ ≤ 2 ^ e := zpow_le_zpow_right₀ one_le_two hgt
          _ ≤ (num : ℚ) / den := hlow
      simp only [hlarge.not_gt, iff_false]
      omega

theorem ofRatio_eq_infinite {negative : Bool}
    (h : ¬ (ofRatio negative num den).isFinite = true) :
    ofRatio negative num den = .infinite negative := by
  revert h
  simp only [ofRatio]
  split
  · simp
  · have hend (e : Int) (m : Nat) : ¬ (if greatestExponent < e then infinite negative
        else finite negative m e).isFinite = true →
        (if greatestExponent < e then infinite negative else finite negative m e) =
          infinite negative := by
      split <;> simp
    exact hend _ _

/-! ## Decimals -/

open Numeral

variable {d : Decimal}

/-- The power of ten below a decimal and the one above it. -/
theorem magnitude_bounds (hd : 0 < d.coefficient) :
    (10 : ℚ) ^ ((digits d.coefficient).length + d.exponent - 1) ≤ d.magnitude ∧
      d.magnitude < 10 ^ ((digits d.coefficient).length + d.exponent) := by
  obtain ⟨hlow, hhigh⟩ := digits_bounds hd
  have hpos := length_digits_pos d.coefficient
  have hten : (10 : ℚ) ≠ 0 := by norm_num
  have hlow' : (10 : ℚ) ^ ((digits d.coefficient).length - 1) ≤ d.coefficient := by
    exact_mod_cast hlow
  have hhigh' : (d.coefficient : ℚ) < 10 ^ (digits d.coefficient).length := by
    exact_mod_cast hhigh
  have hexp : ((digits d.coefficient).length + d.exponent - 1 : Int) =
      ((digits d.coefficient).length - 1 : Nat) + d.exponent := by omega
  rw [Decimal.magnitude, hexp, zpow_add₀ hten, zpow_add₀ hten, zpow_natCast, zpow_natCast]
  constructor <;> gcongr

theorem overflow_lt_ten_zpow : overflow < 10 ^ (310 : Int) := by
  calc overflow ≤ 2 ^ (1024 : Int) := overflow_le_two_zpow
    _ = ((2 ^ 1024 : Nat) : ℚ) := by rw [Nat.cast_pow, Nat.cast_two]; rfl
    _ < ((10 ^ 310 : Nat) : ℚ) := Nat.cast_lt.2 (by decide +kernel)
    _ = 10 ^ (310 : Int) := by rw [Nat.cast_pow]; rfl

theorem ten_zpow_le_overflow : (10 : ℚ) ^ (0 : Int) ≤ overflow :=
  calc (10 : ℚ) ^ (0 : Int) = 2 ^ (0 : Int) := rfl
    _ ≤ 2 ^ (1023 : Int) := zpow_le_zpow_right₀ one_le_two (by norm_num)
    _ ≤ overflow := two_zpow_le_overflow

/-- A decimal is converted to a finite number exactly below the limit. -/
theorem ofDecimal_isFinite_iff : (ofDecimal d).isFinite = true ↔ d.magnitude < overflow := by
  simp only [ofDecimal]
  obtain hzero | hpos := Nat.eq_zero_or_pos d.coefficient
  · have hmagnitude : d.magnitude = 0 := by rw [Decimal.magnitude, hzero, Nat.cast_zero, zero_mul]
    simp only [hzero, true_or, if_true, isFinite_finite, true_iff, hmagnitude]
    exact lt_of_lt_of_le (by norm_num) ten_zpow_le_overflow
  obtain ⟨hlow, hhigh⟩ := magnitude_bounds hpos
  split
  · have hsize := (‹d.coefficient = 0 ∨ _›).resolve_left hpos.ne'
    simp only [isFinite_finite, true_iff]
    calc d.magnitude < 10 ^ ((digits d.coefficient).length + d.exponent) := hhigh
      _ ≤ 10 ^ (0 : Int) := zpow_le_zpow_right₀ (by norm_num) (by omega)
      _ ≤ overflow := ten_zpow_le_overflow
  split
  · have hlarge : overflow < d.magnitude :=
      calc overflow < 10 ^ (310 : Int) := overflow_lt_ten_zpow
        _ ≤ 10 ^ ((digits d.coefficient).length + d.exponent - 1) :=
          zpow_le_zpow_right₀ (by norm_num) (by omega)
        _ ≤ d.magnitude := hlow
    simp only [isFinite_infinite, Bool.false_eq_true, false_iff, not_lt]
    exact hlarge.le
  · rw [ofRatio_isFinite_iff _ (scaleDown_pos (by norm_num) _),
      scaleUp_div_scaleDown (by norm_num), Decimal.magnitude, Nat.cast_ofNat]

/-- Nothing but an infinity of the decimal's sign is put in the place of a number. -/
theorem ofDecimal_eq_infinite_iff :
    ofDecimal d = .infinite d.negative ↔ overflow ≤ d.magnitude := by
  rw [← not_lt, ← ofDecimal_isFinite_iff]
  constructor
  · intro h; rw [h]; simp
  · simp only [ofDecimal]
    split
    · simp
    split
    · simp
    · exact ofRatio_eq_infinite

theorem ofDecimal_ne_nan (d : Decimal) : ofDecimal d ≠ .nan := by
  obtain h | h := lt_or_ge d.magnitude overflow
  · intro hnan
    have := ofDecimal_isFinite_iff.2 h
    rw [hnan] at this
    cases this
  · rw [ofDecimal_eq_infinite_iff.2 h]
    nofun

end Binary64

end InstanceCatalog
