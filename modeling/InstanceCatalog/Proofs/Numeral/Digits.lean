import InstanceCatalog.Numeral.Digits
import Mathlib.Data.List.Basic
import Mathlib.Data.List.Induction
import Mathlib.Data.Nat.Digits.Defs

/-! # The digits of a number -/

namespace InstanceCatalog.Numeral

open Text

variable {n : Nat}

theorem length_digits_pos (n : Nat) : 0 < (digits n).length := Nat.length_toDigits_pos

theorem length_digits_le_iff {k : Nat} (hk : 0 < k) : (digits n).length ≤ k ↔ n < 10 ^ k :=
  Nat.length_toDigits_le_iff (by norm_num) hk

/-- A positive number has as many digits as it takes. -/
theorem digits_bounds (hn : 0 < n) :
    10 ^ ((digits n).length - 1) ≤ n ∧ n < 10 ^ (digits n).length := by
  refine ⟨?_, (length_digits_le_iff (length_digits_pos n)).1 le_rfl⟩
  by_contra hlt
  rw [not_le] at hlt
  obtain hzero | hpos := Nat.eq_zero_or_pos ((digits n).length - 1)
  · rw [hzero] at hlt; omega
  · have := (length_digits_le_iff hpos).2 hlt
    omega

theorem isAsciiDigit_of_mem_digits {c : Char} (hc : c ∈ digits n) : isAsciiDigit c = true := by
  have hdigit := Nat.isDigit_of_mem_toDigits (by norm_num) (by norm_num) hc
  simpa [isAsciiDigit, Char.isDigit, Char.le_def] using hdigit

/-- A positive number is written without leading zeros. -/
theorem head?_digits_ne_zero (hn : 0 < n) : (digits n).head? ≠ some '0' := by
  induction n using Nat.strong_induction_on with
  | _ n ih =>
    rw [digits, Nat.toDigits_eq_if (by norm_num)]
    split
    · simpa using hn.ne'
    · rw [List.head?_append_of_ne_nil _ Nat.toDigits_ne_nil]
      exact ih _ (by omega) (by omega)

/-- A number is what its digits write. -/
theorem ofDigits_digits (n : Nat) : ofDigits (digits n) = n := by
  have hdigit : ∀ d < 10, (Nat.digitChar d).toNat - 0x30 = d := by decide
  induction n using Nat.strong_induction_on with
  | _ n ih =>
    rw [digits, Nat.toDigits_eq_if (by norm_num)]
    split
    · rw [← List.nil_append [_], ofDigits_concat, hdigit n ‹_›, ofDigits_nil]
      omega
    · rw [ofDigits_concat, hdigit _ (Nat.mod_lt _ (by norm_num))]
      have hquotient : ofDigits (Nat.toDigits 10 (n / 10)) = n / 10 := ih _ (by omega)
      omega

/-- A run of digits writes a number of no more digits. -/
theorem ofDigits_lt {ds : List Char} (h : ∀ c ∈ ds, isAsciiDigit c = true) :
    ofDigits ds < 10 ^ ds.length := by
  induction ds using List.reverseRecOn with
  | nil => exact Nat.one_pos
  | append_singleton ds d ih =>
    obtain ⟨hds, hd⟩ := List.forall_mem_append.1 h
    have hlt := ih hds
    have hdigit : d.toNat ≤ 0x39 := by
      have hle := hd d (List.mem_singleton_self d)
      simp only [isAsciiDigit, Bool.and_eq_true, decide_eq_true_eq] at hle
      exact hle.2
    rw [ofDigits_concat, List.length_append, List.length_singleton, Nat.pow_succ]
    omega

end InstanceCatalog.Numeral
