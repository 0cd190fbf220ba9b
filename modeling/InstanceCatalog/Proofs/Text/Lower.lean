import InstanceCatalog.Text.Case
import Mathlib.Data.List.Basic
import Mathlib.Tactic.MkIffOfInductiveProp

/-! # Texts with given small letters

No character beyond ASCII has an ASCII letter for its small form, but for the Kelvin sign, whose
small form is k, and for the capital I with a dot, whose small form ends in a mark.  So a word of
other ASCII letters is the small form only of the texts that ASCII alone takes to it. -/

namespace InstanceCatalog.Text

variable {c x : Char} {s w : List Char}

theorem forall_ascii {P : Char → Prop} (h : ∀ n < 128, P (Char.ofNat n)) (hc : c.toNat < 128) :
    P c := by
  rw [← Char.ofNat_toNat c]
  exact h _ hc

namespace Case

/-- A small ASCII letter that is the small form of no character beyond ASCII. -/
@[mk_iff] structure IsPlain (c : Char) : Prop where
  isLower : c.isLower = true
  ne_kelvin : c ≠ 'k'

instance : DecidablePred IsPlain := fun c ↦ decidable_of_iff _ (isPlain_iff c).symm

theorem toNat_of_isLower (h : c.isLower = true) : 0x61 ≤ c.toNat ∧ c.toNat ≤ 0x7A := by
  have h : (decide (c.val ≥ 'a'.val) && decide (c.val ≤ 'z'.val)) = true := h
  simpa [UInt32.le_iff_toNat_le] using h

theorem IsPlain.lt (h : IsPlain c) : c.toNat < 0x80 := by
  have := toNat_of_isLower h.isLower
  omega

theorem toLower_of_le (h : 0x80 ≤ c.toNat) : c.toLower = c := by
  have hupper : ¬ (c.val ≥ 'A'.val ∧ c.val ≤ 'Z'.val) := fun ⟨_, hle⟩ ↦ by
    have : c.toNat ≤ 0x5A := UInt32.le_iff_toNat_le.1 hle
    omega
  exact dif_neg hupper

/-- Every shift but that of the Kelvin sign ends beyond ASCII. -/
theorem lowerShifts_beyond : ∀ s ∈ lowerShifts,
    0x80 ≤ s.first + s.distance ∨ s.first = 0x212A ∧ s.last = 0x212A := by
  decide +kernel

theorem le_apply_lowerShifts {n : Nat} (hn : 0x80 ≤ n) (hk : n ≠ 0x212A) :
    0x80 ≤ Shift.apply lowerShifts n := by
  rw [Shift.apply]
  split
  · next s hs =>
    have hmoves := List.find?_some hs
    simp only [Shift.moves, Bool.and_eq_true, decide_eq_true_eq] at hmoves
    obtain ⟨⟨hfirst, hlast⟩, -⟩ := hmoves
    rcases lowerShifts_beyond s (List.mem_of_find?_eq_some hs) with h | ⟨h, h'⟩
    · omega
    · exact absurd (Nat.le_antisymm (h' ▸ hlast) (h ▸ hfirst)) hk
  · exact hn

/-- Beyond ASCII the small form of a character has a character that is no plain letter. -/
theorem exists_not_isPlain (hc : 0x80 ≤ c.toNat) : ∃ x ∈ lowerChar c, ¬ IsPlain x := by
  rw [lowerChar, if_neg (Nat.not_lt.2 hc)]
  by_cases hdot : c = 'İ'
  · exact ⟨'\u0307', by simp [hdot], by decide⟩
  · rw [if_neg hdot]
    refine ⟨_, List.mem_singleton_self _, fun hx ↦ ?_⟩
    by_cases hk : c.toNat = 0x212A
    · rw [hk] at hx
      exact absurd hx (by decide +kernel)
    · have hle := le_apply_lowerShifts hc hk
      by_cases hvalid : (Shift.apply lowerShifts c.toNat).isValidChar
      · rw [Char.ofNat, dif_pos hvalid] at hx
        exact absurd hx.lt (Nat.not_lt.2 hle)
      · rw [Char.ofNat, dif_neg hvalid] at hx
        exact absurd hx (by decide)

theorem not_isPlain_lowerSigma (before after : List Char) :
    ¬ IsPlain (lowerSigma before after) := by
  rw [lowerSigma]
  split <;> decide

theorem lowerFrom_eq_iff (hw : ∀ c ∈ w, IsPlain c) (before : List Char) :
    lowerFrom before s = w ↔ s.map Char.toLower = w := by
  induction s generalizing before w with
  | nil => exact Iff.rfl
  | cons c s ih =>
    rw [List.map_cons]
    by_cases hc : c.toNat < 0x80
    · have hsigma : c ≠ 'Σ' := by rintro rfl; exact absurd hc (by decide)
      rw [lowerFrom_cons hsigma, lowerChar, if_pos hc, List.singleton_append]
      cases w with
      | nil => simp
      | cons x w => rw [List.cons.injEq, List.cons.injEq, ih (List.forall_mem_cons.1 hw).2]
    -- a character beyond ASCII puts more than plain letters on either side
    · have hle := Nat.not_lt.1 hc
      constructor <;> intro h
      · rw [lowerFrom] at h
        split at h
        · exact absurd (hw _ (h ▸ List.mem_cons_self)) (not_isPlain_lowerSigma before s)
        · obtain ⟨x, hx, hplain⟩ := exists_not_isPlain hle
          exact absurd (hw x (h ▸ List.mem_append_left _ hx)) hplain
      · have hplain : IsPlain c.toLower := hw _ (h ▸ List.mem_cons_self)
        rw [toLower_of_le hle] at hplain
        exact absurd hplain.lt hc

end Case

/-- A word of plain letters is the small form of its ASCII case variants and of no other text. -/
theorem lower_eq_iff (hw : ∀ c ∈ w, Case.IsPlain c) : lower s = w ↔ s.map Char.toLower = w :=
  Case.lowerFrom_eq_iff hw []

theorem toLower_eq_iff (hx : Case.IsPlain x) : c.toLower = x ↔ c = x ∨ c = x.toUpper := by
  constructor
  · rintro rfl
    by_cases hc : c.toNat < 128
    · exact forall_ascii (P := fun c ↦ c = c.toLower ∨ c = c.toLower.toUpper) (by decide) hc
    · exact .inl (Case.toLower_of_le (Nat.not_lt.1 hc)).symm
  · have hlower : Case.IsPlain x → x.toLower = x ∧ x.toUpper.toLower = x :=
      forall_ascii (P := fun x ↦ Case.IsPlain x → x.toLower = x ∧ x.toUpper.toLower = x)
        (by decide) hx.lt
    rintro (rfl | rfl)
    · exact (hlower hx).1
    · exact (hlower hx).2

end InstanceCatalog.Text
