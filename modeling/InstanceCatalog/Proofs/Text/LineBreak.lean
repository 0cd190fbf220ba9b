import InstanceCatalog.Text.LineBreak
import InstanceCatalog.Proofs.Text.Run
import InstanceCatalog.Proofs.Text.Words

/-! # Texts with other line breaks

Unifying line breaks leaves every other character where it is.  What a reader takes from the start
of a text as long as some test holds is the same with unified line breaks, if the test takes both
kinds of line break or neither: then no pair of them is ever torn apart. -/

namespace InstanceCatalog.Text

variable {c : Char} {s t s' t' w : List Char} {p : Char → Bool}

/-- Both halves of a line break. -/
def isBreak (c : Char) : Bool := c == '\r' || c == '\n'

theorem forall_isBreak {P : Char → Prop} (hr : P '\r') (hn : P '\n') (h : isBreak c = true) :
    P c := by
  rw [isBreak, Bool.or_eq_true, beq_iff_eq, beq_iff_eq] at h
  rcases h with rfl | rfl
  · exact hr
  · exact hn

theorem not_isBreak_iff : isBreak c = false ↔ c ≠ '\r' ∧ c ≠ '\n' := by
  simp [isBreak]

/-! ## Unified line breaks -/

@[simp] theorem unifyLineBreaks_nil : unifyLineBreaks [] = [] := rfl

theorem unifyLineBreaks_pair (s : List Char) :
    unifyLineBreaks ('\r' :: '\n' :: s) = '\n' :: unifyLineBreaks s := rfl

theorem unifyLineBreaks_lone (h : ∀ t, s ≠ '\n' :: t) :
    unifyLineBreaks ('\r' :: s) = '\n' :: unifyLineBreaks s := by
  rw [unifyLineBreaks]
  exact h

theorem unifyLineBreaks_cons (h : c ≠ '\r') (s : List Char) :
    unifyLineBreaks (c :: s) = c :: unifyLineBreaks s := by
  rw [unifyLineBreaks]
  · rintro t rfl -; exact h rfl
  · rintro rfl; exact h rfl

/-- Both texts are empty, or both start with line breaks, or both with the same other character. -/
theorem unifyLineBreaks_cases (s : List Char) : s = [] ∨
    (∃ b t t', isBreak b = true ∧ s = b :: t ∧ unifyLineBreaks s = '\n' :: t') ∨
    ∃ c t, isBreak c = false ∧ s = c :: t ∧ unifyLineBreaks s = c :: unifyLineBreaks t := by
  fun_cases unifyLineBreaks s with
  | case1 => exact .inl rfl
  | case2 s => exact .inr (.inl ⟨'\r', _, _, rfl, rfl, rfl⟩)
  | case3 s h => exact .inr (.inl ⟨'\r', s, _, rfl, rfl, rfl⟩)
  | case4 c s _ hr =>
    by_cases hn : c = '\n'
    · exact .inr (.inl ⟨c, s, _, by rw [hn]; rfl, rfl, by rw [hn]⟩)
    · exact .inr (.inr ⟨c, s, not_isBreak_iff.2 ⟨hr, hn⟩, rfl, rfl⟩)

theorem unifyLineBreaks_eq_nil_iff : unifyLineBreaks s = [] ↔ s = [] := by
  rcases unifyLineBreaks_cases s with rfl | ⟨b, t, t', -, rfl, hu⟩ | ⟨c, t, -, rfl, hu⟩
  · exact Iff.rfl
  · simp [hu]
  · simp [hu]

theorem isEmpty_unifyLineBreaks (s : List Char) : (unifyLineBreaks s).isEmpty = s.isEmpty := by
  rw [Bool.eq_iff_iff, List.isEmpty_iff, List.isEmpty_iff, unifyLineBreaks_eq_nil_iff]

theorem unifyLineBreaks_eq_self (h : '\r' ∉ s) : unifyLineBreaks s = s := by
  induction s with
  | nil => rfl
  | cons c s ih =>
    rw [List.mem_cons, not_or] at h
    rw [unifyLineBreaks_cons (Ne.symm h.1), ih h.2]

/-- A text may be cut before any place that is not inside a pair. -/
theorem unifyLineBreaks_append (h : ∀ u, t ≠ '\n' :: u) :
    unifyLineBreaks (s ++ t) = unifyLineBreaks s ++ unifyLineBreaks t := by
  fun_induction unifyLineBreaks s with
  | case1 => rfl
  | case2 s ih => rw [List.cons_append, List.cons_append, unifyLineBreaks_pair, ih]; rfl
  | case3 s hs ih =>
    rw [List.cons_append, unifyLineBreaks_lone, ih]
    · rfl
    · intro u hu
      cases s with
      | nil => exact h u hu
      | cons c s => exact hs s (by rw [(List.cons.inj hu).1])
  | case4 c s _ hr ih => rw [List.cons_append, unifyLineBreaks_cons hr, ih]; rfl

theorem unifyLineBreaks_append_of_not_mem (h : '\r' ∉ s) :
    unifyLineBreaks (s ++ t) = s ++ unifyLineBreaks t := by
  induction s with
  | nil => rfl
  | cons c s ih =>
    rw [List.mem_cons, not_or] at h
    rw [List.cons_append, unifyLineBreaks_cons (Ne.symm h.1), ih h.2, List.cons_append]

theorem mem_unifyLineBreaks (hc : isBreak c = false) : c ∈ unifyLineBreaks s ↔ c ∈ s := by
  obtain ⟨hr, hn⟩ := not_isBreak_iff.1 hc
  fun_induction unifyLineBreaks s with
  | case1 => exact Iff.rfl
  | case2 s ih => simp [ih, hr, hn]
  | case3 s _ ih => simp [ih, hr, hn]
  | case4 d s _ _ ih => simp [ih]

/-! ## What is taken from the start -/

section Prefix

variable (hp : p '\r' = p '\n')

include hp

theorem dropWhile_unifyLineBreaks (s : List Char) :
    (unifyLineBreaks s).dropWhile p = unifyLineBreaks (s.dropWhile p) := by
  fun_induction unifyLineBreaks s with
  | case1 => rfl
  | case2 s ih =>
    simp only [List.dropWhile_cons, hp]
    split
    · exact ih
    · rfl
  | case3 s hs ih =>
    simp only [List.dropWhile_cons, hp]
    split
    · exact ih
    · exact (unifyLineBreaks_lone hs).symm
  | case4 c s _ hr ih =>
    simp only [List.dropWhile_cons]
    split
    · exact ih
    · exact (unifyLineBreaks_cons hr s).symm

theorem takeWhile_unifyLineBreaks (s : List Char) :
    (unifyLineBreaks s).takeWhile p = unifyLineBreaks (s.takeWhile p) := by
  fun_induction unifyLineBreaks s with
  | case1 => rfl
  | case2 s ih =>
    simp only [List.takeWhile_cons, hp, ih]
    split <;> rfl
  | case3 s hs ih =>
    simp only [List.takeWhile_cons, hp, ih]
    split
    · refine (unifyLineBreaks_lone fun t ht ↦ ?_).symm
      cases s with
      | nil => cases ht
      | cons c s =>
        rw [List.takeWhile_cons] at ht
        split at ht
        · exact hs s (by rw [(List.cons.inj ht).1])
        · cases ht
    · rfl
  | case4 c s _ hr ih =>
    simp only [List.takeWhile_cons, ih]
    split
    · exact (unifyLineBreaks_cons hr _).symm
    · rfl

theorem head?_any_unifyLineBreaks (s : List Char) :
    (unifyLineBreaks s).head?.any p = s.head?.any p := by
  fun_cases unifyLineBreaks s with
  | case1 => rfl
  | case2 s => exact hp.symm
  | case3 s => exact hp.symm
  | case4 c s => rfl

end Prefix

/-- A run without line breaks is the same in both texts. -/
theorem takeWhile_unifyLineBreaks_eq (hr : p '\r' = false) (hn : p '\n' = false) (s : List Char) :
    (unifyLineBreaks s).takeWhile p = s.takeWhile p := by
  rw [takeWhile_unifyLineBreaks (hr.trans hn.symm),
    unifyLineBreaks_eq_self (not_mem_takeWhile hr s)]

theorem head?_unifyLineBreaks (hc : isBreak c = false) (s : List Char) :
    (unifyLineBreaks s).head? = some c ↔ s.head? = some c := by
  rcases unifyLineBreaks_cases s with rfl | ⟨b, t, t', hb, rfl, hu⟩ | ⟨d, t, -, rfl, hu⟩
  · exact Iff.rfl
  · rw [hu]
    constructor
    · rintro ⟨⟩; cases hc
    · rintro ⟨⟩; rw [hb] at hc; cases hc
  · rw [hu]; exact Iff.rfl

/-! ## Marks without line breaks -/

theorem prefix_unifyLineBreaks (hw : ∀ c ∈ w, isBreak c = false) :
    w <+: unifyLineBreaks s ↔ w <+: s := by
  induction w generalizing s with
  | nil => simp
  | cons d w ih =>
    obtain ⟨hd, hw⟩ := List.forall_mem_cons.1 hw
    rcases unifyLineBreaks_cases s with rfl | ⟨b, t, t', hb, rfl, hu⟩ | ⟨c, t, -, rfl, hu⟩
    · exact Iff.rfl
    · have hne {b : Char} (hb : isBreak b = true) (t : List Char) : ¬ d :: w <+: b :: t := by
        intro h
        rw [(List.cons_prefix_cons.1 h).1, hb] at hd
        cases hd
      rw [hu]
      exact iff_of_false (hne rfl t') (hne hb t)
    · rw [hu, List.cons_prefix_cons, List.cons_prefix_cons, ih hw]

theorem drop_unifyLineBreaks (hw : '\r' ∉ w) (h : w <+: s) :
    (unifyLineBreaks s).drop w.length = unifyLineBreaks (s.drop w.length) := by
  obtain ⟨t, rfl⟩ := h
  rw [unifyLineBreaks_append_of_not_mem hw, List.drop_left, List.drop_left]

/-! ## Some line breaks unified -/

/-- The second text is the first with line feeds for some of its line breaks. -/
inductive Unifies : List Char → List Char → Prop
  | nil : Unifies [] []
  | cons (c : Char) {s t : List Char} : Unifies s t → Unifies (c :: s) (c :: t)
  | pair {s t : List Char} : Unifies s t → Unifies ('\r' :: '\n' :: s) ('\n' :: t)
  | lone {s t : List Char} : Unifies s t → Unifies ('\r' :: s) ('\n' :: t)

namespace Unifies

theorem refl (s : List Char) : Unifies s s := by
  induction s with
  | nil => exact .nil
  | cons c s ih => exact .cons c ih

theorem unified (s : List Char) : Unifies s (unifyLineBreaks s) := by
  fun_induction unifyLineBreaks s with
  | case1 => exact .nil
  | case2 s ih => exact .pair ih
  | case3 s _ ih => exact .lone ih
  | case4 c s _ _ ih => exact .cons c ih

theorem append (h : Unifies s t) (h' : Unifies s' t') : Unifies (s ++ s') (t ++ t') := by
  induction h with
  | nil => exact h'
  | cons c _ ih => exact .cons c ih
  | pair _ ih => exact .pair ih
  | lone _ ih => exact .lone ih

theorem words_append_eq (h : Unifies s t) (w : List Char) : words (w ++ s) = words (w ++ t) := by
  induction h generalizing w with
  | nil => rfl
  | cons c _ ih => simpa using ih (w ++ [c])
  | @pair s t _ ih =>
    have hs := ih []
    rw [words_append_blank (c := '\r') rfl, words_append_blank (c := '\n') rfl,
      words_cons_blank (c := '\n') rfl]
    exact congrArg _ hs
  | lone _ ih =>
    rw [words_append_blank (c := '\r') rfl, words_append_blank (c := '\n') rfl]
    exact congrArg _ (ih [])

theorem words_eq (h : Unifies s t) : words s = words t := h.words_append_eq []

theorem any_isBreak_eq (h : Unifies s t) : s.any isBreak = t.any isBreak := by
  induction h with
  | nil => rfl
  | cons c _ ih => rw [List.any_cons, List.any_cons, ih]
  | pair => rfl
  | lone => rfl

theorem eq_nil_iff (h : Unifies s t) : s = [] ↔ t = [] := by
  cases h <;> simp

/-- Texts without line breaks are equal or not as before. -/
theorem eq_iff (h : Unifies s t) (hw : ∀ c ∈ w, isBreak c = false) : s = w ↔ t = w := by
  induction h generalizing w with
  | nil => exact Iff.rfl
  | cons c _ ih =>
    cases w with
    | nil => simp
    | cons d w => rw [List.cons.injEq, List.cons.injEq, ih (List.forall_mem_cons.1 hw).2]
  | pair =>
    constructor <;> rintro rfl <;> exact absurd (hw _ List.mem_cons_self) (by decide)
  | lone =>
    constructor <;> rintro rfl <;> exact absurd (hw _ List.mem_cons_self) (by decide)

end Unifies

end InstanceCatalog.Text
