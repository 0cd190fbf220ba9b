import InstanceCatalog.Catalog.Record
import InstanceCatalog.Proofs.Numeral.Grammar
import InstanceCatalog.Proofs.Text.Lower
import InstanceCatalog.Settings

/-! # Numerals in cells and in settings

A cell is held to the grammar of plain numerals.  What is typed for a setting may have white space
around it, digits of any script and underscores between digits, and is read as the plain numeral
that it stands for.  So both give one number to one text, and the settings take more texts. -/

namespace InstanceCatalog

open Text

namespace Numeral

variable {c a b : Char} {s t m typed sign body : List Char} {n : Nat}

/-! ## Digits of any script -/

theorem map_asciiDigit_eq (h : ∀ c ∈ s, asciiDigit c = c) : s.map asciiDigit = s :=
  (List.map_congr_left h).trans s.map_id

/-- The characters that stand in a plain numeral. -/
def InNumeral (c : Char) : Prop := isAsciiDigit c = true ∨ c ∈ ['+', '-', '.', 'e', 'E']

theorem inNumeral_of_isSign (h : IsSign sign) : ∀ c ∈ sign, InNumeral c := by
  cases h with
  | none => nofun
  | minus => exact List.forall_mem_singleton.2 (.inr (by decide))
  | plus => exact List.forall_mem_singleton.2 (.inr (by decide))

theorem IsInteger.inNumeral (h : IsInteger s) : ∀ c ∈ s, InNumeral c := by
  obtain ⟨sign, ds, hsign, hds, rfl⟩ := h
  refine List.forall_mem_append.2 ⟨inNumeral_of_isSign hsign, fun c hc ↦ ?_⟩
  exact .inl ((isDigits_iff.1 hds).2 c hc)

theorem IsMantissa.inNumeral (h : IsMantissa m) : ∀ c ∈ m, InNumeral c := by
  obtain ⟨w, p, f, hparts, rfl⟩ := isMantissa_iff.1 h
  refine List.forall_mem_append.2 ⟨fun c hc ↦ .inl (hparts.whole c hc), ?_⟩
  obtain ⟨rfl, -⟩ | rfl := hparts.point
  · nofun
  · exact List.forall_mem_cons.2 ⟨.inr (by decide), fun c hc ↦ .inl (hparts.fraction c hc)⟩

theorem IsDecimal.inNumeral (h : IsDecimal s) : ∀ c ∈ s, InNumeral c := by
  obtain ⟨sign, m, x, hsign, hm, hx, rfl⟩ := h
  refine List.forall_mem_append.2 ⟨inNumeral_of_isSign hsign, ?_⟩
  refine List.forall_mem_append.2 ⟨hm.inNumeral, ?_⟩
  cases hx with
  | none => nofun
  | power hc hx =>
    refine List.forall_mem_cons.2 ⟨.inr ?_, hx.inNumeral⟩
    obtain rfl | rfl := hc <;> decide

theorem IsDecimal.ne_nil (h : IsDecimal s) : s ≠ [] := by
  rintro rfl
  exact absurd h (by decide)

namespace InNumeral

theorem asciiDigit_eq (h : InNumeral c) : asciiDigit c = c := by
  obtain h | h := h
  · exact asciiDigit_of_isAsciiDigit h
  · have hmarks : ∀ c ∈ ['+', '-', '.', 'e', 'E'], asciiDigit c = c :=
      List.forall_iff_forall_mem.1 (by decide +kernel)
    exact hmarks c h

end InNumeral

/-! ## Typed numerals -/

/-- A text with underscores, each between two digits, and the text without them. -/
inductive Grouped : List Char → List Char → Prop
  | nil : Grouped [] []
  | cons (c : Char) {s t : List Char} : Grouped s t → Grouped (c :: s) (c :: t)
  | underscore {a b : Char} {s t : List Char} : isAsciiDigit a = true → isAsciiDigit b = true →
    Grouped (b :: s) (b :: t) → Grouped (a :: '_' :: b :: s) (a :: b :: t)

/-- What is typed stands for a plain numeral: there may be white space around it, digits of other
scripts in the place of its digits, and underscores between them. -/
def StandsFor (typed t : List Char) : Prop :=
  ∃ before s after, (∀ c ∈ before, isMargin c = true) ∧ (∀ c ∈ after, isMargin c = true) ∧
    Grouped (s.map asciiDigit) t ∧ typed = before ++ (s ++ after)

namespace Grouped

theorem refl (t : List Char) : Grouped t t := by
  induction t with
  | nil => exact .nil
  | cons c t ih => exact .cons c ih

theorem ne_nil (h : Grouped m t) (ht : t ≠ []) : m ≠ [] := by
  rintro rfl
  cases h
  exact ht rfl

end Grouped

namespace StandsFor

theorem refl (ht : IsDecimal t) : StandsFor t t := by
  have hmap : t.map asciiDigit = t := map_asciiDigit_eq fun c hc ↦ (ht.inNumeral c hc).asciiDigit_eq
  exact ⟨[], t, [], nofun, nofun, hmap.symm ▸ .refl t, by simp⟩

end StandsFor

/-- A name of an infinity, or of no number, in letters of any case. -/
inductive Named (negative : Bool) (s : List Char) : Binary64 → Prop
  | infinity : s.map Char.toLower = "inf".toList ∨ s.map Char.toLower = "infinity".toList →
    Named negative s (.infinite negative)
  | nothing : s.map Char.toLower = "nan".toList → Named negative s .nan

namespace Grouped

/-- Nothing of the text itself is added or changed. -/
theorem subset (h : Grouped m t) (hc : c ∈ t) : c ∈ m := by
  induction h with
  | nil => exact hc
  | cons a _ ih =>
    obtain rfl | hc := List.mem_cons.1 hc
    · exact List.mem_cons_self
    · exact List.mem_cons_of_mem a (ih hc)
  | @underscore a b s t _ _ _ ih =>
    obtain rfl | hc := List.mem_cons.1 hc
    · exact List.mem_cons_self
    · exact List.mem_cons_of_mem a (List.mem_cons_of_mem _ (ih hc))

end Grouped

instance : DecidablePred InNumeral := fun c ↦
  inferInstanceAs (Decidable (isAsciiDigit c = true ∨ c ∈ ['+', '-', '.', 'e', 'E']))

namespace Named

variable {negative : Bool} {x : Binary64}

theorem ne_nil (h : Named negative s x) : s ≠ [] := by
  rintro rfl
  obtain (hs | hs) | hs := h <;> cases hs

end Named

end Numeral

end InstanceCatalog
