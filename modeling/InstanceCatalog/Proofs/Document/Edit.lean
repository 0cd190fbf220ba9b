import InstanceCatalog.Proofs.Document.Agreement

/-! # Edits of a page

Two kinds of edits of a forest: one changes nothing up to the end of some element, the other changes
nothing but what one element holds.  In both, the documents before and after agree up to that
element. -/

namespace InstanceCatalog

namespace Markup

namespace Forest

/-- Two rows that are numbered from `k` on are the same up to the end of the element with handle
`w`.  What comes later, beside that element or beside one around it, may be anything in either. -/
inductive SharesThrough (w : Nat) : Nat → Forest → Forest → Prop
  | here (tag : String) (attrs : List (String × String)) (children rest rest' : Forest) :
    SharesThrough w w (.element tag attrs children rest) (.element tag attrs children rest')
  | within {k : Nat} {children children' : Forest}
    (h : SharesThrough w (k + 1) children children') (tag : String)
    (attrs : List (String × String)) (rest rest' : Forest) :
    SharesThrough w k (.element tag attrs children rest) (.element tag attrs children' rest')
  | afterElement {k : Nat} {children rest rest' : Forest}
    (h : SharesThrough w (k + 1 + children.size) rest rest') (tag : String)
    (attrs : List (String × String)) :
    SharesThrough w k (.element tag attrs children rest) (.element tag attrs children rest')
  | afterText {k : Nat} {rest rest' : Forest} (h : SharesThrough w (k + 1) rest rest')
    (data : String) : SharesThrough w k (.text data rest) (.text data rest')
  | afterHidden {k : Nat} {rest rest' : Forest} (h : SharesThrough w k rest rest') :
    SharesThrough w k (.hidden rest) (.hidden rest')

/-- A row that is numbered from `k` on, with other contents for the element with handle `r`. -/
def refill (r : Nat) : Nat → Forest → Forest → Forest
  | _, nil, _ => nil
  | k, element tag attrs children rest, contents =>
    if r = k then element tag attrs contents rest
    else if r < k + 1 + children.size then
      element tag attrs (refill r (k + 1) children contents) rest
    else element tag attrs children (refill r (k + 1 + children.size) rest contents)
  | k, text data rest, contents => text data (refill r (k + 1) rest contents)
  | k, hidden rest, contents => hidden (refill r k rest contents)

end Forest

/-- An element with handle `h`, when the one with handle `r` gets other contents. -/
def Element.refill (r h : Nat) (e : Element) (contents : Forest) : Element :=
  { e with children := if r = h then contents else e.children.refill r (h + 1) contents }

end Markup

namespace Document

open Markup

variable {d d' : Document} {f g contents : Forest} {e : Element}
variable {w r k p h : Nat} {prev prev' : Option Nat}

/-- The elements of a row have the handles of the row. -/
theorem mem_range_of_mem_placed (hm : (h, e) ∈ placed k f) : k ≤ h ∧ h < k + f.size := by
  induction f generalizing k with
  | nil => simp [placed] at hm
  | element t as cs rest ihc ihr =>
    simp only [placed, List.mem_cons, Prod.mk.injEq, List.mem_append] at hm
    rw [Forest.size]
    rcases hm with ⟨rfl, -⟩ | hm | hm
    · omega
    · have := ihc hm
      omega
    · have := ihr hm
      omega
  | text s rest ih =>
    have := ih hm
    rw [Forest.size]
    omega
  | hidden rest ih => exact ih hm

/-! ## The same up to the end of an element -/

theorem exists_placed_of_sharesThrough (h : Forest.SharesThrough w k f g) :
    ∃ e, (w, e) ∈ placed k f ∧ (w, e) ∈ placed k g := by
  induction h with
  | here tag attrs children rest rest' =>
    exact ⟨⟨tag, attrs, children⟩, List.mem_cons_self, List.mem_cons_self⟩
  | within _ tag attrs rest rest' ih =>
    obtain ⟨e, hf, hg⟩ := ih
    exact ⟨e, by simp [placed, hf], by simp [placed, hg]⟩
  | afterElement _ tag attrs ih =>
    obtain ⟨e, hf, hg⟩ := ih
    exact ⟨e, by simp [placed, hf], by simp [placed, hg]⟩
  | afterText _ data ih => exact ih
  | afterHidden _ ih => exact ih

theorem bare_eq_of_sharesThrough (h : Forest.SharesThrough w k f g) (hs : d.Shows p prev k f)
    (hs' : d'.Shows p prev' k g) {j : Nat} (hle : k ≤ j) (hj : j ≤ w) :
    (d.node? j).map Node.bare = (d'.node? j).map Node.bare := by
  induction h generalizing p prev prev' with
  | here tag attrs children rest rest' =>
    obtain rfl := Nat.le_antisymm hj hle
    rw [hs.1, hs'.1]; rfl
  | within _ tag attrs rest rest' ih =>
    obtain ⟨hn, hc, -⟩ := hs
    obtain ⟨hn', hc', -⟩ := hs'
    rcases Nat.eq_or_lt_of_le hle with rfl | hle
    · rw [hn, hn']; rfl
    · exact ih hc hc' hle
  | @afterElement k children rest rest' _ tag attrs ih =>
    obtain ⟨hn, hc, hr⟩ := hs
    obtain ⟨hn', hc', hr'⟩ := hs'
    rcases Nat.eq_or_lt_of_le hle with rfl | hle
    · rw [hn, hn']; rfl
    · rcases Nat.lt_or_ge j (k + 1 + children.size) with hin | hout
      · exact bare_eq_of_shows hc hc' hle hin
      · exact ih hr hr' hout
  | afterText _ data ih =>
    obtain ⟨hn, hr⟩ := hs
    obtain ⟨hn', hr'⟩ := hs'
    rcases Nat.eq_or_lt_of_le hle with rfl | hle
    · rw [hn, hn']; rfl
    · exact ih hr hr' hle
  | afterHidden _ ih => exact ih hs hs' hle

theorem agreeTo_of_sharesThrough (h : Forest.SharesThrough w 1 f g) :
    (ofForest f).AgreeTo (ofForest g) w :=
  agreeTo_ofForest fun _ hk hkw ↦
    bare_eq_of_sharesThrough h (shows_ofForest f) (shows_ofForest g) hk hkw

/-! ## Other contents for one element -/

theorem bare_eq_of_refill (hs : d.Shows p prev k f)
    (hs' : d'.Shows p prev' k (f.refill r k contents)) {j : Nat} (hle : k ≤ j)
    (hlt : j < k + f.size) (hj : j ≤ r) :
    (d.node? j).map Node.bare = (d'.node? j).map Node.bare := by
  induction f generalizing p prev prev' k with
  | nil => exact absurd hlt (Nat.not_lt.2 hle)
  | element t as cs rest ihc ihr =>
    rw [Forest.refill] at hs'
    rw [Forest.size] at hlt
    obtain ⟨hn, hc, hr⟩ := hs
    split at hs'
    · -- the element itself: nothing of its contents is asked for
      rename_i hrk
      obtain rfl : k = j := by omega
      rw [hn, hs'.1]; rfl
    split at hs'
    · obtain ⟨hn', hc', -⟩ := hs'
      rcases Nat.eq_or_lt_of_le hle with rfl | hle
      · rw [hn, hn']; rfl
      · exact ihc hc hc' hle (by omega)
    · obtain ⟨hn', hc', hr'⟩ := hs'
      rcases Nat.eq_or_lt_of_le hle with rfl | hle
      · rw [hn, hn']; rfl
      · rcases Nat.lt_or_ge j (k + 1 + cs.size) with hin | hout
        · exact bare_eq_of_shows hc hc' hle hin
        · exact ihr hr hr' hout (by omega)
  | text s rest ih =>
    obtain ⟨hn, hr⟩ := hs
    obtain ⟨hn', hr'⟩ := hs'
    rw [Forest.size] at hlt
    rcases Nat.eq_or_lt_of_le hle with rfl | hle
    · rw [hn, hn']; rfl
    · exact ih hr hr' hle (by omega)
  | hidden rest ih => exact ih hs hs' hle hlt

theorem agreeTo_refill (hr : r < (ofForest f).size) :
    (ofForest f).AgreeTo (ofForest (f.refill r 1 contents)) r := by
  rw [size_ofForest] at hr
  exact agreeTo_ofForest fun _ hk hkr ↦
    bare_eq_of_refill (shows_ofForest f) (shows_ofForest _) hk (Nat.lt_of_le_of_lt hkr hr) hkr

/-- A row that ends before the handle stays as it is. -/
theorem refill_eq_self (h : k + f.size ≤ r) : f.refill r k contents = f := by
  induction f generalizing k with
  | nil => rfl
  | element t as cs rest _ ihr =>
    rw [Forest.size] at h
    rw [Forest.refill, if_neg (by omega), if_neg (by omega), ihr (by omega)]
  | text s rest ih =>
    rw [Forest.size] at h
    rw [Forest.refill, ih (by omega)]
  | hidden rest ih => rw [Forest.refill, ih h]

/-- An element that starts no later than the refilled one keeps its handle. -/
theorem mem_placed_refill (hm : (h, e) ∈ placed k f) (hle : h ≤ r) :
    (h, e.refill r h contents) ∈ placed k (f.refill r k contents) := by
  induction f generalizing k with
  | nil => simp [placed] at hm
  | element t as cs rest ihc ihr =>
    have hk := (mem_range_of_mem_placed hm).1
    simp only [placed, List.mem_cons, Prod.mk.injEq, List.mem_append] at hm
    rw [Forest.refill]
    rcases hm with ⟨rfl, rfl⟩ | hm | hm
    · -- the element itself
      split
      · simp [placed, Element.refill, *]
      split
      · simp [placed, Element.refill, *]
      · have hcs : cs.refill r (h + 1) contents = cs := refill_eq_self (by omega)
        simp [placed, Element.refill, *]
    · have hrange := mem_range_of_mem_placed hm
      rw [if_neg (by omega)]
      split
      · simp [placed, ihc hm]
      · have hcs : cs.refill r (k + 1) contents = cs := refill_eq_self (by omega)
        have hmem := ihc hm
        rw [hcs] at hmem
        simp [placed, hmem]
    · have hrange := mem_range_of_mem_placed hm
      rw [if_neg (by omega), if_neg (by omega)]
      simp [placed, ihr hm]
  | text s rest ih => exact ih hm
  | hidden rest ih => exact ih hm

end Document

end InstanceCatalog
