import InstanceCatalog.Proofs.Document.Numbering
import InstanceCatalog.Proofs.Markup.Element

/-! # Subtrees of a numbered document

Walks and searches from an element of a document that shows a forest come to the same as the lists
of that forest. -/

namespace InstanceCatalog.Document

open Markup

variable {d : Document} {f : Forest} {e : Element} {p k h j : Nat} {prev : Option Nat} {n : Node}

/-- An element stands at a handle, whatever its parent and its neighbours are. -/
def Holds (d : Document) (h : Nat) (e : Element) : Prop :=
  ∃ p prev rest, d.Shows p prev h (.element e.tag e.attrs e.children rest)

/-- The elements of a row that is numbered from `k` on, with their handles. -/
def placed (k : Nat) : Forest → List (Nat × Element)
  | .nil => []
  | .element tag attrs children rest =>
    (k, ⟨tag, attrs, children⟩) ::
      (placed (k + 1) children ++ placed (k + 1 + children.size) rest)
  | .text _ rest => placed (k + 1) rest
  | .hidden rest => placed k rest

theorem map_snd_placed (k : Nat) (f : Forest) : (placed k f).map Prod.snd = f.elements := by
  induction f generalizing k with
  | nil => rfl
  | element t as cs rest ihc ihr => simp [placed, Forest.elements, ihc, ihr]
  | text s rest ih => exact ih (k + 1)
  | hidden rest ih => exact ih k

theorem holds_of_mem_placed (hs : d.Shows p prev k f) (hm : (h, e) ∈ placed k f) :
    d.Holds h e := by
  induction f generalizing p prev k with
  | nil => simp [placed] at hm
  | element t as cs rest ihc ihr =>
    simp only [placed, List.mem_cons, Prod.mk.injEq, List.mem_append] at hm
    rcases hm with ⟨rfl, rfl⟩ | hm | hm
    · exact ⟨p, prev, rest, hs⟩
    · exact ihc hs.2.1 hm
    · exact ihr hs.2.2 hm
  | text s rest ih => exact ih hs.2 hm
  | hidden rest ih => exact ih hs hm

/-! ## Walks -/

/-- The interval of a row that starts with an element: the element, what it holds, and the rest. -/
theorem range'_size_element (k : Nat) (t : String) (as : List (String × String))
    (cs rest : Forest) :
    List.range' k (Forest.element t as cs rest).size =
      k :: (List.range' (k + 1) cs.size ++ List.range' (k + 1 + cs.size) rest.size) := by
  rw [List.range'_append_1, ← List.range'_succ, Forest.size]

theorem flatMap_preorder_roots (hd : d.Linked) (hs : d.Shows p prev k f) :
    (f.roots k).flatMap d.preorder = List.range' k f.size := by
  induction f generalizing p prev k with
  | nil => rfl
  | element t as cs rest ihc ihr =>
    obtain ⟨hn, hc, hr⟩ := hs
    have hsub : d.preorder k = List.range' k (cs.size + 1) := by
      rw [preorder_eq hd, children_of_node? hn, ihc hc, List.range'_succ]
    rw [Forest.roots, List.flatMap_cons, hsub, ihr hr, range'_size_element, List.range'_succ,
      List.cons_append]
  | text s rest ih =>
    obtain ⟨hn, hr⟩ := hs
    have hsub : d.preorder k = [k] := by rw [preorder_eq hd, children_of_node? hn]; rfl
    rw [Forest.roots, List.flatMap_cons, hsub, ih hr, Forest.size, List.range'_succ]
    rfl
  | hidden rest ih => exact ih hs

/-- A subtree takes an interval of handles. -/
theorem preorder_of_holds (hd : d.Linked) (hh : d.Holds h e) :
    d.preorder h = List.range' h (e.children.size + 1) := by
  obtain ⟨p, prev, rest, hn, hc, -⟩ := hh
  rw [preorder_eq hd, children_of_node? hn, flatMap_preorder_roots hd hc, List.range'_succ]

theorem descendants_of_holds (hd : d.Linked) (hh : d.Holds h e) :
    d.descendants h = .ok (List.range' h (e.children.size + 1)) := by
  have hn := hh
  obtain ⟨p, prev, rest, hn, -⟩ := hn
  rw [descendants_eq hd (lt_size_of_node? hn), preorder_of_holds hd hh]

/-! ## Searches -/

/-- A matcher that looks at nothing but the tag and the attributes of an element. -/
def Matcher.Tests (m : Matcher) (q : Element → Bool) : Prop :=
  ∀ ⦃d : Document⦄ ⦃p h : Nat⦄ ⦃prev : Option Nat⦄ ⦃f : Forest⦄, d.Shows p prev h f →
    match f with
    | .element t as cs _ => m d h = q ⟨t, as, cs⟩
    | .text .. => m d h = false
    | _ => True

theorem tests_byTag (tag : String) : (byTag tag).Tests (Element.hasTag tag) := by
  intro d p h prev f hs
  match f, hs with
  | .nil, _ => trivial
  | .element .., ⟨hn, _⟩ => simp [byTag, hn, elementNode, Element.hasTag]
  | .text .., ⟨hn, _⟩ => simp [byTag, hn, textNode]
  | .hidden _, _ => trivial

theorem tests_byAttr (key value : String) :
    (byAttr key value).Tests (Element.hasAttr key value) := by
  intro d p h prev f hs
  match f, hs with
  | .nil, _ => trivial
  | .element .., ⟨hn, _⟩ => simp [byAttr, hn, elementNode, Element.hasAttr]
  | .text .., ⟨hn, _⟩ => simp [byAttr, hn, textNode]
  | .hidden _, _ => trivial

variable {m : Matcher} {q : Element → Bool}

/-- Of the nodes of a row, a matcher picks the elements that pass its test. -/
theorem filter_range' (hm : m.Tests q) (hs : d.Shows p prev k f) :
    (List.range' k f.size).filter (m d) = ((placed k f).filter (q ·.2)).map Prod.fst := by
  induction f generalizing p prev k with
  | nil => rfl
  | element t as cs rest ihc ihr =>
    have hk : m d k = q ⟨t, as, cs⟩ := hm hs
    obtain ⟨-, hc, hr⟩ := hs
    rw [range'_size_element, placed, List.filter_cons, List.filter_append, ihc hc, ihr hr,
      List.filter_cons, List.filter_append, ← List.map_append, hk]
    split <;> rfl
  | text s rest ih =>
    have hk : m d k = false := hm hs
    rw [Forest.size, List.range'_succ, List.filter_cons_of_neg (by simp [hk]), placed, ih hs.2]
  | hidden rest ih => exact ih hs

/-- A search from an element finds what passes the test among it and all it holds. -/
theorem findAll_of_holds (hd : d.Linked) (hm : m.Tests q) (hh : d.Holds h e) :
    d.findAll h m =
      .ok ((((h, e) :: placed (h + 1) e.children).filter (q ·.2)).map Prod.fst) := by
  obtain ⟨p, prev, rest, hn, hc, hr⟩ := hh
  have hq : m d h = q e := @hm _ _ _ _ (.element e.tag e.attrs e.children rest) ⟨hn, hc, hr⟩
  rw [findAll, descendants_of_holds hd ⟨p, prev, rest, hn, hc, hr⟩, List.range'_succ, Except.map,
    List.filter_cons, filter_range' hm hc, List.filter_cons, hq]
  split <;> rfl

/-! ## Texts -/

/-- The texts among the nodes of a row. -/
theorem leaves_range' (hs : d.Shows p prev k f) :
    (((List.range' k f.size).filterMap d.node?).filter (·.kind == .text)).map (·.data) =
      f.leaves := by
  induction f generalizing p prev k with
  | nil => rfl
  | element t as cs rest ihc ihr =>
    obtain ⟨hn, hc, hr⟩ := hs
    rw [range'_size_element, List.filterMap_cons_some hn,
      List.filter_cons_of_neg (by simp [elementNode]),
      List.filterMap_append, List.filter_append, List.map_append, ihc hc, ihr hr, Forest.leaves]
  | text s rest ih =>
    obtain ⟨hn, hr⟩ := hs
    rw [Forest.size, List.range'_succ, List.filterMap_cons_some hn,
      List.filter_cons_of_pos (by simp [textNode]), List.map_cons, ih hr]
    rfl
  | hidden rest ih => exact ih hs

theorem text_of_holds (hd : d.Linked) (hh : d.Holds h e) : d.text h = .ok e.text := by
  obtain ⟨p, prev, rest, hn, hc, hr⟩ := hh
  rw [text, descendants_of_holds hd ⟨p, prev, rest, hn, hc, hr⟩, List.range'_succ, Except.map]
  simp only
  rw [List.filterMap_cons_some hn, List.filter_cons_of_neg (by simp [elementNode]),
    leaves_range' hc, Element.text]

end InstanceCatalog.Document
