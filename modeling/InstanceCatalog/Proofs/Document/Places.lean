import InstanceCatalog.Catalog.Section
import InstanceCatalog.Proofs.Document.Subtree

/-! # Places in a numbered document

The way up from a node and the way along its neighbours, for the document of a forest: the section
search sees the same elements as a search through the forest. -/

namespace InstanceCatalog

open Markup

/-- The row that starts with the element of a place. -/
def Markup.Place.forest (x : Place) : Forest :=
  .element x.element.tag x.element.attrs x.element.children x.after

namespace Document

variable {d : Document} {f : Forest} {e : Element} {p k h : Nat} {prev : Option Nat}
variable {m : Matcher} {q : Element → Bool} {wanted : List String} {places : List (Nat × Place)}
variable {i : Nat} {all : List (Nat × Element)}

/-- The element of a place stands at a handle, and with all elements up to the end of its row it is
found in a list from its number on. -/
def Stands (d : Document) (all : List (Nat × Element)) (h : Nat) (x : Nat × Place) : Prop :=
  (∃ p prev, d.Shows p prev h x.2.forest) ∧ placed h x.2.forest <+: all.drop x.1

/-- What a list has from some place on, it has from a later place on. -/
theorem prefix_drop_add {α : Type} {xs ys all : List α} {i : Nat} (h : xs ++ ys <+: all.drop i) :
    ys <+: all.drop (i + xs.length) := by
  obtain ⟨zs, hzs⟩ := h
  exact ⟨zs, by rw [← List.drop_drop, ← hzs, List.append_assoc, List.drop_left]⟩

/-- Where the elements of a row are found, the first and those that it holds and those after it
are. -/
theorem prefix_placed_element {t : String} {as : List (String × String)} {cs rest : Forest}
    (h : placed k (.element t as cs rest) <+: all.drop i) :
    all[i]? = some (k, ⟨t, as, cs⟩) ∧ placed (k + 1) cs <+: all.drop (i + 1) ∧
      placed (k + 1 + cs.size) rest <+: all.drop (i + 1 + cs.elements.length) := by
  have hlength : (placed (k + 1) cs).length = cs.elements.length := by
    rw [← map_snd_placed (k + 1) cs, List.length_map]
  rw [placed] at h
  have htail : placed (k + 1) cs ++ placed (k + 1 + cs.size) rest <+: all.drop (i + 1) :=
    prefix_drop_add (List.singleton_append ▸ h)
  refine ⟨?_, (List.prefix_append _ _).trans htail, hlength ▸ prefix_drop_add htail⟩
  obtain ⟨ys, hys⟩ := h
  rw [← List.head?_drop, ← hys]
  rfl

/-! ## The way up -/

theorem lineage_of_shows (hd : d.Linked) {n : Node} (hn : d.node? k = some n)
    (hp : n.parent = some p) : d.lineage k = k :: d.lineage p :=
  lineage_of_parent? hd ((parent?_of_node? hn).trans hp)

theorem find?_eq_none_of_trail (hm : m.Tests q) (hs : d.Shows p prev k f)
    (ht : f.trailFrom q i = none) : (List.range' k f.size).find? (m d) = none := by
  induction f generalizing p prev k i with
  | nil => rfl
  | element t as cs rest ihc ihr =>
    have hk : m d k = q ⟨t, as, cs⟩ := hm hs
    obtain ⟨-, hc, hr⟩ := hs
    simp only [Forest.trailFrom] at ht
    split at ht
    · cases ht
    · rename_i hq
      split at ht
      · cases ht
      · rename_i htc
        rw [range'_size_element, List.find?_cons_of_neg (by simpa [hk] using hq),
          List.find?_append, ihc hc htc, ihr hr ht]
        rfl
  | text s rest ih =>
    have hk : m d k = false := hm hs
    rw [Forest.size, List.range'_succ, List.find?_cons_of_neg (by simp [hk]), ih hs.2 ht]
  | hidden rest ih => exact ih hs ht

/-- The first node that a matcher picks, and its lineage: the places of the trail, then the lineage
of what the row stands below. -/
theorem lineage_of_trail (hd : d.Linked) (hm : m.Tests q) (hs : d.Shows p prev k f)
    (hall : placed k f <+: all.drop i) (ht : f.trailFrom q i = some places) :
    ∃ a hs, (List.range' k f.size).find? (m d) = some a ∧ d.lineage a = hs ++ d.lineage p ∧
      List.Forall₂ (d.Stands all) hs places := by
  induction f generalizing p prev k i places with
  | nil => cases ht
  | element t as cs rest ihc ihr =>
    have hk : m d k = q ⟨t, as, cs⟩ := hm hs
    have hstands : d.Stands all k (i, ⟨⟨t, as, cs⟩, rest⟩) := ⟨⟨p, prev, hs⟩, hall⟩
    obtain ⟨hn, hc, hr⟩ := hs
    obtain ⟨-, hallc, hallr⟩ := prefix_placed_element hall
    have hlineage := lineage_of_shows hd hn rfl
    rw [range'_size_element]
    simp only [Forest.trailFrom] at ht
    split at ht
    · rename_i hq
      cases ht
      exact ⟨k, [k], List.find?_cons_of_pos (hk.trans hq), hlineage, .cons hstands .nil⟩
    · rename_i hq
      rw [List.find?_cons_of_neg (by simpa [hk] using hq), List.find?_append]
      split at ht
      · rename_i inner htc
        cases ht
        obtain ⟨a, hs, ha, hup, hrel⟩ := ihc hc hallc htc
        refine ⟨a, hs ++ [k], by rw [ha]; rfl, ?_, ?_⟩
        · rw [hup, hlineage, List.append_assoc]; rfl
        · exact List.rel_append hrel (.cons hstands .nil)
      · rename_i htc
        rw [find?_eq_none_of_trail hm hc htc]
        exact ihr hr hallr ht
  | text s rest ih =>
    have hk : m d k = false := hm hs
    rw [Forest.size, List.range'_succ, List.find?_cons_of_neg (by simp [hk])]
    exact ih hs.2 hall ht
  | hidden rest ih => exact ih hs hall ht

/-! ## The way along -/

theorem siblingsWithin_roots (hs : d.Shows p prev k f) {fuel : Nat} (hf : f.size ≤ fuel) :
    d.siblingsWithin fuel (f.roots k).head? = f.roots k := by
  induction f generalizing prev k fuel with
  | nil => cases fuel <;> rfl
  | element t as cs rest _ ih =>
    obtain ⟨hn, -, hr⟩ := hs
    simp only [Forest.size] at hf
    obtain ⟨fuel, rfl⟩ : ∃ m, fuel = m + 1 := ⟨fuel - 1, by omega⟩
    have hnext : d.next? k = (rest.roots (k + 1 + cs.size)).head? := by simp [next?, hn]
    rw [Forest.roots, List.head?_cons, siblingsWithin, hnext, ih hr (by omega)]
  | text s rest ih =>
    obtain ⟨hn, hr⟩ := hs
    simp only [Forest.size] at hf
    obtain ⟨fuel, rfl⟩ : ∃ m, fuel = m + 1 := ⟨fuel - 1, by omega⟩
    have hnext : d.next? k = (rest.roots (k + 1)).head? := by simp [next?, hn]
    rw [Forest.roots, List.head?_cons, siblingsWithin, hnext, ih hr (by omega)]
  | hidden rest ih => exact ih hs hf

/-- The nodes after an element are those of the row after it. -/
theorem followingSiblings_of_stands {x : Place} (hx : d.Stands all k (i, x)) : ∃ p prev j,
    d.followingSiblings k = .ok (x.after.roots j) ∧ d.Shows p prev j x.after ∧
      placed j x.after <+: all.drop (i + 1 + x.element.children.elements.length) := by
  obtain ⟨⟨p, prev, hs⟩, hall⟩ := hx
  obtain ⟨hn, -, hr⟩ : d.Shows p prev k x.forest := hs
  have hfit : x.after.size ≤ d.size := by
    have := hr.size_le
    omega
  refine ⟨p, some k, _, ?_, hr, (prefix_placed_element hall).2.2⟩
  rw [followingSiblings, get_eq_ok hn]
  exact congrArg Except.ok (siblingsWithin_roots hr hfit)

/-! ## Classes -/

theorem hasClasses_of_holds (hh : d.Holds h e) :
    d.hasClasses wanted h = .ok (e.hasClasses wanted) := by
  obtain ⟨p, prev, rest, hn, -⟩ := hh
  simp [hasClasses, classWords, attr, get_eq_ok hn, Except.map, elementNode, Element.hasClasses,
    Element.classWords]

/-- A node without attributes has no classes. -/
theorem hasClasses_of_attrs_eq_nil {n : Node} (hn : d.node? h = some n) (ha : n.attrs = [])
    (hw : wanted ≠ []) : d.hasClasses wanted h = .ok false := by
  obtain ⟨w, ws, rfl⟩ := List.exists_cons_of_ne_nil hw
  simp [hasClasses, classWords, attr, get_eq_ok hn, Except.map, ha]

end Document

namespace Section

open Document

variable {d : Document} {f : Forest} {e : Element} {p k h i : Nat} {prev : Option Nat}
variable {wanted : List String} {places : List (Nat × Place)} {hs : List Nat}
variable {all : List (Nat × Element)}

/-- The first place with some classes decides, or else the nodes after the places. -/
theorem firstWith_places (wanted : List String) (hrel : List.Forall₂ (d.Stands all) hs places)
    (more : List Nat) :
    match places.find? (·.2.element.hasClasses wanted) with
    | some x => ∃ h, firstWith d wanted (hs ++ more) = .ok (some h) ∧ d.Stands all h x
    | none => firstWith d wanted (hs ++ more) = firstWith d wanted more := by
  induction hrel with
  | nil => rfl
  | @cons h x hs places hx _ ih =>
    have hh : d.Holds h x.2.element := by
      obtain ⟨⟨p, prev, hs⟩, -⟩ := hx
      exact ⟨p, prev, x.2.after, hs⟩
    rw [List.cons_append, firstWith, hasClasses_of_holds hh, List.find?_cons]
    cases x.2.element.hasClasses wanted with
    | true => exact ⟨h, rfl, hx⟩
    | false => exact ih

/-- The first element of a row with some classes. -/
theorem firstWith_roots (hw : wanted ≠ []) (hs : d.Shows p prev k f)
    (hall : placed k f <+: all.drop i) :
    match (f.rowFrom i).find? (·.2.hasClasses wanted) with
    | some (j, e) => ∃ h, firstWith d wanted (f.roots k) = .ok (some h) ∧ all[j]? = some (h, e)
    | none => firstWith d wanted (f.roots k) = .ok none := by
  induction f generalizing prev k i with
  | nil => rfl
  | element t as cs rest _ ih =>
    have hh : d.Holds k ⟨t, as, cs⟩ := ⟨p, prev, rest, hs⟩
    obtain ⟨hk, -, hallr⟩ := prefix_placed_element hall
    rw [Forest.roots, Forest.rowFrom, firstWith, hasClasses_of_holds hh, List.find?_cons]
    cases Element.hasClasses wanted ⟨t, as, cs⟩ with
    | true => exact ⟨k, rfl, hk⟩
    | false => exact ih hs.2.2 hallr
  | text s rest ih =>
    rw [Forest.roots, Forest.rowFrom, firstWith, hasClasses_of_attrs_eq_nil hs.1 rfl hw]
    exact ih hs.2 hall
  | hidden rest ih => exact ih hs hall

/-- The table block of the section with an anchor, found in the forest. -/
def ofForest (anchor : String) (f : Forest) : Except Failure Element :=
  match f.trail (Element.hasAttr "id" anchor) with
  | none => .error (.declared (.anchorNotFound anchor))
  | some places =>
    match places.find? (·.element.hasClasses headerClasses) with
    | none => .error (.declared (.headerNotFound anchor headerClasses))
    | some header =>
      match header.after.row.find? (·.hasClasses tableClasses) with
      | none => .error (.declared (.tableNotFound tableClasses))
      | some table => .ok table

/-- The table block, with the number of elements before it. -/
def indexed (anchor : String) (f : Forest) : Except Failure (Nat × Element) :=
  match f.trailFrom (Element.hasAttr "id" anchor) 0 with
  | none => .error (.declared (.anchorNotFound anchor))
  | some places =>
    match places.find? (·.2.element.hasClasses headerClasses) with
    | none => .error (.declared (.headerNotFound anchor headerClasses))
    | some (i, header) =>
      let next := i + 1 + header.element.children.elements.length
      match (header.after.rowFrom next).find? (·.2.hasClasses tableClasses) with
      | none => .error (.declared (.tableNotFound tableClasses))
      | some table => .ok table

theorem map_snd_indexed (anchor : String) (f : Forest) :
    (indexed anchor f).map Prod.snd = ofForest anchor f := by
  rw [indexed, ofForest, ← Forest.map_snd_trailFrom _ 0]
  cases f.trailFrom (Element.hasAttr "id" anchor) 0 with
  | none => rfl
  | some places =>
    simp only [Option.map_some, List.find?_map, Function.comp_def]
    cases places.find? (·.2.element.hasClasses headerClasses) with
    | none => rfl
    | some x =>
      obtain ⟨i, header⟩ := x
      simp only [Option.map_some,
        ← Forest.map_snd_rowFrom (i + 1 + header.element.children.elements.length), List.find?_map,
        Function.comp_def]
      cases (header.after.rowFrom (i + 1 + header.element.children.elements.length)).find?
          (·.2.hasClasses tableClasses) <;> rfl

theorem findFirst_ofForest (f : Forest) (anchor : String) :
    (Document.ofForest f).findFirst root (byAttr "id" anchor) =
      .ok ((List.range' 1 f.size).find? (byAttr "id" anchor (Document.ofForest f))) := by
  have hd := linked_ofForest f
  have hroot := node?_root_ofForest f
  have hpre : (Document.ofForest f).preorder root = root :: List.range' 1 f.size := by
    rw [preorder_eq hd, children_of_node? hroot, flatMap_preorder_roots hd (shows_ofForest f)]
  have hskip : byAttr "id" anchor (Document.ofForest f) root = false := by
    simp [byAttr, hroot, documentNode]
  rw [findFirst, descendants_eq hd (lt_size_of_node? hroot), hpre, Except.map,
    List.find?_cons_of_neg (by simp [hskip])]

/-- The document node is no title block. -/
theorem firstWith_root (f : Forest) :
    firstWith (Document.ofForest f) headerClasses ((Document.ofForest f).lineage root) =
      .ok none := by
  have hroot := node?_root_ofForest f
  have hclasses : (Document.ofForest f).hasClasses headerClasses root = .ok false :=
    hasClasses_of_attrs_eq_nil hroot rfl (by simp [headerClasses])
  rw [lineage_of_orphan ((parent?_of_node? hroot).trans rfl), firstWith, hclasses]
  rfl

/-- Locating the section in a document comes to the same as finding it in the forest, and the handle
is that of the element with the same number. -/
theorem locate_indexed (anchor : String) (f : Forest) :
    match indexed anchor f with
    | .ok (i, e) => ∃ h, locate (Document.ofForest f) anchor = .ok h ∧
        (placed 1 f)[i]? = some (h, e)
    | .error x => locate (Document.ofForest f) anchor = .error x := by
  have hd := linked_ofForest f
  have hs := shows_ofForest f
  have hm := tests_byAttr "id" anchor
  rw [indexed, locate, findFirst_ofForest]
  cases ht : f.trailFrom (Element.hasAttr "id" anchor) 0 with
  | none =>
    rw [find?_eq_none_of_trail hm hs ht]
    rfl
  | some places =>
    obtain ⟨a, hs', ha, hup, hrel⟩ := lineage_of_trail hd hm hs (List.prefix_refl _) ht
    have hheader := firstWith_places headerClasses hrel
      ((Document.ofForest f).lineage root)
    rw [ha]
    simp only [bind, Except.bind]
    rw [hup]
    revert hheader
    cases places.find? (·.2.element.hasClasses headerClasses) with
    | none =>
      intro hheader
      rw [hheader, firstWith_root]
      rfl
    | some x =>
      rintro ⟨h, hfirst, hx⟩
      obtain ⟨p, prev, j, hnext, hafter, hall⟩ := followingSiblings_of_stands hx
      have htable := firstWith_roots (show tableClasses ≠ [] by simp [tableClasses]) hafter hall
      rw [hfirst]
      simp only
      rw [hnext]
      revert htable
      cases (x.2.after.rowFrom (x.1 + 1 + x.2.element.children.elements.length)).find?
          (·.2.hasClasses tableClasses) with
      | none =>
        intro htable
        simp only
        rw [htable]
        rfl
      | some e =>
        rintro ⟨w, hw, he⟩
        refine ⟨w, ?_, he⟩
        simp only
        rw [hw]
        rfl

/-- The section of a document is an element of its forest. -/
theorem indexed_of_locate {anchor : String} {f : Forest} {w : Nat}
    (h : locate (Document.ofForest f) anchor = .ok w) :
    ∃ i e, indexed anchor f = .ok (i, e) ∧ (placed 1 f)[i]? = some (w, e) := by
  have hindexed := locate_indexed anchor f
  revert hindexed
  cases indexed anchor f with
  | error x => exact fun hx ↦ nomatch h.symm.trans hx
  | ok x =>
    rintro ⟨v, hv, hx⟩
    rw [hv] at h; cases h
    exact ⟨x.1, x.2, rfl, hx⟩

theorem locate_ofForest (anchor : String) (f : Forest) :
    match ofForest anchor f with
    | .ok e => ∃ h, locate (Document.ofForest f) anchor = .ok h ∧ (Document.ofForest f).Holds h e
    | .error x => locate (Document.ofForest f) anchor = .error x := by
  have h := locate_indexed anchor f
  rw [← map_snd_indexed]
  revert h
  cases indexed anchor f with
  | error x => exact id
  | ok x =>
    rintro ⟨w, hw, hx⟩
    exact ⟨w, hw, holds_of_mem_placed (shows_ofForest f) (List.mem_of_getElem? hx)⟩

end Section

end InstanceCatalog
