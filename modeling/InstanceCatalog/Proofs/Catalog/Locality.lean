import InstanceCatalog.Proofs.Catalog.Invariance
import InstanceCatalog.Proofs.Document.Edit

/-! # What an edit cannot change

The section is located by what comes before it on the page, so nothing after the end of its table
block has a say in the catalog.  Inside the block the first row is skipped, so what it holds has
none either, as long as there are no rows in it. -/

namespace InstanceCatalog

open Markup

namespace Document

variable {f contents : Forest} {row : Element} {q : Element → Bool} {r k : Nat}

/-- New contents for the first element that passes a test change nothing else of what passes it, if
neither the old nor the new contents have an element that does. -/
theorem filter_elements_refill (hq : ∀ e cs, q { e with children := cs } = q e)
    (hfirst : (placed k f).find? (q ·.2) = some (r, row))
    (hold : row.children.elements.filter q = []) (hnew : contents.elements.filter q = []) :
    ∃ more, f.elements.filter q = row :: more ∧
      (f.refill r k contents).elements.filter q = { row with children := contents } :: more := by
  induction f generalizing k with
  | nil => cases hfirst
  | element t as cs rest ihc ihr =>
    rw [placed, List.find?_cons] at hfirst
    cases hhere : q ⟨t, as, cs⟩ with
    | true =>
      rw [hhere] at hfirst
      obtain ⟨rfl, rfl⟩ := Prod.mk.inj (Option.some.inj hfirst)
      have hthere : q ⟨t, as, contents⟩ = true := (hq ⟨t, as, cs⟩ contents).trans hhere
      refine ⟨rest.elements.filter q, ?_, ?_⟩
      · simp only [Forest.elements, List.filter_cons, hhere, List.filter_append, hold]
        rfl
      · rw [Forest.refill, if_pos rfl]
        simp only [Forest.elements, List.filter_cons, hthere, List.filter_append, hnew]
        rfl
    | false =>
      have hthere (cs' : Forest) : q ⟨t, as, cs'⟩ = false := (hq ⟨t, as, cs⟩ cs').trans hhere
      rw [hhere] at hfirst
      simp only [List.find?_append] at hfirst
      cases hin : (placed (k + 1) cs).find? (q ·.2) with
      | some x =>
        rw [hin] at hfirst
        cases hfirst
        have hrange := mem_range_of_mem_placed (List.mem_of_find?_eq_some hin)
        obtain ⟨more, hf, hg⟩ := ihc hin
        refine ⟨more ++ rest.elements.filter q, ?_, ?_⟩
        · simp only [Forest.elements, List.filter_cons, hhere, List.filter_append, hf]
          rfl
        · rw [Forest.refill, if_neg (by omega), if_pos hrange.2]
          simp only [Forest.elements, List.filter_cons, hthere, List.filter_append, hg]
          rfl
      | none =>
        rw [hin] at hfirst
        have hrange := mem_range_of_mem_placed (List.mem_of_find?_eq_some hfirst)
        have hcs : cs.elements.filter q = [] := by
          rw [← map_snd_placed (k + 1), List.filter_map, List.map_eq_nil_iff,
            List.filter_eq_nil_iff]
          exact List.find?_eq_none.1 hin
        obtain ⟨more, hf, hg⟩ := ihr hfirst
        refine ⟨more, ?_, ?_⟩
        · simp only [Forest.elements, List.filter_cons, hhere, List.filter_append, hcs, hf]
          rfl
        · rw [Forest.refill, if_neg (by omega), if_neg (by omega)]
          simp only [Forest.elements, List.filter_cons, hhere, List.filter_append, hcs, hg]
          rfl
  | text s rest ih => exact ih hfirst
  | hidden rest ih => exact ih hfirst

/-- An element on its own, as a row. -/
theorem elements_refill_singleton (e : Element) (w : Nat) :
    (Forest.refill r w (.element e.tag e.attrs e.children .nil) contents).elements =
      (e.refill r w contents).subtree := by
  rw [Forest.refill, Element.subtree, Element.refill]
  split
  · simp [Forest.elements]
  split
  · simp [Forest.elements]
  · have hsame : e.children.refill r (w + 1) contents = e.children := refill_eq_self (by omega)
    simp [Forest.elements, Forest.refill, hsame]

/-- The first row of a table block may hold anything but rows. -/
theorem catalog_refill {e : Element} {w : Nat}
    (hfirst : ((w, e) :: placed (w + 1) e.children).find? (Element.hasTag "tr" ·.2) = some (r, row))
    (hold : row.children.elements.filter (Element.hasTag "tr") = [])
    (hnew : contents.elements.filter (Element.hasTag "tr") = []) :
    (e.refill r w contents).catalog = e.catalog := by
  have hplaced : placed w (.element e.tag e.attrs e.children .nil) =
      (w, e) :: placed (w + 1) e.children := by simp [placed]
  have helements : Forest.elements (.element e.tag e.attrs e.children .nil) = e.subtree := by
    simp [Forest.elements, Element.subtree]
  obtain ⟨more, hf, hg⟩ := filter_elements_refill (q := Element.hasTag "tr") (fun _ _ ↦ rfl)
    (hplaced ▸ hfirst) hold hnew
  rw [helements] at hf
  rw [elements_refill_singleton] at hg
  rw [Element.catalog, Element.catalog, Element.tagged, Element.tagged, hf, hg]
  rfl

end Document

namespace Catalog

open Document

variable {f g contents : Forest} {anchor : String} {w r : Nat} {rs : List Nat}

/-- The section that one document has at `w` is at `w` in another, and what is left to do from there
comes to the same in both: the same records, or the same failure. -/
structure SameSection (f g : Forest) (anchor : String) (w : Nat) : Prop where
  located : Section.locate (Document.ofForest g) anchor = .ok w
  rest : (rows (Document.ofForest g) w >>= fun rs ↦
      (rs.drop 1).mapM (Record.ofRow (Document.ofForest g))) =
    (rows (Document.ofForest f) w >>= fun rs ↦
      (rs.drop 1).mapM (Record.ofRow (Document.ofForest f)))
  result : anchor = Section.anchorId →
    (ofDocument (Document.ofForest g)).result = (ofDocument (Document.ofForest f)).result

theorem sameSection_of_catalog {e e' : Element}
    (hw : Section.locate (Document.ofForest f) anchor = .ok w)
    (hw' : Section.locate (Document.ofForest g) anchor = .ok w)
    (hf : (w, e) ∈ placed 1 f) (hg : (w, e') ∈ placed 1 g) (h : e'.catalog = e.catalog) :
    SameSection f g anchor w := by
  have hrest := calc
    _ = e'.catalog :=
      catalog_of_holds (linked_ofForest g) (holds_of_mem_placed (shows_ofForest g) hg)
    _ = e.catalog := h
    _ = _ :=
      (catalog_of_holds (linked_ofForest f) (holds_of_mem_placed (shows_ofForest f) hf)).symm
  refine ⟨hw', hrest, ?_⟩
  rintro rfl
  rw [result_ofDocument, result_ofDocument, bind_assoc, bind_assoc, hw, hw']
  exact hrest

/-! ## After the table block -/

/-- Whatever is added, removed or put in place of something after the end of the table block, with
whatever ids and classes, the section and the outcome stay the same. -/
theorem sameSection_of_sharesThrough (hw : Section.locate (Document.ofForest f) anchor = .ok w)
    (h : Forest.SharesThrough w 1 f g) : SameSection f g anchor w := by
  obtain ⟨e, hf, hg⟩ := exists_placed_of_sharesThrough h
  exact sameSection_of_catalog hw (Section.locate_of_agreeTo hw (agreeTo_of_sharesThrough h)) hf hg
    rfl

/-- A page that ends after its table. -/
def ended : Forest :=
  .element "body" [] (titleBlock (.hidden (tableBlock fewRows .nil))) .nil

def moreBlocks : Forest := titleBlock (tableBlock .nil .nil)

/-- The same page with another title and another table, both after the table and after the body. -/
def continued : Forest :=
  .element "body" [] (titleBlock (.hidden (tableBlock fewRows moreBlocks))) moreBlocks

theorem locate_ended : Section.locate (Document.ofForest ended) = .ok 3 :=
  ok_of_toOption (by decide +kernel)

theorem sameSection_continued :
    Section.locate (Document.ofForest ended) = .ok 3 ∧ Forest.SharesThrough 3 1 ended continued ∧
      SameSection ended continued Section.anchorId 3 := by
  have htable : Forest.SharesThrough 3 3 (tableBlock fewRows .nil)
      (tableBlock fewRows moreBlocks) := .here ..
  have hshares : Forest.SharesThrough 3 1 ended continued :=
    .within (.afterElement (.afterHidden htable) ..) ..
  exact ⟨locate_ended, hshares, sameSection_of_sharesThrough locate_ended hshares⟩

/-! ## The first row -/

/-- The first node that a search below an element finds is an element that passes the test. -/
theorem exists_first_of_findAll {d : Document} {e : Element} {m : Matcher} {q : Element → Bool}
    (hd : d.Linked) (hm : m.Tests q) (hh : d.Holds w e) (hr : d.findAll w m = .ok (r :: rs)) :
    ∃ row, ((w, e) :: placed (w + 1) e.children).find? (q ·.2) = some (r, row) ∧
      d.Holds r row ∧ q row = true ∧ w ≤ r := by
  rw [findAll_of_holds hd hm hh] at hr
  obtain ⟨⟨r, row⟩, more, hfilter, rfl, -⟩ := List.map_eq_cons_iff.1 (Except.ok.inj hr)
  have hfirst : ((w, e) :: placed (w + 1) e.children).find? (q ·.2) = some (r, row) := by
    rw [← List.head?_filter, hfilter]
    rfl
  have hq := List.find?_some hfirst
  refine ⟨row, hfirst, ?_, hq, ?_⟩
  · rcases List.mem_cons.1 (List.mem_of_find?_eq_some hfirst) with hx | hx
    · cases hx
      exact hh
    · obtain ⟨p, prev, rest, -, hc, -⟩ := hh
      exact holds_of_mem_placed hc hx
  · rcases List.mem_cons.1 (List.mem_of_find?_eq_some hfirst) with hx | hx
    · cases hx
      exact Nat.le_refl w
    · have := mem_range_of_mem_placed hx
      omega

/-- Below a node that a search from it finds alone, there is nothing to find. -/
theorem filter_elements_of_findAll {d : Document} {row : Element} {m : Matcher}
    {q : Element → Bool} (hd : d.Linked) (hm : m.Tests q) (hh : d.Holds r row)
    (hown : d.findAll r m = .ok [r]) (hq : q row = true) :
    row.children.elements.filter q = [] := by
  rw [findAll_of_holds hd hm hh, List.filter_cons_of_pos (p := fun x ↦ q x.2) (a := (r, row)) hq,
    List.map_cons] at hown
  have hnone := List.map_eq_nil_iff.1 (List.cons.inj (Except.ok.inj hown)).2
  rw [← map_snd_placed (r + 1), List.filter_map, List.map_eq_nil_iff]
  exact hnone

/-- The first row is not looked into: if there are no rows in it, it may hold anything else without
rows instead, with whatever ids and classes. -/
theorem sameSection_of_refill (hw : Section.locate (Document.ofForest f) anchor = .ok w)
    (hr : (Document.ofForest f).findAll w (byTag "tr") = .ok (r :: rs))
    (hown : (Document.ofForest f).findAll r (byTag "tr") = .ok [r])
    (hnew : ∀ e ∈ contents.elements, e.hasTag "tr" = false) :
    SameSection f (f.refill r 1 contents) anchor w := by
  have hd := linked_ofForest f
  have hm := tests_byTag "tr"
  obtain ⟨i, e, -, he⟩ := Section.indexed_of_locate hw
  have hplaced := List.mem_of_getElem? he
  have hh := holds_of_mem_placed (shows_ofForest f) hplaced
  obtain ⟨row, hfirst, hrow, hq, hle⟩ := exists_first_of_findAll hd hm hh hr
  have hold := filter_elements_of_findAll hd hm hrow hown hq
  have hnone : contents.elements.filter (Element.hasTag "tr") = [] := by
    rw [List.filter_eq_nil_iff]
    intro e he
    rw [hnew e he]
    exact Bool.false_ne_true
  have hagree : (Document.ofForest f).AgreeTo (Document.ofForest (f.refill r 1 contents)) r := by
    obtain ⟨p, prev, rest, hn, -⟩ := hrow
    exact agreeTo_refill (lt_size_of_node? hn)
  exact sameSection_of_catalog hw (Section.locate_of_agreeTo hw (hagree.mono hle)) hplaced
    (mem_placed_refill hplaced hle) (catalog_refill hfirst hold hnone)

/-- Cells that carry the id of the anchor and the classes of both blocks. -/
def busyCells : Forest :=
  .element "th" [("id", "instance-type-matrix"), ("class", "section title-wrapper")]
    (.text "Instance Type" .nil)
    (.element "td" [("class", "section table-wrapper")] (.text "vCPU" .nil) .nil)

theorem sameSection_busyCells :
    Section.locate (Document.ofForest ended) = .ok 3 ∧
      (Document.ofForest ended).findAll 3 (byTag "tr") = .ok [4, 5, 30] ∧
      (Document.ofForest ended).findAll 4 (byTag "tr") = .ok [4] ∧
      (∀ e ∈ busyCells.elements, e.hasTag "tr" = false) ∧
      SameSection ended (ended.refill 4 1 busyCells) Section.anchorId 3 := by
  have hrows : (Document.ofForest ended).findAll 3 (byTag "tr") = .ok [4, 5, 30] :=
    ok_of_toOption (by decide +kernel)
  have hown : (Document.ofForest ended).findAll 4 (byTag "tr") = .ok [4] :=
    ok_of_toOption (by decide +kernel)
  have hcells : ∀ e ∈ busyCells.elements, e.hasTag "tr" = false := by
    have hall : busyCells.elements.all (!·.hasTag "tr") = true := by decide +kernel
    intro e he
    simpa using List.all_eq_true.1 hall e he
  exact ⟨locate_ended, hrows, hown, hcells,
    sameSection_of_refill locate_ended hrows hown hcells⟩

end Catalog

end InstanceCatalog
