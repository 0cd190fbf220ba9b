import InstanceCatalog.Proofs.Catalog.OfForest
import InstanceCatalog.Proofs.Markup.Recast

/-! # What the catalog does not depend on

A forest written anew has the same section, written anew too, and the same catalog; the anchor alone
must not be confused with other values.  Two pages with the same essence thus have the same catalog
and the same section.  Two pages with the same table block have the same catalog, whatever else is
on them. -/

namespace InstanceCatalog

open Markup Relation

/-! ## Values and texts written anew -/

section Recast

variable {r : Recasting} {anchor : String}

namespace Section

theorem indexed_recast (h : r.Keeps anchor) (f : Forest) :
    indexed anchor (f.recast r) = (indexed anchor f).map (Prod.map id (Element.recast r)) := by
  have hclasses (wanted : List String) :
      ((fun x : Nat × Element ↦ x.2.hasClasses wanted) ∘ Prod.map id (Element.recast r)) =
        fun x ↦ x.2.hasClasses wanted := funext fun x ↦ Element.hasClasses_recast wanted x.2
  have hplaces (wanted : List String) :
      ((fun x : Nat × Place ↦ x.2.element.hasClasses wanted) ∘ Prod.map id (Place.recast r)) =
        fun x ↦ x.2.element.hasClasses wanted :=
    funext fun x ↦ Element.hasClasses_recast wanted x.2.element
  rw [indexed, indexed, Forest.trailFrom_recast (Element.hasAttr_recast h "id")]
  cases f.trailFrom (Element.hasAttr "id" anchor) 0 with
  | none => rfl
  | some places =>
    simp only [Option.map_some, List.find?_map, hplaces]
    cases places.find? (·.2.element.hasClasses headerClasses) with
    | none => rfl
    | some x =>
      obtain ⟨i, header⟩ := x
      have hnext : (header.recast r).element.children.elements.length =
          header.element.children.elements.length := Forest.length_elements_recast _
      have hrow (j : Nat) : (header.recast r).after.rowFrom j =
          (header.after.rowFrom j).map (Prod.map id (Element.recast r)) :=
        Forest.rowFrom_recast ..
      simp only [Option.map_some, Prod.map, id, hnext, hrow, List.find?_map, hclasses]
      cases (header.after.rowFrom (i + 1 + header.element.children.elements.length)).find?
          (·.2.hasClasses tableClasses) <;> rfl

theorem ofForest_recast (h : r.Keeps anchor) (f : Forest) :
    ofForest anchor (f.recast r) = (ofForest anchor f).map (Element.recast r) := by
  rw [← map_snd_indexed, indexed_recast h, ← map_snd_indexed]
  cases indexed anchor f <;> rfl

end Section

namespace Markup

theorem Element.record_recast (row : Element) : (row.recast r).record = row.record := by
  have htexts : (row.recast r).texts = row.texts := by
    rw [texts, texts, tagged_recast, List.map_map]
    exact List.map_congr_left fun e _ ↦ text_recast e
  rw [record, record, htexts]

theorem Element.catalog_recast (table : Element) : (table.recast r).catalog = table.catalog := by
  have hmapM (rows : List Element) :
      (rows.map (Element.recast r)).mapM Element.record = rows.mapM Element.record := by
    rw [List.mapM_map]
    exact congrArg (rows.mapM ·) (funext record_recast)
  rw [catalog, catalog, tagged_recast, List.length_map, ← List.map_drop, hmapM]

theorem Forest.catalog_recast (h : r.Keeps Section.anchorId) (f : Forest) :
    (f.recast r).catalog = f.catalog := by
  rw [catalog, catalog, Section.ofForest_recast h]
  cases Section.ofForest Section.anchorId f with
  | error x => rfl
  | ok table => exact Element.catalog_recast table

end Markup

end Recast

/-! ## Layout -/

namespace Section

/-- The section of a forest's essence is that of the forest, without its layout. -/
theorem indexed_essence (anchor : String) (f : Forest) :
    indexed anchor f.essence = (indexed anchor f).map (Prod.map id Element.essence) := by
  rw [Forest.essence_eq_recast, indexed_recast (fun _ ↦ Iff.rfl),
    ← funext Element.essence_eq_recast]

end Section

theorem Markup.Forest.catalog_essence (f : Forest) : f.essence.catalog = f.catalog := by
  rw [essence_eq_recast, catalog_recast (fun _ ↦ Iff.rfl)]

/-- The handles of one element in the documents of two forests that differ in their layout: layout
has no elements, so the element has the same number in both. -/
def Document.Corresponds (f g : Forest) (w w' : Nat) : Prop :=
  ∃ (i : Nat) (e e' : Element), (placed 1 f)[i]? = some (w, e) ∧
    (placed 1 g)[i]? = some (w', e') ∧ e.essence = e'.essence

namespace Section

/-- Documents with the same essence have the same section. -/
theorem locate_of_essence_eq {f g : Forest} {anchor : String} {w : Nat}
    (h : f.essence = g.essence) (hw : locate (Document.ofForest f) anchor = .ok w) :
    ∃ w', locate (Document.ofForest g) anchor = .ok w' ∧ Document.Corresponds f g w w' := by
  obtain ⟨i, e, hf, he⟩ := indexed_of_locate hw
  have hg := locate_indexed anchor g
  have hboth := (indexed_essence anchor f).symm.trans (h ▸ indexed_essence anchor g)
  rw [hf] at hboth
  cases hig : indexed anchor g with
  | error x => rw [hig] at hboth; cases hboth
  | ok x =>
    obtain ⟨j, e'⟩ := x
    rw [hig] at hg hboth
    obtain ⟨w', hw', he'⟩ := hg
    obtain ⟨rfl, hessence⟩ := Prod.mk.inj (Except.ok.inj hboth)
    exact ⟨w', hw', i, e, e', he, he', hessence⟩

end Section

namespace Catalog

/-- Comments and blank texts may come and go all over a page: its catalog, or the failure to have
one, stays the same, and the section is the same element. -/
theorem result_eq_of_layout {f g : Forest} (h : EqvGen Forest.Inserts f g) :
    (ofDocument (Document.ofForest f)).result = (ofDocument (Document.ofForest g)).result ∧
      ∀ anchor w, Section.locate (Document.ofForest f) anchor = .ok w →
        ∃ w', Section.locate (Document.ofForest g) anchor = .ok w' ∧
          Document.Corresponds f g w w' := by
  have hessence := Forest.essence_eq_of_eqvGen h
  refine ⟨?_, fun anchor w hw ↦ Section.locate_of_essence_eq hessence hw⟩
  rw [result_ofDocument_ofForest, result_ofDocument_ofForest, ← Forest.catalog_essence f, hessence,
    Forest.catalog_essence]

def titleBlock (rest : Forest) : Forest :=
  .element "h2" [("id", "instance-type-matrix"), ("class", "title-wrapper section")] .nil rest

def tableBlock (rows rest : Forest) : Forest :=
  .element "div" [("class", "section table-wrapper")] rows rest

def tableRow (texts : List String) (rest : Forest) : Forest :=
  .element "tr" [] (texts.foldr (fun s f ↦ .element "td" [] (.text s .nil) f) .nil) rest

/-- A head and two rows of data. -/
def fewRows : Forest :=
  let texts := ["a", "1", "2", "", "", "", "3.5", "Yes", "", "", "", ""]
  tableRow [] (tableRow texts (tableRow texts .nil))

def tight : Forest := titleBlock (tableBlock fewRows .nil)

/-- The same with a comment and a line break between the blocks, and a line break before the
rows. -/
def loose : Forest :=
  titleBlock (.hidden (.text "\n" (tableBlock (.text "\n  " fewRows) .nil)))

theorem result_eq_of_layout_loose : EqvGen Forest.Inserts loose tight ∧
    (ofDocument (Document.ofForest loose)).result =
      (ofDocument (Document.ofForest tight)).result ∧
    Section.locate (Document.ofForest loose) = .ok 3 ∧
    ∃ w', Section.locate (Document.ofForest tight) = .ok w' ∧
      Document.Corresponds loose tight 3 w' := by
  have hrows : Forest.Inserts tight (titleBlock (tableBlock (.text "\n  " fewRows) .nil)) :=
    .afterElement (.within (.blank (List.all_eq_true.1 (by decide +kernel)) _) ..) ..
  have hbreak : Forest.Inserts (titleBlock (tableBlock (.text "\n  " fewRows) .nil))
      (titleBlock (.text "\n" (tableBlock (.text "\n  " fewRows) .nil))) :=
    .afterElement (.blank (List.all_eq_true.1 (by decide +kernel)) _) ..
  have hcomment : Forest.Inserts
      (titleBlock (.text "\n" (tableBlock (.text "\n  " fewRows) .nil))) loose :=
    .afterElement (.hidden _) ..
  have hlayout : EqvGen Forest.Inserts loose tight :=
    .symm _ _ (.trans _ _ _ (.rel _ _ hrows) (.trans _ _ _ (.rel _ _ hbreak) (.rel _ _ hcomment)))
  have hlocate : Section.locate (Document.ofForest loose) = .ok 3 :=
    ok_of_toOption (by decide +kernel)
  obtain ⟨hresult, hsection⟩ := result_eq_of_layout hlayout
  exact ⟨hlayout, hresult, hlocate, hsection _ 3 hlocate⟩

end Catalog

/-! ## The rest of the page -/

namespace Document

variable {f : Forest} {anchor : String} {w : Nat}

/-- The element of a forest with some handle in its document. -/
def elementAt (f : Forest) (h : Nat) : Option Element :=
  ((placed 1 f).find? (·.1 == h)).map Prod.snd

theorem elementAt_of_locate (h : Section.locate (ofForest f) anchor = .ok w) :
    ∃ e, elementAt f w = some e ∧ (ofForest f).Holds w e := by
  obtain ⟨i, e, -, he⟩ := Section.indexed_of_locate h
  have hfound : ((placed 1 f).find? (·.1 == w)).isSome :=
    List.find?_isSome.2 ⟨_, List.mem_of_getElem? he, by simp⟩
  obtain ⟨x, hx⟩ := Option.isSome_iff_exists.1 hfound
  have hw : x.1 = w := by simpa using List.find?_some hx
  refine ⟨x.2, by rw [elementAt, hx]; rfl, ?_⟩
  exact hw ▸ holds_of_mem_placed (shows_ofForest f) (List.mem_of_find?_eq_some hx)

end Document

namespace Catalog

variable {f₁ f₂ : Forest} {anchor₁ anchor₂ : String} {w₁ w₂ : Nat}

/-- Once the table block is found nothing else of the page matters: for two pages with the same
block there are as many rows, and the same catalog or failure. -/
theorem outcome_eq_of_block (h₁ : Section.locate (Document.ofForest f₁) anchor₁ = .ok w₁)
    (h₂ : Section.locate (Document.ofForest f₂) anchor₂ = .ok w₂)
    (h : Document.elementAt f₁ w₁ = Document.elementAt f₂ w₂) :
    (∃ rs₁ rs₂, (Document.ofForest f₁).findAll w₁ (Document.byTag "tr") = .ok rs₁ ∧
      (Document.ofForest f₂).findAll w₂ (Document.byTag "tr") = .ok rs₂ ∧
      rs₁.length = rs₂.length) ∧
    (rows (Document.ofForest f₁) w₁ >>= fun rs ↦
        (rs.drop 1).mapM (Record.ofRow (Document.ofForest f₁))) =
      (rows (Document.ofForest f₂) w₂ >>= fun rs ↦
        (rs.drop 1).mapM (Record.ofRow (Document.ofForest f₂))) := by
  obtain ⟨e, he₁, hh₁⟩ := Document.elementAt_of_locate h₁
  obtain ⟨e₂, he₂, hh₂⟩ := Document.elementAt_of_locate h₂
  obtain rfl : e = e₂ := Option.some.inj (he₁.symm.trans (h.trans he₂))
  have hd₁ := Document.linked_ofForest f₁
  have hd₂ := Document.linked_ofForest f₂
  constructor
  · obtain ⟨found₁, hfound₁, hmap₁, -⟩ := Document.findAll_byTag hd₁ hh₁ "tr"
    obtain ⟨found₂, hfound₂, hmap₂, -⟩ := Document.findAll_byTag hd₂ hh₂ "tr"
    refine ⟨_, _, hfound₁, hfound₂, ?_⟩
    have hlength := congrArg List.length (hmap₁.trans hmap₂.symm)
    simpa using hlength
  · rw [catalog_of_holds hd₁ hh₁, catalog_of_holds hd₂ hh₂]

/-- The table block of `tight` on another page, after a table of its own and with a second table
block behind it. -/
def crowded : Forest :=
  .text "x" (.element "body" [] (tableBlock (tableRow ["b"] .nil)
    (titleBlock (.hidden (tableBlock fewRows (tableBlock .nil .nil))))) .nil)

theorem outcome_eq_of_block_crowded :
    Section.locate (Document.ofForest tight) = .ok 2 ∧
    Section.locate (Document.ofForest crowded) = .ok 8 ∧
    Document.elementAt tight 2 = Document.elementAt crowded 8 ∧
    (rows (Document.ofForest tight) 2 >>= fun rs ↦
        (rs.drop 1).mapM (Record.ofRow (Document.ofForest tight))) =
      (rows (Document.ofForest crowded) 8 >>= fun rs ↦
        (rs.drop 1).mapM (Record.ofRow (Document.ofForest crowded))) := by
  have h₁ : Section.locate (Document.ofForest tight) = .ok 2 :=
    ok_of_toOption (by decide +kernel)
  have h₂ : Section.locate (Document.ofForest crowded) = .ok 8 :=
    ok_of_toOption (by decide +kernel)
  exact ⟨h₁, h₂, rfl, (outcome_eq_of_block h₁ h₂ rfl).2⟩

end Catalog

end InstanceCatalog
