import InstanceCatalog.Catalog.Scrape
import InstanceCatalog.Proofs.Document.Places

/-! # The catalog of a forest

A scrape without its log: what a document comes to, stage by stage, and what its forest comes to
without any handles. -/

namespace InstanceCatalog

open Markup

theorem ok_of_toOption {α : Type} {r : Except Failure α} {a : α} (h : r.toOption = some a) :
    r = .ok a := by
  cases r with
  | error x => cases h
  | ok b => exact congrArg Except.ok (Option.some.inj h)

/-! ## Results of logged computations -/

namespace Logged

variable {α β : Type}

@[simp] theorem result_bind (x : Logged α) (f : α → Logged β) :
    (x >>= f).result = x.result >>= fun a ↦ (f a).result := by
  cases h : x.result with
  | error e => rw [bind_of_error h]; rfl
  | ok a => rw [bind_of_ok h]; rfl

@[simp] theorem result_ofResult (r : Except Failure α) : (ofResult r).result = r := rfl

@[simp] theorem result_onDeclared (x : Logged α) (f : ScrapeError → LogLine) :
    (x.onDeclared f).result = x.result := by
  unfold onDeclared; split <;> rfl

end Logged

namespace Stage

variable {α : Type}

@[simp] theorem result_announce (s : Stage) (more : String) : (s.announce more).result = .ok () :=
  rfl

@[simp] theorem result_perform (s : Stage) (work : Except Failure α) (more : String) :
    (s.perform work more).result = work := by
  simp only [perform, Logged.result_onDeclared, Logged.result_bind, result_announce,
    Logged.result_ofResult]
  rfl

end Stage

namespace Catalog

/-- The stages of a scrape, one after the other. -/
theorem result_ofDocument (d : Document) :
    (ofDocument d).result =
      (Section.locate d >>= rows d) >>= fun rs ↦ (rs.drop 1).mapM (Record.ofRow d) := by
  simp only [ofDocument, Logged.result_bind, Stage.result_perform, bind_assoc]

theorem rows_eq {d : Document} {table : Handle} {rs : List Handle}
    (h : d.findAll table (Document.byTag "tr") = .ok rs) :
    rows d table =
      if rs.length < leastRows then .error (.declared (.tableTooSmall leastRows rs.length))
      else .ok rs := by
  simp only [rows, h, bind, Except.bind]
  split <;> rfl

theorem result_ofPage (page : String) :
    (ofPage page).result = Document.ofMarkup page >>= fun d ↦ (ofDocument d).result := by
  simp only [ofPage, Logged.result_bind, Stage.result_perform, Stage.result_announce]
  refine bind_congr fun d ↦ ?_
  exact bind_pure _

end Catalog

/-! ## Rows and records of an element -/

namespace Markup

/-- The texts of all cells of a row, at any depth. -/
def Element.texts (row : Element) : List String := (row.tagged "td").map Element.text

def Element.record (row : Element) : Except Failure Record := Record.ofCells row.texts

/-- The records of a table block, all rows at any depth but the first. -/
def Element.catalog (table : Element) : Except Failure (List Record) :=
  let rows := table.tagged "tr"
  if rows.length < Catalog.leastRows then
    .error (.declared (.tableTooSmall Catalog.leastRows rows.length))
  else (rows.drop 1).mapM Element.record

/-- The catalog of a forest, read off without handles. -/
def Forest.catalog (f : Forest) : Except Failure (List Record) :=
  Section.ofForest Section.anchorId f >>= Element.catalog

end Markup

namespace Document

variable {d : Document} {e : Element} {h : Nat}

/-- The handles and elements that a search by tag finds, side by side. -/
theorem findAll_byTag (hd : d.Linked) (hh : d.Holds h e) (tag : String) :
    ∃ found : List (Nat × Element), d.findAll h (byTag tag) = .ok (found.map Prod.fst) ∧
      found.map Prod.snd = e.tagged tag ∧ ∀ x ∈ found, d.Holds x.1 x.2 := by
  refine ⟨_, findAll_of_holds hd (tests_byTag tag) hh, ?_, ?_⟩
  · have hfilter : (Element.hasTag tag ∘ Prod.snd : Nat × Element → Bool) =
        fun x ↦ Element.hasTag tag x.2 := rfl
    rw [← hfilter, ← List.filter_map, List.map_cons, map_snd_placed]
    rfl
  · intro x hx
    rcases List.mem_cons.1 (List.mem_filter.1 hx).1 with rfl | hx
    · exact hh
    · obtain ⟨p, prev, rest, -, hc, -⟩ := hh
      exact holds_of_mem_placed hc hx

/-- Work on the elements found, done through their handles. -/
theorem mapM_found {α : Type} {found : List (Nat × Element)} {f : Nat → Except Failure α}
    {g : Element → Except Failure α} (h : ∀ x ∈ found, f x.1 = g x.2) :
    (found.map Prod.fst).mapM f = (found.map Prod.snd).mapM g := by
  induction found with
  | nil => rfl
  | cons x xs ih =>
    rw [List.map_cons, List.map_cons, List.mapM_cons, List.mapM_cons, h x List.mem_cons_self,
      ih fun y hy ↦ h y (List.mem_cons_of_mem _ hy)]

end Document

namespace Record

open Document

/-- A row's record depends on the element alone. -/
theorem ofRow_of_holds {d : Document} {e : Element} {h : Nat} (hd : d.Linked) (hh : d.Holds h e) :
    ofRow d h = e.record := by
  obtain ⟨found, hfound, hmap, hholds⟩ := findAll_byTag hd hh "td"
  have htexts : (found.map Prod.fst).mapM d.text = .ok ((e.tagged "td").map Element.text) := by
    rw [mapM_found (g := fun x ↦ pure x.text) fun x hx ↦ text_of_holds hd (hholds x hx),
      List.mapM_pure, hmap]
    rfl
  rw [ofRow, hfound]
  simp only [bind, Except.bind]
  rw [htexts]
  rfl

end Record

namespace Catalog

open Document

/-- What is left to do once the table block is found depends on its element alone. -/
theorem catalog_of_holds {d : Document} {table : Element} {w : Nat} (hd : d.Linked)
    (hh : d.Holds w table) :
    (rows d w >>= fun rs ↦ (rs.drop 1).mapM (Record.ofRow d)) = table.catalog := by
  obtain ⟨found, hfound, hmap, hrows⟩ := findAll_byTag hd hh "tr"
  have hlength : found.length = (table.tagged "tr").length := by rw [← hmap, List.length_map]
  have hrecords : ((found.map Prod.fst).drop 1).mapM (Record.ofRow d) =
      ((table.tagged "tr").drop 1).mapM Element.record := by
    rw [← hmap, ← List.map_drop, ← List.map_drop]
    exact mapM_found fun x hx ↦ Record.ofRow_of_holds hd (hrows x (List.mem_of_mem_drop hx))
  have hrs := rows_eq hfound
  rw [List.length_map, hlength] at hrs
  rw [hrs, Element.catalog]
  split
  · rfl
  · exact hrecords

/-- The catalog of a forest's document is that of the forest. -/
theorem result_ofDocument_ofForest (f : Forest) :
    (ofDocument (Document.ofForest f)).result = f.catalog := by
  have hlocate := Section.locate_ofForest Section.anchorId f
  rw [result_ofDocument, Forest.catalog]
  revert hlocate
  cases Section.ofForest Section.anchorId f with
  | error x =>
    intro hlocate
    simp only at hlocate
    rw [hlocate]
    rfl
  | ok table =>
    rintro ⟨w, hw, hholds⟩
    rw [hw]
    exact catalog_of_holds (linked_ofForest f) hholds

/-- The catalog of a page, read off its forest. -/
theorem result_ofPage_eq (page : String) :
    (ofPage page).result = Document.forestOf page >>= Forest.catalog := by
  rw [result_ofPage, Document.ofMarkup]
  cases Document.forestOf page with
  | error e => rfl
  | ok f => exact result_ofDocument_ofForest f

end Catalog

end InstanceCatalog
