import InstanceCatalog.Proofs.Catalog.Cells
import InstanceCatalog.Proofs.Catalog.Rows
import InstanceCatalog.Proofs.Document.Words

/-! # The decision table of a row

A row comes to a record or to one error, and its cells decide to which.  Cells are all `td` elements
in the subtree of the row, in the order of the document, and nothing of them counts but their
texts. -/

namespace InstanceCatalog

open Relation Text Numeral

namespace Record

/-- What a row of texts comes to: what the texts are judged to be, or, if there are too many digits
to convert in the number of processors, that reading gives up. -/
inductive Decides (ts : List String) : Except Failure Record → Prop
  | judged : (∀ n, ¬ Overlong ts n) → Decides ts ((judge ts).mapError .declared)
  | tooManyDigits {n : Nat} : Overlong ts n → Decides ts (.error (.tooManyDigits n))

/-- Each row of texts comes to one thing, and reading the row gives it. -/
theorem ofCells_eq_iff {ts : List String} {o : Except Failure Record} :
    ofCells ts = o ↔ Decides ts o := by
  constructor
  · rintro rfl
    obtain ⟨n, hn, hread⟩ | ⟨hnone, hread⟩ := ofCells_cases ts
    · rw [hread]
      exact .tooManyDigits hn
    · rw [hread]
      exact .judged hnone
  · rintro (hnone | hn)
    · exact ofCells_of_not_overlong hnone
    · exact ofCells_of_overlong hn

end Record

namespace Document

variable {d : Document} {row : Nat} {ts : List String}

/-- The texts of the cells of a row, of which those in cells of nested tables are some. -/
def HasCells (d : Document) (row : Nat) (ts : List String) : Prop :=
  List.Forall₂ (fun h t ↦ d.text h = .ok t)
    ((d.preorder row).filter fun h ↦ decide (d.IsElement "td" h)) ts

theorem findAll_td (hd : d.Linked) (hr : row < d.size) : d.findAll row (byTag "td") =
    .ok ((d.preorder row).filter fun h ↦ decide (d.IsElement "td" h)) := by
  have htag : String.ofList (lower "td".toList) = "td" := by decide +kernel
  rw [findAll, descendants_eq hd hr]
  refine congrArg Except.ok (List.filter_congr fun h _ ↦ ?_)
  exact Bool.eq_iff_iff.2 ((byTag_iff htag).trans decide_eq_true_iff.symm)

theorem exists_hasCells (hd : d.Linked) (hr : row < d.size) : ∃ ts, d.HasCells row ts := by
  have hlt : ∀ h ∈ (d.preorder row).filter fun h ↦ decide (d.IsElement "td" h), h < d.size :=
    fun h hh ↦ lt_size_of_mem_preorder hd hr (List.mem_of_mem_filter hh)
  obtain ⟨ts, hts, -⟩ := exists_mapM_text hd hlt
  exact ⟨ts, mapM_eq_ok_iff.1 hts⟩

theorem HasCells.eq {us : List String} (hts : d.HasCells row ts) (hus : d.HasCells row us) :
    ts = us :=
  Except.ok.inj ((mapM_eq_ok_iff.2 hts).symm.trans (mapM_eq_ok_iff.2 hus))

theorem hasCells_iff (hd : d.Linked) (hr : row < d.size) :
    d.HasCells row ts ↔ (d.findAll row (byTag "td") >>= fun hs ↦ hs.mapM d.text) = .ok ts := by
  rw [findAll_td hd hr]
  exact mapM_eq_ok_iff.symm

theorem HasCells.ofRow_eq (hd : d.Linked) (hr : row < d.size) (hts : d.HasCells row ts) :
    Record.ofRow d row = Record.ofCells ts := by
  have hbind := (hasCells_iff hd hr).1 hts
  rw [Record.ofRow, ← bind_assoc, hbind]
  rfl

/-- What a row comes to is what the table says of the texts of its cells, and a row with the same
texts, wherever it stands, comes to the same. -/
theorem exists_decides (h₀ : ReflTransGen Adds empty d) (hr : row < d.size) :
    ∃ ts, d.HasCells row ts ∧ (∀ o, Record.ofRow d row = o ↔ Record.Decides ts o) ∧
      ∀ d' row', ReflTransGen Adds empty d' → row' < d'.size → d'.HasCells row' ts →
        Record.ofRow d' row' = Record.ofRow d row := by
  have hd := (arranged_of_adds .empty h₀).toLinked
  obtain ⟨ts, hts⟩ := exists_hasCells hd hr
  have hrow := hts.ofRow_eq hd hr
  refine ⟨ts, hts, fun o ↦ ?_, fun d' row' h₀' hr' hts' ↦ ?_⟩
  · rw [hrow]
    exact Record.ofCells_eq_iff
  · rw [hrow, hts'.ofRow_eq (arranged_of_adds .empty h₀').toLinked hr']

/-- Cells side by side, each with one text. -/
def cellsOf : List String → Markup.Forest
  | [] => .nil
  | t :: ts => .element "td" [] (.text t .nil) (cellsOf ts)

/-- A row of which the first cell has the second in it. -/
def nestedCells : Markup.Forest :=
  .element "tr" [] (.element "td" [] (.text "m1" (.element "td" [] (.text "4" .nil) .nil))
    (cellsOf ["1.6e1", "", "High", "Intel", ".5", "yEs", "yes ", "no", "\u00a0YES", "y"])) .nil

/-- The same texts in cells side by side. -/
def flatCells : Markup.Forest :=
  .element "tr" [] (cellsOf
    ["m1 4", "4", "1.6e1", "", "High", "Intel", ".5", "yEs", "yes", "no", "YES", "y"]) .nil

/-- Their texts by column. -/
def nestedColumns : Record.Columns where
  name := "m1 4"
  cpus := "4"
  memory := "1.6e1"
  storage := ""
  network := "High"
  processor := "Intel"
  clockSpeed := ".5"
  avx := "yEs"
  avx2 := "yes"
  turbo := "no"
  ebsOptimized := "YES"
  enhancedNetworking := "y"

theorem exists_decides_nestedCells :
    ReflTransGen Adds empty (ofForest nestedCells) ∧ 1 < (ofForest nestedCells).size ∧
      Record.ofRow (ofForest nestedCells) 1 = .ok nestedColumns.record ∧
      Record.ofRow (ofForest flatCells) 1 = .ok nestedColumns.record := by
  have hsize : 1 < (ofForest nestedCells).size := by decide +kernel
  have hsize' : 1 < (ofForest flatCells).size := by decide +kernel
  have hcells : (ofForest nestedCells).HasCells 1 nestedColumns.texts :=
    (hasCells_iff (linked_ofForest _) hsize).2 (ok_of_toOption (by decide +kernel))
  have hcells' : (ofForest flatCells).HasCells 1 nestedColumns.texts :=
    (hasCells_iff (linked_ofForest _) hsize').2 (ok_of_toOption (by decide +kernel))
  have hjudge : Record.judge nestedColumns.texts = .ok nestedColumns.record :=
    Record.judge_eq_ok_iff.2 ⟨_, rfl, ⟨by decide, by decide, by decide, by decide⟩, rfl⟩
  have hshort (n : Nat) : ¬ Record.Overlong nestedColumns.texts n := fun h ↦ by
    obtain ⟨-, -, rfl, hn⟩ := Record.overlong_texts_iff.1 h
    exact absurd hn (by decide)
  have hrecord : Record.Decides nestedColumns.texts (.ok nestedColumns.record) := by
    have hdecides := Record.Decides.judged hshort
    rwa [hjudge] at hdecides
  obtain ⟨ts, hts, hdecides, hsame⟩ := exists_decides (adds_ofForest nestedCells) hsize
  obtain rfl := hts.eq hcells
  have hrow := (hdecides _).2 hrecord
  exact ⟨adds_ofForest _, hsize, hrow,
    (hsame _ 1 (adds_ofForest _) hsize' hcells').trans hrow⟩

end Document

end InstanceCatalog
