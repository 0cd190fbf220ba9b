import InstanceCatalog.Proofs.Catalog.Decision
import InstanceCatalog.Proofs.Document.Matches

/-! # Rows in rows

A search does not stop at what it finds, so where rows stand in rows a cell belongs to all of them.
A row has to have twelve cells, and of two rows with a cell in common one stands in the other; so if
both give records, they have all their cells in common, and the records are the same. -/

namespace InstanceCatalog.Document

variable {d : Document} {r s c w : Nat} {cs ks rows : List Nat}

/-! ## Two rows -/

/-- Of two nodes that are above the same one, the later stands below the earlier. -/
theorem nested_of_mem_lineage (hd : d.Linked) (hr : r ∈ d.lineage c) (hs : s ∈ d.lineage c) :
    r ∈ d.lineage s ∨ s ∈ d.lineage r := by
  rcases Nat.le_total r s with hle | hle
  · exact .inl (mem_lineage_of_mem_lineage hd hr hs hle)
  · exact .inr (mem_lineage_of_mem_lineage hd hs hr hle)

/-- A row that gives a record has twelve cells, and it gives the same to whatever has these. -/
theorem exists_cells_of_ofRow {x : Record} (h : Record.ofRow d r = .ok x) :
    ∃ cs, d.findAll r (byTag "td") = .ok cs ∧ cs.length = 12 ∧
      ∀ s, d.findAll s (byTag "td") = .ok cs → Record.ofRow d s = Record.ofRow d r := by
  simp only [Record.ofRow, bind, Except.bind] at h ⊢
  cases hcs : d.findAll r (byTag "td") with
  | error e => rw [hcs] at h; cases h
  | ok cs =>
    simp only [hcs] at h
    refine ⟨cs, rfl, ?_, fun s hs ↦ by rw [hs]⟩
    cases htexts : cs.mapM d.text with
    | error e => rw [htexts] at h; cases h
    | ok ts =>
      rw [(mapM_eq_ok_iff.1 htexts).length_eq]
      by_contra hlength
      simp only [htexts, Record.ofCells_of_length_ne hlength] at h
      cases h

/-- If one of two rows of twelve cells stands in the other, they have the same cells. -/
theorem cells_eq_of_mem_lineage (hd : d.Linked) (hs : r ∈ d.lineage s)
    (hcs : d.findAll r (byTag "td") = .ok cs) (hks : d.findAll s (byTag "td") = .ok ks)
    (hlength : cs.length = ks.length) : ks = cs :=
  (findAll_sublist hd hs hcs hks).eq_of_length hlength.symm

theorem mem_lineage_of_findAll {m : Matcher} (hd : d.Linked) (h : d.findAll r m = .ok cs)
    (hc : c ∈ cs) : m d c = true ∧ r ∈ d.lineage c := by
  obtain ⟨-, rfl⟩ := (findAll_eq_ok_iff hd).1 h
  obtain ⟨hmem, hm⟩ := List.mem_filter.1 hc
  exact ⟨hm, (mem_preorder_iff hd).1 hmem⟩

theorem byTag_tr_ne_td (hr : byTag "tr" d r = true) (hc : byTag "td" d c = true) : r ≠ c := by
  rintro rfl
  obtain ⟨n, hn, -, htr⟩ := (byTag_iff (by decide +kernel)).1 hr
  obtain ⟨n', hn', -, htd⟩ := (byTag_iff (by decide +kernel)).1 hc
  obtain rfl := Option.some.inj (hn.symm.trans hn')
  exact absurd (htr.symm.trans htd) (by decide)

/-! ## All rows -/

/-- Rows do not mix their cells.  Each has twelve.  Rows with a cell in common stand one in the
other, have all cells in common and give the same record; no row stands in a cell of another; and if
none stands in another at all, no two of them have a cell in common. -/
structure KeepsCells (d : Document) (rows : List Nat) : Prop where
  twelve : ∀ r ∈ rows, ∃ cs, d.findAll r (byTag "td") = .ok cs ∧ cs.length = 12
  shared : ∀ r ∈ rows, ∀ s ∈ rows, r ≠ s → ∀ cs ks, d.findAll r (byTag "td") = .ok cs →
    d.findAll s (byTag "td") = .ok ks → ¬ cs.Disjoint ks →
      (r ∈ d.lineage s ∨ s ∈ d.lineage r) ∧ ks = cs ∧ Record.ofRow d s = Record.ofRow d r
  not_within : ∀ r ∈ rows, ∀ s ∈ rows, r ≠ s → ∀ cs, d.findAll r (byTag "td") = .ok cs →
    ∀ c ∈ cs, c ∉ d.lineage s
  apart : (∀ r ∈ rows, ∀ s ∈ rows, r ≠ s → r ∉ d.lineage s) →
    rows.Pairwise fun r s ↦ ∀ cs ks, d.findAll r (byTag "td") = .ok cs →
      d.findAll s (byTag "td") = .ok ks → cs.Disjoint ks

theorem shared_cells_eq (hd : d.Linked) (hr : ∃ x, Record.ofRow d r = .ok x)
    (hs : ∃ x, Record.ofRow d s = .ok x) (hcs : d.findAll r (byTag "td") = .ok cs)
    (hks : d.findAll s (byTag "td") = .ok ks) (hnested : r ∈ d.lineage s ∨ s ∈ d.lineage r) :
    ks = cs ∧ Record.ofRow d s = Record.ofRow d r := by
  obtain ⟨x, hx⟩ := hr
  obtain ⟨y, hy⟩ := hs
  obtain ⟨cs', hcs', hlength, hsame⟩ := exists_cells_of_ofRow hx
  obtain rfl := Except.ok.inj (hcs.symm.trans hcs')
  obtain ⟨ks', hks', hlength', -⟩ := exists_cells_of_ofRow hy
  obtain rfl := Except.ok.inj (hks.symm.trans hks')
  have hcells : ks = cs := by
    rcases hnested with hrs | hsr
    · exact cells_eq_of_mem_lineage hd hrs hcs hks (hlength.trans hlength'.symm)
    · exact (cells_eq_of_mem_lineage hd hsr hks hcs (hlength'.trans hlength.symm)).symm
  exact ⟨hcells, hsame s (hcells ▸ hks)⟩

theorem not_within_cell (hd : d.Linked) (hr : ∃ x, Record.ofRow d r = .ok x)
    (hs : ∃ x, Record.ofRow d s = .ok x) (htr : byTag "tr" d s = true)
    (hcs : d.findAll r (byTag "td") = .ok cs) (hc : c ∈ cs) : c ∉ d.lineage s := by
  intro hcs'
  obtain ⟨htd, hrc⟩ := mem_lineage_of_findAll hd hcs hc
  have hrs : r ∈ d.lineage s := mem_lineage_trans hd hcs' hrc
  obtain ⟨y, hy⟩ := hs
  obtain ⟨ks, hks, -⟩ := exists_cells_of_ofRow hy
  -- the cell that the row stands in would be one of its own
  obtain ⟨rfl, -⟩ := shared_cells_eq hd hr ⟨y, hy⟩ hcs hks (.inl hrs)
  have hsc := (mem_lineage_of_findAll hd hks hc).2
  have heq := Nat.le_antisymm (le_of_mem_lineage hd hsc) (le_of_mem_lineage hd hcs')
  exact byTag_tr_ne_td htr htd heq

theorem nested_of_not_disjoint (hd : d.Linked) (hcs : d.findAll r (byTag "td") = .ok cs)
    (hks : d.findAll s (byTag "td") = .ok ks) (hshared : ¬ cs.Disjoint ks) :
    r ∈ d.lineage s ∨ s ∈ d.lineage r := by
  simp only [List.Disjoint, not_forall] at hshared
  obtain ⟨c, hc, hk, -⟩ := hshared
  exact nested_of_mem_lineage hd (mem_lineage_of_findAll hd hcs hc).2
    (mem_lineage_of_findAll hd hks hk).2

/-- On a page, rows that all give records keep their cells to themselves, wherever the search for
rows starts. -/
theorem keepsCells_of_ofRow {page : String} (hd : ofMarkup page = .ok d)
    (hrows : d.findAll w (byTag "tr") = .ok rows)
    (hall : ∀ r ∈ rows.tail, ∃ x, Record.ofRow d r = .ok x) : d.KeepsCells rows.tail := by
  have hd : d.Linked := by
    obtain ⟨f, -, rfl⟩ := exists_forest_of_ofMarkup hd
    exact linked_ofForest f
  have hnodup : rows.tail.Nodup := by
    obtain ⟨-, rfl⟩ := (findAll_eq_ok_iff hd).1 hrows
    exact ((nodup_preorder hd w).filter _).sublist (List.tail_sublist _)
  refine ⟨fun r hr ↦ ?_, fun r hr s hs _ cs ks hcs hks hshared ↦ ?_,
    fun r hr s hs _ cs hcs c hc ↦ ?_, fun hflat ↦ ?_⟩
  · obtain ⟨x, hx⟩ := hall r hr
    obtain ⟨cs, hcs, hlength, -⟩ := exists_cells_of_ofRow hx
    exact ⟨cs, hcs, hlength⟩
  · have hnested := nested_of_not_disjoint hd hcs hks hshared
    exact ⟨hnested, shared_cells_eq hd (hall r hr) (hall s hs) hcs hks hnested⟩
  · have htr := (mem_lineage_of_findAll hd hrows (List.mem_of_mem_tail hs)).1
    exact not_within_cell hd (hall r hr) (hall s hs) htr hcs hc
  · refine hnodup.imp_of_mem fun {r s} hr hs hne cs ks hcs hks ↦ ?_
    by_contra hshared
    rcases nested_of_not_disjoint hd hcs hks hshared with hrs | hsr
    · exact hflat r hr s hs hne hrs
    · exact hflat s hs r hr hne.symm hsr

theorem keepsCells_nestedRows : ∃ d, ofMarkup Catalog.nestedRows = .ok d ∧
    d.findAll 2 (byTag "tr") = .ok [3, 6, 7] ∧
    (∀ r ∈ [6, 7], ∃ x, Record.ofRow d r = .ok x) ∧ d.KeepsCells [6, 7] := by
  have heval : ((ofMarkup Catalog.nestedRows).toOption.map fun d ↦
      ((d.findAll 2 (byTag "tr")).toOption,
        [6, 7].all fun r ↦ (Record.ofRow d r).toOption.isSome)) = some (some [3, 6, 7], true) := by
    rw [ofMarkup, forestOf, Catalog.nestedRows, String.toList_join]
    decide +kernel
  cases hd : ofMarkup Catalog.nestedRows with
  | error e => rw [hd] at heval; cases heval
  | ok d =>
    rw [hd] at heval
    obtain ⟨hrows, hrecords⟩ := Prod.mk.inj (Option.some.inj heval)
    have hrows : d.findAll 2 (byTag "tr") = .ok [3, 6, 7] := ok_of_toOption hrows
    have hall : ∀ r ∈ [6, 7], ∃ x, Record.ofRow d r = .ok x := by
      intro r hr
      obtain ⟨x, hx⟩ := Option.isSome_iff_exists.1 (List.all_eq_true.1 hrecords r hr)
      exact ⟨x, ok_of_toOption hx⟩
    exact ⟨d, rfl, hrows, hall, keepsCells_of_ofRow hd hrows hall⟩

end InstanceCatalog.Document
