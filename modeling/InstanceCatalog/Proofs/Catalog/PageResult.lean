import InstanceCatalog.Proofs.Catalog.Page

/-! # What the page comes to

The forest of the page, as far as a scrape looks at it: its table block, the rows of this block, the
cells of a row and the text of a cell.  From the page on, a scrape thus depends on the texts of the
cells alone. -/

namespace InstanceCatalog

open Markup

namespace Page

variable {tag : String}

/-- The table block of the page. -/
def block (inside : Source) : Element where
  tag := "div"
  attrs := [("class", "section table-wrapper")]
  children := (Source.text "\n    " (.element "table" [] inside (.text "\n  " .nil))).trees false ""

theorem keepsBlanks_eq_false : ∀ tag ∈ ["html", "head", "title", "body", "p", "div", "h2", "table",
    "tr", "th", "td"], Nesting.keepsBlanks tag = false := by
  decide

theorem ofForest_frames (inside : Source) :
    Section.ofForest Section.anchorId ((frames.foldl Frame.fill inside).trees false "") =
      .ok (block inside) := by
  have hanchor (cs : Forest) : Element.hasClasses Section.headerClasses
      ⟨"h2", [("id", "instance-type-matrix")], cs⟩ = false :=
    Element.hasClasses_of_attrs (by decide)
  have htitle (cs : Forest) : Element.hasClasses Section.headerClasses
      ⟨"div", [("class", "title")], cs⟩ = false :=
    Element.hasClasses_of_attrs (by decide)
  have hheader (cs : Forest) : Element.hasClasses Section.headerClasses
      ⟨"div", [("class", "section title-wrapper")], cs⟩ = true :=
    Element.hasClasses_of_attrs (by decide)
  have hdivider (cs : Forest) : Element.hasClasses Section.tableClasses
      ⟨"div", [("class", "section divider")], cs⟩ = false :=
    Element.hasClasses_of_attrs (by decide)
  have htable (cs : Forest) : Element.hasClasses Section.tableClasses
      ⟨"div", [("class", "section table-wrapper")], cs⟩ = true :=
    Element.hasClasses_of_attrs (by decide)
  -- Only the tags and attributes on the way are looked at, so the table's content stays a variable.
  simp only [Section.ofForest, frames, blocks, List.foldl, Frame.fill, Source.append, Source.trees,
    Forest.trail, Source.trail_leaf, Element.hasAttr, List.lookup_cons, List.lookup_nil]
  simp [Section.anchorId, hanchor, htitle, hheader, hdivider, htable, Forest.row, Source.row_leaf,
    keepsBlanks_eq_false, block, Source.trees]

def cellElement (tag text : String) : Element where
  tag
  attrs := []
  children := Source.leaf false text .nil

def rowElement (tag : String) (texts : List String) : Element where
  tag := "tr"
  attrs := []
  children := (cells tag texts).trees false ""

theorem elements_cells (h : Nesting.keepsBlanks tag = false) (run : String)
    (texts : List String) :
    ((cells tag texts).trees false run).elements = texts.map (cellElement tag) := by
  induction texts generalizing run with
  | nil => exact Source.elements_leaf ..
  | cons text texts ih =>
    rw [cells, Source.trees, Source.elements_leaf, Forest.elements, ih, h, Source.trees,
      Source.trees, Source.elements_leaf, String.empty_append]
    rfl

theorem elements_row (h : Nesting.keepsBlanks tag = false) (run : String)
    (texts : List String) (rest : Source) :
    ((Source.element "tr" [] (cells tag texts) rest).trees false run).elements =
      rowElement tag texts :: texts.map (cellElement tag) ++ (rest.trees false "").elements := by
  have hkeeps : (Nesting.keepsBlanks "tr" || false) = false := by decide
  rw [Source.trees, Source.elements_leaf, Forest.elements, hkeeps, elements_cells h]
  rfl

theorem elements_rows (run : String) (data : List (List String)) :
    ((rows data).trees false run).elements =
      data.flatMap fun texts ↦ rowElement "td" texts :: texts.map (cellElement "td") := by
  induction data generalizing run with
  | nil => exact Source.elements_leaf ..
  | cons texts rest ih =>
    have hrest : ((if rest.isEmpty then rows rest else .text "\n" (rows rest)).trees false
        "").elements = ((rows rest).trees false "").elements := by
      split
      · rfl
      · rw [Source.trees, ih, ih]
    rw [rows, elements_row (by decide), hrest, ih, List.flatMap_cons]

theorem elements_inside (data : List (List String)) :
    ((inside data).trees false "").elements =
      rowElement "th" heading :: heading.map (cellElement "th") ++
        data.flatMap fun texts ↦ rowElement "td" texts :: texts.map (cellElement "td") := by
  rw [inside, Source.trees, elements_row (by decide), Source.trees, elements_rows]

theorem filter_cells {wanted : String} {b : Bool}
    (h : Element.hasTag wanted ⟨tag, [], .nil⟩ = b) (texts : List String) :
    (texts.map (cellElement tag)).filter (Element.hasTag wanted) =
      if b then texts.map (cellElement tag) else [] := by
  have hall : ∀ e ∈ texts.map (cellElement tag), Element.hasTag wanted e = b := by
    rintro _ he
    obtain ⟨text, -, rfl⟩ := List.mem_map.1 he
    exact h
  cases b with
  | true => exact List.filter_eq_self.2 hall
  | false =>
    rw [if_neg Bool.false_ne_true, List.filter_eq_nil_iff]
    exact fun e he ↦ by rw [hall e he]; exact Bool.false_ne_true

theorem text_cellElement (tag text : String) : (cellElement tag text).text = Text.oneLine text := by
  rw [Element.text, cellElement, Source.leaf]
  cases h : text.isEmpty with
  | true =>
    rw [String.isEmpty_iff.1 h]
    rfl
  | false =>
    rw [if_neg Bool.false_ne_true, if_neg Bool.false_ne_true, Forest.leaves, Forest.leaves,
      String.intercalate_singleton, Nesting.oneLine_collapse]

theorem texts_rowElement (texts : List String) :
    (rowElement "td" texts).texts = texts.map Text.oneLine := by
  have htd : Element.hasTag "td" (rowElement "td" texts) = false :=
    Element.hasTag_of_tag (by decide)
  have hcells : (rowElement "td" texts).children.elements = texts.map (cellElement "td") :=
    elements_cells (by decide) "" texts
  rw [Element.texts, Element.tagged, Element.subtree, hcells, List.filter_cons, htd,
    if_neg Bool.false_ne_true, filter_cells (b := true) (by decide), if_pos rfl,
    List.map_map]
  exact List.map_congr_left fun text _ ↦ text_cellElement "td" text

theorem filter_row (h : Element.hasTag "tr" ⟨tag, [], .nil⟩ = false)
    (texts : List String) :
    (rowElement tag texts :: texts.map (cellElement tag)).filter (Element.hasTag "tr") =
      [rowElement tag texts] := by
  have htr : Element.hasTag "tr" (rowElement tag texts) = true :=
    Element.hasTag_of_tag (by decide)
  rw [List.filter_cons_of_pos htr, filter_cells h, if_neg Bool.false_ne_true]

/-- The rows of the table are its heading and a row for each list of texts. -/
theorem tagged_block (data : List (List String)) :
    (block (inside data)).tagged "tr" = rowElement "th" heading :: data.map (rowElement "td") := by
  have hdiv : Element.hasTag "tr" (block (inside data)) = false :=
    Element.hasTag_of_tag (by decide)
  have htable (children : Forest) : Element.hasTag "tr" ⟨"table", [], children⟩ = false :=
    Element.hasTag_of_tag (by decide)
  have hkeeps : (Nesting.keepsBlanks "table" || false) = false := by decide
  have helements : (block (inside data)).children.elements =
      ⟨"table", [], (inside data).trees false ""⟩ :: ((inside data).trees false "").elements := by
    rw [block, Source.trees, Source.trees, Source.elements_leaf, Forest.elements, hkeeps,
      Source.trees, Source.trees, Source.elements_leaf, Forest.elements, List.append_nil]
  rw [Element.tagged, Element.subtree, helements, List.filter_cons_of_neg (by simp [hdiv]),
    List.filter_cons_of_neg (by simp [htable]), elements_inside, List.filter_append,
    filter_row (by decide), List.filter_flatMap]
  simp only [filter_row (by decide : Element.hasTag "tr" ⟨"td", [], .nil⟩ = false)]
  rw [← List.map_eq_flatMap]
  rfl

/-- The catalog of the table block. -/
theorem catalog_block (data : List (List String)) :
    (block (inside data)).catalog =
      if data.length < 2 then .error (.declared (.tableTooSmall 3 (data.length + 1)))
      else data.mapM fun texts ↦ Record.ofCells (texts.map Text.oneLine) := by
  have hrecord : Element.record ∘ rowElement "td" =
      fun texts ↦ Record.ofCells (texts.map Text.oneLine) := by
    funext texts
    rw [Function.comp_apply, Element.record, texts_rowElement]
  have hsize : data.length + 1 < 3 ↔ data.length < 2 := by omega
  rw [Element.catalog, tagged_block, List.length_cons, List.length_map, Catalog.leastRows,
    List.drop_one, List.tail_cons, List.mapM_map]
  simp only [hsize, hrecord]
  rfl

end Page

namespace Catalog

/-- What the rows of a table come to, by the texts of their cells alone: each text is put on one
line, and the first row in error decides. -/
def judge (data : List (List String)) : Except ScrapeError (List Record) :=
  if data.length < 2 then .error (.tableTooSmall 3 (data.length + 1))
  else data.mapM fun texts ↦ Record.judge (texts.map Text.oneLine)

variable {data : List (List String)}

/-- The catalog of the page is read off the texts of its cells. -/
theorem result_write_eq (data : List (List String)) :
    (ofPage (Page.write data)).result =
      if data.length < 2 then .error (.declared (.tableTooSmall 3 (data.length + 1)))
      else data.mapM fun texts ↦ Record.ofCells (texts.map Text.oneLine) := by
  rw [result_ofPage_eq, Page.write_eq, Source.forestOf_write (Page.proper_source data), Page.source]
  simp only [bind, Except.bind, Forest.catalog, Page.ofForest_frames, Page.catalog_block]

theorem isAsciiDigit_of_isBlank {c : Char} (h : Text.isBlank c = true) :
    Text.isAsciiDigit c = false := by
  refine Bool.eq_false_iff.2 fun hdigit ↦ ?_
  rw [Text.isBlank_of_isAsciiDigit hdigit] at h
  cases h

/-- A number of processors of few digits keeps them on one line, so its row is not overlong. -/
theorem not_overlong_oneLine {texts : List String}
    (h : ∀ cpus ∈ texts[1]?, (cpus.toList.filter Text.isAsciiDigit).length ≤ 4300) (n : Nat) :
    ¬ Record.Overlong (texts.map Text.oneLine) n := by
  rintro ⟨name, cpus, rest, htexts, -, -, -, hn, hlimit⟩
  obtain ⟨name', texts, rfl, -, hrest⟩ := List.map_eq_cons_iff.1 htexts
  obtain ⟨cpus', texts, rfl, rfl, -⟩ := List.map_eq_cons_iff.1 hrest
  have hdigits := Text.filter_oneLine (p := Text.isAsciiDigit)
    (fun c hc ↦ isAsciiDigit_of_isBlank hc) cpus'
  rw [hdigits] at hn
  rw [← hn] at hlimit
  exact absurd (h cpus' rfl) (Nat.not_le.2 hlimit)

theorem mapM_mapError {α : Type} {f : α → Except Failure Record} {g : α → Except ScrapeError Record}
    {xs : List α} (h : ∀ x ∈ xs, f x = (g x).mapError .declared) :
    xs.mapM f = (xs.mapM g).mapError .declared := by
  induction xs with
  | nil => rfl
  | cons x xs ih =>
    obtain ⟨hx, hxs⟩ := List.forall_mem_cons.1 h
    rw [List.mapM_cons, List.mapM_cons, hx, ih hxs]
    cases g x with
    | error e => rfl
    | ok y => cases xs.mapM g <;> rfl

/-- The page comes to what the texts of its cells come to, if no number of processors has more
digits than are converted. -/
theorem result_write_eq_judge (h : ∀ texts ∈ data, ∀ cpus ∈ texts[1]?,
    (cpus.toList.filter Text.isAsciiDigit).length ≤ 4300) :
    (ofPage (Page.write data)).result = (judge data).mapError .declared := by
  rw [result_write_eq, judge]
  split
  · rfl
  · exact mapM_mapError fun texts htexts ↦
      Record.ofCells_of_not_overlong (not_overlong_oneLine (h texts htexts))

/-- A good row, and a row whose memory is two words. -/
def mixedRows : List (List String) :=
  [["t2.micro", "1", "0.5", "EBS Only", "Low & <slow>", "Intel", "3.3", "Yes", "-", "-", "-", "-"],
    ["m4.large", "2", " 8\n GiB ", "-", "-", "-", "2.4", "yes", "-", "-", "-", "-"]]

theorem result_write_eq_judge_mixedRows :
    (∀ texts ∈ mixedRows, ∀ cpus ∈ texts[1]?,
      (cpus.toList.filter Text.isAsciiDigit).length ≤ 4300) ∧
    (ofPage (Page.write mixedRows)).result = .error (.declared (.notANumber "Memory" "8 GiB")) := by
  have hdigits : ∀ texts ∈ mixedRows, ∀ cpus ∈ texts[1]?,
      (cpus.toList.filter Text.isAsciiDigit).length ≤ 4300 := by decide
  have hjudge : judge mixedRows = .error (.notANumber "Memory" "8 GiB") := by rfl
  refine ⟨hdigits, ?_⟩
  rw [result_write_eq_judge hdigits, hjudge]
  rfl

end Catalog

end InstanceCatalog
