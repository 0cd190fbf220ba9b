import InstanceCatalog.Proofs.Catalog.Cells
import InstanceCatalog.Proofs.Catalog.OfForest
import InstanceCatalog.Proofs.Markup.Source

/-! # A page around a table

The smallest page with all that a scrape looks for: the title block with the anchor, other blocks
around it, and the table block after it.  Whatever texts its cells are given, the scrape of the page
comes to what these texts come to. -/

namespace InstanceCatalog

open Markup

/-! ## The page as it is written -/

namespace Page

def heading : List String :=
  ["Instance Type", "vCPU", "Memory (GiB)", "Storage (GB)", "Networking Performance",
    "Physical Processor", "Clock Speed (GHz)", "Intel AVX", "Intel AVX2", "Intel Turbo", "EBS OPT",
    "Enhanced Networking"]

/-- A cell; the characters that markup is made of are named in its text. -/
def writeCell (tag text : String) : String :=
  "<" ++ tag ++ ">" ++ String.ofList (text.toList.flatMap escape) ++ "</" ++ tag ++ ">"

def writeRow (tag : String) (cells : List String) : String :=
  "<tr>" ++ String.join (cells.map (writeCell tag)) ++ "</tr>"

def opening : String :=
  "<!DOCTYPE html>
<html>
<head><title>Amazon EC2 Instance Types</title></head>
<body>
  <div class=\"section intro\"><p>Instance types comprise varying combinations.</p></div>
  <div class=\"section title-wrapper\">
    <div class=\"title\">
      <h2 id=\"instance-type-matrix\">Instance Type Matrix</h2>
    </div>
  </div>
  <!-- spacer between header and table -->
  <div class=\"section divider\"></div>
  <div class=\"section table-wrapper\">
    <table>
      "

def closing : String :=
  "
    </table>
  </div>
</body>
</html>
"

/-- The page with a table of these rows. -/
def write (rows : List (List String)) : String :=
  opening ++ writeRow "th" heading ++ "\n      " ++ "\n".intercalate (rows.map (writeRow "td")) ++
    closing

/-! ## The page as a source -/

theorem angle_doctype (rest : List Char) : Step.angle ("!DOCTYPE html>".toList ++ rest) =
    .ok (some ⟨[.hidden], none, rest⟩) := rfl

theorem angle_spacer (rest : List Char) :
    Step.angle ("!-- spacer between header and table -->".toList ++ rest) =
      .ok (some ⟨[.hidden], none, rest⟩) := rfl

def doctype : Remark where
  written := '<' :: "!DOCTYPE html>".toList
  reads := reads_of_angle (by simp) angle_doctype

def spacer : Remark where
  written := '<' :: "!-- spacer between header and table -->".toList
  reads := reads_of_angle (by simp) angle_spacer

/-- What stands before the table block. -/
def blocks : Source :=
  .text "\n  " <|
  .element "div" [("class", "section intro")]
    (.element "p" [] (.text "Instance types comprise varying combinations." .nil) .nil) <|
  .text "\n  " <|
  .element "div" [("class", "section title-wrapper")] (
    .text "\n    " <|
    .element "div" [("class", "title")] (
      .text "\n      " <|
      .element "h2" [("id", "instance-type-matrix")] (.text "Instance Type Matrix" .nil) <|
      .text "\n    " .nil) <|
    .text "\n  " .nil) <|
  .text "\n  " <|
  .remark spacer <|
  .text "\n  " <|
  .element "div" [("class", "section divider")] .nil <|
  .text "\n  " .nil

/-- The elements around the content of the table. -/
def frames : List Frame :=
  [{ tag := "table", attrs := [], before := .text "\n    " .nil, after := .text "\n  " .nil },
    { tag := "div", attrs := [("class", "section table-wrapper")], before := blocks
      after := .text "\n" .nil },
    { tag := "body", attrs := [],
      before := .text "\n" <|
        .element "head" [] (.element "title" [] (.text "Amazon EC2 Instance Types" .nil) .nil) <|
        .text "\n" .nil
      after := .text "\n" .nil },
    { tag := "html", attrs := []
      before := .remark doctype <| .text "\n" .nil
      after := .text "\n" .nil }]

def cells (tag : String) : List String → Source
  | [] => .nil
  | text :: texts => .element tag [] (.text text .nil) (cells tag texts)

/-- Rows with a line break between each two. -/
def rows : List (List String) → Source
  | [] => .text "\n    " .nil
  | texts :: rest =>
    .element "tr" [] (cells "td" texts) (if rest.isEmpty then rows rest else .text "\n" (rows rest))

/-- The content of the table. -/
def inside (data : List (List String)) : Source :=
  .text "\n      " <| .element "tr" [] (cells "th" heading) <| .text "\n      " <| rows data

def source (data : List (List String)) : Source := frames.foldl Frame.fill (inside data)

theorem write_cells (tag : String) (texts : List String) :
    (cells tag texts).write = (String.join (texts.map (writeCell tag))).toList := by
  induction texts with
  | nil => rfl
  | cons text texts ih =>
    rw [List.map_cons, String.join_cons, String.toList_append, ← ih]
    simp [cells, Source.write, writeCell, writeStart, writeEnd]

theorem write_row (tag : String) (texts : List String) (rest : Source) :
    (Source.element "tr" [] (cells tag texts) rest).write =
      (writeRow tag texts).toList ++ rest.write := by
  rw [Source.write, write_cells, writeRow, String.toList_append, String.toList_append]
  rfl

theorem write_rows (data : List (List String)) :
    (rows data).write =
      ("\n".intercalate (data.map (writeRow "td"))).toList ++ "\n    ".toList := by
  induction data with
  | nil => decide
  | cons texts rest ih =>
    rw [rows, write_row, List.map_cons]
    cases rest with
    | nil =>
      rw [List.map_nil, String.intercalate_singleton]
      rfl
    | cons next rest =>
      rw [if_neg (by simp), Source.write, ih, List.map_cons, String.intercalate_cons_cons]
      simp [escape]

set_option maxRecDepth 10000 in
theorem ofList_opening :
    String.ofList (frames.reverse.flatMap Frame.opening ++ "\n      ".toList) = opening := by
  rfl

theorem ofList_closing :
    String.ofList ("\n    ".toList ++ frames.flatMap Frame.closing) = closing := by
  rfl

/-- The page is what its source is written as. -/
theorem write_eq (data : List (List String)) : write data = String.ofList (source data).write := by
  have hbreak : "\n      ".toList.flatMap escape = "\n      ".toList := rfl
  rw [source, Frame.write_foldl_fill, inside, Source.write, write_row, Source.write, write_rows,
    hbreak, write, ← ofList_opening, ← ofList_closing, ← String.toList_inj]
  simp only [String.toList_append, String.toList_ofList, List.append_assoc]

theorem proper_frames : ∀ fr ∈ frames, fr.Proper := by decide

theorem proper_cells {tag : String} (h : ProperTag tag) (texts : List String) :
    (cells tag texts).Proper := by
  induction texts with
  | nil => trivial
  | cons text texts ih => exact ⟨h, by decide, trivial, ih⟩

theorem proper_rows (data : List (List String)) : (rows data).Proper := by
  induction data with
  | nil => trivial
  | cons texts rest ih =>
    refine ⟨by decide, by decide, proper_cells (by decide) texts, ?_⟩
    split
    · exact ih
    · exact ih

theorem proper_source (data : List (List String)) : (source data).Proper := by
  have htr : ProperTag "tr" := by decide
  have hth : ProperTag "th" := by decide
  have hattrs : ProperAttrs [] := by decide
  exact Frame.proper_foldl_fill proper_frames
    ⟨htr, hattrs, proper_cells hth heading, proper_rows data⟩

end Page

end InstanceCatalog
