import InstanceCatalog.Catalog.Record
import InstanceCatalog.Catalog.Section
import InstanceCatalog.Catalog.Stage
import InstanceCatalog.Document.OfForest
import InstanceCatalog.Document.Search

/-! # From a page to its catalog

All rows of the section's table but the first become records, and the first row that does not ends
the scrape. -/

namespace InstanceCatalog

/-- The record of a row: its cells are all below it, those of nested tables included. -/
def Record.ofRow (d : Document) (row : Handle) : Except Failure Record := do
  let cells ← d.findAll row (Document.byTag "td")
  let texts ← cells.mapM d.text
  ofCells texts

namespace Catalog

/-- One header row and at least two rows of data. -/
def leastRows : Nat := 3

/-- The rows below a table block, if there are enough of them. -/
def rows (d : Document) (table : Handle) : Except Failure (List Handle) := do
  let rows ← d.findAll table (Document.byTag "tr")
  if rows.length < leastRows then throw (.declared (.tableTooSmall leastRows rows.length))
  return rows

/-- The records of a document's section. -/
def ofDocument (d : Document) : Logged (List Record) := do
  let table ← Stage.locatingSection.perform (Section.locate d)
  let rows ← Stage.enumeratingRows.perform (rows d table)
  let data := rows.drop 1
  Stage.parsingRows.perform (data.mapM (Record.ofRow d))
    (" rows=" ++ Numeral.decimal data.length)

/-- The catalog of a page, in the order of the page. -/
def ofPage (page : String) : Logged (List Record) := do
  let d ← Stage.parsing.perform (Document.ofMarkup page)
  let records ← ofDocument d
  Stage.done.announce
  return records

end Catalog

end InstanceCatalog
