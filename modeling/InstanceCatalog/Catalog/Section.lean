import InstanceCatalog.Document.Search

/-! # The section that holds the table

A heading inside a title block has the id by which the section is found.  The table stands in the
first table block among the neighbours after the title block. -/

namespace InstanceCatalog.Section

def anchorId : String := "instance-type-matrix"

def headerClasses : List String := ["section", "title-wrapper"]

def tableClasses : List String := ["section", "table-wrapper"]

/-- The first of some nodes that has all of the given classes; the nodes after it do not matter. -/
def firstWith (d : Document) (wanted : List String) :
    List Handle → Except Failure (Option Handle)
  | [] => .ok none
  | h :: hs => do
    if ← d.hasClasses wanted h then return some h
    firstWith d wanted hs

/-- The table block of the section with an anchor.  The anchor may be its own title block. -/
def locate (d : Document) (anchor : String := anchorId) : Except Failure Handle := do
  let some a ← d.findFirst Document.root (Document.byAttr "id" anchor)
    | throw (.declared (.anchorNotFound anchor))
  let some header ← firstWith d headerClasses (d.lineage a)
    | throw (.declared (.headerNotFound anchor headerClasses))
  let some table ← firstWith d tableClasses (← d.followingSiblings header)
    | throw (.declared (.tableNotFound tableClasses))
  return table

end InstanceCatalog.Section
