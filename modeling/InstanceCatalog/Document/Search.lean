import InstanceCatalog.Document.Basic
import InstanceCatalog.Text.Blank
import InstanceCatalog.Text.Case

/-! # Searching a document

Each walk through a document visits a node at most once, so the number of nodes bounds its steps.  A
search looks at a node and all below it.  A match does not hide the matches below it. -/

namespace InstanceCatalog.Document

/-! ## Walks -/

/-- Up the parent links. -/
def lineageWithin (d : Document) : Nat → Handle → List Handle
  | 0, _ => []
  | fuel + 1, h =>
    h :: match d.parent? h with
      | some p => lineageWithin d fuel p
      | none => []

/-- A handle, that of its parent, of the parent of that, and so on.  The document may lack the last
one, but none before it. -/
def lineage (d : Document) (h : Handle) : List Handle := d.lineageWithin (d.size + 1) h

/-- The lineage of a node, if the document has all of it. -/
def ancestors (d : Document) (h : Handle) : Except Failure (List Handle) :=
  let hs := d.lineage h
  if hs.all (· < d.size) then .ok hs else .error .outOfRange

/-- Along the links to the next neighbour. -/
def siblingsWithin (d : Document) : Nat → Option Handle → List Handle
  | 0, _ => []
  | _, none => []
  | fuel + 1, some h => h :: siblingsWithin d fuel (d.next? h)

/-- The neighbours after a node, in order. -/
def followingSiblings (d : Document) (h : Handle) : Except Failure (List Handle) :=
  (d.get h).map fun n ↦ d.siblingsWithin d.size n.next

/-- Takes the first pending node and puts its children before the others. -/
def walkWithin (d : Document) : Nat → List Handle → List Handle
  | 0, _ => []
  | _, [] => []
  | fuel + 1, h :: pending => h :: walkWithin d fuel (d.children h ++ pending)

/-- A node and all below it, each before its children and these in order. -/
def descendants (d : Document) (h : Handle) : Except Failure (List Handle) :=
  (d.get h).map fun _ ↦ d.walkWithin d.size [h]

/-- The words of all text below a node, the node included, on one line. -/
def text (d : Document) (h : Handle) : Except Failure String :=
  (d.descendants h).map fun hs ↦
    let leaves := (hs.filterMap d.node?).filter (·.kind == .text)
    Text.oneLine (" ".intercalate (leaves.map (·.data)))

/-! ## Searches -/

abbrev Matcher := Document → Handle → Bool

/-- Elements with a tag, which is compared in small letters. -/
def byTag (tag : String) : Matcher :=
  let tag := String.ofList (Text.lower tag.toList)
  fun d h ↦ match d.node? h with
    | some n => n.kind == .element && n.tag == tag
    | none => false

/-- Elements with an attribute of exactly this value. -/
def byAttr (key value : String) : Matcher := fun d h ↦
  match d.node? h with
  | some n => n.kind == .element && n.attrs.lookup key == some value
  | none => false

def findAll (d : Document) (h : Handle) (m : Matcher) : Except Failure (List Handle) :=
  (d.descendants h).map (·.filter (m d))

def findFirst (d : Document) (h : Handle) (m : Matcher) : Except Failure (Option Handle) :=
  (d.descendants h).map (·.find? (m d))

/-! ## Classes -/

/-- The words of the class attribute, as often as they are written. -/
def classWords (d : Document) (h : Handle) : Except Failure (List String) :=
  (d.attr h "class").map fun s ↦ (Text.words s.toList).map String.ofList

/-- Each class once, in the order of code points. -/
def classes (d : Document) (h : Handle) : Except Failure (List String) :=
  (d.classWords h).map fun ws ↦ (ws.mergeSort fun a b ↦ decide (a ≤ b)).eraseDups

/-- Whether a node has all of the given classes. -/
def hasClasses (d : Document) (wanted : List String) (h : Handle) : Except Failure Bool :=
  (d.classWords h).map fun ws ↦ wanted.all (ws.contains ·)

end InstanceCatalog.Document
