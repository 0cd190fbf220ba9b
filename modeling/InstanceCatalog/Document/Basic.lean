import InstanceCatalog.Failure

/-! # Documents

A document keeps its nodes in one array, and nodes name each other by handle, the position in that
array.  Links to the parent, to the children and to both neighbours are kept together by `append`,
the only operation that changes a document. -/

namespace InstanceCatalog

inductive NodeKind where
  | document
  | element
  | text
  | other (name : String)
deriving DecidableEq, Repr

namespace NodeKind

def name : NodeKind → String
  | .document => "document"
  | .element => "element"
  | .text => "text"
  | .other s => s

def ofName (s : String) : NodeKind :=
  if s = "document" then .document
  else if s = "element" then .element
  else if s = "text" then .text
  else .other s

end NodeKind

abbrev Handle := Nat

structure Node where
  kind : NodeKind
  tag : String := ""
  /-- Attributes in the order in which they were written, each key once. -/
  attrs : List (String × String) := []
  data : String := ""
  parent : Option Handle := none
  children : List Handle := []
  prev : Option Handle := none
  next : Option Handle := none
deriving DecidableEq, Repr

structure Document where
  nodes : Array Node
deriving DecidableEq, Repr

namespace Document

def empty : Document := ⟨#[]⟩

/-- The handle of the document node of a parsed page. -/
def root : Handle := 0

def size (d : Document) : Nat := d.nodes.size

def node? (d : Document) (h : Handle) : Option Node := d.nodes[h]?

def get (d : Document) (h : Handle) : Except Failure Node :=
  match d.node? h with
  | some n => .ok n
  | none => .error .outOfRange

@[simp] theorem size_empty : empty.size = 0 := rfl

theorem node?_eq_none_iff {d : Document} {h : Handle} : d.node? h = none ↔ d.size ≤ h := by
  simp [node?, size]

def children (d : Document) (h : Handle) : List Handle := ((d.node? h).map (·.children)).getD []

def parent? (d : Document) (h : Handle) : Option Handle := (d.node? h).bind (·.parent)

def next? (d : Document) (h : Handle) : Option Handle := (d.node? h).bind (·.next)

def modify (d : Document) (h : Handle) (f : Node → Node) : Document := ⟨d.nodes.modify h f⟩

@[simp] theorem size_modify (d : Document) (h : Handle) (f : Node → Node) :
    (d.modify h f).size = d.size := by simp [modify, size]

def push (d : Document) (n : Node) : Document := ⟨d.nodes.push n⟩

@[simp] theorem size_push (d : Document) (n : Node) : (d.push n).size = d.size + 1 := by
  simp [push, size]

/-- Makes `h` the last child of `p`, after the child that was last. -/
def adopt (d : Document) (p h : Handle) : Document :=
  let linked := match (d.children p).getLast? with
    | some last =>
      (d.modify h fun n ↦ { n with prev := some last }).modify last
        fun n ↦ { n with next := some h }
    | none => d
  linked.modify p fun n ↦ { n with children := n.children ++ [h] }

@[simp] theorem size_adopt (d : Document) (p h : Handle) : (d.adopt p h).size = d.size := by
  unfold adopt; split <;> simp

/-- Adds a node, as the last child of its parent if the document has that one. -/
def append (d : Document) (n : Node) : Document :=
  let h := d.size
  let d := d.push n
  match n.parent with
  | some p => if p < d.size then d.adopt p h else d
  | none => d

@[simp] theorem size_append (d : Document) (n : Node) : (d.append n).size = d.size + 1 := by
  unfold append
  cases n.parent with
  | none => simp
  | some p => dsimp only; split <;> simp

/-- The handle of the node that `append` adds, unless its parent is missing. -/
def appended (d : Document) (n : Node) : Except Failure Handle :=
  match n.parent with
  | some p => if p < d.size + 1 then .ok d.size else .error .outOfRange
  | none => .ok d.size

/-- The value of an attribute, empty when the node lacks it. -/
def attr (d : Document) (h : Handle) (key : String) : Except Failure String :=
  (d.get h).map fun n ↦ (n.attrs.lookup key).getD ""

end Document

end InstanceCatalog
