import InstanceCatalog.Document.Basic
import InstanceCatalog.Markup.AttrValue
import InstanceCatalog.Markup.Forest
import InstanceCatalog.Markup.Nesting
import InstanceCatalog.Markup.Reader
import InstanceCatalog.Text.Case

/-! # Documents of pages

A document numbers the trees of a forest as they are written, each before what it holds and after
the document node itself.  Hidden trees get no number.  A page is read with each attribute value as
one text, which its node takes over.  The trees still to be numbered wait in one list, each with the
node that it stands below, however deep a page is nested. -/

namespace InstanceCatalog

namespace Markup

/-- One tree of a row. -/
inductive Tree where
  | element (tag : String) (attrs : List (String × String)) (children : Forest)
  | text (data : String)
  | hidden
deriving DecidableEq, Repr

namespace Forest

/-- The trees of a row in order. -/
def trees : Forest → List Tree
  | nil => []
  | element tag attrs children rest => .element tag attrs children :: trees rest
  | text data rest => .text data :: trees rest
  | hidden rest => .hidden :: trees rest

/-- How many trees there are at any depth, the hidden ones included. -/
def weight : Forest → Nat
  | nil => 0
  | element _ _ children rest => children.weight + rest.weight + 1
  | text _ rest => rest.weight + 1
  | hidden rest => rest.weight + 1

end Forest

def Tree.weight : Tree → Nat
  | .element _ _ children => children.weight + 1
  | .text _ => 1
  | .hidden => 1

@[simp] theorem Tree.weight_element (tag : String) (attrs : List (String × String))
    (children : Forest) : (element tag attrs children).weight = children.weight + 1 := rfl
@[simp] theorem Tree.weight_text (data : String) : (text data).weight = 1 := rfl
@[simp] theorem Tree.weight_hidden : hidden.weight = 1 := rfl

end Markup

namespace Document

open Markup

/-- How many trees are still to be numbered, at any depth. -/
def waitingWeight : List (Tree × Handle) → Nat
  | [] => 0
  | (t, _) :: waiting => t.weight + waitingWeight waiting

/-- The trees of a row weigh what the row does, wherever they wait. -/
theorem waitingWeight_trees_append (parent : Handle) (f : Forest)
    (waiting : List (Tree × Handle)) :
    waitingWeight (f.trees.map (·, parent) ++ waiting) = f.weight + waitingWeight waiting := by
  induction f with
  | nil => simp [Forest.trees, Forest.weight]
  | element t as cs rest _ ih =>
    rw [Forest.trees, List.map_cons, List.cons_append, waitingWeight, ih, Tree.weight_element,
      Forest.weight]
    omega
  | text s rest ih =>
    rw [Forest.trees, List.map_cons, List.cons_append, waitingWeight, ih, Tree.weight_text,
      Forest.weight]
    omega
  | hidden rest ih =>
    rw [Forest.trees, List.map_cons, List.cons_append, waitingWeight, ih, Tree.weight_hidden,
      Forest.weight]
    omega

/-- The node of an element. -/
def nodeOf (tag : String) (attrs : List (String × String)) (parent : Handle) : Node where
  kind := .element
  tag := String.ofList (Text.lower tag.toList)
  attrs := attrs.map fun a ↦ (a.1, (AttrValue.text a.2).joined)
  parent := some parent

/-- Numbers the first of the waiting trees, and puts what it holds before the others. -/
def numberTrees : List (Tree × Handle) → Document → Document
  | [], d => d
  | (.element tag attrs children, parent) :: waiting, d =>
    numberTrees (children.trees.map (·, d.size) ++ waiting) (d.append (nodeOf tag attrs parent))
  | (.text data, parent) :: waiting, d =>
    numberTrees waiting (d.append { kind := .text, data, parent := some parent })
  | (.hidden, _) :: waiting, d => numberTrees waiting d
termination_by waiting => waitingWeight waiting
decreasing_by
  · rw [waitingWeight_trees_append, waitingWeight, Tree.weight_element]; omega
  · rw [waitingWeight, Tree.weight_text]; omega
  · rw [waitingWeight, Tree.weight_hidden]; omega

def ofForest (f : Forest) : Document :=
  numberTrees (f.trees.map (·, root)) (empty.append { kind := .document })

/-- The forest of a page. -/
def forestOf (page : String) : Except Failure Forest := (tokens page.toList).map Forest.ofTokens

/-- The document of a page. -/
def ofMarkup (page : String) : Except Failure Document := (forestOf page).map ofForest

end Document

end InstanceCatalog
