import InstanceCatalog.Document.OfForest
import InstanceCatalog.Proofs.Document.Preorder

/-! # Numbering

The document of a forest has one node for each tree that is not hidden, in the order of the page, so
that a subtree takes an interval of handles.  `Shows` says how the trees of a row stand in a
document from a handle on, with all their links. -/

namespace InstanceCatalog

namespace Markup.Forest

/-- How many nodes a row takes. -/
def size : Forest → Nat
  | nil => 0
  | element _ _ children rest => children.size + rest.size + 1
  | text _ rest => rest.size + 1
  | hidden rest => rest.size

/-- The handles of the trees of a row that is numbered from `k` on. -/
def roots (k : Nat) : Forest → List Nat
  | nil => []
  | element _ _ children rest => k :: roots (k + 1 + children.size) rest
  | text _ rest => k :: roots (k + 1) rest
  | hidden rest => roots k rest

end Markup.Forest

namespace Document

open Markup

variable {d d' : Document} {f : Forest} {p k j : Nat} {prev : Option Nat}

/-- The node of an element, but for its links to children and neighbours. -/
def elementNode (tag : String) (attrs : List (String × String)) (parent : Nat) : Node where
  kind := .element
  tag := String.ofList (Text.lower tag.toList)
  attrs
  parent := some parent

/-- A value that is one text already stays as it is. -/
theorem nodeOf_eq (tag : String) (attrs : List (String × String)) (parent : Nat) :
    nodeOf tag attrs parent = elementNode tag attrs parent := by
  have hattrs : attrs.map (fun a ↦ (a.1, (AttrValue.text a.2).joined)) = attrs := attrs.map_id
  rw [nodeOf, elementNode, hattrs]

def textNode (data : String) (parent : Nat) : Node where
  kind := .text
  data
  parent := some parent

/-- The trees of a row stand in a document from `k` on, below `p` and after the neighbour `prev`. -/
def Shows (d : Document) (p : Nat) : Option Nat → Nat → Forest → Prop
  | _, _, .nil => True
  | prev, k, .element tag attrs children rest =>
    d.node? k = some { elementNode tag attrs p with
      children := children.roots (k + 1)
      prev
      next := (rest.roots (k + 1 + children.size)).head? } ∧
    Shows d k none (k + 1) children ∧ Shows d p (some k) (k + 1 + children.size) rest
  | prev, k, .text data rest =>
    d.node? k = some { textNode data p with prev, next := (rest.roots (k + 1)).head? } ∧
    Shows d p (some k) (k + 1) rest
  | prev, k, .hidden rest => Shows d p prev k rest

/-- Only the nodes of the interval matter. -/
theorem Shows.congr (hs : Shows d p prev k f)
    (h : ∀ j, k ≤ j → j < k + f.size → d'.node? j = d.node? j) : Shows d' p prev k f := by
  induction f generalizing p prev k with
  | nil => trivial
  | element t as cs rest ihc ihr =>
    obtain ⟨hn, hc, hr⟩ := hs
    simp only [Forest.size] at h
    refine ⟨(h k (Nat.le_refl _) (by omega)).trans hn, ihc hc ?_, ihr hr ?_⟩
    · exact fun j hj hj' ↦ h j (by omega) (by omega)
    · exact fun j hj hj' ↦ h j (by omega) (by omega)
  | text s rest ih =>
    obtain ⟨hn, hr⟩ := hs
    simp only [Forest.size] at h
    exact ⟨(h k (Nat.le_refl _) (by omega)).trans hn,
      ih hr fun j hj hj' ↦ h j (by omega) (by omega)⟩
  | hidden rest ih => exact ih hs h

/-- A row fits into the document that shows it. -/
theorem Shows.size_le (hs : d.Shows p prev k f) : f.size = 0 ∨ k + f.size ≤ d.size := by
  induction f generalizing p prev k with
  | nil => exact .inl rfl
  | element t as cs rest ihc ihr =>
    have hk := lt_size_of_node? hs.1
    have hc := ihc hs.2.1
    have hr := ihr hs.2.2
    simp only [Forest.size]; omega
  | text s rest ih =>
    have hk := lt_size_of_node? hs.1
    have hr := ih hs.2
    simp only [Forest.size]; omega
  | hidden rest ih => exact ih hs

/-! ## Adding the trees of a forest -/

/-- Adds the trees of a forest below a node, by recursion. -/
def appendForest (parent : Nat) : Forest → Document → Document
  | .nil, d => d
  | .element tag attrs children rest, d =>
    appendForest parent rest
      (appendForest d.size children (d.append (elementNode tag attrs parent)))
  | .text data rest, d => appendForest parent rest (d.append (textNode data parent))
  | .hidden rest, d => appendForest parent rest d

/-- Of the waiting trees, those of a row below one node are done first, as recursion does them. -/
theorem numberTrees_trees (p : Nat) (f : Forest) (waiting : List (Tree × Nat)) (d : Document) :
    numberTrees (f.trees.map (·, p) ++ waiting) d = numberTrees waiting (appendForest p f d) := by
  induction f generalizing p waiting d with
  | nil => rfl
  | element t as cs rest ihc ihr =>
    rw [Forest.trees, List.map_cons, List.cons_append, numberTrees, nodeOf_eq, ihc, ihr]
    rfl
  | text s rest ih =>
    rw [Forest.trees, List.map_cons, List.cons_append, numberTrees, ih]
    rfl
  | hidden rest ih => rw [Forest.trees, List.map_cons, List.cons_append, numberTrees, ih]; rfl

theorem fresh_elementNode (t : String) (as : List (String × String)) (p : Nat) :
    (elementNode t as p).Fresh := ⟨rfl, rfl, rfl⟩

theorem fresh_textNode (s : String) (p : Nat) : (textNode s p).Fresh := ⟨rfl, rfl, rfl⟩

theorem appendForest_element (p : Nat) (t : String) (as : List (String × String))
    (cs rest : Forest) (d : Document) :
    appendForest p (.element t as cs rest) d =
      appendForest p rest (appendForest d.size cs (d.append (elementNode t as p))) := rfl

theorem appendForest_text (p : Nat) (s : String) (rest : Forest) (d : Document) :
    appendForest p (.text s rest) d = appendForest p rest (d.append (textNode s p)) := rfl

@[simp] theorem size_appendForest (p : Nat) (f : Forest) (d : Document) :
    (appendForest p f d).size = d.size + f.size := by
  induction f generalizing p d with
  | nil => rfl
  | element t as cs rest ihc ihr =>
    simp only [appendForest_element, ihr, ihc, size_append, Forest.size]; omega
  | text s rest ih => simp only [appendForest_text, ih, size_append, Forest.size]; omega
  | hidden rest ih => exact ih p d

theorem linked_appendForest (hd : d.Linked) (hp : p < d.size) (f : Forest) :
    (appendForest p f d).Linked := by
  induction f generalizing p d with
  | nil => exact hd
  | element t as cs rest ihc ihr =>
    rw [appendForest_element]
    have h₁ := hd.append (n := elementNode t as p) rfl hp (fresh_elementNode t as p)
    exact ihr (ihc h₁ (by simp)) (by simp; omega)
  | text s rest ih =>
    rw [appendForest_text]
    exact ih (hd.append (n := textNode s p) rfl hp (fresh_textNode s p)) (by simp; omega)
  | hidden rest ih => exact ih hd hp

/-- What new children `rs` of `p` change in the nodes that a document has already. -/
structure Extends (d d' : Document) (p : Nat) (rs : List Nat) : Prop where
  others : ∀ {j}, j < d.size → j ≠ p → (d.children p).getLast? ≠ some j → d'.node? j = d.node? j
  parent : d'.node? p = (d.node? p).map fun n ↦ { n with children := n.children ++ rs }
  last : ∀ {j}, (d.children p).getLast? = some j →
    d'.node? j = (d.node? j).map fun n ↦ { n with next := rs.head?.or n.next }

namespace Extends

variable {d₁ d₂ : Document} {rs rs₁ rs₂ : List Nat}

theorem refl (d : Document) (p : Nat) : d.Extends d p [] where
  others _ _ _ := rfl
  parent := by simp
  last _ := by simp

theorem children_parent (h : d.Extends d' p rs) (hp : p < d.size) :
    d'.children p = d.children p ++ rs := by
  obtain ⟨n, hn⟩ := exists_node? hp
  simp [children, h.parent, hn]

theorem append {n : Node} (hd : d.Linked) (hn : n.parent = some p) (hp : p < d.size)
    (hf : n.Fresh) : d.Extends (d.append n) p [d.size] where
  others hj hjp hl := by
    rw [node?_append hd hn hp hf, if_neg (Nat.ne_of_lt hj), if_neg hjp, if_neg hl]
  parent := by
    rw [node?_append hd hn hp hf, if_neg (Nat.ne_of_lt hp), if_pos rfl]
  last {j} hl := by
    obtain ⟨hpj, hj⟩ := hd.lt_of_getLast?_children hl
    rw [node?_append hd hn hp hf, if_neg (Nat.ne_of_lt hj), if_neg (Nat.ne_of_gt hpj), if_pos hl]
    rfl

/-- Children that are added later come after those added before. -/
theorem trans (hd : d.Linked) (hp : p < d.size) (h₁ : d.Extends d₁ p rs₁)
    (h₂ : d₁.Extends d₂ p rs₂) (hsize : d.size ≤ d₁.size) (hrs : ∀ r ∈ rs₁, d.size ≤ r) :
    d.Extends d₂ p (rs₁ ++ rs₂) := by
  have hchildren := h₁.children_parent hp
  have hnot {j : Nat} (hj : j < d.size) (hl : (d.children p).getLast? ≠ some j ∨ rs₁ ≠ []) :
      (d₁.children p).getLast? ≠ some j := by
    rw [hchildren, List.getLast?_append]
    cases hr : rs₁.getLast? with
    | none => simpa [List.getLast?_eq_none_iff.1 hr] using hl
    | some r =>
      have hjr := Nat.lt_of_lt_of_le hj (hrs r (List.mem_of_getLast? hr))
      simpa using Nat.ne_of_gt hjr
  refine ⟨fun hj hjp hl ↦ ?_, ?_, fun {j} hl ↦ ?_⟩
  · rw [h₂.others (by omega) hjp (hnot hj (.inl hl)), h₁.others hj hjp hl]
  · rw [h₂.parent, h₁.parent]
    simp [Function.comp_def]
  · obtain ⟨hpj, hj⟩ := hd.lt_of_getLast?_children hl
    cases rs₁ with
    | nil =>
      rw [List.append_nil] at hchildren
      rw [h₂.last (hchildren ▸ hl), h₁.last hl]
      simp
    | cons r rs =>
      rw [h₂.others (by omega) (Nat.ne_of_gt hpj) (hnot hj (.inr (List.cons_ne_nil _ _))),
        h₁.last hl]
      rfl

end Extends

/-- A new element with all it holds is one new child. -/
theorem extends_element (hd : d.Linked) (hp : p < d.size) (t : String)
    (as : List (String × String)) (cs : Forest)
    (hcs : (d.append (elementNode t as p)).Extends
      (appendForest d.size cs (d.append (elementNode t as p))) d.size (cs.roots (d.size + 1))) :
    d.Extends (appendForest d.size cs (d.append (elementNode t as p))) p [d.size] := by
  have h := Extends.append hd (n := elementNode t as p) rfl hp (fresh_elementNode t as p)
  have hnil : (d.append (elementNode t as p)).children d.size = [] := by
    rw [children_append hd rfl hp (fresh_elementNode t as p), if_neg (Nat.ne_of_gt hp)]
    exact children_of_size_le (Nat.le_refl _)
  have hkeep {j : Nat} (hj : j < d.size) :
      (appendForest d.size cs (d.append (elementNode t as p))).node? j =
        (d.append (elementNode t as p)).node? j :=
    hcs.others (by simp; omega) (Nat.ne_of_lt hj) (by simp [hnil])
  refine ⟨fun hj hjp hl ↦ ?_, ?_, fun hl ↦ ?_⟩
  · rw [hkeep hj, h.others hj hjp hl]
  · rw [hkeep hp, h.parent]
  · rw [hkeep (hd.lt_of_getLast?_children hl).2, h.last hl]

theorem extends_appendForest (hd : d.Linked) (hp : p < d.size) (f : Forest) :
    d.Extends (appendForest p f d) p (f.roots d.size) := by
  induction f generalizing p d with
  | nil => exact .refl d p
  | element t as cs rest ihc ihr =>
    have hd₁ := hd.append (n := elementNode t as p) rfl hp (fresh_elementNode t as p)
    have hcs := ihc hd₁ (p := d.size) (by simp)
    rw [size_append] at hcs
    have h₁ := extends_element hd hp t as cs hcs
    have hd₂ := linked_appendForest hd₁ (p := d.size) (by simp) cs
    have h₂ := ihr hd₂ (p := p) (by simp; omega)
    rw [size_appendForest, size_append] at h₂
    exact h₁.trans hd hp h₂ (by simp; omega) (by simp)
  | text s rest ih =>
    have hd₁ := hd.append (n := textNode s p) rfl hp (fresh_textNode s p)
    have h₁ := Extends.append hd (n := textNode s p) rfl hp (fresh_textNode s p)
    have h₂ := ih hd₁ (p := p) (by simp; omega)
    rw [size_append] at h₂
    exact h₁.trans hd hp h₂ (by simp) (by simp)
  | hidden rest ih => exact ih hd hp

/-- The new trees stand after the children that were there before. -/
theorem shows_appendForest (hd : d.Linked) (hp : p < d.size) (f : Forest) :
    (appendForest p f d).Shows p (d.children p).getLast? d.size f := by
  induction f generalizing p d with
  | nil => trivial
  | element t as cs rest ihc ihr =>
    have hf := fresh_elementNode t as p
    have hd₁ := hd.append (n := elementNode t as p) rfl hp hf
    have hcs := extends_appendForest hd₁ (p := d.size) (by simp) cs
    rw [size_append] at hcs
    have hchildren := (extends_element hd hp t as cs hcs).children_parent hp
    have hnil := children_append hd (n := elementNode t as p) rfl hp hf d.size
    rw [if_neg (Nat.ne_of_gt hp), children_of_size_le (Nat.le_refl _)] at hnil
    have hnode := hcs.parent
    rw [node?_append hd rfl hp hf, if_pos rfl] at hnode
    have hshows := ihc hd₁ (p := d.size) (by simp)
    have hd₂ := linked_appendForest hd₁ (p := d.size) (by simp) cs
    rw [appendForest_element]
    generalize hd₂' : appendForest d.size cs (d.append (elementNode t as p)) = d₂ at *
    have hsize : d₂.size = d.size + 1 + cs.size := by
      rw [← hd₂', size_appendForest, size_append]
    have hl : (d₂.children p).getLast? = some d.size := by
      rw [hchildren, List.getLast?_concat]
    have hrest := extends_appendForest hd₂ (p := p) (by omega) rest
    have hr := ihr hd₂ (p := p) (by omega)
    rw [hl, hsize] at hr
    rw [hsize] at hrest
    refine ⟨?_, ?_, hr⟩
    · rw [hrest.last hl, hnode]
      simp [elementNode]
    · rw [hnil, size_append] at hshows
      refine hshows.congr fun j hj hj' ↦ hrest.others (by omega) (by omega) ?_
      rw [hl]
      simpa using Nat.ne_of_lt hj
  | text s rest ih =>
    rw [appendForest_text]
    have hf := fresh_textNode s p
    have hd₁ := hd.append (n := textNode s p) rfl hp hf
    have hl : ((d.append (textNode s p)).children p).getLast? = some d.size := by
      rw [children_append hd rfl hp hf, if_pos rfl, List.getLast?_concat]
    have hr := ih hd₁ (p := p) (by simp; omega)
    have hext := extends_appendForest hd₁ (p := p) (by simp; omega) rest
    rw [hl, size_append] at hr
    rw [size_append] at hext
    refine ⟨?_, hr⟩
    rw [hext.last hl, node?_append hd rfl hp hf, if_pos rfl]
    simp [textNode]
  | hidden rest ih => exact ih hd hp

/-! ## The document of a forest -/

def documentNode : Node := { kind := .document }

theorem linked_documentNode : (empty.append documentNode).Linked :=
  Linked.empty.append_orphan rfl rfl

theorem ofForest_eq (f : Forest) :
    ofForest f = appendForest root f (empty.append documentNode) := by
  have h := numberTrees_trees root f [] (empty.append documentNode)
  rw [List.append_nil, numberTrees] at h
  exact h

theorem linked_ofForest (f : Forest) : (ofForest f).Linked := by
  rw [ofForest_eq]
  exact linked_appendForest linked_documentNode (by simp [root]) f

/-- All trees of a forest stand in its document, below the document node. -/
theorem shows_ofForest (f : Forest) : (ofForest f).Shows root none 1 f := by
  rw [ofForest_eq]
  exact shows_appendForest linked_documentNode (by simp [root]) f

theorem node?_root_ofForest (f : Forest) :
    (ofForest f).node? root = some { documentNode with children := f.roots 1 } := by
  rw [ofForest_eq]
  exact (extends_appendForest linked_documentNode (by simp [root]) f).parent

theorem exists_forest_of_ofMarkup {page : String} {d : Document} (h : ofMarkup page = .ok d) :
    ∃ f, forestOf page = .ok f ∧ d = ofForest f := by
  rw [ofMarkup] at h
  cases hf : forestOf page with
  | error e => rw [hf] at h; cases h
  | ok f =>
    rw [hf] at h
    exact ⟨f, rfl, (Except.ok.inj h).symm⟩

end Document

end InstanceCatalog
