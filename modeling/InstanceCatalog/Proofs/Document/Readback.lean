import InstanceCatalog.Proofs.Document.Subtree

/-! # Reading a document back

What a document shows of a forest is the forest without its hidden trees.  Nothing of that is lost
in numbering: reading the trees back through the rows of children gives it again, with the tags in
small letters, and the subtree of each node takes as many handles on end as it has nodes. -/

namespace InstanceCatalog

namespace Markup.Forest

/-- The row without hidden trees, at any depth. -/
def shown : Forest → Forest
  | nil => nil
  | element tag attrs children rest => element tag attrs children.shown rest.shown
  | text data rest => text data rest.shown
  | hidden rest => rest.shown

/-- The row with all tags in small letters. -/
def lowered : Forest → Forest
  | nil => nil
  | element tag attrs children rest =>
    element (String.ofList (Text.lower tag.toList)) attrs children.lowered rest.lowered
  | text data rest => text data rest.lowered
  | hidden rest => hidden rest.lowered

@[simp] theorem weight_lowered (f : Forest) : f.lowered.weight = f.weight := by
  induction f with
  | nil => rfl
  | element t as cs rest ihc ihr => rw [lowered, weight, weight, ihc, ihr]
  | text s rest ih => rw [lowered, weight, weight, ih]
  | hidden rest ih => rw [lowered, weight, weight, ih]

/-- The trees that get a number are those that are not hidden. -/
@[simp] theorem weight_shown (f : Forest) : f.shown.weight = f.size := by
  induction f with
  | nil => rfl
  | element t as cs rest ihc ihr => rw [shown, weight, size, ihc, ihr]
  | text s rest ih => rw [shown, weight, size, ih]
  | hidden rest ih => exact ih

@[simp] theorem size_shown (f : Forest) : f.shown.size = f.size := by
  induction f with
  | nil => rfl
  | element t as cs rest ihc ihr => rw [shown, size, size, ihc, ihr]
  | text s rest ih => rw [shown, size, size, ih]
  | hidden rest ih => exact ih

@[simp] theorem roots_shown (k : Nat) (f : Forest) : f.shown.roots k = f.roots k := by
  induction f generalizing k with
  | nil => rfl
  | element t as cs rest _ ih => rw [shown, roots, roots, size_shown, ih]
  | text s rest ih => rw [shown, roots, roots, ih]
  | hidden rest ih => exact ih k

end Markup.Forest

namespace Document

open Markup

variable {d : Document} {f : Forest} {p k h j : Nat} {prev : Option Nat}

theorem Shows.shown (hs : d.Shows p prev k f) : d.Shows p prev k f.shown := by
  induction f generalizing p prev k with
  | nil => trivial
  | element t as cs rest ihc ihr =>
    obtain ⟨hn, hc, hr⟩ := hs
    refine ⟨?_, ihc hc, ?_⟩
    · rw [Forest.roots_shown, Forest.roots_shown, Forest.size_shown]
      exact hn
    · rw [Forest.size_shown]
      exact ihr hr
  | text s rest ih =>
    obtain ⟨hn, hr⟩ := hs
    refine ⟨?_, ih hr⟩
    rw [Forest.roots_shown]
    exact hn
  | hidden rest ih => exact ih hs

/-! ## The trees below a node -/

/-- The trees that stand at some handles in order, each with what its children stand for. -/
def treesWithin (d : Document) : Nat → List Nat → Forest
  | 0, _ => .nil
  | _, [] => .nil
  | fuel + 1, h :: hs =>
    match d.node? h with
    | none => treesWithin d fuel hs
    | some n =>
      match n.kind with
      | .element =>
        .element n.tag n.attrs (treesWithin d fuel n.children) (treesWithin d fuel hs)
      | .text => .text n.data (treesWithin d fuel hs)
      | _ => treesWithin d fuel hs

/-- The forest below a node, read off through the rows of children. -/
def below (d : Document) (h : Nat) : Forest := d.treesWithin d.size (d.children h)

theorem treesWithin_roots (hs : d.Shows p prev k f) {fuel : Nat} (hf : f.size ≤ fuel) :
    d.treesWithin fuel (f.roots k) = f.shown.lowered := by
  induction f generalizing p prev k fuel with
  | nil => cases fuel <;> rfl
  | element t as cs rest ihc ihr =>
    obtain ⟨hn, hc, hr⟩ := hs
    rw [Forest.size] at hf
    obtain ⟨fuel, rfl⟩ : ∃ m, fuel = m + 1 := ⟨fuel - 1, by omega⟩
    simp only [Forest.roots, treesWithin, hn, elementNode, ihc hc (show cs.size ≤ fuel by omega),
      ihr hr (show rest.size ≤ fuel by omega)]
    rfl
  | text s rest ih =>
    obtain ⟨hn, hr⟩ := hs
    rw [Forest.size] at hf
    obtain ⟨fuel, rfl⟩ : ∃ m, fuel = m + 1 := ⟨fuel - 1, by omega⟩
    simp only [Forest.roots, treesWithin, hn, textNode, ih hr (show rest.size ≤ fuel by omega)]
    rfl
  | hidden rest ih => exact ih hs hf

/-- A node carries the trees of a forest if they are its children, numbered from the next handle
on. -/
def Carries (d : Document) (h : Nat) (f : Forest) : Prop :=
  d.children h = f.roots (h + 1) ∧ d.Shows h none (h + 1) f

theorem exists_carries (hs : d.Shows p prev k f) (hj : k ≤ j) (hlt : j < k + f.size) :
    ∃ g, d.Carries j g := by
  induction f generalizing p prev k with
  | nil => exact absurd hlt (Nat.not_lt.2 hj)
  | element t as cs rest ihc ihr =>
    obtain ⟨hn, hc, hr⟩ := hs
    rw [Forest.size] at hlt
    rcases Nat.eq_or_lt_of_le hj with rfl | hj
    · exact ⟨cs, children_of_node? hn, hc⟩
    · rcases Nat.lt_or_ge j (k + 1 + cs.size) with hjc | hjr
      · exact ihc hc hj hjc
      · exact ihr hr hjr (by omega)
  | text s rest ih =>
    obtain ⟨hn, hr⟩ := hs
    rw [Forest.size] at hlt
    rcases Nat.eq_or_lt_of_le hj with rfl | hj
    · exact ⟨.nil, children_of_node? hn, trivial⟩
    · exact ih hr hj (by omega)
  | hidden rest ih => exact ih hs hj hlt

namespace Carries

theorem below_eq (hc : d.Carries h f) : d.below h = f.shown.lowered := by
  obtain ⟨hchildren, hs⟩ := hc
  have hfit : f.size ≤ d.size := by
    have := hs.size_le
    omega
  rw [below, hchildren, treesWithin_roots hs hfit]

theorem weight_below (hc : d.Carries h f) : (d.below h).weight = f.size := by
  rw [hc.below_eq, Forest.weight_lowered, Forest.weight_shown]

/-- The subtree of a node takes the handles from its own on, as many as it has nodes. -/
theorem preorder_eq (hd : d.Linked) (hc : d.Carries h f) :
    d.preorder h = List.range' h (1 + (d.below h).weight) := by
  rw [Document.preorder_eq hd, hc.1, flatMap_preorder_roots hd hc.2, hc.weight_below,
    Nat.add_comm 1, List.range'_succ]

end Carries

/-! ## The document of a forest -/

theorem size_ofForest (f : Forest) : (ofForest f).size = 1 + f.size := by
  rw [ofForest_eq, size_appendForest, size_append, size_empty]

theorem carries_root (f : Forest) : (ofForest f).Carries root f :=
  ⟨children_of_node? (node?_root_ofForest f), shows_ofForest f⟩

theorem exists_carries_ofForest (hh : h < (ofForest f).size) : ∃ g, (ofForest f).Carries h g := by
  rcases Nat.eq_zero_or_pos h with rfl | hpos
  · exact ⟨f, carries_root f⟩
  · exact exists_carries (shows_ofForest f) hpos (size_ofForest f ▸ hh)

/-- A document is the numbering of a forest: the document node, then the trees of the forest in the
order of the page with all their links, and no other node; the rows of children give the forest
back; and the walk down from each node visits the handles of an interval, which are those of its
subtree. -/
structure Numbers (d : Document) (f : Forest) : Prop where
  size_eq : d.size = 1 + f.weight
  node?_root : d.node? root = some { documentNode with children := f.roots 1 }
  shows : d.Shows root none 1 f
  below_root : d.below root = f.lowered
  descendants_eq : ∀ h < d.size, d.descendants h = .ok (List.range' h (1 + (d.below h).weight))
  mem_lineage_iff : ∀ h < d.size, ∀ k,
    h ∈ d.lineage k ↔ h ≤ k ∧ k < h + (1 + (d.below h).weight)

/-- The document of a forest is the numbering of what is not hidden in it. -/
theorem numbers_ofForest (f : Forest) : (ofForest f).Numbers f.shown where
  size_eq := by rw [size_ofForest, Forest.weight_shown]
  node?_root := by rw [Forest.roots_shown, node?_root_ofForest]
  shows := (shows_ofForest f).shown
  below_root := (carries_root f).below_eq
  descendants_eq h hh := by
    obtain ⟨g, hg⟩ := exists_carries_ofForest hh
    rw [descendants_eq (linked_ofForest f) hh, hg.preorder_eq (linked_ofForest f)]
  mem_lineage_iff h hh k := by
    obtain ⟨g, hg⟩ := exists_carries_ofForest hh
    rw [← mem_preorder_iff (linked_ofForest f), hg.preorder_eq (linked_ofForest f),
      List.mem_range'_1]

end Document

end InstanceCatalog
