import InstanceCatalog.Document.Search

/-! # Links of a document

What adding a node does to each node, and the invariant that it keeps: parents come before their
children, and a node is in exactly one row of children, that of its parent. -/

namespace InstanceCatalog

/-- A node that no other node is linked to yet. -/
structure Node.Fresh (n : Node) : Prop where
  children : n.children = []
  prev : n.prev = none
  next : n.next = none

namespace Document

variable {d : Document} {n : Node} {h k p c : Nat}

/-! ## Nodes after a change -/

@[simp] theorem node?_empty (k : Nat) : empty.node? k = none := by simp [node?, empty]

theorem node?_push (d : Document) (n : Node) (k : Nat) :
    (d.push n).node? k = if k = d.size then some n else d.node? k := Array.getElem?_push

theorem node?_modify (d : Document) (h : Nat) (f : Node → Node) (k : Nat) :
    (d.modify h f).node? k = if h = k then (d.node? k).map f else d.node? k :=
  Array.getElem?_modify

theorem lt_size_of_node? (h : d.node? k = some n) : k < d.size := by
  refine Nat.lt_of_not_le fun hle ↦ ?_
  rw [node?_eq_none_iff.2 hle] at h
  cases h

theorem exists_node? (h : k < d.size) : ∃ n, d.node? k = some n := by
  cases hn : d.node? k with
  | none => exact absurd (node?_eq_none_iff.1 hn) (Nat.not_le.2 h)
  | some n => exact ⟨n, rfl⟩

theorem get_eq_ok (h : d.node? k = some n) : d.get k = .ok n := by simp [get, h]

theorem children_of_node? (h : d.node? k = some n) : d.children k = n.children := by
  simp [children, h]

theorem children_of_size_le (h : d.size ≤ k) : d.children k = [] := by
  simp [children, node?_eq_none_iff.2 h]

theorem parent?_of_node? (h : d.node? k = some n) : d.parent? k = n.parent := by
  simp [parent?, h]

theorem lt_size_of_parent? (h : d.parent? c = some p) : c < d.size := by
  cases hc : d.node? c with
  | none => simp [parent?, hc] at h
  | some n => exact lt_size_of_node? hc

/-! ## The invariant -/

/-- The links up and down agree, and lead to earlier and to later nodes. -/
structure Linked (d : Document) : Prop where
  parent_lt : ∀ {h p : Nat}, d.parent? h = some p → p < h
  mem_children_iff : ∀ {p c : Nat}, c ∈ d.children p ↔ d.parent? c = some p
  ascending : ∀ p : Nat, (d.children p).Pairwise (· < ·)

namespace Linked

theorem empty : Document.empty.Linked where
  parent_lt h := by simp [parent?] at h
  mem_children_iff := by simp [children, parent?]
  ascending p := by simp [children]

theorem lt_of_mem_children (hd : d.Linked) (h : c ∈ d.children p) : p < c :=
  hd.parent_lt (hd.mem_children_iff.1 h)

theorem lt_size_of_mem_children (hd : d.Linked) (h : c ∈ d.children p) : c < d.size :=
  lt_size_of_parent? (hd.mem_children_iff.1 h)

theorem lt_of_getLast?_children (hd : d.Linked) (h : (d.children p).getLast? = some k) :
    p < k ∧ k < d.size :=
  have hk := List.mem_of_getLast? h
  ⟨hd.lt_of_mem_children hk, hd.lt_size_of_mem_children hk⟩

end Linked

/-! ## Adding a node -/

theorem node?_append_of_orphan (hn : n.parent = none) :
    (d.append n).node? k = if k = d.size then some n else d.node? k := by
  simp only [append, hn, node?_push]

/-- A node below a parent changes that parent and its last child until then, and no other node. -/
theorem node?_append (hd : d.Linked) (hp : n.parent = some p) (hlt : p < d.size)
    (hn : n.Fresh) (k : Nat) :
    (d.append n).node? k =
      if k = d.size then some { n with prev := (d.children p).getLast? }
      else if k = p then (d.node? k).map fun m ↦ { m with children := m.children ++ [d.size] }
      else if (d.children p).getLast? = some k then
        (d.node? k).map fun m ↦ { m with next := some d.size }
      else d.node? k := by
  have hchildren : (d.push n).children p = d.children p := by
    simp only [children, node?_push, if_neg (Nat.ne_of_lt hlt)]
  simp only [append, hp, size_push, if_pos (Nat.lt_succ_of_lt hlt), adopt, hchildren]
  by_cases hk : k = d.size
  · subst hk
    cases hl : (d.children p).getLast? with
    | none =>
      have heq : n = { n with parent := some p, prev := none } := by rw [← hp, ← hn.prev]
      simpa [node?_modify, node?_push, Nat.ne_of_lt hlt] using heq
    | some l =>
      have hls := (hd.lt_of_getLast?_children hl).2
      simp [node?_modify, node?_push, Nat.ne_of_lt hlt, Nat.ne_of_lt hls, hp]
  · by_cases hkp : k = p
    · subst hkp
      cases hl : (d.children k).getLast? with
      | none => simp [node?_modify, node?_push, hk]
      | some l =>
        have hkl := (hd.lt_of_getLast?_children hl).1
        simp [node?_modify, node?_push, hk, Nat.ne_of_gt hkl, Ne.symm hk]
    · cases hl : (d.children p).getLast? with
      | none => simp [node?_modify, node?_push, hk, hkp, Ne.symm hkp]
      | some l => simp [node?_modify, node?_push, hk, hkp, Ne.symm hk, Ne.symm hkp]

theorem children_append (hd : d.Linked) (hp : n.parent = some p) (hlt : p < d.size)
    (hn : n.Fresh) (k : Nat) :
    (d.append n).children k = if k = p then d.children p ++ [d.size] else d.children k := by
  rw [children, node?_append hd hp hlt hn]
  by_cases hk : k = d.size
  · have hnone : d.node? d.size = none := node?_eq_none_iff.2 (Nat.le_refl _)
    simp [children, hk, Nat.ne_of_gt hlt, hn.children, hnone]
  · rw [if_neg hk]
    by_cases hkp : k = p
    · obtain ⟨m, hm⟩ := exists_node? hlt
      simp [children, hkp, hm]
    · rw [if_neg hkp, if_neg hkp]
      change _ = ((d.node? k).map (·.children)).getD []
      by_cases hl : (d.children p).getLast? = some k
      · rw [if_pos hl, Option.map_map]; rfl
      · rw [if_neg hl]

theorem parent?_append (hd : d.Linked) (hp : n.parent = some p) (hlt : p < d.size)
    (hn : n.Fresh) (k : Nat) :
    (d.append n).parent? k = if k = d.size then some p else d.parent? k := by
  simp only [parent?, node?_append hd hp hlt hn]
  split
  · simpa using hp
  · split
    · rw [Option.bind_map]; rfl
    · split
      · rw [Option.bind_map]; rfl
      · rfl

namespace Linked

/-- A new node below a node of the document keeps the links in order. -/
theorem append (hd : d.Linked) (hp : n.parent = some p) (hlt : p < d.size) (hn : n.Fresh) :
    (d.append n).Linked where
  parent_lt {h q} hq := by
    rw [parent?_append hd hp hlt hn] at hq
    split at hq
    · rename_i hh
      rw [hh, ← Option.some.inj hq]; exact hlt
    · exact hd.parent_lt hq
  mem_children_iff {q c} := by
    rw [children_append hd hp hlt hn, parent?_append hd hp hlt hn]
    by_cases hc : c = d.size
    · have hnot (r : Nat) : d.size ∉ d.children r := fun h ↦
        Nat.lt_irrefl _ (hd.lt_size_of_mem_children h)
      by_cases hq : q = p
      · simp [hc, hq]
      · simp [hc, hq, hnot, Ne.symm hq]
    · by_cases hq : q = p
      · simp [hc, hq, hd.mem_children_iff]
      · simp [hc, hq, hd.mem_children_iff]
  ascending q := by
    rw [children_append hd hp hlt hn]
    split
    · refine List.pairwise_append.2 ⟨hd.ascending p, List.pairwise_singleton _ _, ?_⟩
      intro a ha b hb
      rw [List.mem_singleton.1 hb]
      exact hd.lt_size_of_mem_children ha
    · exact hd.ascending q

/-- A new node without parent is linked to no other. -/
theorem append_orphan (hd : d.Linked) (hn : n.parent = none) (hc : n.children = []) :
    (d.append n).Linked := by
  have hchildren (k : Nat) : (d.append n).children k = d.children k := by
    by_cases hk : k = d.size
    · rw [children_of_size_le (Nat.le_of_eq hk.symm)]
      simp [children, node?_append_of_orphan hn, hk, hc]
    · simp only [children, node?_append_of_orphan hn, if_neg hk]
  have hparent (k : Nat) : (d.append n).parent? k = d.parent? k := by
    by_cases hk : k = d.size
    · have hnone : d.node? d.size = none := node?_eq_none_iff.2 (Nat.le_refl _)
      simp [parent?, node?_append_of_orphan hn, hk, hn, hnone]
    · simp only [parent?, node?_append_of_orphan hn, if_neg hk]
  refine ⟨fun {h p} hp ↦ ?_, fun {p c} ↦ ?_, fun p ↦ ?_⟩
  · exact hd.parent_lt (hparent h ▸ hp)
  · rw [hchildren, hparent]; exact hd.mem_children_iff
  · rw [hchildren]; exact hd.ascending p

end Linked

end Document

end InstanceCatalog
