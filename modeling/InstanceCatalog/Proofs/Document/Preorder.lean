import InstanceCatalog.Proofs.Document.Links
import Mathlib.Data.List.Nodup

/-! # Preorder

The subtree of a node by recursion over the children.  The walk with a stack of pending nodes visits
the same nodes in the same order, and a node stands below another if and only if that other is in
its lineage. -/

namespace InstanceCatalog.Document

variable {d : Document} {h k p c : Nat}

/-! ## Lineages -/

theorem lineageWithin_eq (hd : d.Linked) {fuel : Nat} (hf : h < fuel) :
    d.lineageWithin fuel h = d.lineageWithin (h + 1) h := by
  induction h using Nat.strongRecOn generalizing fuel with
  | ind h ih =>
    obtain ⟨fuel, rfl⟩ : ∃ m, fuel = m + 1 := ⟨fuel - 1, by omega⟩
    simp only [lineageWithin]
    cases hp : d.parent? h with
    | none => rfl
    | some p =>
      have hlt := hd.parent_lt hp
      simp only [ih p hlt (Nat.lt_of_lt_of_le hlt (Nat.le_of_lt_succ hf)), ih p hlt hlt]

theorem lineage_of_parent? (hd : d.Linked) (hp : d.parent? h = some p) :
    d.lineage h = h :: d.lineage p := by
  have hlt := hd.parent_lt hp
  have hh := lt_size_of_parent? hp
  have hstep : d.lineage h = h :: d.lineageWithin d.size p := by
    simp only [lineage, lineageWithin, hp]
  rw [hstep, lineage, lineageWithin_eq hd (Nat.lt_trans hlt hh),
    lineageWithin_eq hd (show p < d.size + 1 by omega)]

theorem lineage_of_orphan (hp : d.parent? h = none) : d.lineage h = [h] := by
  simp [lineage, lineageWithin, hp]

theorem mem_lineage_self (d : Document) (h : Nat) : h ∈ d.lineage h := by
  simp [lineage, lineageWithin]

/-- A lineage leads to ever earlier nodes. -/
theorem le_of_mem_lineage (hd : d.Linked) (hk : k ∈ d.lineage h) : k ≤ h := by
  induction h using Nat.strongRecOn with
  | ind h ih =>
    cases hp : d.parent? h with
    | none =>
      rw [lineage_of_orphan hp, List.mem_singleton] at hk
      exact Nat.le_of_eq hk
    | some p =>
      have hlt := hd.parent_lt hp
      rw [lineage_of_parent? hd hp, List.mem_cons] at hk
      rcases hk with rfl | hk
      · exact Nat.le_refl _
      · exact Nat.le_trans (ih p hlt hk) (Nat.le_of_lt hlt)

theorem mem_lineage_of_parent? (hd : d.Linked) (hp : d.parent? h = some p) :
    k ∈ d.lineage h ↔ k = h ∨ k ∈ d.lineage p := by
  rw [lineage_of_parent? hd hp, List.mem_cons]

/-- A lineage goes on with the parent of each of its nodes. -/
theorem parent_mem_lineage (hd : d.Linked) (hk : k ∈ d.lineage h) (hp : d.parent? k = some p) :
    p ∈ d.lineage h := by
  induction h using Nat.strongRecOn with
  | ind h ih =>
    cases hq : d.parent? h with
    | none =>
      rw [lineage_of_orphan hq, List.mem_singleton] at hk
      rw [hk, hq] at hp; cases hp
    | some q =>
      rw [mem_lineage_of_parent? hd hq] at hk ⊢
      rcases hk with rfl | hk
      · rw [hp] at hq
        rw [Option.some.inj hq]; exact .inr (mem_lineage_self d q)
      · exact .inr (ih q (hd.parent_lt hq) hk)

/-- Of two nodes in one lineage, the earlier is in the lineage of the later. -/
theorem mem_lineage_of_mem_lineage (hd : d.Linked) {a b : Nat} (ha : a ∈ d.lineage h)
    (hb : b ∈ d.lineage h) (hab : a ≤ b) : a ∈ d.lineage b := by
  induction h using Nat.strongRecOn with
  | ind h ih =>
    cases hp : d.parent? h with
    | none =>
      rw [lineage_of_orphan hp, List.mem_singleton] at ha hb
      rw [ha, hb]; exact mem_lineage_self d h
    | some p =>
      rw [mem_lineage_of_parent? hd hp] at hb
      rcases hb with rfl | hb
      · exact ha
      · rw [mem_lineage_of_parent? hd hp] at ha
        rcases ha with rfl | ha
        · have := le_of_mem_lineage hd hb
          have := hd.parent_lt hp
          omega
        · exact ih p (hd.parent_lt hp) ha hb

/-- What is above a node is above all below it. -/
theorem mem_lineage_trans (hd : d.Linked) {a b : Nat} (ha : a ∈ d.lineage h)
    (hb : b ∈ d.lineage a) : b ∈ d.lineage h := by
  induction h using Nat.strongRecOn with
  | ind h ih =>
    cases hp : d.parent? h with
    | none =>
      rw [lineage_of_orphan hp, List.mem_singleton] at ha
      rwa [ha] at hb
    | some p =>
      rw [mem_lineage_of_parent? hd hp] at ha
      rcases ha with rfl | ha
      · exact hb
      · exact (mem_lineage_of_parent? hd hp).2 (.inr (ih p (hd.parent_lt hp) ha))

/-! ## Subtrees -/

/-- A node, then the subtrees of its children in order. -/
def preorder (d : Document) (h : Nat) : List Nat :=
  h :: (d.children h).flatMap fun c ↦ if h < c ∧ c < d.size then preorder d c else []
termination_by d.size - h

theorem preorder_eq (hd : d.Linked) (h : Nat) :
    d.preorder h = h :: (d.children h).flatMap d.preorder := by
  rw [preorder]
  simp only [List.flatMap]
  rw [List.map_congr_left fun c hc ↦
    if_pos ⟨hd.lt_of_mem_children hc, hd.lt_size_of_mem_children hc⟩]

theorem mem_preorder_self (hd : d.Linked) (h : Nat) : h ∈ d.preorder h := by
  rw [preorder_eq hd]; exact List.mem_cons_self

theorem mem_preorder_of_mem_children (hd : d.Linked) (hc : c ∈ d.children h)
    (hk : k ∈ d.preorder c) : k ∈ d.preorder h := by
  rw [preorder_eq hd]
  exact List.mem_cons_of_mem _ (List.mem_flatMap.2 ⟨c, hc, hk⟩)

/-- Subtrees are closed under children. -/
theorem children_mem_preorder (hd : d.Linked) (hk : k ∈ d.preorder h) (hc : c ∈ d.children k) :
    c ∈ d.preorder h := by
  induction h using preorder.induct d with
  | case1 h ih =>
    have hk' := hk
    rw [preorder_eq hd, List.mem_cons, List.mem_flatMap] at hk'
    rcases hk' with rfl | ⟨e, he, hke⟩
    · exact mem_preorder_of_mem_children hd hc (mem_preorder_self hd c)
    · have hlt := hd.lt_of_mem_children he
      exact mem_preorder_of_mem_children hd he (ih e ⟨hlt, hd.lt_size_of_mem_children he⟩ hke)

/-- The walk down from a node and the walk up to it agree. -/
theorem mem_preorder_iff (hd : d.Linked) : k ∈ d.preorder h ↔ h ∈ d.lineage k := by
  constructor
  · intro hk
    induction h using preorder.induct d with
    | case1 h ih =>
      rw [preorder_eq hd, List.mem_cons, List.mem_flatMap] at hk
      rcases hk with rfl | ⟨c, hc, hk⟩
      · exact mem_lineage_self d k
      · have hlt := hd.lt_of_mem_children hc
        have hck := ih c ⟨hlt, hd.lt_size_of_mem_children hc⟩ hk
        exact parent_mem_lineage hd hck (hd.mem_children_iff.1 hc)
  · intro hh
    induction k using Nat.strongRecOn with
    | ind k ih =>
      cases hp : d.parent? k with
      | none =>
        rw [lineage_of_orphan hp, List.mem_singleton] at hh
        rw [hh]; exact mem_preorder_self hd k
      | some p =>
        rw [mem_lineage_of_parent? hd hp] at hh
        rcases hh with rfl | hh
        · exact mem_preorder_self hd h
        · exact children_mem_preorder hd (ih p (hd.parent_lt hp) hh) (hd.mem_children_iff.2 hp)

theorem le_of_mem_preorder (hd : d.Linked) (hk : k ∈ d.preorder h) : h ≤ k :=
  le_of_mem_lineage hd ((mem_preorder_iff hd).1 hk)

theorem lt_size_of_mem_preorder (hd : d.Linked) (hh : h < d.size) (hk : k ∈ d.preorder h) :
    k < d.size := by
  rw [mem_preorder_iff hd] at hk
  cases hp : d.parent? k with
  | none =>
    rw [lineage_of_orphan hp, List.mem_singleton] at hk
    exact hk ▸ hh
  | some p => exact lt_size_of_parent? hp

/-- Different children have no node below both. -/
theorem disjoint_preorder (hd : d.Linked) {a b : Nat} (ha : a ∈ d.children p)
    (hb : b ∈ d.children p) (hab : a < b) : List.Disjoint (d.preorder a) (d.preorder b) := by
  intro k hka hkb
  rw [mem_preorder_iff hd] at hka hkb
  have hmem := mem_lineage_of_mem_lineage hd hka hkb (Nat.le_of_lt hab)
  rw [mem_lineage_of_parent? hd (hd.mem_children_iff.1 hb)] at hmem
  rcases hmem with rfl | hmem
  · exact Nat.lt_irrefl _ hab
  · have := le_of_mem_lineage hd hmem
    have := hd.lt_of_mem_children ha
    omega

theorem nodup_preorder (hd : d.Linked) (h : Nat) : (d.preorder h).Nodup := by
  induction h using preorder.induct d with
  | case1 h ih =>
    rw [preorder_eq hd, List.nodup_cons, List.mem_flatMap, List.nodup_flatMap]
    refine ⟨?_, ?_, ?_⟩
    · rintro ⟨c, hc, hk⟩
      have := le_of_mem_preorder hd hk
      have := hd.lt_of_mem_children hc
      omega
    · exact fun c hc ↦ ih c ⟨hd.lt_of_mem_children hc, hd.lt_size_of_mem_children hc⟩
    · exact (hd.ascending h).imp_of_mem fun ha hb hab ↦ disjoint_preorder hd ha hb hab

theorem length_preorder_le (hd : d.Linked) (hh : h < d.size) : (d.preorder h).length ≤ d.size := by
  have hsub : d.preorder h ⊆ List.range d.size := fun k hk ↦
    List.mem_range.2 (lt_size_of_mem_preorder hd hh hk)
  simpa using (nodup_preorder hd h).length_le_of_subset hsub

/-! ## The walk -/

/-- The walk down with some nodes pending ends, and these are the nodes that it visits. -/
inductive Visits (d : Document) : List Nat → List Nat → Prop
  | done : d.Visits [] []
  | step {h : Nat} {pending hs : List Nat} :
    d.Visits (d.children h ++ pending) hs → d.Visits (h :: pending) (h :: hs)

/-- The pending nodes stand for their subtrees: what the walk has still to visit. -/
theorem visits_flatMap (hd : d.Linked) (pending : List Nat) :
    d.Visits pending (pending.flatMap d.preorder) := by
  -- on how many nodes the pending subtrees have, of which each step visits one
  induction hn : (pending.flatMap d.preorder).length generalizing pending with
  | zero =>
    cases pending with
    | nil => exact .done
    | cons h pending => rw [List.flatMap_cons, preorder_eq hd] at hn; cases hn
  | succ n ih =>
    cases pending with
    | nil => exact .done
    | cons h pending =>
      have hstep : (h :: pending).flatMap d.preorder =
          h :: (d.children h ++ pending).flatMap d.preorder := by
        rw [List.flatMap_cons, preorder_eq hd, List.flatMap_append, List.cons_append]
      rw [hstep] at hn ⊢
      exact .step (ih _ (Nat.succ.inj hn))

/-- The walk that counts its steps ends like the one that does not, if it may take as many. -/
theorem Visits.walkWithin {pending hs : List Nat} (hv : d.Visits pending hs) {fuel : Nat}
    (hf : hs.length ≤ fuel) : d.walkWithin fuel pending = hs := by
  induction hv generalizing fuel with
  | done => cases fuel <;> rfl
  | @step h pending hs _ ih =>
    obtain ⟨fuel, rfl⟩ : ∃ m, fuel = m + 1 := ⟨fuel - 1, by rw [List.length_cons] at hf; omega⟩
    rw [Document.walkWithin, ih (Nat.le_of_succ_le_succ hf)]

theorem visits_preorder (hd : d.Linked) (h : Nat) : d.Visits [h] (d.preorder h) := by
  simpa using visits_flatMap hd [h]

/-- The walk down from a node of a document ends, and visits its subtree in preorder. -/
theorem descendants_eq (hd : d.Linked) (hh : h < d.size) :
    d.descendants h = .ok (d.preorder h) := by
  obtain ⟨n, hn⟩ := exists_node? hh
  have hwalk := (visits_preorder hd h).walkWithin (length_preorder_le hd hh)
  simp [descendants, get_eq_ok hn, Except.map, hwalk]

end InstanceCatalog.Document
