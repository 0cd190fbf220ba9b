import InstanceCatalog.Proofs.Document.Numbering
import Mathlib.Data.List.Nodup
import Mathlib.Logic.Relation

/-! # Neighbours

A document grows by one node at a time, below any of the nodes that it has or below none.  What one
such step leaves as it is, and what it keeps of the order of links: the links to both neighbours say
the same as the rows of children, so that following them from a node gives the rest of its row. -/

namespace InstanceCatalog.Document

open Relation

variable {d d' : Document} {n : Node} {h k p : Nat}

/-- The node before a node among the children of its parent. -/
def prev? (d : Document) (h : Nat) : Option Nat := (d.node? h).bind (·.prev)

/-! ## One step -/

/-- A new node is linked to no node but its parent, which the document has. -/
structure Accepts (d : Document) (n : Node) : Prop where
  fresh : n.Fresh
  parent_lt : ∀ p ∈ n.parent, p < d.size

/-- The last child until now of the parent of a new node. -/
def elder (d : Document) (n : Node) : Option Nat := n.parent.bind fun p ↦ (d.children p).getLast?

/-- One node more, and in the others no change but that the parent has it as its last child and that
its elder has it as its next neighbour. -/
structure Gains (d : Document) (n : Node) (d' : Document) : Prop where
  size : d'.size = d.size + 1
  added : d'.node? d.size = some { n with prev := d.elder n }
  kept : ∀ k < d.size, d'.node? k = (d.node? k).map fun m ↦ { m with
    children := if n.parent = some k then m.children ++ [d.size] else m.children
    next := if d.elder n = some k then some d.size else m.next }

theorem appended_of_accepts (hn : d.Accepts n) : d.appended n = .ok d.size := by
  rw [appended]
  cases hp : n.parent with
  | none => rfl
  | some p => exact if_pos (Nat.lt_succ_of_lt (hn.parent_lt p hp))

theorem elder_of_parent (hp : n.parent = some p) : d.elder n = (d.children p).getLast? := by
  rw [elder, hp]; rfl

/-- The elder of a new node has its parent. -/
theorem parent?_of_elder (hd : d.Linked) (hk : d.elder n = some k) : d.parent? k = n.parent := by
  obtain ⟨p, hp, hl⟩ := Option.bind_eq_some_iff.1 hk
  rw [hd.mem_children_iff.1 (List.mem_of_getLast? hl), hp]

theorem gains_append (hd : d.Linked) (hn : d.Accepts n) : d.Gains n (d.append n) where
  size := size_append d n
  added := by
    rcases Option.eq_none_or_eq_some n.parent with hp | ⟨p, hp⟩
    · have helder : n.prev = d.elder n := by rw [hn.fresh.prev, elder, hp]; rfl
      rw [node?_append_of_orphan hp, if_pos rfl, ← helder]
    · rw [node?_append hd hp (hn.parent_lt p hp) hn.fresh, if_pos rfl, elder_of_parent hp]
  kept k hk := by
    rcases Option.eq_none_or_eq_some n.parent with hp | ⟨p, hp⟩
    · rw [node?_append_of_orphan hp, if_neg (Nat.ne_of_lt hk)]
      simp [elder, hp]
    · rw [node?_append hd hp (hn.parent_lt p hp) hn.fresh, if_neg (Nat.ne_of_lt hk),
        elder_of_parent hp, hp]
      by_cases hkp : k = p
      · subst hkp
        have hl : (d.children k).getLast? ≠ some k := fun hl ↦
          Nat.lt_irrefl k (hd.lt_of_getLast?_children hl).1
        simp [hl]
      · rw [if_neg hkp]
        by_cases hl : (d.children p).getLast? = some k
        · simp [hl, Ne.symm hkp]
        · simp [hl, Ne.symm hkp]

namespace Gains

variable (hg : d.Gains n d')

include hg

theorem node?_of_size_lt (hk : d.size < k) : d'.node? k = none := by
  rw [node?_eq_none_iff, hg.size]; exact hk

theorem parent?_eq (k : Nat) : d'.parent? k = if k = d.size then n.parent else d.parent? k := by
  rcases Nat.lt_trichotomy k d.size with hk | rfl | hk
  · rw [if_neg (Nat.ne_of_lt hk), parent?, hg.kept k hk, Option.bind_map]; rfl
  · rw [if_pos rfl, parent?, hg.added]; rfl
  · rw [if_neg (Nat.ne_of_gt hk), parent?, hg.node?_of_size_lt hk, parent?,
      node?_eq_none_iff.2 (Nat.le_of_lt hk)]

theorem prev?_eq (k : Nat) : d'.prev? k = if k = d.size then d.elder n else d.prev? k := by
  rcases Nat.lt_trichotomy k d.size with hk | rfl | hk
  · rw [if_neg (Nat.ne_of_lt hk), prev?, hg.kept k hk, Option.bind_map]; rfl
  · rw [if_pos rfl, prev?, hg.added]; rfl
  · rw [if_neg (Nat.ne_of_gt hk), prev?, hg.node?_of_size_lt hk, prev?,
      node?_eq_none_iff.2 (Nat.le_of_lt hk)]

theorem next?_of_lt (hk : k < d.size) :
    d'.next? k = if d.elder n = some k then some d.size else d.next? k := by
  obtain ⟨m, hm⟩ := exists_node? hk
  simp [next?, hg.kept k hk, hm]

theorem next?_size (hf : n.Fresh) : d'.next? d.size = none := by
  simp [next?, hg.added, hf.next]

theorem children_of_lt (hk : k < d.size) :
    d'.children k = if n.parent = some k then d.children k ++ [d.size] else d.children k := by
  obtain ⟨m, hm⟩ := exists_node? hk
  simp [children, hg.kept k hk, hm]

theorem children_of_size_le (hf : n.Fresh) (hk : d.size ≤ k) : d'.children k = [] := by
  rcases Nat.eq_or_lt_of_le hk with rfl | hk
  · simp [children, hg.added, hf.children]
  · simp [children, hg.node?_of_size_lt hk]

end Gains

/-! ## The invariant -/

/-- The links to the neighbours of a node are those to the nodes before and after it among the
children of its parent, and a node without parent has none. -/
structure Arranged (d : Document) : Prop extends d.Linked where
  beside : ∀ {p h before after}, d.children p = before ++ h :: after →
    d.prev? h = before.getLast? ∧ d.next? h = after.head?
  alone : ∀ {h}, d.parent? h = none → d.prev? h = none ∧ d.next? h = none

namespace Arranged

theorem empty : Document.empty.Arranged where
  toLinked := .empty
  beside h := by simp [children] at h
  alone _ := by simp [prev?, next?]

theorem nodup_children (hd : d.Linked) (p : Nat) : (d.children p).Nodup :=
  (hd.ascending p).imp Nat.ne_of_lt

/-- In a row that a new node ends, the nodes before it are linked as they were, but for the last. -/
theorem beside_append (hd : d.Arranged) (hn : d.Accepts n) (hp : n.parent = some p)
    {before after : List Nat} (h : d.children p ++ [d.size] = before ++ k :: after) :
    (d.append n).prev? k = before.getLast? ∧ (d.append n).next? k = after.head? := by
  have hg := gains_append hd.toLinked hn
  rcases List.eq_nil_or_concat after with rfl | ⟨after, z, rfl⟩
  · -- the new node itself
    obtain ⟨rfl, hk⟩ := List.append_inj' h rfl
    obtain rfl : d.size = k := List.singleton_inj.1 hk
    rw [hg.prev?_eq, if_pos rfl, hg.next?_size hn.fresh, elder_of_parent hp]
    exact ⟨rfl, rfl⟩
  · rw [List.concat_eq_append] at h ⊢
    rw [← List.cons_append, ← List.append_assoc] at h
    obtain ⟨hrow, hz⟩ := List.append_inj' h rfl
    obtain rfl : d.size = z := List.singleton_inj.1 hz
    have hk : k < d.size := hd.lt_size_of_mem_children (p := p) (by simp [hrow])
    obtain ⟨hprev, hnext⟩ := hd.beside hrow
    rw [hg.prev?_eq, if_neg (Nat.ne_of_lt hk), hg.next?_of_lt hk, elder_of_parent hp, hprev, hnext,
      hrow]
    cases after with
    | nil => simp
    | cons a after =>
      have hnodup := nodup_children hd.toLinked p
      rw [hrow] at hnodup
      have hlast : (before ++ k :: a :: after).getLast? ≠ some k := by
        rw [List.getLast?_append_of_ne_nil _ (List.cons_ne_nil _ _), List.getLast?_cons_cons]
        intro hl
        have hmem := List.mem_of_getLast? hl
        exact (List.nodup_cons.1 (List.nodup_append.1 hnodup).2.1).1 hmem
      rw [if_neg hlast]
      exact ⟨rfl, rfl⟩

/-- The links stay in order when a node is added. -/
theorem append (hd : d.Arranged) (hn : d.Accepts n) : (d.append n).Arranged where
  toLinked := by
    cases hp : n.parent with
    | none => exact hd.toLinked.append_orphan hp hn.fresh.children
    | some p => exact hd.toLinked.append hp (hn.parent_lt p hp) hn.fresh
  beside {p k before after} h := by
    have hg := gains_append hd.toLinked hn
    rcases Nat.lt_or_ge p d.size with hlt | hge
    · rw [hg.children_of_lt hlt] at h
      split at h
      · rename_i hp
        exact beside_append hd hn hp h
      · rename_i hp
        -- a row of another parent, which has no elder of the new node among it
        have hkp := hd.mem_children_iff.1 (show k ∈ d.children p by simp [h])
        have hk := lt_size_of_parent? hkp
        have helder : d.elder n ≠ some k := fun he ↦
          hp ((parent?_of_elder hd.toLinked he).symm.trans hkp)
        rw [hg.prev?_eq, if_neg (Nat.ne_of_lt hk), hg.next?_of_lt hk, if_neg helder]
        exact hd.beside h
    · rw [hg.children_of_size_le hn.fresh hge] at h
      simp at h
  alone {k} h := by
    have hg := gains_append hd.toLinked hn
    rw [hg.parent?_eq] at h
    split at h
    · rename_i hk
      subst hk
      rw [hg.prev?_eq, if_pos rfl, hg.next?_size hn.fresh, elder, h]
      exact ⟨rfl, rfl⟩
    · rename_i hk
      obtain ⟨hprev, hnext⟩ := hd.alone h
      refine ⟨by rw [hg.prev?_eq, if_neg hk, hprev], ?_⟩
      rcases Nat.lt_or_gt_of_ne hk with hlt | hgt
      · have helder : d.elder n ≠ some k := by
          intro he
          -- only a node with a parent has an elder
          obtain ⟨p, hp, -⟩ := Option.bind_eq_some_iff.1 he
          rw [parent?_of_elder hd.toLinked he, hp] at h; cases h
        rw [hg.next?_of_lt hlt, if_neg helder, hnext]
      · simp [next?, hg.node?_of_size_lt hgt]

end Arranged

/-! ## Following the links -/

/-- The links to the next neighbour lead through these nodes, and end with the last. -/
inductive Leads (d : Document) : Option Nat → List Nat → Prop
  | done : d.Leads none []
  | step {h : Nat} {hs : List Nat} : d.Leads (d.next? h) hs → d.Leads (some h) (h :: hs)

/-- The walk ends where the links do, if it may take as many steps as there are nodes. -/
theorem Leads.siblingsWithin {o : Option Nat} {hs : List Nat} (hl : d.Leads o hs) {fuel : Nat}
    (hf : hs.length ≤ fuel) : d.siblingsWithin fuel o = hs := by
  induction hl generalizing fuel with
  | done => cases fuel <;> rfl
  | @step h hs _ ih =>
    obtain ⟨fuel, rfl⟩ : ∃ m, fuel = m + 1 := ⟨fuel - 1, by rw [List.length_cons] at hf; omega⟩
    rw [Document.siblingsWithin, ih (Nat.le_of_succ_le_succ hf)]

theorem Leads.followingSiblings {hs : List Nat} (hl : d.Leads (d.next? h) hs) (hh : h < d.size)
    (hlen : hs.length ≤ d.size) : d.followingSiblings h = .ok hs := by
  obtain ⟨n, hn⟩ := exists_node? hh
  have hnext : d.next? h = n.next := by simp [next?, hn]
  rw [hnext] at hl
  rw [Document.followingSiblings, get_eq_ok hn]
  exact congrArg Except.ok (hl.siblingsWithin hlen)

namespace Arranged

variable {before after : List Nat}

theorem leads (hd : d.Arranged) (h : d.children p = before ++ k :: after) :
    d.Leads (d.next? k) after := by
  induction after generalizing before k with
  | nil =>
    rw [(hd.beside h).2]
    exact .done
  | cons a after ih =>
    rw [(hd.beside h).2]
    have hrow : d.children p = (before ++ [k]) ++ a :: after := by simpa using h
    exact .step (ih hrow)

theorem length_children_le (hd : d.Linked) (p : Nat) : (d.children p).length ≤ d.size := by
  have hsub : d.children p ⊆ List.range d.size := fun k hk ↦
    List.mem_range.2 (hd.lt_size_of_mem_children hk)
  simpa using (nodup_children hd p).length_le_of_subset hsub

theorem followingSiblings (hd : d.Arranged) (h : d.children p = before ++ k :: after) :
    d.followingSiblings k = .ok after := by
  have hk : k ∈ d.children p := by simp [h]
  have hlen := length_children_le hd.toLinked p
  rw [h, List.length_append, List.length_cons] at hlen
  exact (hd.leads h).followingSiblings (hd.lt_size_of_mem_children hk) (by omega)

end Arranged

/-! ## Documents grown node by node -/

/-- The links of a document agree: parents come before their children; a node is once among the
children of its parent, which ascend; the links to its neighbours are those to the nodes before and
after it there, and lead through the rest of the row; and a node without parent has no
neighbours. -/
structure LinksAgree (d : Document) : Prop where
  parent_lt : ∀ {h p}, d.parent? h = some p → p < h
  count_children : ∀ {h p}, d.parent? h = some p → (d.children p).count h = 1
  parent_of_mem : ∀ {p h}, h ∈ d.children p → d.parent? h = some p
  ascending : ∀ p, (d.children p).Pairwise (· < ·)
  beside : ∀ {p h before after}, d.children p = before ++ h :: after →
    d.prev? h = before.getLast? ∧ d.next? h = after.head?
  alone : ∀ {h}, d.parent? h = none → d.prev? h = none ∧ d.next? h = none
  following : ∀ {p h before after}, d.children p = before ++ h :: after →
    d.Leads (d.next? h) after ∧ d.followingSiblings h = .ok after
  following_alone : ∀ {h}, h < d.size → d.parent? h = none →
    d.Leads (d.next? h) [] ∧ d.followingSiblings h = .ok []

theorem Arranged.linksAgree (hd : d.Arranged) : d.LinksAgree where
  parent_lt := hd.parent_lt
  count_children hp :=
    List.count_eq_one_of_mem (nodup_children hd.toLinked _) (hd.mem_children_iff.2 hp)
  parent_of_mem hm := hd.mem_children_iff.1 hm
  ascending := hd.ascending
  beside := hd.beside
  alone := hd.alone
  following h := ⟨hd.leads h, hd.followingSiblings h⟩
  following_alone {h} hh hp := by
    have hl : d.Leads (d.next? h) [] := by
      rw [(hd.alone hp).2]
      exact .done
    exact ⟨hl, hl.followingSiblings hh (Nat.zero_le _)⟩

/-- A document becomes another by one new node. -/
def Adds (d d' : Document) : Prop := ∃ n, d.Accepts n ∧ d' = d.append n

theorem adds_append (hn : d.Accepts n) : Adds d (d.append n) := ⟨n, hn, rfl⟩

theorem adds_tail {d₀ : Document} (h : ReflTransGen Adds d₀ d) (hn : d.Accepts n) :
    ReflTransGen Adds d₀ (d.append n) := h.tail (adds_append hn)

theorem arranged_of_adds (hd : d.Arranged) (h : ReflTransGen Adds d d') : d'.Arranged := by
  induction h with
  | refl => exact hd
  | tail _ hstep ih =>
    obtain ⟨n, hn, rfl⟩ := hstep
    exact ih.append hn

/-- Numbering trees adds one node after the other, each below one that is there. -/
theorem adds_numberTrees {waiting : List (Markup.Tree × Nat)} (hw : ∀ x ∈ waiting, x.2 < d.size) :
    ReflTransGen Adds d (numberTrees waiting d) := by
  fun_induction numberTrees waiting d with
  | case1 d => exact .refl
  | case2 tag attrs children parent waiting d ih =>
    obtain ⟨hp, hw⟩ := List.forall_mem_cons.1 hw
    have hn : d.Accepts (nodeOf tag attrs parent) :=
      ⟨⟨rfl, rfl, rfl⟩, fun p hp' ↦ Option.some.inj hp' ▸ hp⟩
    refine .head (adds_append hn) (ih fun x hx ↦ ?_)
    rw [size_append]
    rcases List.mem_append.1 hx with hx | hx
    · obtain ⟨t, -, rfl⟩ := List.mem_map.1 hx
      exact Nat.lt_succ_self _
    · exact Nat.lt_succ_of_lt (hw x hx)
  | case3 data parent waiting d ih =>
    obtain ⟨hp, hw⟩ := List.forall_mem_cons.1 hw
    have hn : d.Accepts (textNode data parent) :=
      ⟨fresh_textNode data parent, fun p hp' ↦ Option.some.inj hp' ▸ hp⟩
    refine .head (adds_append hn) (ih fun x hx ↦ ?_)
    rw [size_append]
    exact Nat.lt_succ_of_lt (hw x hx)
  | case4 parent waiting d ih => exact ih (List.forall_mem_cons.1 hw).2

theorem adds_ofForest (f : Markup.Forest) : ReflTransGen Adds empty (ofForest f) := by
  have hn : empty.Accepts documentNode := ⟨⟨rfl, rfl, rfl⟩, fun p hp ↦ by cases hp⟩
  refine .head (adds_append hn) (adds_numberTrees fun x hx ↦ ?_)
  obtain ⟨t, -, rfl⟩ := List.mem_map.1 hx
  exact Nat.lt_succ_self 0

/-- Links are in order in whatever grew node by node from no document or from that of a page. -/
theorem arranged_of_start {d₀ : Document} (h₀ : d₀ = empty ∨ ∃ page, ofMarkup page = .ok d₀)
    (h : ReflTransGen Adds d₀ d) : d.Arranged := by
  refine arranged_of_adds .empty (ReflTransGen.trans ?_ h)
  obtain rfl | ⟨page, hpage⟩ := h₀
  · exact .refl
  · obtain ⟨f, -, rfl⟩ := exists_forest_of_ofMarkup hpage
    exact adds_ofForest f

/-- Whatever nodes are added to no document or to that of a page, and in whatever order below
whatever parents, the links agree, and the next node changes no others than it has to. -/
theorem linksAgree_of_adds {d₀ : Document}
    (h₀ : d₀ = empty ∨ ∃ page, ofMarkup page = .ok d₀) (h : ReflTransGen Adds d₀ d) :
    d.LinksAgree ∧
      ∀ n, d.Accepts n → d.appended n = .ok d.size ∧ d.Gains n (d.append n) := by
  have hd := arranged_of_start h₀ h
  exact ⟨hd.linksAgree, fun n hn ↦ ⟨appended_of_accepts hn, gains_append hd.toLinked hn⟩⟩

/-- Two rows of children that grow by turns, and a node without parent between them. -/
def byTurns : Document :=
  [documentNode, elementNode "a" [] 0, elementNode "b" [] 0, textNode "x" 1,
    { kind := .element, tag := "c" }, textNode "y" 0, textNode "z" 1].foldl append empty

theorem linksAgree_byTurns : ReflTransGen Adds empty byTurns ∧ byTurns.LinksAgree ∧
    byTurns.Gains (textNode "w" 4) (byTurns.append (textNode "w" 4)) := by
  have hrun : ReflTransGen Adds empty byTurns := by
    simp only [byTurns, List.foldl_cons, List.foldl_nil]
    iterate 7 refine adds_tail ?_ ⟨⟨rfl, rfl, rfl⟩, by decide⟩
    exact .refl
  obtain ⟨hlinks, hnext⟩ := linksAgree_of_adds (.inl rfl) hrun
  exact ⟨hrun, hlinks, (hnext _ ⟨fresh_textNode "w" 4, by decide⟩).2⟩

end InstanceCatalog.Document
