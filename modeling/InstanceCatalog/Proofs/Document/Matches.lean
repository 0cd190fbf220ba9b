import InstanceCatalog.Proofs.Document.Walks

/-! # What a search finds

Searches for the first match and for all matches share one loop.  What it finds is told by the
lineages of the matching nodes and by the order in which the nodes stand in their tree, which on a
page is that of their handles. -/

namespace InstanceCatalog.Document

open Relation

variable {d d₀ : Document} {m : Matcher} {r s k : Nat} {hs pending found : List Nat}
  {first : Option Nat}

/-! ## The loop -/

/-- The search with some nodes pending ends, and these are the nodes that it finds.  The nodes below
a match are pending like all others; but if one match is enough, nothing is taken after it. -/
inductive Seeks (d : Document) (m : Matcher) (enough : Bool) : List Nat → List Nat → Prop
  | done : d.Seeks m enough [] []
  | pass {h : Nat} {pending found : List Nat} : m d h = false →
    d.Seeks m enough (d.children h ++ pending) found → d.Seeks m enough (h :: pending) found
  | stop {h : Nat} {pending : List Nat} : m d h = true → enough = true →
    d.Seeks m enough (h :: pending) [h]
  | more {h : Nat} {pending found : List Nat} : m d h = true → enough = false →
    d.Seeks m enough (d.children h ++ pending) found → d.Seeks m enough (h :: pending) (h :: found)

theorem Visits.seeks_all (hv : d.Visits pending hs) (m : Matcher) :
    d.Seeks m false pending (hs.filter (m d)) := by
  induction hv with
  | done => exact .done
  | @step h pending hs _ ih =>
    cases hm : m d h with
    | false =>
      rw [List.filter_cons_of_neg (by simp [hm])]
      exact .pass hm ih
    | true =>
      rw [List.filter_cons_of_pos hm]
      exact .more hm rfl ih

theorem Visits.seeks_first (hv : d.Visits pending hs) (m : Matcher) :
    d.Seeks m true pending (hs.find? (m d)).toList := by
  induction hv with
  | done => exact .done
  | @step h pending hs _ ih =>
    cases hm : m d h with
    | false =>
      rw [List.find?_cons_of_neg (by simp [hm])]
      exact .pass hm ih
    | true =>
      rw [List.find?_cons_of_pos hm]
      exact .stop hm rfl

/-! ## The order of a tree -/

/-- One node comes before another: it stands above the other, or the two stand below different
children of one node, and its child comes first among them. -/
def Precedes (d : Document) (a b : Nat) : Prop :=
  (a ≠ b ∧ a ∈ d.lineage b) ∨
    ∃ p x y, [x, y].Sublist (d.children p) ∧ x ∈ d.lineage a ∧ y ∈ d.lineage b

theorem precedes_preorder (hd : d.Linked) (h : Nat) : (d.preorder h).Pairwise d.Precedes := by
  induction h using preorder.induct d with
  | case1 h ih =>
    rw [preorder_eq hd, List.pairwise_cons, List.pairwise_flatMap,
      List.pairwise_iff_forall_sublist]
    refine ⟨fun k hk ↦ .inl ?_, fun c hc ↦ ?_, fun {x y} hxy a ha b hb ↦ .inr ?_⟩
    · obtain ⟨c, hc, hk⟩ := List.mem_flatMap.1 hk
      have hlt := Nat.lt_of_lt_of_le (hd.lt_of_mem_children hc) (le_of_mem_preorder hd hk)
      have hmem := mem_preorder_of_mem_children hd hc hk
      exact ⟨Nat.ne_of_lt hlt, (mem_preorder_iff hd).1 hmem⟩
    · exact ih c ⟨hd.lt_of_mem_children hc, hd.lt_size_of_mem_children hc⟩
    · exact ⟨h, x, y, hxy, (mem_preorder_iff hd).1 ha, (mem_preorder_iff hd).1 hb⟩

/-- What the walk down visits of a subtree, it visits on end. -/
theorem infix_preorder (hd : d.Linked) (hs : r ∈ d.lineage s) :
    d.preorder s <:+: d.preorder r := by
  induction s using Nat.strongRecOn with
  | ind s ih =>
    cases hp : d.parent? s with
    | none =>
      rw [lineage_of_orphan hp, List.mem_singleton] at hs
      exact hs ▸ List.infix_rfl
    | some p =>
      rw [mem_lineage_of_parent? hd hp] at hs
      rcases hs with rfl | hs
      · exact List.infix_rfl
      · have hchild : d.preorder s <:+: (d.children p).flatMap d.preorder :=
          List.infix_flatMap_of_mem (hd.mem_children_iff.2 hp) _
        have hrow : (d.children p).flatMap d.preorder <:+ d.preorder p := by
          rw [preorder_eq hd p]
          exact List.suffix_cons _ _
        exact (hchild.trans hrow.isInfix).trans (ih p (hd.parent_lt hp) hs)

/-- Of the nodes of a subtree, those that stand below one of them are the subtree of that one. -/
theorem filter_preorder (hd : d.Linked) (hs : r ∈ d.lineage s) :
    (d.preorder r).filter (fun k ↦ decide (s ∈ d.lineage k)) = d.preorder s := by
  obtain ⟨before, after, hsplit⟩ := infix_preorder hd hs
  have hnodup := nodup_preorder hd r
  rw [← hsplit, List.append_assoc, List.nodup_append, List.nodup_append] at hnodup
  obtain ⟨-, ⟨-, -, hafter⟩, hbefore⟩ := hnodup
  have hin : ∀ k, decide (s ∈ d.lineage k) = true ↔ k ∈ d.preorder s := fun k ↦
    decide_eq_true_iff.trans (mem_preorder_iff hd).symm
  have hnone : before.filter (fun k ↦ decide (s ∈ d.lineage k)) = [] ∧
      after.filter (fun k ↦ decide (s ∈ d.lineage k)) = [] := by
    constructor <;> refine List.filter_eq_nil_iff.2 fun k hk hks ↦ ?_
    · exact hbefore k hk k (List.mem_append_left _ ((hin k).1 hks)) rfl
    · exact hafter k ((hin k).1 hks) k hk rfl
  have hall : (d.preorder s).filter (fun k ↦ decide (s ∈ d.lineage k)) = d.preorder s :=
    List.filter_eq_self.2 fun k hk ↦ (hin k).2 hk
  rw [← hsplit, List.filter_append, List.filter_append, hnone.1, hnone.2, hall, List.nil_append,
    List.append_nil]

/-! ## Searches -/

theorem mem_ancestors_iff (hd : d.Linked) :
    (∃ ks, d.ancestors k = .ok ks ∧ r ∈ ks) ↔ k < d.size ∧ r ∈ d.lineage k := by
  constructor
  · rintro ⟨ks, hks, hr⟩
    rw [ancestors] at hks
    split at hks
    · rename_i hall
      obtain rfl := Except.ok.inj hks
      exact ⟨of_decide_eq_true (List.all_eq_true.1 hall k (mem_lineage_self d k)), hr⟩
    · cases hks
  · rintro ⟨hk, hr⟩
    exact ⟨_, ancestors_eq hd hk, hr⟩

theorem findAll_eq (hd : d.Linked) (hr : r < d.size) (m : Matcher) :
    d.findAll r m = .ok ((d.preorder r).filter (m d)) := by
  rw [findAll, descendants_eq hd hr]
  rfl

theorem findAll_eq_ok_iff (hd : d.Linked) :
    d.findAll r m = .ok found ↔ r < d.size ∧ found = (d.preorder r).filter (m d) := by
  constructor
  · intro h
    have hr : r < d.size := by
      by_contra hle
      rw [findAll, descendants, get, node?_eq_none_iff.2 (Nat.not_lt.1 hle)] at h
      cases h
    rw [findAll_eq hd hr] at h
    exact ⟨hr, (Except.ok.inj h).symm⟩
  · rintro ⟨hr, rfl⟩
    exact findAll_eq hd hr m

/-- A search from a node below finds some of what one from above finds, in the same order. -/
theorem findAll_sublist (hd : d.Linked) (hs : r ∈ d.lineage s) {above below : List Nat}
    (habove : d.findAll r m = .ok above) (hbelow : d.findAll s m = .ok below) :
    below.Sublist above := by
  obtain ⟨-, rfl⟩ := (findAll_eq_ok_iff hd).1 habove
  obtain ⟨-, rfl⟩ := (findAll_eq_ok_iff hd).1 hbelow
  exact (infix_preorder hd hs).sublist.filter _

theorem findFirst_eq (hd : d.Linked) (hr : r < d.size) (m : Matcher) :
    d.findFirst r m = .ok ((d.preorder r).find? (m d)) := by
  rw [findFirst, descendants_eq hd hr]
  rfl

/-- What the searches below a node come to.  All that is found are the matching nodes that have the
node in their lineage, each once and in the order of the tree, and the first that is found is the
first of them, if there is any.  To search from a node below is to find those of them that stand
below that one. -/
structure Finds (d : Document) (r : Nat) (m : Matcher) (found : List Nat) (first : Option Nat) :
    Prop where
  findAll_eq : d.findAll r m = .ok found
  findFirst_eq : d.findFirst r m = .ok first
  seeks_all : d.Seeks m false [r] found
  seeks_first : d.Seeks m true [r] first.toList
  mem_iff : ∀ k, k ∈ found ↔ m d k = true ∧ ∃ ks, d.ancestors k = .ok ks ∧ r ∈ ks
  nodup : found.Nodup
  precedes : found.Pairwise d.Precedes
  first_eq : first = found.head?
  within : ∀ s ks, d.ancestors s = .ok ks → r ∈ ks →
    d.findAll s m = .ok (found.filter fun k ↦ decide (s ∈ d.lineage k))

/-- What is found stands in the order of the handles, and the first is the least of them. -/
structure Ascends (found : List Nat) (first : Option Nat) : Prop where
  ascending : found.Pairwise (· < ·)
  least : ∀ k, first = some k ↔ k ∈ found ∧ ∀ j ∈ found, k ≤ j

theorem Linked.finds (hd : d.Linked) (hr : r < d.size) (m : Matcher) :
    d.Finds r m ((d.preorder r).filter (m d)) ((d.preorder r).find? (m d)) where
  findAll_eq := Document.findAll_eq hd hr m
  findFirst_eq := Document.findFirst_eq hd hr m
  seeks_all := (visits_preorder hd r).seeks_all m
  seeks_first := (visits_preorder hd r).seeks_first m
  mem_iff k := by
    rw [List.mem_filter, mem_ancestors_iff hd, and_comm]
    refine and_congr_right fun _ ↦ ⟨fun hk ↦ ?_, fun hk ↦ (mem_preorder_iff hd).2 hk.2⟩
    exact ⟨lt_size_of_mem_preorder hd hr hk, (mem_preorder_iff hd).1 hk⟩
  nodup := (nodup_preorder hd r).filter _
  precedes := (precedes_preorder hd r).filter _
  first_eq := List.head?_filter.symm
  within s ks hks hmem := by
    obtain ⟨hs, hmem⟩ := (mem_ancestors_iff hd).1 ⟨ks, hks, hmem⟩
    rw [Document.findAll_eq hd hs, List.filter_comm, filter_preorder hd hmem]

theorem ascends_of_pairwise (h : found.Pairwise (· < ·)) : Ascends found found.head? where
  ascending := h
  least k := by
    cases found with
    | nil => simp
    | cons a found =>
      have hlt : ∀ j ∈ found, a < j := fun j hj ↦ List.rel_of_pairwise_cons h hj
      have hle : ∀ j ∈ a :: found, a ≤ j :=
        List.forall_mem_cons.2 ⟨Nat.le_refl a, fun j hj ↦ Nat.le_of_lt (hlt j hj)⟩
      rw [List.head?_cons, Option.some_inj]
      constructor
      · rintro rfl
        exact ⟨List.mem_cons_self, hle⟩
      · rintro ⟨hk, hleast⟩
        exact Nat.le_antisymm (hle k hk) (hleast a List.mem_cons_self)

theorem ascending_preorder_ofForest {f : Markup.Forest} (hr : r < (ofForest f).size) :
    ((ofForest f).preorder r).Pairwise (· < ·) := by
  obtain ⟨g, hg⟩ := exists_carries_ofForest hr
  rw [hg.preorder_eq (linked_ofForest f)]
  exact List.pairwise_lt_range' 1

/-- Whatever nodes are added to no document or to that of a page, each search below a node ends and
finds exactly the matching nodes of its subtree; and on a page it finds them in the order of their
handles. -/
theorem exists_finds_of_adds (h₀ : d₀ = empty ∨ ∃ page, ofMarkup page = .ok d₀)
    (h : ReflTransGen Adds d₀ d) (hr : r < d.size) (m : Matcher) :
    ∃ found first, d.Finds r m found first ∧
      ∀ page, ofMarkup page = .ok d → Ascends found first := by
  have hd := (arranged_of_start h₀ h).toLinked
  refine ⟨_, _, hd.finds hr m, fun page hpage ↦ ?_⟩
  obtain ⟨f, -, rfl⟩ := exists_forest_of_ofMarkup hpage
  rw [← List.head?_filter]
  exact ascends_of_pairwise ((ascending_preorder_ofForest hr).filter _)

/-- A row in a row, of which the cells are added after a cell beside both. -/
def lateCells : Document :=
  [documentNode, elementNode "tr" [] 0, elementNode "td" [] 0, elementNode "tr" [] 1,
    elementNode "td" [] 3, elementNode "td" [] 1].foldl append empty

theorem exists_finds_lateCells : ReflTransGen Adds empty lateCells ∧ root < lateCells.size ∧
    lateCells.Finds root (byTag "td") [4, 5, 2] (some 4) ∧
    ∃ d found first, ofMarkup openItems = .ok d ∧ 1 < d.size ∧
      d.Finds 1 (byTag "li") found first ∧ Ascends found first := by
  have hrun : ReflTransGen Adds empty lateCells := by
    simp only [lateCells, List.foldl_cons, List.foldl_nil]
    iterate 6 refine adds_tail ?_ ⟨⟨rfl, rfl, rfl⟩, by decide⟩
    exact .refl
  have hsize : root < lateCells.size := by decide
  have hcells : (lateCells.findAll root (byTag "td")).toOption = some [4, 5, 2] := by
    decide +kernel
  obtain ⟨found, first, hfinds, -⟩ := exists_finds_of_adds (.inl rfl) hrun hsize (byTag "td")
  rw [hfinds.findAll_eq] at hcells
  obtain rfl : found = [4, 5, 2] := Option.some.inj hcells
  obtain rfl := hfinds.first_eq
  have heval : (ofMarkup openItems).toOption.map size = some 8 := by decide +kernel
  cases hd : ofMarkup openItems with
  | error e => rw [hd] at heval; cases heval
  | ok d =>
    rw [hd] at heval
    have hone : 1 < d.size := by
      rw [show d.size = 8 from Option.some.inj heval]
      decide
    obtain ⟨found, first, hfinds', hascends⟩ :=
      exists_finds_of_adds (.inr ⟨openItems, hd⟩) .refl hone (byTag "li")
    exact ⟨hrun, hsize, hfinds, d, found, first, rfl, hone, hfinds', hascends openItems hd⟩

end InstanceCatalog.Document
