import InstanceCatalog.Proofs.Document.Neighbours
import InstanceCatalog.Proofs.Document.Readback

/-! # Walks

The walk down from a node and the walk up from it, as loops that are not told how many steps they
may take.  Both end in every document that grew node by node: the first because all that is pending
at any time are subtrees without a node in common, the second because parents come before their
children. -/

namespace InstanceCatalog.Document

open Relation

variable {d d₀ : Document} {h k : Nat} {hs : List Nat}

/-! ## Down -/

theorem mapM_descendants (hd : d.Linked) (hlt : ∀ h ∈ hs, h < d.size) :
    hs.mapM d.descendants = .ok (hs.map d.preorder) := by
  induction hs with
  | nil => rfl
  | cons h hs ih =>
    obtain ⟨hh, hlt⟩ := List.forall_mem_cons.1 hlt
    rw [List.mapM_cons, descendants_eq hd hh, ih hlt]
    rfl

/-! ## Up -/

/-- The walk up from a node, if there is one, ends, and these are the nodes that it comes to. -/
inductive Climbs (d : Document) : Option Nat → List Nat → Prop
  | done : d.Climbs none []
  | step {h : Nat} {hs : List Nat} : d.Climbs (d.parent? h) hs → d.Climbs (some h) (h :: hs)

theorem climbs_lineage (hd : d.Linked) (h : Nat) : d.Climbs (some h) (d.lineage h) := by
  induction h using Nat.strongRecOn with
  | ind h ih =>
    cases hp : d.parent? h with
    | none =>
      rw [lineage_of_orphan hp]
      exact .step (hp ▸ .done)
    | some p =>
      rw [lineage_of_parent? hd hp]
      exact .step (hp ▸ ih p (hd.parent_lt hp))

theorem lineage_descends (hd : d.Linked) (h : Nat) : (d.lineage h).Pairwise (· > ·) := by
  induction h using Nat.strongRecOn with
  | ind h ih =>
    cases hp : d.parent? h with
    | none =>
      rw [lineage_of_orphan hp]
      exact List.pairwise_singleton _ _
    | some p =>
      rw [lineage_of_parent? hd hp]
      have hlt := hd.parent_lt hp
      refine List.pairwise_cons.2 ⟨fun a ha ↦ ?_, ih p hlt⟩
      exact Nat.lt_of_le_of_lt (le_of_mem_lineage hd ha) hlt

/-- A walk up stops at a node that has no parent, and at no other. -/
theorem Climbs.exists_top {h : Nat} (hc : d.Climbs (some h) hs) :
    ∃ top, hs.getLast? = some top ∧ d.parent? top = none := by
  generalize ho : some h = o at hc
  induction hc generalizing h with
  | done => cases ho
  | @step k hs hc ih =>
    cases hp : d.parent? k with
    | none =>
      rw [hp] at hc
      cases hc
      exact ⟨k, rfl, hp⟩
    | some p =>
      obtain ⟨top, htop, hnone⟩ := ih hp.symm
      refine ⟨top, ?_, hnone⟩
      rw [List.getLast?_cons, htop]
      rfl

theorem ancestors_eq (hd : d.Linked) (hh : h < d.size) : d.ancestors h = .ok (d.lineage h) := by
  refine if_pos (List.all_eq_true.2 fun k hk ↦ decide_eq_true ?_)
  exact Nat.lt_of_le_of_lt (le_of_mem_lineage hd hk) hh

/-! ## Both walks -/

/-- The walks of a document agree.  Down from a node the walk ends and visits, each node once, the
node itself and then what it visits down from each child, in the order of the children.  Up from a
node it ends, leads to ever earlier nodes and stops at one without parent.  And it leads down from
one node to another if and only if it leads up from the other to the one. -/
structure WalksAgree (d : Document) : Prop where
  down : ∀ h < d.size, ∃ hs below, d.Visits [h] hs ∧ d.descendants h = .ok hs ∧ hs.Nodup ∧
    (d.children h).mapM d.descendants = .ok below ∧ hs = h :: below.flatten
  up : ∀ h < d.size, ∃ hs top, d.Climbs (some h) hs ∧ d.ancestors h = .ok hs ∧
    hs.Pairwise (· > ·) ∧ hs.getLast? = some top ∧ d.parent? top = none
  mem_iff : ∀ {h k hs ks}, d.descendants h = .ok hs → d.ancestors k = .ok ks →
    (k ∈ hs ↔ h ∈ ks)

/-- The nodes stand in one tree: each walk up ends at the document node, and the walk down from
there visits all nodes in the order of their handles. -/
structure OneTree (d : Document) : Prop where
  up : ∀ h < d.size, ∃ hs, d.ancestors h = .ok hs ∧ hs.getLast? = some root
  down : d.descendants root = .ok (List.range d.size)

theorem Linked.walksAgree (hd : d.Linked) : d.WalksAgree where
  down h hh := by
    refine ⟨_, _, visits_preorder hd h, descendants_eq hd hh, nodup_preorder hd h,
      mapM_descendants hd fun c hc ↦ hd.lt_size_of_mem_children hc, ?_⟩
    rw [preorder_eq hd, List.flatMap]
  up h hh := by
    obtain ⟨top, htop, hnone⟩ := (climbs_lineage hd h).exists_top
    exact ⟨_, top, climbs_lineage hd h, ancestors_eq hd hh, lineage_descends hd h, htop, hnone⟩
  mem_iff {h k hs ks} hdown hup := by
    have hh : h < d.size := by
      by_contra hle
      rw [descendants, get, node?_eq_none_iff.2 (Nat.not_lt.1 hle)] at hdown
      cases hdown
    have hks : d.lineage k = ks := by
      rw [ancestors] at hup
      split at hup
      · exact Except.ok.inj hup
      · cases hup
    rw [descendants_eq hd hh] at hdown
    rw [← Except.ok.inj hdown, ← hks, mem_preorder_iff hd]

theorem preorder_root_ofForest (f : Markup.Forest) :
    (ofForest f).preorder root = List.range (ofForest f).size := by
  have hrow := flatMap_preorder_roots (linked_ofForest f) (shows_ofForest f)
  rw [preorder_eq (linked_ofForest f), children_of_node? (node?_root_ofForest f), hrow,
    size_ofForest, List.range_eq_range', Nat.add_comm, List.range'_succ]
  rfl

theorem oneTree_ofForest (f : Markup.Forest) : (ofForest f).OneTree := by
  have hd := linked_ofForest f
  refine ⟨fun h hh ↦ ⟨_, ancestors_eq hd hh, ?_⟩, ?_⟩
  · have hroot : root ∈ (ofForest f).lineage h := by
      rw [← mem_preorder_iff hd, preorder_root_ofForest]
      exact List.mem_range.2 hh
    -- no node comes before the document node, so it is the last of nodes that go down
    obtain ⟨above, htop⟩ : ∃ above, (ofForest f).lineage h = above ++ [root] := by
      obtain ⟨above, after, hsplit⟩ := List.append_of_mem hroot
      have hlast := (hsplit ▸ lineage_descends hd h).sublist (List.sublist_append_right _ _)
      rw [List.pairwise_cons] at hlast
      cases after with
      | nil => exact ⟨above, hsplit⟩
      | cons a after => exact absurd (hlast.1 a List.mem_cons_self) (Nat.not_lt_zero a)
    rw [htop, List.getLast?_concat]
  · have hsize : root < (ofForest f).size := by
      rw [size_ofForest, Nat.add_comm]
      exact Nat.succ_pos _
    rw [descendants_eq hd hsize, preorder_root_ofForest]

/-- Whatever nodes are added to no document or to that of a page, and in whatever order below
whatever parents, the walks agree; and the document of a page is one tree. -/
theorem walksAgree_of_adds (h₀ : d₀ = empty ∨ ∃ page, ofMarkup page = .ok d₀)
    (h : ReflTransGen Adds d₀ d) :
    d.WalksAgree ∧ ∀ page, ofMarkup page = .ok d → d.OneTree := by
  have hd := (arranged_of_start h₀ h).toLinked
  refine ⟨hd.walksAgree, fun page hpage ↦ ?_⟩
  obtain ⟨f, -, rfl⟩ := exists_forest_of_ofMarkup hpage
  exact oneTree_ofForest f

/-- A list of which no item is closed. -/
def openItems : String := "<ul><li>a<li><b>c</b></ul>d"

/-- A node beside the tree of a page, and one below an early element of that tree. -/
def outgrown (d : Document) : Document :=
  (d.append { kind := .element, tag := "p" }).append (textNode "e" 2)

theorem walksAgree_openItems : ∃ d, ofMarkup openItems = .ok d ∧ d.WalksAgree ∧ d.OneTree ∧
    ReflTransGen Adds d d.outgrown ∧ d.outgrown.WalksAgree := by
  have heval : (ofMarkup openItems).toOption.map size = some 8 := by decide +kernel
  cases hd : ofMarkup openItems with
  | error e => rw [hd] at heval; cases heval
  | ok d =>
    rw [hd] at heval
    have hsize : d.size = 8 := Option.some.inj heval
    have hrun : ReflTransGen Adds d d.outgrown := by
      refine adds_tail (adds_tail .refl ⟨⟨rfl, rfl, rfl⟩, nofun⟩) ⟨⟨rfl, rfl, rfl⟩, ?_⟩
      rintro p ⟨⟩
      rw [size_append, hsize]
      decide
    obtain ⟨hwalks, htree⟩ := walksAgree_of_adds (.inr ⟨openItems, hd⟩) .refl
    exact ⟨d, rfl, hwalks, htree openItems hd, hrun,
      (walksAgree_of_adds (.inr ⟨openItems, hd⟩) hrun).1⟩

end InstanceCatalog.Document
