import InstanceCatalog.Proofs.Document.Neighbours
import InstanceCatalog.Proofs.Document.Places
import InstanceCatalog.Proofs.Document.Readback
import Mathlib.Data.List.Sort

/-! # Documents that agree up to a node

Two pages may be the same up to some node and differ in what comes later.  Their documents then
share the nodes up to that one, and each shared node differs at most in its links to children and
neighbours.  A search that ends among the shared nodes, the way up from one of them and the part of
a row of children that ends with one of them are the same in both documents, and so is the section,
if its table block is among them. -/

namespace InstanceCatalog

/-- A node without its links to children and neighbours. -/
def Node.bare (n : Node) : Node := { n with children := [], prev := none, next := none }

namespace Document

open Markup

variable {d d' : Document} {f g : Forest} {anchor : String} {wanted : List String}
variable {w v k p h : Nat} {prev prev' : Option Nat}

/-- The nodes up to a handle are the same, but for links to children and neighbours. -/
def AgreeTo (d d' : Document) (w : Nat) : Prop :=
  ∀ k ≤ w, (d.node? k).map Node.bare = (d'.node? k).map Node.bare

namespace AgreeTo

variable (ha : d.AgreeTo d' w)

include ha

theorem mono (hv : v ≤ w) : d.AgreeTo d' v := fun k hk ↦ ha k (Nat.le_trans hk hv)

/-- Both documents lack a node, or both have it, and what is not such a link is the same. -/
theorem node?_cases (hk : k ≤ w) : (d.node? k = none ∧ d'.node? k = none) ∨
    ∃ n n', d.node? k = some n ∧ d'.node? k = some n' ∧
      n.kind = n'.kind ∧ n.attrs = n'.attrs ∧ n.parent = n'.parent := by
  have hk' := ha k hk
  cases hn : d.node? k with
  | none =>
    rw [hn] at hk'
    exact .inl ⟨rfl, Option.map_eq_none_iff.1 hk'.symm⟩
  | some n =>
    rw [hn] at hk'
    obtain ⟨n', hn', heq⟩ := Option.map_eq_some_iff.1 hk'.symm
    have hkind : n'.bare.kind = n.bare.kind := congrArg Node.kind heq
    have hattrs : n'.bare.attrs = n.bare.attrs := congrArg Node.attrs heq
    have hparent : n'.bare.parent = n.bare.parent := congrArg Node.parent heq
    exact .inr ⟨n, n', rfl, hn', hkind.symm, hattrs.symm, hparent.symm⟩

theorem parent?_eq (hk : k ≤ w) : d'.parent? k = d.parent? k := by
  obtain ⟨hn, hn'⟩ | ⟨n, n', hn, hn', -, -, hparent⟩ := ha.node?_cases hk
  · rw [parent?, parent?, hn, hn']
  · rw [parent?, parent?, hn, hn', Option.bind_some, Option.bind_some, hparent]

theorem byAttr_eq (key value : String) (hk : k ≤ w) :
    byAttr key value d' k = byAttr key value d k := by
  obtain ⟨hn, hn'⟩ | ⟨n, n', hn, hn', hkind, hattrs, -⟩ := ha.node?_cases hk
  · simp only [byAttr, hn, hn']
  · simp only [byAttr, hn, hn', hkind, hattrs]

theorem get_map_attrs_eq (hk : k ≤ w) : (d'.get k).map Node.attrs = (d.get k).map Node.attrs := by
  obtain ⟨hn, hn'⟩ | ⟨n, n', hn, hn', -, hattrs, -⟩ := ha.node?_cases hk
  · simp only [get, hn, hn']
  · simp only [get, hn, hn', Except.map, hattrs]

theorem lt_size (hk : k ≤ w) (hlt : k < d.size) : k < d'.size := by
  obtain ⟨n, hn⟩ := exists_node? hlt
  obtain ⟨hnone, -⟩ | ⟨_, n', -, hn', -⟩ := ha.node?_cases hk
  · rw [hn] at hnone
    cases hnone
  · exact lt_size_of_node? hn'

theorem hasClasses_eq (hk : k ≤ w) : d'.hasClasses wanted k = d.hasClasses wanted k := by
  have hattrs := ha.get_map_attrs_eq hk
  rw [hasClasses, hasClasses, classWords, classWords, attr, attr]
  revert hattrs
  cases d.get k with
  | error e =>
    cases d'.get k with
    | error e' => intro hattrs; cases hattrs; rfl
    | ok n' => intro hattrs; cases hattrs
  | ok n =>
    cases d'.get k with
    | error e' => intro hattrs; cases hattrs
    | ok n' =>
      intro hattrs
      have hn : n'.attrs = n.attrs := Except.ok.inj hattrs
      simp only [Except.map, hn]

theorem lineage_eq (hd : d.Linked) (hd' : d'.Linked) (hk : k ≤ w) :
    d'.lineage k = d.lineage k := by
  induction k using Nat.strongRecOn with
  | ind k ih =>
    have hparent := ha.parent?_eq hk
    cases hp : d.parent? k with
    | none => rw [lineage_of_orphan hp, lineage_of_orphan (hparent.trans hp)]
    | some p =>
      have hlt := hd.parent_lt hp
      rw [lineage_of_parent? hd hp, lineage_of_parent? hd' (hparent.trans hp),
        ih p hlt (Nat.le_trans (Nat.le_of_lt hlt) hk)]

end AgreeTo

/-! ## Rows of children -/

/-- The children before a child are those with smaller handles. -/
theorem mem_before_iff (hd : d.Linked) {before after : List Nat}
    (hrow : d.children p = before ++ k :: after) {c : Nat} :
    c ∈ before ↔ c ∈ d.children p ∧ c < k := by
  have hascending := hd.ascending p
  rw [hrow, List.pairwise_append, List.pairwise_cons] at hascending
  obtain ⟨-, ⟨hafter, -⟩, hbefore⟩ := hascending
  rw [hrow, List.mem_append, List.mem_cons]
  constructor
  · intro hc
    exact ⟨.inl hc, hbefore c hc k List.mem_cons_self⟩
  · rintro ⟨hc | rfl | hc, hlt⟩
    · exact hc
    · exact absurd hlt (Nat.lt_irrefl _)
    · exact absurd (hafter c hc) (Nat.lt_asymm hlt)

/-- A row of children is the same up to a shared node. -/
theorem AgreeTo.row (ha : d.AgreeTo d' k) (hd : d.Linked) (hd' : d'.Linked)
    {before after : List Nat} (hrow : d.children p = before ++ k :: after) :
    ∃ after', d'.children p = before ++ k :: after' := by
  have hmem {c : Nat} (hc : c ≤ k) : c ∈ d'.children p ↔ c ∈ d.children p := by
    rw [hd'.mem_children_iff, hd.mem_children_iff, ha.parent?_eq hc]
  have hk : k ∈ d'.children p := (hmem (Nat.le_refl k)).2 (by simp [hrow])
  obtain ⟨before', after', hrow'⟩ := List.append_of_mem hk
  have hbefore : before' = before := by
    have hascending := hd.ascending p
    have hascending' := hd'.ascending p
    rw [hrow, List.pairwise_append] at hascending
    rw [hrow', List.pairwise_append] at hascending'
    refine hascending'.1.eq_of_mem_iff hascending.1 fun c ↦ ?_
    rw [mem_before_iff hd hrow, mem_before_iff hd' hrow']
    exact and_congr_left fun hc ↦ hmem (Nat.le_of_lt hc)
  exact ⟨after', by rw [hrow', hbefore]⟩

/-- Nodes after a node are in the same row of children. -/
theorem Arranged.row_of_followingSiblings (hd : d.Arranged) {hs : List Nat}
    (h : d.followingSiblings k = .ok hs) (hne : hs ≠ []) :
    ∃ p before, d.children p = before ++ k :: hs := by
  cases hn : d.node? k with
  | none => simp only [Document.followingSiblings, get, hn] at h; cases h
  | some n =>
    have hk := lt_size_of_node? hn
    cases hp : d.parent? k with
    | none =>
      rw [(hd.linksAgree.following_alone hk hp).2] at h
      exact absurd (Except.ok.inj h).symm hne
    | some p =>
      obtain ⟨before, after, hrow⟩ := List.append_of_mem (hd.mem_children_iff.2 hp)
      rw [hd.followingSiblings hrow] at h
      exact ⟨p, before, Except.ok.inj h ▸ hrow⟩

/-! ## Documents of forests -/

/-- Between a node and one below it there are only nodes below it. -/
theorem mem_lineage_of_between (hh : h ∈ (ofForest f).lineage v) (hv : v < (ofForest f).size)
    (hhk : h ≤ k) (hkv : k ≤ v) : h ∈ (ofForest f).lineage k := by
  have hle := le_of_mem_lineage (linked_ofForest f) hh
  have hiff := (numbers_ofForest f).mem_lineage_iff h (Nat.lt_of_le_of_lt hle hv)
  have hlt := ((hiff v).1 hh).2
  exact (hiff k).2 ⟨hhk, Nat.lt_of_le_of_lt hkv hlt⟩

/-- What stands below a node is numbered before the neighbours after it. -/
theorem lt_of_mem_lineage_of_lt (hp : (ofForest f).parent? h = some p)
    (hw : (ofForest f).parent? w = some p) (hlt : h < w) (hv : v < (ofForest f).size)
    (hh : h ∈ (ofForest f).lineage v) : v < w := by
  have hd := linked_ofForest f
  by_contra hge
  have hmem := mem_lineage_of_between hh hv (Nat.le_of_lt hlt) (Nat.not_lt.1 hge)
  rw [mem_lineage_of_parent? hd hw] at hmem
  rcases hmem with rfl | hmem
  · exact Nat.lt_irrefl _ hlt
  · -- the parent is no child of its own child
    exact absurd (hd.parent_lt hp) (Nat.not_lt.2 (le_of_mem_lineage hd hmem))

/-- Two documents show the same row from the same handle on. -/
theorem bare_eq_of_shows (hs : d.Shows p prev k f) (hs' : d'.Shows p prev' k f) (hle : k ≤ h)
    (hlt : h < k + f.size) : (d.node? h).map Node.bare = (d'.node? h).map Node.bare := by
  induction f generalizing p prev prev' k with
  | nil => exact absurd hlt (Nat.not_lt.2 hle)
  | element t as cs rest ihc ihr =>
    obtain ⟨hn, hc, hr⟩ := hs
    obtain ⟨hn', hc', hr'⟩ := hs'
    rw [Forest.size] at hlt
    rcases Nat.eq_or_lt_of_le hle with rfl | hle
    · rw [hn, hn']; rfl
    · rcases Nat.lt_or_ge h (k + 1 + cs.size) with hin | hout
      · exact ihc hc hc' hle hin
      · exact ihr hr hr' hout (by omega)
  | text s rest ih =>
    obtain ⟨hn, hr⟩ := hs
    obtain ⟨hn', hr'⟩ := hs'
    rw [Forest.size] at hlt
    rcases Nat.eq_or_lt_of_le hle with rfl | hle
    · rw [hn, hn']; rfl
    · exact ih hr hr' hle (by omega)
  | hidden rest ih => exact ih hs hs' hle hlt

/-- Documents of forests share the document node, so it is enough that they share the others. -/
theorem agreeTo_ofForest
    (h : ∀ k, 1 ≤ k → k ≤ w →
      ((ofForest f).node? k).map Node.bare = ((ofForest g).node? k).map Node.bare) :
    (ofForest f).AgreeTo (ofForest g) w := by
  intro k hk
  rcases Nat.eq_zero_or_pos k with rfl | hpos
  · have hf : (ofForest f).node? 0 = _ := node?_root_ofForest f
    have hg : (ofForest g).node? 0 = _ := node?_root_ofForest g
    rw [hf, hg]; rfl
  · exact h k hpos hk

end Document

namespace Section

open Document

variable {d d' : Document} {f g : Markup.Forest} {anchor : String} {wanted : List String}
variable {w : Nat} {hs : List Nat} {o : Option Nat}

theorem firstWith_congr (h : ∀ k ∈ hs, d'.hasClasses wanted k = d.hasClasses wanted k) :
    firstWith d' wanted hs = firstWith d wanted hs := by
  induction hs with
  | nil => rfl
  | cons k hs ih =>
    rw [List.forall_mem_cons] at h
    rw [firstWith, firstWith, h.1, ih h.2]

/-- What is found is the first of the nodes with the classes. -/
theorem append_of_firstWith (h : firstWith d wanted hs = .ok (some w)) :
    ∃ before after, hs = before ++ w :: after ∧
      (∀ b ∈ before, d.hasClasses wanted b = .ok false) ∧ d.hasClasses wanted w = .ok true := by
  induction hs with
  | nil => cases h
  | cons k hs ih =>
    rw [firstWith] at h
    cases hk : d.hasClasses wanted k with
    | error e => rw [hk] at h; cases h
    | ok b =>
      rw [hk] at h
      cases b with
      | true =>
        cases h
        exact ⟨[], hs, rfl, by simp, hk⟩
      | false =>
        obtain ⟨before, after, rfl, hbefore, hw⟩ := ih h
        exact ⟨k :: before, after, rfl, List.forall_mem_cons.2 ⟨hk, hbefore⟩, hw⟩

theorem firstWith_append {before : List Nat}
    (hbefore : ∀ b ∈ before, d.hasClasses wanted b = .ok false)
    (hw : d.hasClasses wanted w = .ok true) (after : List Nat) :
    firstWith d wanted (before ++ w :: after) = .ok (some w) := by
  induction before with
  | nil => rw [List.nil_append, firstWith, hw]; rfl
  | cons b before ih =>
    rw [List.forall_mem_cons] at hbefore
    rw [List.cons_append, firstWith, hbefore.1]
    exact ih hbefore.2

/-- A section is located in three steps, each of which finds something. -/
theorem locate_eq_ok_iff : locate d anchor = .ok w ↔ ∃ a h hs,
    d.findFirst root (byAttr "id" anchor) = .ok (some a) ∧
    firstWith d headerClasses (d.lineage a) = .ok (some h) ∧
    d.followingSiblings h = .ok hs ∧ firstWith d tableClasses hs = .ok (some w) := by
  constructor
  · intro hw
    rw [locate] at hw
    rcases ha : d.findFirst root (byAttr "id" anchor) with e | (_ | a)
    · rw [ha] at hw; cases hw
    · rw [ha] at hw; cases hw
    rw [ha] at hw
    rcases hh : firstWith d headerClasses (d.lineage a) with e | (_ | h)
    · simp only [bind, Except.bind, hh] at hw; cases hw
    · simp only [bind, Except.bind, hh] at hw; cases hw
    rcases hs : d.followingSiblings h with e | hs'
    · simp only [bind, Except.bind, hh, hs] at hw; cases hw
    rcases ht : firstWith d tableClasses hs' with e | (_ | t)
    · simp only [bind, Except.bind, hh, hs, ht] at hw; cases hw
    · simp only [bind, Except.bind, hh, hs, ht] at hw; cases hw
    simp only [bind, Except.bind, hh, hs, ht] at hw
    cases hw
    exact ⟨a, h, hs', rfl, hh, hs, ht⟩
  · rintro ⟨a, h, hs, ha, hh, hs', ht⟩
    simp only [locate, bind, Except.bind, ha, hh, hs', ht]
    rfl

/-- The element with an id is the first one in the order of handles. -/
theorem findFirst_eq_some_iff {a : Nat} :
    (Document.ofForest f).findFirst root (byAttr "id" anchor) = .ok (some a) ↔
      byAttr "id" anchor (Document.ofForest f) a = true ∧
        (1 ≤ a ∧ a < (Document.ofForest f).size) ∧
        ∀ j, 1 ≤ j → j < a → byAttr "id" anchor (Document.ofForest f) j = false := by
  rw [findFirst_ofForest, Except.ok.injEq, List.find?_range'_eq_some, List.mem_range'_1,
    size_ofForest]
  simp only [Bool.not_eq_true']

/-- Whatever comes after the start of the table block, the section is found where it was. -/
theorem locate_of_agreeTo (hw : locate (Document.ofForest f) anchor = .ok w)
    (h : (Document.ofForest f).AgreeTo (Document.ofForest g) w) :
    locate (Document.ofForest g) anchor = .ok w := by
  have hf := arranged_of_adds .empty (adds_ofForest f)
  have hg := arranged_of_adds .empty (adds_ofForest g)
  obtain ⟨a, header, hs, ha, hheader, hs', hw⟩ := locate_eq_ok_iff.1 hw
  obtain ⟨lower, upper, hlineage, -, -⟩ := append_of_firstWith hheader
  obtain ⟨before, after, rfl, hbefore, htable⟩ := append_of_firstWith hw
  obtain ⟨p, elders, hrow⟩ := hf.row_of_followingSiblings hs' (by simp)
  rw [← List.cons_append, ← List.append_assoc] at hrow
  -- header, the nodes between and the anchor all come before the table block
  have hearlier {c : Nat} (hc : c ∈ elders ++ header :: before) : c < w :=
    ((mem_before_iff hf.toLinked hrow).1 hc).2
  have hparent {c : Nat} (hc : c ∈ elders ++ header :: before ++ w :: after) :
      (Document.ofForest f).parent? c = some p := hf.mem_children_iff.1 (hrow ▸ hc)
  obtain ⟨hfound, ⟨hpos, hsize⟩, hfirst⟩ := findFirst_eq_some_iff.1 ha
  have halt : a < w := by
    have hbelow : header ∈ (Document.ofForest f).lineage a := by simp [hlineage]
    exact lt_of_mem_lineage_of_lt (hparent (c := header) (by simp)) (hparent (c := w) (by simp))
      (hearlier (by simp)) hsize hbelow
  have ha' : (Document.ofForest g).findFirst root (byAttr "id" anchor) = .ok (some a) := by
    have hle := Nat.le_of_lt halt
    refine findFirst_eq_some_iff.2 ⟨?_, ⟨hpos, h.lt_size hle hsize⟩, fun j hj hja ↦ ?_⟩
    · rw [h.byAttr_eq _ _ hle]
      exact hfound
    · rw [h.byAttr_eq _ _ (Nat.le_trans (Nat.le_of_lt hja) hle)]
      exact hfirst j hj hja
  obtain ⟨after', hrow'⟩ := h.row hf.toLinked hg.toLinked hrow
  rw [List.append_assoc, List.cons_append] at hrow'
  refine locate_eq_ok_iff.2 ⟨a, header, before ++ w :: after', ha', ?_,
    hg.followingSiblings hrow', ?_⟩
  · rw [h.lineage_eq hf.toLinked hg.toLinked (Nat.le_of_lt halt), ← hheader]
    refine firstWith_congr fun k hk ↦ h.hasClasses_eq ?_
    exact Nat.le_trans (le_of_mem_lineage hf.toLinked hk) (Nat.le_of_lt halt)
  · refine firstWith_append (fun b hb ↦ ?_) ?_ after'
    · rw [h.hasClasses_eq (Nat.le_of_lt (hearlier (by simp [hb])))]
      exact hbefore b hb
    · rw [h.hasClasses_eq (Nat.le_refl w)]
      exact htable

end Section

end InstanceCatalog
