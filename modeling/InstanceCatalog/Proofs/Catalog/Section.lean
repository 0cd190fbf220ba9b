import InstanceCatalog.Proofs.Catalog.Rows
import InstanceCatalog.Proofs.Document.Agreement

/-! # Where the section is

A section is found by three walks: along the whole document to the first element with the id of the
anchor, from there up to the first title block, and from there along the row of children to the
first table block.  Each walk asks of a node only whether some words are among its classes. -/

namespace InstanceCatalog

open Relation Text

namespace Document

variable {d d' : Document} {h k : Nat} {hs wanted : List Nat} {anchor c : String}

/-- An element with this id. -/
def HasId (d : Document) (anchor : String) (h : Nat) : Prop :=
  ∃ n, d.node? h = some n ∧ n.kind = .element ∧ n.attrs.lookup "id" = some anchor

/-- A word is among the classes of a node.  A node without a class attribute has none. -/
def HasClass (d : Document) (h : Nat) (c : String) : Prop :=
  ∃ n, d.node? h = some n ∧ c.toList ∈ words ((n.attrs.lookup "class").getD "").toList

instance (d : Document) (h : Nat) : DecidablePred (d.HasClass h) := fun c ↦
  decidable_of_iff
    ((d.node? h).any (fun n ↦ (words ((n.attrs.lookup "class").getD "").toList).contains c.toList) =
      true) <| by
    simp [HasClass, Option.any_eq_true]

theorem byAttr_id_iff : byAttr "id" anchor d h = true ↔ d.HasId anchor h := by
  cases hn : d.node? h with
  | none => simp [byAttr, HasId, hn]
  | some n => simp [byAttr, HasId, hn]

theorem hasClasses_eq (hh : h < d.size) (wanted : List String) :
    d.hasClasses wanted h = .ok (decide (∀ c ∈ wanted, d.HasClass h c)) := by
  obtain ⟨n, hn⟩ := exists_node? hh
  have hmem (c : String) (ws : List (List Char)) :
      c ∈ ws.map String.ofList ↔ c.toList ∈ ws := by
    rw [List.mem_map]
    constructor
    · rintro ⟨w, hw, rfl⟩
      rwa [String.toList_ofList]
    · exact fun hc ↦ ⟨_, hc, String.ofList_toList⟩
  rw [hasClasses, classWords, attr, get_eq_ok hn]
  refine congrArg Except.ok (Bool.eq_iff_iff.2 ?_)
  simp only [List.all_eq_true, List.contains_iff_mem, decide_eq_true_eq, hmem, HasClass, hn,
    Option.some.injEq, exists_eq_left']

def IsTitleBlock (d : Document) (h : Nat) : Prop :=
  d.HasClass h "section" ∧ d.HasClass h "title-wrapper"

def IsTableBlock (d : Document) (h : Nat) : Prop :=
  d.HasClass h "section" ∧ d.HasClass h "table-wrapper"

theorem forall_headerClasses_iff :
    (∀ c ∈ Section.headerClasses, d.HasClass h c) ↔ d.IsTitleBlock h := by
  simp [Section.headerClasses, IsTitleBlock]

theorem forall_tableClasses_iff :
    (∀ c ∈ Section.tableClasses, d.HasClass h c) ↔ d.IsTableBlock h := by
  simp [Section.tableClasses, IsTableBlock]

/-! ## Other classes -/

/-- The same nodes with other attributes, of which the ids are the same, and also whether the words
that a section is found by are among the classes. -/
structure Reclassed (d d' : Document) : Prop where
  size : d'.size = d.size
  node : ∀ k n, d.node? k = some n → ∃ as, d'.node? k = some { n with attrs := as } ∧
    as.lookup "id" = n.attrs.lookup "id"
  classes : ∀ k, ∀ c ∈ ["section", "title-wrapper", "table-wrapper"],
    d'.HasClass k c ↔ d.HasClass k c

namespace Reclassed

variable (hr : d.Reclassed d')

include hr

theorem node?_cases (k : Nat) : (d.node? k = none ∧ d'.node? k = none) ∨
    ∃ n as, d.node? k = some n ∧ d'.node? k = some { n with attrs := as } ∧
      as.lookup "id" = n.attrs.lookup "id" := by
  cases hn : d.node? k with
  | none =>
    refine .inl ⟨rfl, ?_⟩
    rw [node?_eq_none_iff, hr.size]
    exact node?_eq_none_iff.1 hn
  | some n =>
    obtain ⟨as, hn', has⟩ := hr.node k n hn
    exact .inr ⟨n, as, rfl, hn', has⟩

theorem children_eq (k : Nat) : d'.children k = d.children k := by
  obtain ⟨hn, hn'⟩ | ⟨n, as, hn, hn', -⟩ := hr.node?_cases k <;> simp [children, hn, hn']

theorem parent?_eq (k : Nat) : d'.parent? k = d.parent? k := by
  obtain ⟨hn, hn'⟩ | ⟨n, as, hn, hn', -⟩ := hr.node?_cases k <;> simp [parent?, hn, hn']

theorem next?_eq (k : Nat) : d'.next? k = d.next? k := by
  obtain ⟨hn, hn'⟩ | ⟨n, as, hn, hn', -⟩ := hr.node?_cases k <;> simp [next?, hn, hn']

theorem byAttr_id_eq (k : Nat) : byAttr "id" anchor d' k = byAttr "id" anchor d k := by
  obtain ⟨hn, hn'⟩ | ⟨n, as, hn, hn', has⟩ := hr.node?_cases k
  · simp [byAttr, hn, hn']
  · simp [byAttr, hn, hn', has]

theorem walkWithin_eq (fuel : Nat) (pending : List Nat) :
    d'.walkWithin fuel pending = d.walkWithin fuel pending := by
  induction fuel generalizing pending with
  | zero => rfl
  | succ fuel ih =>
    cases pending with
    | nil => rfl
    | cons k pending => rw [walkWithin, walkWithin, hr.children_eq, ih]

theorem lineageWithin_eq (fuel k : Nat) : d'.lineageWithin fuel k = d.lineageWithin fuel k := by
  induction fuel generalizing k with
  | zero => rfl
  | succ fuel ih => simp only [lineageWithin, hr.parent?_eq, ih]

theorem siblingsWithin_eq (fuel : Nat) (o : Option Nat) :
    d'.siblingsWithin fuel o = d.siblingsWithin fuel o := by
  induction fuel generalizing o with
  | zero => rfl
  | succ fuel ih =>
    cases o with
    | none => rfl
    | some k => rw [siblingsWithin, siblingsWithin, hr.next?_eq, ih]

theorem findFirst_eq (k : Nat) :
    d'.findFirst k (byAttr "id" anchor) = d.findFirst k (byAttr "id" anchor) := by
  have hattr : byAttr "id" anchor d' = byAttr "id" anchor d := funext hr.byAttr_id_eq
  rw [findFirst, findFirst, hattr, descendants, descendants, get, get]
  obtain ⟨hn, hn'⟩ | ⟨n, as, hn, hn', -⟩ := hr.node?_cases k
  · rw [hn, hn']; rfl
  · rw [hn, hn']
    simp only [Except.map, hr.walkWithin_eq, hr.size]

theorem lineage_eq (k : Nat) : d'.lineage k = d.lineage k := by
  rw [lineage, lineage, hr.lineageWithin_eq, hr.size]

theorem followingSiblings_eq (k : Nat) : d'.followingSiblings k = d.followingSiblings k := by
  rw [followingSiblings, followingSiblings, get, get]
  obtain ⟨hn, hn'⟩ | ⟨n, as, hn, hn', -⟩ := hr.node?_cases k
  · rw [hn, hn']; rfl
  · rw [hn, hn']
    simp only [Except.map, hr.siblingsWithin_eq, hr.size]

theorem hasClasses_eq {wanted : List String}
    (hw : ∀ c ∈ wanted, c ∈ ["section", "title-wrapper", "table-wrapper"]) (k : Nat) :
    d'.hasClasses wanted k = d.hasClasses wanted k := by
  by_cases hk : k < d.size
  · rw [Document.hasClasses_eq hk, Document.hasClasses_eq (hr.size.symm ▸ hk)]
    exact congrArg Except.ok (decide_eq_decide.2
      (forall₂_congr fun c hc ↦ hr.classes k c (hw c hc)))
  · have hn := node?_eq_none_iff.2 (Nat.not_lt.1 hk)
    have hn' := node?_eq_none_iff.2 (hr.size.symm ▸ Nat.not_lt.1 hk)
    simp only [hasClasses, classWords, attr, get, hn, hn']

end Reclassed

end Document

namespace Section

open Document

variable {d d' : Document} {f : Markup.Forest} {anchor : String} {a h w : Nat} {hs : List Nat}

/-! ## The three walks -/

/-- The first element with the id of the anchor, in the order of the document. -/
def IsAnchor (d : Document) (anchor : String) (a : Nat) : Prop :=
  ∃ before after, d.preorder root = before ++ a :: after ∧ d.HasId anchor a ∧
    ∀ b ∈ before, ¬ d.HasId anchor b

/-- The first title block on the way up from a node, the node included. -/
inductive IsHeaderOf (d : Document) : Nat → Nat → Prop
  | self {a : Nat} : d.IsTitleBlock a → IsHeaderOf d a a
  | above {a p h : Nat} : ¬ d.IsTitleBlock a → d.parent? a = some p → IsHeaderOf d p h →
    IsHeaderOf d a h

/-- The first table block after a node among the children of its parent. -/
def IsTableOf (d : Document) (h w : Nat) : Prop :=
  ∃ p before between after, d.parent? h = some p ∧
    d.children p = before ++ h :: (between ++ w :: after) ∧ d.IsTableBlock w ∧
    ∀ b ∈ between, ¬ d.IsTableBlock b

theorem findFirst_anchor (hd : d.Linked) (hpos : 0 < d.size) (anchor : String) :
    ∃ o, d.findFirst root (byAttr "id" anchor) = .ok o ∧ ∀ a, o = some a ↔ IsAnchor d anchor a := by
  refine ⟨(d.preorder root).find? (byAttr "id" anchor d), ?_, fun a ↦ ?_⟩
  · have hdesc : d.descendants root = .ok (d.preorder root) := descendants_eq hd hpos
    rw [findFirst, hdesc]
    rfl
  · rw [List.find?_eq_some_iff_append, byAttr_id_iff]
    simp only [Bool.not_eq_true', ← Bool.not_eq_true, byAttr_id_iff]
    constructor
    · rintro ⟨ha, before, after, heq, hbefore⟩
      exact ⟨before, after, heq, ha, hbefore⟩
    · rintro ⟨before, after, heq, ha, hbefore⟩
      exact ⟨ha, before, after, heq, hbefore⟩

theorem firstWith_eq (hlt : ∀ k ∈ hs, k < d.size) (wanted : List String) :
    firstWith d wanted hs = .ok (hs.find? fun k ↦ decide (∀ c ∈ wanted, d.HasClass k c)) := by
  induction hs with
  | nil => rfl
  | cons k hs ih =>
    obtain ⟨hk, hlt⟩ := List.forall_mem_cons.1 hlt
    rw [firstWith, Document.hasClasses_eq hk, ih hlt, List.find?_cons]
    cases decide (∀ c ∈ wanted, d.HasClass k c) <;> rfl

theorem find?_lineage_eq_some_iff (hd : d.Linked) {q : Nat → Bool}
    (hq : ∀ k, q k = true ↔ d.IsTitleBlock k) :
    (d.lineage a).find? q = some h ↔ IsHeaderOf d a h := by
  induction a using Nat.strongRecOn with
  | ind a ih =>
    obtain ⟨above, hlineage⟩ : ∃ above, d.lineage a = a :: above := ⟨_, rfl⟩
    by_cases htitle : d.IsTitleBlock a
    · rw [hlineage, List.find?_cons_of_pos ((hq a).2 htitle), Option.some.injEq]
      constructor
      · rintro rfl
        exact .self htitle
      · rintro (- | ⟨hnot, -⟩)
        · rfl
        · exact absurd htitle hnot
    · have hnot : ¬ q a = true := fun hall ↦ htitle ((hq a).1 hall)
      cases hp : d.parent? a with
      | none =>
        rw [lineage_of_orphan hp, List.find?_cons_of_neg hnot]
        constructor
        · intro hnone; cases hnone
        · rintro (hself | ⟨-, hp', -⟩)
          · exact absurd hself htitle
          · rw [hp] at hp'; cases hp'
      | some p =>
        rw [lineage_of_parent? hd hp, List.find?_cons_of_neg hnot, ih p (hd.parent_lt hp)]
        constructor
        · exact .above htitle hp
        · rintro (hself | ⟨-, hp', hh⟩)
          · exact absurd hself htitle
          · rw [hp] at hp'
            exact Option.some.inj hp' ▸ hh

theorem IsAnchor.lt_size (hd : d.Linked) (hpos : 0 < d.size) (ha : IsAnchor d anchor a) :
    a < d.size := by
  obtain ⟨before, after, heq, -⟩ := ha
  exact lt_size_of_mem_preorder hd hpos (heq ▸ by simp)

theorem IsHeaderOf.mem_lineage (hd : d.Linked) (hh : IsHeaderOf d a h) : h ∈ d.lineage a := by
  induction hh with
  | self => exact mem_lineage_self d _
  | above _ hp _ ih => exact (mem_lineage_of_parent? hd hp).2 (.inr ih)

theorem IsHeaderOf.lt_size (hd : d.Linked) (ha : a < d.size) (hh : IsHeaderOf d a h) :
    h < d.size :=
  Nat.lt_of_le_of_lt (le_of_mem_lineage hd (hh.mem_lineage hd)) ha

theorem firstWith_header (hd : d.Linked) (ha : a < d.size) :
    ∃ o, firstWith d headerClasses (d.lineage a) = .ok o ∧ ∀ h, o = some h ↔ IsHeaderOf d a h := by
  have hlt : ∀ k ∈ d.lineage a, k < d.size := fun k hk ↦
    Nat.lt_of_le_of_lt (le_of_mem_lineage hd hk) ha
  exact ⟨_, firstWith_eq hlt headerClasses, fun h ↦ find?_lineage_eq_some_iff hd fun k ↦
    decide_eq_true_iff.trans forall_headerClasses_iff⟩

theorem firstWith_table (hd : d.Arranged) (hh : h < d.size) :
    ∃ hs o, d.followingSiblings h = .ok hs ∧ firstWith d tableClasses hs = .ok o ∧
      ∀ w, o = some w ↔ IsTableOf d h w := by
  cases hp : d.parent? h with
  | none =>
    refine ⟨[], none, (hd.linksAgree.following_alone hh hp).2, rfl, fun w ↦ ⟨?_, ?_⟩⟩
    · intro hnone; cases hnone
    · rintro ⟨p, -, -, -, hp', -⟩
      rw [hp] at hp'; cases hp'
  | some p =>
    obtain ⟨before, after, hrow⟩ := List.append_of_mem (hd.mem_children_iff.2 hp)
    have hlt : ∀ k ∈ after, k < d.size := fun k hk ↦
      hd.lt_size_of_mem_children (p := p) (by simp [hrow, hk])
    refine ⟨after, _, hd.followingSiblings hrow, firstWith_eq hlt tableClasses, fun w ↦ ?_⟩
    rw [List.find?_eq_some_iff_append]
    simp only [decide_eq_true_eq, Bool.not_eq_true', decide_eq_false_iff_not,
      forall_tableClasses_iff]
    constructor
    · rintro ⟨hw, between, later, rfl, hbetween⟩
      exact ⟨p, before, between, later, hp, hrow, hw, hbetween⟩
    · rintro ⟨p', before', between, later, hp', hrow', hw, hbetween⟩
      obtain rfl : p = p' := Option.some.inj (hp.symm.trans hp')
      refine ⟨hw, between, later, ?_, hbetween⟩
      have hsame := (hd.followingSiblings hrow).symm.trans (hd.followingSiblings hrow')
      exact Except.ok.inj hsame

/-! ## What is located -/

/-- The table block of the section with an anchor, or the first of the three that is missing. -/
inductive Locates (d : Document) (anchor : String) : Except Failure Nat → Prop
  | anchorNotFound : (¬ ∃ a, IsAnchor d anchor a) →
    Locates d anchor (.error (.declared (.anchorNotFound anchor)))
  | headerNotFound {a : Nat} : IsAnchor d anchor a → (¬ ∃ h, IsHeaderOf d a h) →
    Locates d anchor (.error (.declared (.headerNotFound anchor ["section", "title-wrapper"])))
  | tableNotFound {a h : Nat} : IsAnchor d anchor a → IsHeaderOf d a h →
    (¬ ∃ w, IsTableOf d h w) →
    Locates d anchor (.error (.declared (.tableNotFound ["section", "table-wrapper"])))
  | found {a h w : Nat} : IsAnchor d anchor a → IsHeaderOf d a h → IsTableOf d h w →
    Locates d anchor (.ok w)

theorem not_exists_iff {P : Nat → Prop} {o : Option Nat} (ho : ∀ x, o = some x ↔ P x) :
    (¬ ∃ x, P x) ↔ o = none := by
  simp only [← ho, Option.eq_none_iff_forall_ne_some, not_exists, ne_eq]

theorem locate_of_anchor_none (ha : d.findFirst root (byAttr "id" anchor) = .ok none) :
    locate d anchor = .error (.declared (.anchorNotFound anchor)) := by
  simp only [locate, bind, Except.bind, ha]
  rfl

theorem locate_of_header_none (ha : d.findFirst root (byAttr "id" anchor) = .ok (some a))
    (hh : firstWith d headerClasses (d.lineage a) = .ok none) :
    locate d anchor = .error (.declared (.headerNotFound anchor headerClasses)) := by
  simp only [locate, bind, Except.bind, ha, hh]
  rfl

theorem locate_of_table_none (ha : d.findFirst root (byAttr "id" anchor) = .ok (some a))
    (hh : firstWith d headerClasses (d.lineage a) = .ok (some h))
    (hs' : d.followingSiblings h = .ok hs) (hw : firstWith d tableClasses hs = .ok none) :
    locate d anchor = .error (.declared (.tableNotFound tableClasses)) := by
  simp only [locate, bind, Except.bind, ha, hh, hs', hw]
  rfl

theorem locate_of_locates (hd : d.Arranged) (hpos : 0 < d.size) {r : Except Failure Nat}
    (hr : Locates d anchor r) : locate d anchor = r := by
  obtain ⟨oa, hfind, hanchor⟩ := findFirst_anchor hd.toLinked hpos anchor
  cases hr with
  | anchorNotFound hno =>
    obtain rfl := (not_exists_iff hanchor).1 hno
    exact locate_of_anchor_none hfind
  | headerNotFound ha hno =>
    obtain rfl := (hanchor _).2 ha
    obtain ⟨oh, hup, hheader⟩ := firstWith_header hd.toLinked (ha.lt_size hd.toLinked hpos)
    obtain rfl := (not_exists_iff hheader).1 hno
    exact locate_of_header_none hfind hup
  | tableNotFound ha hh hno =>
    obtain rfl := (hanchor _).2 ha
    have halt := ha.lt_size hd.toLinked hpos
    obtain ⟨oh, hup, hheader⟩ := firstWith_header hd.toLinked halt
    obtain rfl := (hheader _).2 hh
    obtain ⟨hs, ow, hnext, halong, htable⟩ := firstWith_table hd (hh.lt_size hd.toLinked halt)
    obtain rfl := (not_exists_iff htable).1 hno
    exact locate_of_table_none hfind hup hnext halong
  | found ha hh hw =>
    obtain rfl := (hanchor _).2 ha
    have halt := ha.lt_size hd.toLinked hpos
    obtain ⟨oh, hup, hheader⟩ := firstWith_header hd.toLinked halt
    obtain rfl := (hheader _).2 hh
    obtain ⟨hs, ow, hnext, halong, htable⟩ := firstWith_table hd (hh.lt_size hd.toLinked halt)
    obtain rfl := (htable _).2 hw
    exact locate_eq_ok_iff.2 ⟨_, _, hs, hfind, hup, hnext, halong⟩

theorem exists_locates (d : Document) (anchor : String) : ∃ r, Locates d anchor r := by
  by_cases ha : ∃ a, IsAnchor d anchor a
  · obtain ⟨a, ha⟩ := ha
    by_cases hh : ∃ h, IsHeaderOf d a h
    · obtain ⟨h, hh⟩ := hh
      by_cases hw : ∃ w, IsTableOf d h w
      · obtain ⟨w, hw⟩ := hw
        exact ⟨_, .found ha hh hw⟩
      · exact ⟨_, .tableNotFound ha hh hw⟩
    · exact ⟨_, .headerNotFound ha hh⟩
  · exact ⟨_, .anchorNotFound ha⟩

/-- A section is where the three walks lead to. -/
theorem locate_eq_iff (hd : d.Arranged) (hpos : 0 < d.size) {r : Except Failure Nat} :
    locate d anchor = r ↔ Locates d anchor r := by
  refine ⟨?_, locate_of_locates hd hpos⟩
  rintro rfl
  obtain ⟨r, hr⟩ := exists_locates d anchor
  exact (locate_of_locates hd hpos hr).symm ▸ hr

/-- Other classes do not matter, nor how often and in which order the classes are written. -/
theorem locate_of_reclassed (hr : d.Reclassed d') : locate d' anchor = locate d anchor := by
  have hheader : firstWith d' headerClasses = firstWith d headerClasses :=
    funext fun hs ↦ firstWith_congr fun k _ ↦ hr.hasClasses_eq (by decide) k
  have htable : firstWith d' tableClasses = firstWith d tableClasses :=
    funext fun hs ↦ firstWith_congr fun k _ ↦ hr.hasClasses_eq (by decide) k
  simp only [locate, hr.findFirst_eq, hr.lineage_eq, hr.followingSiblings_eq, hheader, htable]

/-! ## On a page -/

/-- The table block is an element beside the anchor's line, and all of it comes later than all of
the title block.  So do its rows. -/
structure Apart (d : Document) (a h w : Nat) : Prop where
  isElement : ∃ n, d.node? w = some n ∧ n.kind = .element
  not_above : w ∉ d.lineage a
  not_below : a ∉ d.lineage w
  later : ∀ x ∈ d.preorder w, ∀ y ∈ d.preorder h, y < x
  rows : ∀ rs, d.findAll w (byTag "tr") = .ok rs → ∀ r ∈ rs, a < r ∧ r ∉ d.preorder h

theorem apart_ofForest {p : Nat} {before between after : List Nat}
    (hh : h ∈ (Document.ofForest f).lineage a)
    (hp : (Document.ofForest f).parent? h = some p)
    (hrow : (Document.ofForest f).children p = before ++ h :: (between ++ w :: after))
    (hw : ∃ n, (Document.ofForest f).node? w = some n ∧ n.kind = .element) :
    Apart (Document.ofForest f) a h w := by
  have hd := linked_ofForest f
  have hpw : (Document.ofForest f).parent? w = some p :=
    hd.mem_children_iff.1 (by rw [hrow]; simp)
  have hlt : h < w := by
    have hascending := hd.ascending p
    rw [hrow, List.pairwise_append, List.pairwise_cons] at hascending
    exact hascending.2.1.1 w (by simp)
  have hsize : w < (Document.ofForest f).size := lt_size_of_parent? hpw
  have hlater : ∀ x ∈ (Document.ofForest f).preorder w, ∀ y ∈ (Document.ofForest f).preorder h,
      y < x := by
    intro x hx y hy
    have hylt := lt_size_of_mem_preorder hd (Nat.lt_trans hlt hsize) hy
    have hyw := lt_of_mem_lineage_of_lt hp hpw hlt hylt ((mem_preorder_iff hd).1 hy)
    exact Nat.lt_of_lt_of_le hyw (le_of_mem_preorder hd hx)
  have hmem : a ∈ (Document.ofForest f).preorder h := (mem_preorder_iff hd).2 hh
  refine ⟨hw, fun hwa ↦ ?_, fun haw ↦ ?_, hlater, fun rs hrs r hr ↦ ?_⟩
  · have haw := hlater w (mem_preorder_self hd w) a hmem
    exact absurd (le_of_mem_lineage hd hwa) (Nat.not_le.2 haw)
  · -- the title block would be above its own neighbour
    have hhw := mem_lineage_trans hd haw hh
    exact Nat.lt_irrefl w (hlater w (mem_preorder_self hd w) w ((mem_preorder_iff hd).2 hhw))
  · rw [findAll, descendants_eq hd hsize] at hrs
    obtain rfl := Except.ok.inj hrs
    have hrw := List.mem_of_mem_filter hr
    exact ⟨hlater r hrw a hmem, fun hrh ↦ Nat.lt_irrefl r (hlater r hrw r hrh)⟩

/-- In a document that grew node by node the section is where the three walks lead to, and the
first walk without an end is what is wrong; classes count only as far as they are asked for.  On a
page nothing of a section stands before its anchor or in its title block. -/
theorem locate_spec (h₀ : ReflTransGen Adds empty d) (hpos : 0 < d.size) (anchor : String) :
    (∀ r, locate d anchor = r ↔ Locates d anchor r) ∧
      (∀ d', d.Reclassed d' → locate d' anchor = locate d anchor) ∧
      ∀ f a h w, d = Document.ofForest f → IsAnchor d anchor a → IsHeaderOf d a h →
        IsTableOf d h w → Apart d a h w := by
  have hd := arranged_of_adds .empty h₀
  refine ⟨fun r ↦ locate_eq_iff hd hpos, fun d' ↦ locate_of_reclassed, ?_⟩
  rintro f a h w rfl ha hh hw
  obtain ⟨e, -, p, prev, rest, hn, -⟩ :=
    holds_of_locate ((locate_eq_iff hd hpos).2 (.found ha hh hw))
  obtain ⟨q, before, between, after, hq, hrow, -⟩ := hw
  exact apart_ofForest (hh.mem_lineage hd.toLinked) hq hrow ⟨_, hn, rfl⟩

/-- A title in a title, table blocks before it and above it, and its anchor twice. -/
def nestedTitles : Markup.Forest :=
  .element "body" [] (.element "div" [("class", "section table-wrapper")] .nil
    (.element "div" [("class", "title-wrapper section")]
      (.element "h2" [("class", " section\ttitle-wrapper section ")]
        (.element "a" [("id", "x")] .nil .nil)
        (.element "p" [("class", "table-wrapper")] .nil
          (.element "div" [("class", "wide table-wrapper section")] (.element "tr" [] .nil .nil)
            .nil)))
      (.element "p" [("id", "x"), ("class", "section table-wrapper")] .nil .nil))) .nil

theorem locate_spec_nestedTitles :
    ReflTransGen Adds empty (Document.ofForest nestedTitles) ∧
      0 < (Document.ofForest nestedTitles).size ∧
      ∃ a h, IsAnchor (Document.ofForest nestedTitles) "x" a ∧
        IsHeaderOf (Document.ofForest nestedTitles) a h ∧
        IsTableOf (Document.ofForest nestedTitles) h 7 ∧
        Apart (Document.ofForest nestedTitles) a h 7 := by
  have hpos : 0 < (Document.ofForest nestedTitles).size := by decide +kernel
  have hlocate : locate (Document.ofForest nestedTitles) "x" = .ok 7 :=
    ok_of_toOption (by decide +kernel)
  obtain ⟨hiff, -, hapart⟩ := locate_spec (adds_ofForest nestedTitles) hpos "x"
  cases (hiff _).1 hlocate with
  | found ha hh hw =>
    exact ⟨adds_ofForest _, hpos, _, _, ha, hh, hw, hapart _ _ _ _ rfl ha hh hw⟩

end Section

end InstanceCatalog
