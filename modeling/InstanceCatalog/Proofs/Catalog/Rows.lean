import InstanceCatalog.Proofs.Catalog.OfForest

/-! # All rows or none

A scrape looks at every `tr` element below the table block, however deep, in the order of the page.
It gives one record for each but the first, or else fails as the first row that fails. -/

namespace InstanceCatalog

open Markup

/-! ## Work that stops at the first failure -/

section FirstFailure

variable {α β : Type} {f : α → Except Failure β} {xs : List α} {ys : List β} {e : Failure}

theorem mapM_eq_ok_iff : xs.mapM f = .ok ys ↔ List.Forall₂ (fun x y ↦ f x = .ok y) xs ys := by
  induction xs generalizing ys with
  | nil =>
    rw [List.mapM_nil, List.forall₂_nil_left_iff]
    exact ⟨fun h ↦ (Except.ok.inj h).symm, fun h ↦ h ▸ rfl⟩
  | cons x xs ih =>
    rw [List.mapM_cons, List.forall₂_cons_left_iff]
    constructor
    · intro h
      cases hx : f x with
      | error e => rw [hx] at h; cases h
      | ok y =>
        rw [hx] at h
        cases hxs : xs.mapM f with
        | error e => simp only [bind, Except.bind, hxs] at h; cases h
        | ok zs =>
          simp only [bind, Except.bind, hxs] at h
          exact ⟨y, zs, rfl, ih.1 hxs, (Except.ok.inj h).symm⟩
    · rintro ⟨y, zs, hx, hxs, rfl⟩
      rw [hx, ih.2 hxs]
      rfl

theorem exists_of_mem_mapM {y : β} (h : xs.mapM f = .ok ys) (hy : y ∈ ys) :
    ∃ x ∈ xs, f x = .ok y := by
  induction mapM_eq_ok_iff.1 h with
  | nil => cases hy
  | cons hx hxs ih =>
    obtain rfl | hy := List.mem_cons.1 hy
    · exact ⟨_, List.mem_cons_self, hx⟩
    · obtain ⟨x, hmem, hxy⟩ := ih (mapM_eq_ok_iff.2 hxs) hy
      exact ⟨x, List.mem_cons_of_mem _ hmem, hxy⟩

/-- The failure of the first member that fails, whatever comes after it. -/
theorem mapM_eq_error_iff : xs.mapM f = .error e ↔
    ∃ before x after, xs = before ++ x :: after ∧ (∀ b ∈ before, ∃ y, f b = .ok y) ∧
      f x = .error e := by
  induction xs with
  | nil =>
    constructor
    · intro h; cases h
    · rintro ⟨before, x, after, h, -⟩
      simp at h
  | cons x xs ih =>
    rw [List.mapM_cons]
    cases hx : f x with
    | error e' =>
      constructor
      · intro h
        cases h
        exact ⟨[], x, xs, rfl, by simp, hx⟩
      · rintro ⟨before, z, after, hxs, hbefore, hz⟩
        cases before with
        | nil =>
          obtain ⟨rfl, -⟩ := List.cons.inj hxs
          rw [hx] at hz
          exact congrArg Except.error (Except.error.inj hz)
        | cons b before =>
          obtain ⟨rfl, -⟩ := List.cons.inj hxs
          obtain ⟨y, hy⟩ := hbefore x List.mem_cons_self
          rw [hx] at hy; cases hy
    | ok y =>
      have hrest : (Except.ok y >>= fun y ↦ xs.mapM f >>= fun ys ↦ pure (y :: ys)) = .error e ↔
          xs.mapM f = .error e := by
        cases xs.mapM f with
        | error e' => exact Iff.rfl
        | ok ys => constructor <;> intro h <;> cases h
      rw [hrest, ih]
      constructor
      · rintro ⟨before, z, after, rfl, hbefore, hz⟩
        exact ⟨x :: before, z, after, rfl, List.forall_mem_cons.2 ⟨⟨y, hx⟩, hbefore⟩, hz⟩
      · rintro ⟨before, z, after, hxs, hbefore, hz⟩
        cases before with
        | nil =>
          obtain ⟨rfl, -⟩ := List.cons.inj hxs
          rw [hx] at hz; cases hz
        | cons b before =>
          obtain ⟨rfl, rfl⟩ := List.cons.inj hxs
          exact ⟨before, z, after, rfl, (List.forall_mem_cons.1 hbefore).2, hz⟩

theorem exists_mapM_eq_ok_iff : (∃ ys, xs.mapM f = .ok ys) ↔ ∀ x ∈ xs, ∃ y, f x = .ok y := by
  simp only [mapM_eq_ok_iff]
  induction xs with
  | nil => exact ⟨fun _ x hx ↦ absurd hx List.not_mem_nil, fun _ ↦ ⟨[], .nil⟩⟩
  | cons x xs ih =>
    rw [List.forall_mem_cons, ← ih]
    constructor
    · rintro ⟨ys, h⟩
      cases h with
      | cons hy hys => exact ⟨⟨_, hy⟩, _, hys⟩
    · rintro ⟨⟨y, hy⟩, ys, hys⟩
      exact ⟨y :: ys, .cons hy hys⟩

end FirstFailure

/-! ## The rows below a node -/

namespace Document

/-- A node is an element with a tag, which is in small letters in every document of a page. -/
def IsElement (d : Document) (tag : String) (h : Nat) : Prop :=
  ∃ n, d.node? h = some n ∧ n.kind = .element ∧ n.tag = tag

instance (d : Document) (tag : String) : DecidablePred (d.IsElement tag) := fun h ↦
  decidable_of_iff ((d.node? h).any (fun n ↦ n.kind == .element && n.tag == tag) = true) <| by
    simp [IsElement, Option.any_eq_true]

/-- All elements with a tag in the subtree of a node, the node included, in the order of the page:
an element is in the subtree if the node is in its lineage. -/
structure Lists (d : Document) (tag : String) (w : Nat) (rs : List Nat) : Prop where
  ascending : rs.Pairwise (· < ·)
  mem_iff : ∀ h, h ∈ rs ↔ d.IsElement tag h ∧ w ∈ d.lineage h

theorem byTag_iff {d : Document} {tag : String} {h : Nat}
    (ht : String.ofList (Text.lower tag.toList) = tag) :
    byTag tag d h = true ↔ d.IsElement tag h := by
  rw [byTag, ht]
  cases hn : d.node? h with
  | none => simp [IsElement, hn]
  | some n => simp [IsElement, hn]

/-- A search by tag below an element of a page's document lists what it should. -/
theorem exists_lists {d : Document} {w : Nat} {e : Element} {tag : String} (hd : d.Linked)
    (hh : d.Holds w e) (ht : String.ofList (Text.lower tag.toList) = tag) :
    ∃ rs, d.findAll w (byTag tag) = .ok rs ∧ d.Lists tag w rs := by
  refine ⟨(d.preorder w).filter (byTag tag d), ?_, ?_, fun h ↦ ?_⟩
  · rw [findAll, descendants_of_holds hd hh, preorder_of_holds hd hh]
    rfl
  · rw [preorder_of_holds hd hh]
    exact (List.pairwise_lt_range' 1).filter _
  · rw [List.mem_filter, mem_preorder_iff hd, byTag_iff ht, and_comm]

end Document

namespace Section

theorem holds_of_locate {f : Forest} {anchor : String} {w : Nat}
    (h : locate (Document.ofForest f) anchor = .ok w) :
    ∃ e, ofForest anchor f = .ok e ∧ (Document.ofForest f).Holds w e := by
  have hlocate := locate_ofForest anchor f
  cases he : ofForest anchor f with
  | error x =>
    rw [he] at hlocate
    rw [hlocate] at h
    cases h
  | ok e =>
    rw [he] at hlocate
    obtain ⟨w', hw', hholds⟩ := hlocate
    rw [hw'] at h
    cases h
    exact ⟨e, rfl, hholds⟩

end Section

namespace Catalog

variable {page : String} {d : Document} {w : Nat}

/-- What a page comes to once its section is found: with too few rows it fails, and else its result
is that of reading the rows but the first one by one. -/
theorem result_ofPage_of_locate (hd : Document.ofMarkup page = .ok d)
    (hw : Section.locate d = .ok w) :
    ∃ rs, d.Lists "tr" w rs ∧ (ofPage page).result =
      if rs.length < leastRows then .error (.declared (.tableTooSmall leastRows rs.length))
      else rs.tail.mapM (Record.ofRow d) := by
  obtain ⟨f, -, rfl⟩ := Document.exists_forest_of_ofMarkup hd
  obtain ⟨e, -, he⟩ := Section.holds_of_locate hw
  have htag : String.ofList (Text.lower "tr".toList) = "tr" := by decide +kernel
  obtain ⟨rs, hrs, hlists⟩ := Document.exists_lists (Document.linked_ofForest f) he htag
  refine ⟨rs, hlists, ?_⟩
  rw [result_ofPage, hd]
  change (ofDocument _).result = _
  rw [result_ofDocument, hw]
  change (rows _ w >>= _) = _
  rw [rows_eq hrs]
  split
  · rfl
  · rw [← List.drop_one]; rfl

/-- All rows or none.  Of a page with a section, let `rs` be the rows below the table block.  There
is a catalog if and only if there are three rows and every row but the first gives a record, and it
is then the list of these records; with fewer rows there is no table; and else the failure is that
of the first row that fails. -/
theorem all_or_nothing (hd : Document.ofMarkup page = .ok d) (hw : Section.locate d = .ok w) :
    ∃ rs, d.Lists "tr" w rs ∧
      ((∃ records, (ofPage page).result = .ok records) ↔
        3 ≤ rs.length ∧ ∀ r ∈ rs.tail, ∃ x, Record.ofRow d r = .ok x) ∧
      (∀ records, (ofPage page).result = .ok records →
        List.Forall₂ (fun r x ↦ Record.ofRow d r = .ok x) rs.tail records ∧
          2 ≤ records.length) ∧
      (rs.length < 3 →
        (ofPage page).result = .error (.declared (.tableTooSmall 3 rs.length))) ∧
      (3 ≤ rs.length → ∀ e, (ofPage page).result = .error e ↔
        ∃ before r after, rs.tail = before ++ r :: after ∧
          (∀ b ∈ before, ∃ x, Record.ofRow d b = .ok x) ∧ Record.ofRow d r = .error e) := by
  obtain ⟨rs, hrs, hresult⟩ := result_ofPage_of_locate hd hw
  refine ⟨rs, hrs, ?_⟩
  rw [hresult, leastRows]
  by_cases hlen : rs.length < 3
  · simp only [if_pos hlen]
    refine ⟨⟨?_, ?_⟩, ?_, fun _ ↦ rfl, ?_⟩
    · rintro ⟨records, h⟩; cases h
    · rintro ⟨h, -⟩; exact absurd h (Nat.not_le.2 hlen)
    · intro records h; cases h
    · intro h; exact absurd h (Nat.not_le.2 hlen)
  · have hle := Nat.not_lt.1 hlen
    simp only [if_neg hlen]
    refine ⟨?_, fun records h ↦ ?_, fun h ↦ absurd h hlen, fun _ e ↦ mapM_eq_error_iff⟩
    · rw [exists_mapM_eq_ok_iff]
      exact ⟨fun h ↦ ⟨hle, h⟩, And.right⟩
    · have hall := mapM_eq_ok_iff.1 h
      refine ⟨hall, ?_⟩
      have := hall.length_eq
      rw [List.length_tail] at this
      omega

/-- A page with a row inside a row, and both of them complete. -/
def nestedRows : String :=
  String.join ["<p id=instance-type-matrix class='title-wrapper section'></p>",
    "<p class='section table-wrapper'>",
    "<tr><th>Type</th></tr><tr><tr>",
    "<td>a</td><td>1</td><td>2</td><td></td><td></td><td></td>",
    "<td>3.5</td><td>Yes</td><td></td><td></td><td></td><td></td>"]

theorem all_or_nothing_nestedRows :
    ∃ d w rs, Document.ofMarkup nestedRows = .ok d ∧ Section.locate d = .ok w ∧
      d.Lists "tr" w rs ∧
      ((∃ records, (ofPage nestedRows).result = .ok records) ↔
        3 ≤ rs.length ∧ ∀ r ∈ rs.tail, ∃ x, Record.ofRow d r = .ok x) := by
  have heval : ((Document.ofMarkup nestedRows).toOption.bind fun d ↦
      (Section.locate d).toOption).isSome = true := by
    rw [Document.ofMarkup, Document.forestOf, nestedRows, String.toList_join]
    decide +kernel
  cases hd : Document.ofMarkup nestedRows with
  | error e => rw [hd] at heval; cases heval
  | ok d =>
    rw [hd] at heval
    cases hw : Section.locate d with
    | error e =>
      change ((Section.locate d).toOption).isSome = true at heval
      rw [hw] at heval; cases heval
    | ok w =>
      obtain ⟨rs, hrs, hall, -⟩ := all_or_nothing hd hw
      exact ⟨d, w, rs, rfl, hw, hrs, hall⟩

end Catalog

end InstanceCatalog
