import InstanceCatalog.Proofs.Document.Neighbours
import InstanceCatalog.Proofs.Text.Words

/-! # The words of a node

The text of a node is made of the words of all texts in its subtree, in the order of the document.
Which elements the texts stand in makes no difference, so an element around some children of a node
leaves its text as it is. -/

namespace InstanceCatalog.Document

open Relation Text

variable {d d' : Document} {h h' : Nat} {hs hs' : List Nat} {n : Node}

/-- The texts among some nodes, in their order. -/
def textsAmong (d : Document) (hs : List Nat) : List String :=
  ((hs.filterMap d.node?).filter (·.kind == .text)).map (·.data)

theorem textsAmong_append (d : Document) (hs ks : List Nat) :
    d.textsAmong (hs ++ ks) = d.textsAmong hs ++ d.textsAmong ks := by
  simp only [textsAmong, List.filterMap_append, List.filter_append, List.map_append]

theorem textsAmong_flatMap (d : Document) (f : Nat → List Nat) (hs : List Nat) :
    d.textsAmong (hs.flatMap f) = hs.flatMap fun k ↦ d.textsAmong (f k) := by
  induction hs with
  | nil => rfl
  | cons h hs ih => rw [List.flatMap_cons, textsAmong_append, ih, List.flatMap_cons]

theorem textsAmong_singleton (hn : d.node? h = some n) :
    d.textsAmong [h] = if n.kind = .text then [n.data] else [] := by
  simp only [textsAmong, List.filterMap_cons_some hn, List.filterMap_nil, List.filter_cons,
    List.filter_nil, beq_iff_eq]
  split <;> rfl

/-- All texts in the subtree of a node, in the order of the document. -/
def texts (d : Document) (h : Nat) : List String := d.textsAmong (d.preorder h)

/-- The words of some texts, one text after the other. -/
def wordsOf (texts : List String) : List (List Char) := texts.flatMap fun s ↦ words s.toList

theorem wordsOf_cons (s : String) (xs : List String) :
    wordsOf (s :: xs) = words s.toList ++ wordsOf xs := List.flatMap_cons

theorem wordsOf_append (xs ys : List String) : wordsOf (xs ++ ys) = wordsOf xs ++ wordsOf ys :=
  List.flatMap_append

theorem isWord_of_mem_wordsOf {xs : List String} {w : List Char} (hw : w ∈ wordsOf xs) :
    IsWord w := by
  obtain ⟨s, -, hw⟩ := List.mem_flatMap.1 hw
  exact isWord_of_mem_words hw

/-- The texts of a node are its own, if it is one, and then those of its children. -/
theorem texts_eq (hd : d.Linked) (h : Nat) :
    d.texts h = d.textsAmong [h] ++ (d.children h).flatMap d.texts := by
  rw [texts, preorder_eq hd, ← List.singleton_append, textsAmong_append, textsAmong_flatMap]
  rfl

theorem wordsOf_texts_eq (hd : d.Linked) (h : Nat) :
    wordsOf (d.texts h) =
      wordsOf (d.textsAmong [h]) ++ (d.children h).flatMap fun c ↦ wordsOf (d.texts c) := by
  rw [texts_eq hd, wordsOf_append]
  exact congrArg _ (List.flatMap_assoc ..)

theorem text_eq_joinWords (hd : d.Linked) (hh : h < d.size) :
    d.text h = .ok (String.ofList (joinWords (wordsOf (d.texts h)))) := by
  rw [text, descendants_eq hd hh]
  change Except.ok (oneLine (" ".intercalate (d.texts h))) = _
  rw [oneLine, words_intercalate]
  rfl

theorem words_of_text (hd : d.Linked) (hh : h < d.size) {t : String} (ht : d.text h = .ok t) :
    words t.toList = wordsOf (d.texts h) := by
  rw [text_eq_joinWords hd hh] at ht
  rw [← Except.ok.inj ht, String.toList_ofList, words_joinWords fun _ ↦ isWord_of_mem_wordsOf]

/-- The texts of nodes that the document has. -/
theorem exists_mapM_text (hd : d.Linked) (hlt : ∀ h ∈ hs, h < d.size) :
    ∃ ts, hs.mapM d.text = .ok ts ∧
      wordsOf ts = hs.flatMap fun h ↦ wordsOf (d.texts h) := by
  induction hs with
  | nil => exact ⟨[], rfl, rfl⟩
  | cons h hs ih =>
    obtain ⟨hh, hlt⟩ := List.forall_mem_cons.1 hlt
    obtain ⟨ts, hts, hwords⟩ := ih hlt
    have ht := text_eq_joinWords hd hh
    refine ⟨_ :: ts, by rw [List.mapM_cons, ht, hts]; rfl, ?_⟩
    rw [List.flatMap_cons, ← hwords, wordsOf_cons, words_of_text hd hh ht]

/-! ## Elements around children -/

/-- The subtrees of two rows of nodes, perhaps in two documents, are the same but for the handles
and for elements of the second that stand around a run of neighbours, at any depth. -/
inductive Wraps (d d' : Document) : List Nat → List Nat → Prop
  | nil : Wraps d d' [] []
  | node {h h' : Nat} {hs hs' : List Nat} {n n' : Node} : d.node? h = some n →
    d'.node? h' = some n' → n'.kind = n.kind → n'.data = n.data →
      Wraps d d' n.children n'.children → Wraps d d' hs hs' → Wraps d d' (h :: hs) (h' :: hs')
  | around {w : Nat} {run hs hs' : List Nat} {n' : Node} : d'.node? w = some n' →
    n'.kind = .element → Wraps d d' run n'.children → Wraps d d' hs hs' →
      Wraps d d' (run ++ hs) (w :: hs')

theorem Wraps.wordsOf_texts (hd : d.Linked) (hd' : d'.Linked) (hw : d.Wraps d' hs hs') :
    (hs'.flatMap fun h ↦ wordsOf (d'.texts h)) = hs.flatMap fun h ↦ wordsOf (d.texts h) := by
  induction hw with
  | nil => rfl
  | @node h h' hs hs' n n' hn hn' hkind hdata _ _ ihc ihs =>
    have hown : d'.textsAmong [h'] = d.textsAmong [h] := by
      rw [textsAmong_singleton hn, textsAmong_singleton hn', hkind, hdata]
    rw [List.flatMap_cons, List.flatMap_cons, wordsOf_texts_eq hd, wordsOf_texts_eq hd', hown,
      children_of_node? hn, children_of_node? hn', ihc, ihs]
  | @around w run hs hs' n' hn' hkind _ _ ihc ihs =>
    have hown : d'.textsAmong [w] = [] := by
      rw [textsAmong_singleton hn', if_neg (by rw [hkind]; exact NodeKind.noConfusion)]
    rw [List.flatMap_cons, List.flatMap_append, wordsOf_texts_eq hd', hown,
      children_of_node? hn', ihc, ihs]
    rfl

theorem Wraps.lt_size (hw : d.Wraps d' [h] [h']) : h' < d'.size := by
  generalize hrow : [h] = row at hw
  generalize hrow' : [h'] = row' at hw
  cases hw with
  | nil => cases hrow
  | node _ hn' =>
    cases hrow'
    exact lt_size_of_node? hn'
  | around hn' =>
    cases hrow'
    exact lt_size_of_node? hn'

/-! ## The text of a node -/

/-- A text is that of a node: the words of all texts in the subtree with single spaces between
them.  It is on one line, it is empty only if there are no words, and that of an element has the
words of its children, one child after the other. -/
structure IsTextOf (d : Document) (h : Nat) (t : String) : Prop where
  toList_eq : t.toList = joinWords (wordsOf (d.texts h))
  spaced : Spaced t.toList
  oneLine_eq : oneLine t = t
  eq_empty_iff : t = "" ↔ ∀ s ∈ d.texts h, ∀ c ∈ s.toList, isBlank c = true
  words_children : ∀ n, d.node? h = some n → n.kind = .element →
    ∃ ts, (d.children h).mapM d.text = .ok ts ∧
      words t.toList = ts.flatMap fun s ↦ words s.toList

theorem isTextOf (hd : d.Linked) (hh : h < d.size) {t : String} (ht : d.text h = .ok t) :
    d.IsTextOf h t := by
  have hword : ∀ w ∈ wordsOf (d.texts h), IsWord w := fun _ ↦ isWord_of_mem_wordsOf
  have hlist : t.toList = joinWords (wordsOf (d.texts h)) := by
    rw [text_eq_joinWords hd hh] at ht
    rw [← Except.ok.inj ht, String.toList_ofList]
  refine ⟨hlist, hlist ▸ spaced_joinWords hword, ?_, ?_, fun n hn hkind ↦ ?_⟩
  · rw [oneLine, hlist, words_joinWords hword, ← hlist, String.ofList_toList]
  · rw [← String.toList_eq_nil_iff, hlist, joinWords_eq_nil_iff hword, wordsOf,
      List.flatMap_eq_nil_iff]
    exact forall₂_congr fun s _ ↦ words_eq_nil_iff
  · obtain ⟨ts, hts, hwords⟩ :=
      exists_mapM_text hd fun c (hc : c ∈ d.children h) ↦ hd.lt_size_of_mem_children hc
    refine ⟨ts, hts, ?_⟩
    change _ = wordsOf ts
    have hown : d.textsAmong [h] = [] := by
      rw [textsAmong_singleton hn, if_neg (by rw [hkind]; exact NodeKind.noConfusion)]
    rw [words_of_text hd hh ht, wordsOf_texts_eq hd, hown, hwords]
    rfl

/-- Every node of a document that grew node by node has a text, which is made of the words of its
subtree, and which elements around children at any depth leave as it is. -/
theorem exists_isTextOf (h₀ : ReflTransGen Adds empty d) (hh : h < d.size) :
    ∃ t, d.text h = .ok t ∧ d.IsTextOf h t ∧
      ∀ d' h', ReflTransGen Adds empty d' → d.Wraps d' [h] [h'] → d'.text h' = .ok t := by
  have hd := (arranged_of_adds .empty h₀).toLinked
  have ht := text_eq_joinWords hd hh
  refine ⟨_, ht, isTextOf hd hh ht, fun d' h' h₀' hw ↦ ?_⟩
  have hd' := (arranged_of_adds .empty h₀').toLinked
  have hwords := hw.wordsOf_texts hd hd'
  simp only [List.flatMap_singleton] at hwords
  rw [text_eq_joinWords hd' hw.lt_size, hwords]

/-- A paragraph with words in and beside an element, and a text without words. -/
def paragraph : Document :=
  [documentNode, elementNode "p" [] 0, textNode " a\tb" 1, elementNode "i" [] 1, textNode "c\n" 3,
    textNode "\u00a0" 1].foldl append empty

/-- The same with an element around the first two children. -/
def wrappedParagraph : Document :=
  [documentNode, elementNode "p" [] 0, elementNode "b" [] 1, textNode " a\tb" 2,
    elementNode "i" [] 2, textNode "c\n" 4, textNode "\u00a0" 1].foldl append empty

theorem exists_isTextOf_paragraph : ReflTransGen Adds empty paragraph ∧ 1 < paragraph.size ∧
    ReflTransGen Adds empty wrappedParagraph ∧ paragraph.Wraps wrappedParagraph [1] [1] ∧
    ∃ t, paragraph.text 1 = .ok t ∧ paragraph.IsTextOf 1 t ∧ wrappedParagraph.text 1 = .ok t := by
  have h₀ : ReflTransGen Adds empty paragraph := by
    simp only [paragraph, List.foldl_cons, List.foldl_nil]
    iterate 6 refine adds_tail ?_ ⟨⟨rfl, rfl, rfl⟩, by decide⟩
    exact .refl
  have h₀' : ReflTransGen Adds empty wrappedParagraph := by
    simp only [wrappedParagraph, List.foldl_cons, List.foldl_nil]
    iterate 7 refine adds_tail ?_ ⟨⟨rfl, rfl, rfl⟩, by decide⟩
    exact .refl
  have hnodes : paragraph = ⟨#[{ documentNode with children := [1] },
      { elementNode "p" [] 0 with children := [2, 3, 5] },
      { textNode " a\tb" 1 with next := some 3 },
      { elementNode "i" [] 1 with children := [4], prev := some 2, next := some 5 },
      textNode "c\n" 3, { textNode "\u00a0" 1 with prev := some 3 }]⟩ := by decide +kernel
  have hnodes' : wrappedParagraph = ⟨#[{ documentNode with children := [1] },
      { elementNode "p" [] 0 with children := [2, 6] },
      { elementNode "b" [] 1 with children := [3, 4], next := some 6 },
      { textNode " a\tb" 2 with next := some 4 },
      { elementNode "i" [] 2 with children := [5], prev := some 3 },
      textNode "c\n" 4, { textNode "\u00a0" 1 with prev := some 2 }]⟩ := by decide +kernel
  have hwraps : paragraph.Wraps wrappedParagraph [1] [1] := by
    rw [hnodes, hnodes']
    refine .node rfl rfl rfl rfl ?_ .nil
    change Wraps _ _ ([2, 3] ++ [5]) [2, 6]
    refine .around rfl rfl ?run ?blank
    case run =>
      refine .node rfl rfl rfl rfl .nil (.node rfl rfl rfl rfl ?_ .nil)
      exact .node rfl rfl rfl rfl .nil .nil
    case blank => exact .node rfl rfl rfl rfl .nil .nil
  have hlt : 1 < paragraph.size := by decide
  obtain ⟨t, ht, hof, hsame⟩ := exists_isTextOf h₀ hlt
  exact ⟨h₀, hlt, h₀', hwraps, t, ht, hof, hsame _ _ h₀' hwraps⟩

end InstanceCatalog.Document
