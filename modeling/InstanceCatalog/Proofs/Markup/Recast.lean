import InstanceCatalog.Proofs.Markup.Element
import InstanceCatalog.Proofs.Text.Words
import Mathlib.Logic.Relation

/-! # Forests written anew

The values of attributes and the texts of a forest may be written in another way, as long as they
keep their words.  Hidden trees and texts without words may go.  The elements stay in their order,
with their tags, keys, classes and texts.

Comments and texts of nothing but blanks are put into a page to lay it out.  The essence of a forest
is what it is without them. -/

namespace InstanceCatalog.Markup

/-- A way to write values and texts that keeps their words; some texts are left out. -/
structure Recasting where
  value : String → String
  text : String → Option String
  words_value (s : String) : Text.words (value s).toList = Text.words s.toList
  words_text (s : String) : ((text s).elim [] fun t ↦ Text.words t.toList) = Text.words s.toList

namespace Recasting

variable (r : Recasting)

def attrs (attrs : List (String × String)) : List (String × String) :=
  attrs.map (Prod.map id r.value)

/-- Whether just the value itself is written like some value. -/
def Keeps (value : String) : Prop := ∀ s, r.value s = value ↔ s = value

theorem lookup_attrs (key : String) (attrs : List (String × String)) :
    (r.attrs attrs).lookup key = (attrs.lookup key).map r.value := by
  induction attrs with
  | nil => rfl
  | cons a attrs ih =>
    obtain ⟨k, v⟩ := a
    change (List.lookup key ((k, r.value v) :: r.attrs attrs)) = _
    rw [List.lookup_cons, List.lookup_cons, ih]
    split <;> rfl

end Recasting

namespace Forest

/-- The row with its values and texts written anew, and without hidden trees. -/
def recast (r : Recasting) : Forest → Forest
  | nil => nil
  | element tag attrs children rest =>
    element tag (r.attrs attrs) (children.recast r) (rest.recast r)
  | text data rest =>
    match r.text data with
    | some data => text data (rest.recast r)
    | none => rest.recast r
  | hidden rest => rest.recast r

end Forest

def Element.recast (r : Recasting) (e : Element) : Element :=
  ⟨e.tag, r.attrs e.attrs, e.children.recast r⟩

def Place.recast (r : Recasting) (x : Place) : Place := ⟨x.element.recast r, x.after.recast r⟩

variable {r : Recasting}

namespace Forest

theorem elements_recast (f : Forest) :
    (f.recast r).elements = f.elements.map (Element.recast r) := by
  induction f with
  | nil => rfl
  | element t as cs rest ihc ihr =>
    rw [recast, elements, elements, ihc, ihr, List.map_cons, List.map_append]
    rfl
  | text s rest ih =>
    rw [recast]
    split <;> exact ih
  | hidden rest ih => exact ih

theorem length_elements_recast (f : Forest) :
    (f.recast r).elements.length = f.elements.length := by
  rw [elements_recast, List.length_map]

theorem rowFrom_recast (i : Nat) (f : Forest) :
    (f.recast r).rowFrom i = (f.rowFrom i).map (Prod.map id (Element.recast r)) := by
  induction f generalizing i with
  | nil => rfl
  | element t as cs rest _ ih =>
    rw [recast, rowFrom, rowFrom, length_elements_recast, ih]
    rfl
  | text s rest ih =>
    rw [recast]
    split <;> exact ih i
  | hidden rest ih => exact ih i

/-- A test that does not see the difference leads along the same trail. -/
theorem trailFrom_recast {q : Element → Bool} (hq : ∀ e, q (e.recast r) = q e) (i : Nat)
    (f : Forest) :
    (f.recast r).trailFrom q i = (f.trailFrom q i).map (·.map (Prod.map id (Place.recast r))) := by
  induction f generalizing i with
  | nil => rfl
  | element t as cs rest ihc ihr =>
    have hhere : q ⟨t, r.attrs as, cs.recast r⟩ = q ⟨t, as, cs⟩ := hq ⟨t, as, cs⟩
    simp only [recast, trailFrom, hhere, length_elements_recast, ihc, ihr]
    split
    · rfl
    · cases cs.trailFrom q (i + 1) with
      | none => rfl
      | some places => simp [Place.recast, Element.recast]
  | text s rest ih =>
    rw [recast]
    split <;> exact ih i
  | hidden rest ih => exact ih i

theorem words_leaves_recast (f : Forest) :
    ((f.recast r).leaves.flatMap fun s ↦ Text.words s.toList) =
      f.leaves.flatMap fun s ↦ Text.words s.toList := by
  induction f with
  | nil => rfl
  | element t as cs rest ihc ihr =>
    rw [recast, leaves, leaves, List.flatMap_append, List.flatMap_append, ihc, ihr]
  | text s rest ih =>
    rw [leaves, List.flatMap_cons, ← r.words_text s, ← ih, recast]
    split
    · rename_i data hdata
      rw [hdata, leaves, List.flatMap_cons]
      rfl
    · rename_i hnone
      rw [hnone]
      rfl
  | hidden rest ih => exact ih

end Forest

namespace Element

/-- The text of an element is written with its words, and with nothing else. -/
theorem text_eq_of_words {e e' : Element}
    (h : (e.children.leaves.flatMap fun s ↦ Text.words s.toList) =
      e'.children.leaves.flatMap fun s ↦ Text.words s.toList) : e.text = e'.text := by
  rw [text, text, Text.oneLine, Text.oneLine, Text.words_intercalate, Text.words_intercalate, h]

theorem text_recast (e : Element) : (e.recast r).text = e.text :=
  text_eq_of_words (Forest.words_leaves_recast e.children)

theorem classWords_recast (e : Element) : (e.recast r).classWords = e.classWords := by
  rw [classWords, classWords, recast, r.lookup_attrs]
  cases e.attrs.lookup "class" with
  | none => rfl
  | some value => exact congrArg _ (r.words_value value)

theorem hasClasses_recast (wanted : List String) (e : Element) :
    (e.recast r).hasClasses wanted = e.hasClasses wanted := by
  rw [hasClasses, hasClasses, classWords_recast]

theorem hasAttr_recast {value : String} (h : r.Keeps value) (key : String) (e : Element) :
    (e.recast r).hasAttr key value = e.hasAttr key value := by
  rw [hasAttr, hasAttr, recast, r.lookup_attrs]
  cases e.attrs.lookup key with
  | none => rfl
  | some v => rw [Bool.eq_iff_iff, Option.map_some, beq_iff_eq, beq_iff_eq, Option.some.injEq,
      Option.some.injEq, h v]

theorem tagged_recast (tag : String) (e : Element) :
    (e.recast r).tagged tag = (e.tagged tag).map (recast r) := by
  have hsubtree : (e.recast r).subtree = e.subtree.map (recast r) := by
    rw [subtree, subtree, List.map_cons, ← Forest.elements_recast]
    rfl
  have hfilter : (hasTag tag ∘ recast r : Element → Bool) = hasTag tag := rfl
  rw [tagged, tagged, hsubtree, List.filter_map, hfilter]

end Element

/-! ## Layout -/

namespace Forest

/-- A forest becomes another by one more tree of layout, at any place and depth. -/
inductive Inserts : Forest → Forest → Prop
  | hidden (f : Forest) : Inserts f (.hidden f)
  | blank {data : String} (h : ∀ c ∈ data.toList, Text.isBlank c = true) (f : Forest) :
    Inserts f (.text data f)
  | within {f g : Forest} (h : Inserts f g) (tag : String) (attrs : List (String × String))
    (rest : Forest) : Inserts (.element tag attrs f rest) (.element tag attrs g rest)
  | afterElement {f g : Forest} (h : Inserts f g) (tag : String) (attrs : List (String × String))
    (children : Forest) : Inserts (.element tag attrs children f) (.element tag attrs children g)
  | afterText {f g : Forest} (h : Inserts f g) (data : String) :
    Inserts (.text data f) (.text data g)
  | afterHidden {f g : Forest} (h : Inserts f g) : Inserts (.hidden f) (.hidden g)

/-- The row without layout, at any depth. -/
def essence : Forest → Forest
  | nil => nil
  | element tag attrs children rest => element tag attrs children.essence rest.essence
  | text data rest =>
    if data.toList.all Text.isBlank then rest.essence else text data rest.essence
  | hidden rest => rest.essence

/-- Leaves out the texts of nothing but blanks, and changes nothing else. -/
def layout : Recasting where
  value := id
  text s := if s.toList.all Text.isBlank then none else some s
  words_value _ := rfl
  words_text s := by
    split
    · exact (Text.words_eq_nil (List.all_eq_true.1 ‹_›)).symm
    · rfl

theorem attrs_layout (attrs : List (String × String)) : layout.attrs attrs = attrs :=
  List.map_id attrs

theorem essence_eq_recast (f : Forest) : f.essence = f.recast layout := by
  induction f with
  | nil => rfl
  | element t as cs rest ihc ihr => rw [essence, recast, attrs_layout, ihc, ihr]
  | text s rest ih =>
    have htext : layout.text s = if s.toList.all Text.isBlank then none else some s := rfl
    rw [essence, recast, ih, htext]
    split <;> rfl
  | hidden rest ih => exact ih

theorem essence_text_of_blank {data : String} (h : ∀ c ∈ data.toList, Text.isBlank c = true)
    (f : Forest) : (text data f).essence = f.essence := if_pos (List.all_eq_true.2 h)

theorem essence_eq_of_inserts {f g : Forest} (h : Inserts f g) : f.essence = g.essence := by
  induction h with
  | hidden f => rfl
  | blank h f => exact (essence_text_of_blank h f).symm
  | within _ _ _ _ ih => rw [essence, ih, essence]
  | afterElement _ _ _ _ ih => rw [essence, ih, essence]
  | afterText _ _ ih => rw [essence, ih, essence]
  | afterHidden _ ih => exact ih

/-- However much layout comes and goes, the essence stays. -/
theorem essence_eq_of_eqvGen {f g : Forest} (h : Relation.EqvGen Inserts f g) :
    f.essence = g.essence := by
  induction h with
  | rel _ _ h => exact essence_eq_of_inserts h
  | refl _ => rfl
  | symm _ _ _ ih => exact ih.symm
  | trans _ _ _ _ _ ih₁ ih₂ => exact ih₁.trans ih₂

end Forest

def Element.essence (e : Element) : Element := { e with children := e.children.essence }

theorem Element.essence_eq_recast (e : Element) : e.essence = e.recast Forest.layout := by
  rw [essence, recast, Forest.attrs_layout, Forest.essence_eq_recast]

end InstanceCatalog.Markup
