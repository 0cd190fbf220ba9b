import InstanceCatalog.Proofs.Document.Readback
import InstanceCatalog.Proofs.Markup.Source

/-! # Writing a forest and reading it back

A forest is written with both tags of every element, with values in double quotes and with the four
characters of markup named wherever they stand.  If its tags and keys are names, no two texts stand
side by side and no text is mere layout, then the document of what is written is the numbering of
the forest itself. -/

namespace InstanceCatalog

namespace Markup

open Text

/-! ## Texts with quotes named -/

theorem reads_escapeValue (c : Char) :
    Reads (escapeValue c) fun n ↦ n.token (.text (String.ofList [c])) := by
  rw [escapeValue]
  split
  · subst ‹c = '"'›
    exact reads_named ['q', 'u', 'o', 't'] (by decide) fun _ ↦ rfl
  · exact reads_escape c

theorem reads_quotedText (s : List Char) :
    Reads (s.flatMap escapeValue) fun n ↦ n.token (.text (String.ofList s)) := by
  induction s with
  | nil => exact reads_nil.congr fun n ↦ by simp [Nesting.token]
  | cons c s ih =>
    rw [List.flatMap_cons]
    exact ((reads_escapeValue c).append ih).congr fun n ↦ token_text_append n [c] s

namespace Forest

/-! ## The forests that can be written -/

def write : Forest → List Char
  | nil => []
  | element tag attrs children rest =>
    writeStart tag attrs ++ children.write ++ writeEnd tag ++ rest.write
  | text data rest => data.toList.flatMap escapeValue ++ rest.write
  | hidden rest => rest.write

def startsWithText : Forest → Bool
  | text .. => true
  | _ => false

/-- Elements and texts that come back as they are: the tags and keys are names, each text holds a
character other than a space, a tab or a break, and no other text follows it. -/
def Proper : Forest → Prop
  | nil => True
  | element tag attrs children rest =>
    ProperTag tag ∧ ProperAttrs attrs ∧ children.Proper ∧ rest.Proper
  | text data rest =>
    (∃ c ∈ data.toList, Nesting.isLayout c = false) ∧ rest.startsWithText = false ∧ rest.Proper
  | hidden _ => False

def decidableProper : (f : Forest) → Decidable f.Proper
  | nil => .isTrue trivial
  | element tag attrs children rest =>
    have := children.decidableProper
    have := rest.decidableProper
    inferInstanceAs <| Decidable <|
      ProperTag tag ∧ ProperAttrs attrs ∧ children.Proper ∧ rest.Proper
  | text data rest =>
    have := rest.decidableProper
    have : Decidable (∃ c ∈ data.toList, Nesting.isLayout c = false) := List.decidableBEx _ _
    inferInstanceAs <| Decidable <|
      (∃ c ∈ data.toList, Nesting.isLayout c = false) ∧ rest.startsWithText = false ∧ rest.Proper
  | hidden _ => .isFalse id

instance : DecidablePred Proper := decidableProper

variable {f : Forest}

/-- Nothing is hidden in a forest that can be written. -/
theorem shown_eq_self (h : f.Proper) : f.shown = f := by
  induction f with
  | nil => rfl
  | element tag attrs children rest ihchildren ihrest =>
    obtain ⟨-, -, hchildren, hrest⟩ := h
    rw [shown, ihchildren hchildren, ihrest hrest]
  | text data rest ih => rw [shown, ih h.2.2]
  | hidden rest => exact h.elim

/-- Its tags are in small letters. -/
theorem lowered_eq_self (h : f.Proper) : f.lowered = f := by
  induction f with
  | nil => rfl
  | element tag attrs children rest ihchildren ihrest =>
    obtain ⟨htag, -, hchildren, hrest⟩ := h
    obtain ⟨-, -, -, -, hname⟩ := exists_of_isTagName htag.name
    rw [lowered, ihchildren hchildren, ihrest hrest, lower_of_inName hname, String.ofList_toList]
  | text data rest ih => rw [lowered, ih h.2.2]
  | hidden rest => exact h.elim

/-! ## What the written forest is read as -/

/-- The forest as a source, in which the same trees stand. -/
def source : Forest → Source
  | nil => .nil
  | element tag attrs children rest => .element tag attrs children.source rest.source
  | text data rest => .text data rest.source
  | hidden rest => rest.source

theorem proper_source (h : f.Proper) : f.source.Proper := by
  induction f with
  | nil => trivial
  | element tag attrs children rest ihchildren ihrest =>
    obtain ⟨htag, hattrs, hchildren, hrest⟩ := h
    exact ⟨htag, hattrs, ihchildren hchildren, ihrest hrest⟩
  | text data rest ih => exact ih h.2.2
  | hidden rest => exact h.elim

theorem reads_write (h : f.Proper) : Reads f.write f.source.after := by
  induction f with
  | nil => exact reads_nil
  | element tag attrs children rest ihchildren ihrest =>
    obtain ⟨htag, hattrs, hchildren, hrest⟩ := h
    have hstart := reads_start htag.name htag.raw hattrs
    have hinside := (hstart.append (ihchildren hchildren)).append (reads_end htag.name)
    exact hinside.append (ihrest hrest)
  | text data rest ih =>
    have htext := reads_quotedText data.toList
    rw [String.ofList_toList] at htext
    exact htext.append (ih h.2.2)
  | hidden rest => exact h.elim

/-- A text that is more than layout is kept as it is. -/
theorem leaf_eq_text {data : String} (keeps : Bool)
    (h : ∃ c ∈ data.toList, Nesting.isLayout c = false) (f : Forest) :
    Source.leaf keeps data f = .text data f := by
  obtain ⟨c, hc, hlayout⟩ := h
  have hempty : data.isEmpty = false := by
    rw [Bool.eq_false_iff, Ne, String.isEmpty_iff]
    rintro rfl
    cases hc
  have hcollapse : Nesting.collapse data = data := by
    rw [Nesting.collapse, if_neg]
    intro hall
    rw [List.all_eq_true.1 hall c hc] at hlayout
    cases hlayout
  rw [Source.leaf, hempty, hcollapse, if_neg Bool.false_ne_true, ite_self]

/-- A run of text ends where no text follows. -/
theorem trees_source_of_run (h : f.Proper) (htext : f.startsWithText = false) (keeps : Bool)
    (run : String) :
    f.source.trees keeps run = Source.leaf keeps run (f.source.trees keeps "") := by
  cases f with
  | nil => rfl
  | element tag attrs children rest => rfl
  | text data rest => cases htext
  | hidden rest => exact h.elim

theorem trees_source (h : f.Proper) (keeps : Bool) : f.source.trees keeps "" = f := by
  induction f generalizing keeps with
  | nil => rfl
  | element tag attrs children rest ihchildren ihrest =>
    obtain ⟨-, -, hchildren, hrest⟩ := h
    change Forest.element tag attrs _ (rest.source.trees keeps "") = _
    rw [ihchildren hchildren, ihrest hrest]
  | text data rest ih =>
    obtain ⟨hdata, htext, hrest⟩ := h
    change rest.source.trees keeps ("" ++ data) = _
    rw [String.empty_append, trees_source_of_run hrest htext, leaf_eq_text keeps hdata, ih hrest]
  | hidden rest => exact h.elim

end Forest

end Markup

namespace Document

open Markup

/-- What a forest is written as is read as the document that numbers the forest: the document node
and after it the nodes of the forest in preorder, with its tags, attributes and texts, and with the
links to parents, children and neighbours; and the rows of children give the forest back. -/
theorem ofMarkup_write {f : Forest} (h : f.Proper) :
    ∃ d, ofMarkup (String.ofList f.write) = .ok d ∧ d.Numbers f ∧ d.below root = f := by
  have hforest : forestOf (String.ofList f.write) = .ok f := by
    rw [Source.forestOf_of_reads (Forest.reads_write h) (Forest.proper_source h),
      Forest.trees_source h]
  have hnumbers : (ofForest f).Numbers f := by
    have hshown := numbers_ofForest f
    rwa [Forest.shown_eq_self h] at hshown
  refine ⟨ofForest f, ?_, hnumbers, ?_⟩
  · rw [ofMarkup, hforest]
    rfl
  · rw [hnumbers.below_root, Forest.lowered_eq_self h]

/-- One tag at three depths, with marks of markup in values and texts. -/
def nestedBlocks : Forest :=
  .element "div" [("id", "a\"b"), ("title", "x < y & z")]
    (.element "div" [] (.text " &lt; \"R&D\" " .nil) <|
      .text "<div>" <|
      .element "h1" [("class", "")] (.element "div" [] .nil .nil) .nil) <|
  .text "last" .nil

theorem ofMarkup_write_nestedBlocks : nestedBlocks.Proper ∧
    ∃ d, ofMarkup (String.ofList nestedBlocks.write) = .ok d ∧ d.Numbers nestedBlocks ∧
      d.below root = nestedBlocks :=
  ⟨by decide, ofMarkup_write (by decide)⟩

end Document

end InstanceCatalog
