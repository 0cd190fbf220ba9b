import InstanceCatalog.Document.OfForest
import InstanceCatalog.Proofs.Markup.Element
import InstanceCatalog.Proofs.Markup.Tag

/-! # Markup as an author writes it

Elements, each with both its tags, texts and remarks.  What is written
is read as the same trees, but for the texts: those that stand side by side become one, one of
nothing but blanks becomes a single blank, and an empty one is lost. -/

namespace InstanceCatalog.Markup

/-- A comment or the like. -/
structure Remark where
  written : List Char
  reads : Reads written (·.token .hidden)

inductive Source where
  | nil
  | element (tag : String) (attrs : List (String × String)) (children rest : Source)
  | text (data : String) (rest : Source)
  | remark (r : Remark) (rest : Source)

/-- An element that is written with two tags, and whose content is read as markup. -/
@[mk_iff] structure ProperTag (tag : String) : Prop where
  name : isTagName tag.toList = true
  raw : Raw.ofTag? tag = none
  holds : Nesting.isEmptyElement tag = false

instance : DecidablePred ProperTag := fun tag ↦ decidable_of_iff _ (properTag_iff tag).symm

namespace Forest

variable {f g h : Forest}

theorem reverseOnto_reverseOnto (f g h : Forest) :
    reverseOnto (reverseOnto f g) h = reverseOnto g (f ++ h) := by
  induction f generalizing g with
  | nil => rfl
  | element t as cs rest _ ih => exact ih (element t as cs g)
  | text s rest ih => exact ih (text s g)
  | hidden rest ih => exact ih (hidden g)

@[simp] theorem reverse_reverseOnto_nil (f : Forest) : (reverseOnto f nil).reverse = f := by
  rw [reverse, reverseOnto_reverseOnto, append_nil]
  rfl

end Forest

namespace Source

def write : Source → List Char
  | nil => []
  | element tag attrs children rest =>
    writeStart tag attrs ++ children.write ++ writeEnd tag ++ rest.write
  | text data rest => data.toList.flatMap escape ++ rest.write
  | remark r rest => r.written ++ rest.write

/-- Everything in the source can be written. -/
def Proper : Source → Prop
  | nil => True
  | element tag attrs children rest =>
    ProperTag tag ∧ ProperAttrs attrs ∧ children.Proper ∧ rest.Proper
  | text _ rest => rest.Proper
  | remark _ rest => rest.Proper

def decidableProper : (f : Source) → Decidable f.Proper
  | nil => .isTrue trivial
  | element tag attrs children rest =>
    have := children.decidableProper
    have := rest.decidableProper
    inferInstanceAs <| Decidable <|
      ProperTag tag ∧ ProperAttrs attrs ∧ children.Proper ∧ rest.Proper
  | text _ rest => rest.decidableProper
  | remark _ rest => rest.decidableProper

instance : DecidablePred Proper := decidableProper

/-- A run of text in front of other trees. -/
def leaf (keeps : Bool) (run : String) (f : Forest) : Forest :=
  if run.isEmpty then f else .text (if keeps then run else Nesting.collapse run) f

/-- The trees of a source after a run of text, inside an element that keeps its blanks or not. -/
def trees (keeps : Bool) : String → Source → Forest
  | run, nil => leaf keeps run .nil
  | run, element tag attrs children rest =>
    leaf keeps run (.element tag attrs (children.trees (Nesting.keepsBlanks tag || keeps) "")
      (rest.trees keeps ""))
  | run, text data rest => rest.trees keeps (run ++ data)
  | run, remark _ rest => leaf keeps run (.hidden (rest.trees keeps ""))

/-- What is nested after a source. -/
def after : Source → Nesting → Nesting
  | nil, n => n
  | element tag attrs children rest, n =>
    rest.after ((children.after (n.start tag attrs false)).finish tag)
  | text data rest, n => rest.after (n.token (.text data))
  | remark _ rest, n => rest.after (n.token .hidden)

section Leaf

variable (keeps : Bool) (run : String) (f : Forest)

theorem elements_leaf : (leaf keeps run f).elements = f.elements := by
  rw [leaf]
  split <;> rfl

theorem row_leaf : (leaf keeps run f).row = f.row := by
  rw [leaf]
  split <;> rfl

theorem trail_leaf (q : Element → Bool) : (leaf keeps run f).trail q = f.trail q := by
  rw [leaf]
  split <;> rfl

theorem reverseOnto_leaf (g : Forest) :
    Forest.reverseOnto (leaf keeps run f) g = Forest.reverseOnto f (leaf keeps run g) := by
  rw [leaf, leaf]
  split <;> rfl

end Leaf

theorem reads_write {f : Source} (h : f.Proper) : Reads f.write f.after := by
  induction f with
  | nil => exact reads_nil
  | element tag attrs children rest ihchildren ihrest =>
    obtain ⟨htag, hattrs, hchildren, hrest⟩ := h
    have hstart := reads_start htag.name htag.raw hattrs
    have hinside := (hstart.append (ihchildren hchildren)).append (reads_end htag.name)
    exact hinside.append (ihrest hrest)
  | text data rest ih =>
    have htext := reads_text data.toList
    rw [String.ofList_toList] at htext
    exact htext.append (ih h)
  | remark r rest ih => exact r.reads.append (ih h)

end Source

namespace Nesting

variable {n : Nesting} {tag : String} {attrs : List (String × String)}

/-- Whether blanks are kept at this place. -/
def keeps (n : Nesting) : Bool := n.stack.any (keepsBlanks ·.tag)

theorem flush_eq (n : Nesting) :
    n.flush = { n with inside := Source.leaf n.keeps n.run n.inside, run := "" } := by
  rw [flush, Source.leaf]
  cases h : n.run.isEmpty with
  | true => rw [if_pos rfl, if_pos rfl, ← String.isEmpty_iff.1 h]
  | false => rfl

theorem settled_flush (n : Nesting) : n.flush.settled = n.settled := by rw [flush_eq]

theorem start_eq (h : isEmptyElement tag = false) :
    n.start tag attrs false = n.flush.push tag attrs := by
  rw [start, h]
  rfl

/-- An end tag closes the innermost element if it is the one it names. -/
theorem finish_eq {m : Nesting} {inside : Forest} (hsettled : m.settled = [])
    (hm : m.flush = { n.push tag attrs with inside, run := "" }) :
    m.finish tag = { n with inside := .element tag attrs inside.reverse n.inside, run := "" } := by
  have hany : (n.push tag attrs).stack.any (·.tag == tag) = true := by
    rw [push, List.any_cons, beq_self_eq_true, Bool.true_or]
  rw [finish, hsettled, List.contains_nil, if_neg Bool.false_ne_true, close, hm]
  simp only [hany, if_true]
  rw [push, popTo, if_pos rfl]
  rfl

end Nesting

namespace Source

open Nesting

/-- What a source adds where no end tag is still to come. -/
theorem flush_after {f : Source} {n : Nesting} (h : f.Proper) (hn : n.settled = []) :
    (f.after n).flush =
      { n with inside := Forest.reverseOnto (f.trees n.keeps n.run) n.inside, run := "" } := by
  induction f generalizing n with
  | nil =>
    rw [after, flush_eq, trees, leaf, leaf]
    split <;> rfl
  | element tag attrs children rest ihchildren ihrest =>
    obtain ⟨htag, -, hchildren, hrest⟩ := h
    -- The children leave the element the innermost open one, so its end tag closes just that.
    have hflushed : n.flush.settled = [] := by rw [settled_flush, hn]
    have hinside := ihchildren (n := n.start tag attrs false) hchildren
      (by rw [start_eq htag.holds]; exact hflushed)
    have hsettled : (children.after (n.start tag attrs false)).settled = [] := by
      rw [← settled_flush, hinside, start_eq htag.holds]
      exact hflushed
    rw [start_eq htag.holds] at hinside hsettled
    have hclosed := finish_eq hsettled hinside
    rw [after, start_eq htag.holds, hclosed, ihrest hrest (by exact hflushed), flush_eq, trees,
      reverseOnto_leaf, Forest.reverseOnto]
    simp only [push, Forest.reverse_reverseOnto_nil]
    rfl
  | text data rest ih => exact ih h hn
  | remark r rest ih =>
    have hflushed : (n.token .hidden).settled = [] := (settled_flush n).trans hn
    rw [after, ih h hflushed, trees, reverseOnto_leaf, Forest.reverseOnto, token, flush_eq]
    rfl

/-- However a source is written: reading gives its trees if each piece makes the change of the
source. -/
theorem forestOf_of_reads {f : Source} {w : List Char} (hw : Reads w f.after) (h : f.Proper) :
    Document.forestOf (String.ofList w) = .ok (f.trees false "") := by
  have hend (final : Bool) : Pass.run final none [] = .ok ⟨[], none, []⟩ := Pass.run_of_stop rfl
  obtain ⟨p, hrun, hraw, hrest, hfold⟩ := hw [] _ (hend false)
  rw [List.append_nil] at hrun
  have hafter : (p.tokens.foldl Nesting.token {}).flush =
      { inside := Forest.reverseOnto (f.trees false "") .nil } := by
    rw [hfold]
    exact flush_after h rfl
  have htokens : tokens w = .ok p.tokens := by
    rw [tokens, hrun]
    simp only [bind, Except.bind, hraw, hrest, hend true]
    simp [pure, Except.pure]
  rw [Document.forestOf, String.toList_ofList, htokens]
  change Except.ok (Forest.ofTokens p.tokens) = _
  rw [Forest.ofTokens, hafter]
  exact congrArg Except.ok (Forest.reverse_reverseOnto_nil _)

/-- Reading what was written gives its trees. -/
theorem forestOf_write {f : Source} (h : f.Proper) :
    Document.forestOf (String.ofList f.write) = .ok (f.trees false "") :=
  forestOf_of_reads (reads_write h) h

end Source

/-! ## Places in a source -/

/-- An element around a place, and what stands beside the element. -/
structure Frame where
  tag : String
  attrs : List (String × String)
  before : Source
  after : Source

namespace Source

/-- One source after the other. -/
def append : Source → Source → Source
  | nil, g => g
  | element tag attrs children rest, g => element tag attrs children (rest.append g)
  | text data rest, g => text data (rest.append g)
  | remark r rest, g => remark r (rest.append g)

theorem write_append (f g : Source) : (f.append g).write = f.write ++ g.write := by
  induction f with
  | nil => rfl
  | element tag attrs children rest _ ih => simp only [append, write, ih, List.append_assoc]
  | text data rest ih => simp only [append, write, ih, List.append_assoc]
  | remark r rest ih => simp only [append, write, ih, List.append_assoc]

theorem proper_append {f g : Source} : (f.append g).Proper ↔ f.Proper ∧ g.Proper := by
  induction f with
  | nil => simp only [append, Proper, true_and]
  | element tag attrs children rest _ ih => simp only [append, Proper, ih, and_assoc]
  | text data rest ih => exact ih
  | remark r rest ih => exact ih

end Source

namespace Frame

def fill (inside : Source) (fr : Frame) : Source :=
  fr.before.append (.element fr.tag fr.attrs inside fr.after)

/-- What is written before the place. -/
def opening (fr : Frame) : List Char := fr.before.write ++ writeStart fr.tag fr.attrs

/-- What is written after the place. -/
def closing (fr : Frame) : List Char := writeEnd fr.tag ++ fr.after.write

@[mk_iff] structure Proper (fr : Frame) : Prop where
  tag : ProperTag fr.tag
  attrs : ProperAttrs fr.attrs
  before : fr.before.Proper
  after : fr.after.Proper

instance : DecidablePred Proper := fun fr ↦ decidable_of_iff _ (proper_iff fr).symm

theorem proper_foldl_fill {frames : List Frame} {inside : Source}
    (hframes : ∀ fr ∈ frames, fr.Proper) (h : inside.Proper) :
    (frames.foldl fill inside).Proper := by
  induction frames generalizing inside with
  | nil => exact h
  | cons fr frames ih =>
    obtain ⟨hfr, hframes⟩ := List.forall_mem_cons.1 hframes
    exact ih hframes (Source.proper_append.2 ⟨hfr.before, hfr.tag, hfr.attrs, h, hfr.after⟩)

/-- Frames around a place, the innermost first. -/
theorem write_foldl_fill (frames : List Frame) (inside : Source) :
    (frames.foldl fill inside).write =
      frames.reverse.flatMap opening ++ (inside.write ++ frames.flatMap closing) := by
  induction frames generalizing inside with
  | nil => simp
  | cons fr frames ih =>
    rw [List.foldl_cons, ih, fill, Source.write_append, Source.write]
    simp [opening, closing]

end Frame

end InstanceCatalog.Markup
