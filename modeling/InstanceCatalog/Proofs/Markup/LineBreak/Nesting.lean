import InstanceCatalog.Proofs.Catalog.Invariance
import InstanceCatalog.Proofs.Markup.LineBreak.Reader
import InstanceCatalog.Proofs.Markup.Reading

/-! # Forests of pages with other line breaks

The forest of a page with unified line breaks is the same but for the line breaks in its values and
texts.  Written anew without them, both forests are one. -/

namespace InstanceCatalog.Markup

open Text

/-! ## Values and texts without their line breaks -/

/-- A value, or if there are line breaks in it one for all of them that have the same words. -/
def unbroken (s : String) : String :=
  if s.toList.any isBreak then String.ofList ('\n' :: (oneLine s).toList) else s

/-- Values as if they had no line breaks, and texts on one line each. -/
def Recasting.lines : Recasting where
  value := unbroken
  text s := some (oneLine s)
  words_value s := by
    rw [unbroken]
    split
    · rw [String.toList_ofList, words_cons_blank (c := '\n') rfl, words_oneLine]
    · rfl
  words_text s := by rw [Option.elim_some, words_oneLine]

theorem unbroken_eq {s t : String} (h : Text.Unifies s.toList t.toList) :
    unbroken s = unbroken t := by
  rw [unbroken, unbroken, h.any_isBreak_eq, oneLine, oneLine, h.words_eq]
  split
  · rfl
  · rename_i hbreak
    rw [← h.any_isBreak_eq, List.any_eq_true] at hbreak
    refine String.toList_inj.1 ((h.eq_iff (w := s.toList) fun c hc ↦ ?_).1 rfl).symm
    exact Bool.eq_false_iff.2 fun hb ↦ hbreak ⟨c, hc, hb⟩

theorem attrs_lines_eq {attrs attrs' : List (String × String)} (h : UnifiesAttrs attrs attrs') :
    Recasting.lines.attrs attrs = Recasting.lines.attrs attrs' := by
  induction h with
  | nil => rfl
  | @cons a b _ _ hab _ ih =>
    obtain ⟨hkey, hvalue⟩ := hab
    exact congrArg₂ List.cons (Prod.ext hkey (unbroken_eq hvalue)) ih

/-- A value without line breaks is told from all others. -/
theorem Recasting.keeps_lines {value : String} (h : value.toList.any isBreak = false) :
    lines.Keeps value := by
  intro s
  by_cases hs : s.toList.any isBreak = true
  · have hvalue : unbroken s = String.ofList ('\n' :: (oneLine s).toList) := if_pos hs
    refine iff_of_false ?_ ?_
    · rintro (rfl : unbroken s = value)
      rw [hvalue, String.toList_ofList] at h
      cases h
    · rintro rfl
      rw [h] at hs
      cases hs
  · have hvalue : unbroken s = s := if_neg hs
    exact iff_of_eq (congrArg (· = value) hvalue)

/-! ## Nesting -/

namespace Forest

variable (r : Recasting)

theorem recast_reverseOnto (f g : Forest) :
    (reverseOnto f g).recast r = reverseOnto (f.recast r) (g.recast r) := by
  induction f generalizing g with
  | nil => rfl
  | element t as cs rest _ ih => exact ih _
  | text s rest ih =>
    rw [reverseOnto, ih, recast, recast]
    split <;> rfl
  | hidden rest ih => exact ih _

theorem recast_reverse (f : Forest) : f.reverse.recast r = (f.recast r).reverse :=
  recast_reverseOnto r f .nil

end Forest

/-- The same open element but for line breaks. -/
structure Open.Unifies (o o' : Open) : Prop where
  tag : o.tag = o'.tag
  attrs : UnifiesAttrs o.attrs o'.attrs
  before : o.before.recast .lines = o'.before.recast .lines

namespace Nesting

/-- The same state but for line breaks. -/
structure Unifies (n n' : Nesting) : Prop where
  stack : List.Forall₂ Open.Unifies n.stack n'.stack
  inside : n.inside.recast .lines = n'.inside.recast .lines
  run : Text.Unifies n.run.toList n'.run.toList
  settled : n.settled = n'.settled

variable {n n' : Nesting} {attrs attrs' : List (String × String)} {os os' : List Open}

theorem any_tag_eq (h : List.Forall₂ Open.Unifies os os') (q : String → Bool) :
    os.any (q ·.tag) = os'.any (q ·.tag) := by
  induction h with
  | nil => rfl
  | cons ho _ ih => rw [List.any_cons, List.any_cons, ho.tag, ih]

theorem Unifies.flush (h : Unifies n n') : Unifies n.flush n'.flush := by
  have hempty : n.run.isEmpty = n'.run.isEmpty := by
    rw [Bool.eq_iff_iff, String.isEmpty_iff, String.isEmpty_iff, ← String.toList_eq_nil_iff,
      ← String.toList_eq_nil_iff, h.run.eq_nil_iff]
  have hdata (b : Bool) : oneLine (if b then n.run else collapse n.run) =
      oneLine (if b then n'.run else collapse n'.run) := by
    have hrun : oneLine n.run = oneLine n'.run := by rw [oneLine, oneLine, h.run.words_eq]
    cases b with
    | true => exact hrun
    | false => exact (oneLine_collapse _).trans (hrun.trans (oneLine_collapse _).symm)
  rw [Nesting.flush, Nesting.flush, hempty, any_tag_eq h.stack]
  split
  · exact h
  · refine ⟨h.stack, ?_, .nil, h.settled⟩
    exact congrArg₂ Forest.text (hdata _) h.inside

theorem Unifies.push (h : Unifies n n') (tag : String) (ha : UnifiesAttrs attrs attrs') :
    Unifies (n.push tag attrs) (n'.push tag attrs') :=
  ⟨.cons ⟨rfl, ha, h.inside⟩ h.stack, rfl, h.run, h.settled⟩

theorem Unifies.pop (h : Unifies n n') : Unifies n.pop n'.pop := by
  obtain ⟨stack, inside, run, settled⟩ := n
  obtain ⟨stack', inside', run', settled'⟩ := n'
  obtain ⟨hstack, hinside, hrun, hsettled⟩ := h
  cases hstack with
  | nil => exact ⟨.nil, hinside, hrun, hsettled⟩
  | cons ho hstack =>
    refine ⟨hstack, ?_, hrun, hsettled⟩
    simp only [Nesting.pop, Forest.recast, Forest.recast_reverse, ho.tag, attrs_lines_eq ho.attrs,
      ho.before, hinside]

theorem Unifies.popTo (h : Unifies n n') (hos : List.Forall₂ Open.Unifies os os') (tag : String) :
    Unifies (Nesting.popTo tag os n) (Nesting.popTo tag os' n') := by
  induction hos generalizing n n' with
  | nil => exact h
  | cons ho _ ih =>
    rw [Nesting.popTo, Nesting.popTo, ho.tag]
    split
    · exact h.pop
    · exact ih h.pop

theorem Unifies.popAll (h : Unifies n n') (hos : List.Forall₂ Open.Unifies os os') :
    Unifies (Nesting.popAll os n) (Nesting.popAll os' n') := by
  induction hos generalizing n n' with
  | nil => exact h
  | cons _ _ ih => exact ih h.pop

theorem Unifies.close (h : Unifies n n') (tag : String) :
    Unifies (n.close tag) (n'.close tag) := by
  have hflush := h.flush
  rw [Nesting.close, Nesting.close, any_tag_eq hflush.stack (· == tag)]
  split
  · exact hflush.popTo hflush.stack tag
  · exact hflush

theorem Unifies.start (h : Unifies n n') (tag : String) (ha : UnifiesAttrs attrs attrs')
    (closed : Bool) : Unifies (n.start tag attrs closed) (n'.start tag attrs' closed) := by
  have hpush := h.flush.push tag ha
  rw [Nesting.start, Nesting.start]
  split
  · exact hpush.close tag
  · split
    · have hclose := hpush.close tag
      exact ⟨hclose.stack, hclose.inside, hclose.run, congrArg (tag :: ·) hclose.settled⟩
    · exact hpush

theorem Unifies.finish (h : Unifies n n') (tag : String) :
    Unifies (n.finish tag) (n'.finish tag) := by
  rw [Nesting.finish, Nesting.finish, h.settled]
  split
  · exact ⟨h.stack, h.inside, h.run, rfl⟩
  · exact h.close tag

theorem Unifies.token (h : Unifies n n') {t t' : Token} (ht : Token.Unifies t t') :
    Unifies (n.token t) (n'.token t') := by
  cases ht with
  | @text s s' ht =>
    have hrun : Text.Unifies (n.run ++ s).toList (n'.run ++ s').toList := by
      rw [String.toList_append, String.toList_append]
      exact h.run.append ht
    exact ⟨h.stack, h.inside, hrun, h.settled⟩
  | start tag ha closed => exact h.start tag ha closed
  | finish tag => exact h.finish tag
  | hidden =>
    have hflush := h.flush
    exact ⟨hflush.stack, hflush.inside, hflush.run, hflush.settled⟩

theorem Unifies.foldl (h : Unifies n n') {ts ts' : List Token}
    (hts : List.Forall₂ Token.Unifies ts ts') :
    Unifies (ts.foldl Nesting.token n) (ts'.foldl Nesting.token n') := by
  induction hts generalizing n n' with
  | nil => exact h
  | cons ht _ ih => exact ih (h.token ht)

end Nesting

theorem Forest.recast_ofTokens {ts ts' : List Token} (h : List.Forall₂ Token.Unifies ts ts') :
    (ofTokens ts).recast .lines = (ofTokens ts').recast .lines := by
  have hempty : Nesting.Unifies {} {} := ⟨.nil, rfl, .nil, rfl⟩
  have hflush := (hempty.foldl h).flush
  have hinside := (hflush.popAll hflush.stack).inside
  rw [ofTokens, ofTokens, recast_reverse, recast_reverse]
  exact congrArg reverse hinside

/-! ## Catalogs -/

theorem Forest.catalog_ofTokens {ts ts' : List Token} (h : List.Forall₂ Token.Unifies ts ts') :
    (ofTokens ts).catalog = (ofTokens ts').catalog := by
  have hkeeps : Recasting.lines.Keeps Section.anchorId := Recasting.keeps_lines (by decide)
  rw [← catalog_recast hkeeps, recast_ofTokens h, catalog_recast hkeeps]

end InstanceCatalog.Markup
