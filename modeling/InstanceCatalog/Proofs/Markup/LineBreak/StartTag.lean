import InstanceCatalog.Markup.StartTag
import InstanceCatalog.Proofs.Markup.LineBreak.Reference
import Mathlib.Data.List.Forall2

/-! # Start tags beside line breaks

Line breaks are blanks, so a tag and its attributes end at the same places with unified line breaks.
Names hold no line breaks; values may, between quotes. -/

namespace InstanceCatalog.Markup

open Text

variable {c : Char} {s t : List Char}

theorem not_isBreak_of_not_isBlank (h : isBlank c = false) : isBreak c = false := by
  rw [not_isBreak_iff]
  constructor <;> rintro rfl <;> cases h

theorem eq_false_of_dropWhile {q : Char → Bool} (h : s.dropWhile q = c :: t) : q c = false := by
  have := List.head?_dropWhile_not q s
  rw [h] at this
  simpa using this

theorem ne_return_of_dropWhile (h : s.dropWhile isBlank = c :: t) : c ≠ '\r' :=
  (not_isBreak_iff.1 (not_isBreak_of_not_isBlank (eq_false_of_dropWhile h))).1

/-- The same attributes but for line breaks in their values. -/
def UnifiesAttrs : List (String × String) → List (String × String) → Prop :=
  List.Forall₂ fun a b ↦ a.1 = b.1 ∧ Unifies a.2.toList b.2.toList

/-- The same tokens but for line breaks in texts and values. -/
inductive Token.Unifies : Token → Token → Prop
  | text {s t : String} (h : Text.Unifies s.toList t.toList) : Unifies (.text s) (.text t)
  | start (tag : String) {attrs attrs' : List (String × String)} (h : UnifiesAttrs attrs attrs')
    (closed : Bool) : Unifies (.start tag attrs closed) (.start tag attrs' closed)
  | finish (tag : String) : Unifies (.finish tag) (.finish tag)
  | hidden : Unifies .hidden .hidden

/-- The same reading but for line breaks in its tokens and unified line breaks in what follows. -/
structure Reading.Unifies (r r' : Reading) : Prop where
  tokens : List.Forall₂ Token.Unifies r.tokens r'.tokens
  raw : r.raw = r'.raw
  rest : r'.rest = unifyLineBreaks r.rest

namespace StartTag

/-! ## Gaps -/

theorem startsGap_break {b : Char} (hb : isBreak b = true) (s : List Char) :
    startsGap (b :: s) = true :=
  forall_isBreak (P := fun b ↦ startsGap (b :: s) = true) rfl rfl hb

theorem startsGap_unified (s : List Char) : startsGap (unifyLineBreaks s) = startsGap s := by
  rcases unifyLineBreaks_cases s with rfl | ⟨b, t, t', hb, rfl, hu⟩ | ⟨c, t, hc, rfl, hu⟩
  · rfl
  · rw [hu, startsGap_break hb]
    rfl
  · have hhead := head?_unifyLineBreaks (c := '>') (by decide) t
    rw [hu, startsGap, startsGap]
    congr 2
    rw [Bool.eq_iff_iff, bne_iff_ne, bne_iff_ne, ne_eq, ne_eq, hhead]

theorem dropGap_unified (s : List Char) :
    dropGap (unifyLineBreaks s) = unifyLineBreaks (dropGap s) := by
  fun_induction unifyLineBreaks s with
  | case1 => rfl
  | case2 s ih => exact ih
  | case3 s _ ih => exact ih
  | case4 c s _ hr ih =>
    have hgap := startsGap_unified (c :: s)
    rw [unifyLineBreaks_cons hr] at hgap
    rw [dropGap, dropGap, hgap, ih]
    split
    · rfl
    · rw [unifyLineBreaks_cons hr]

/-- A place in the text with unified line breaks. -/
def Place.unify (p : Place) : Place := ⟨p.ready, unifyLineBreaks p.rest⟩

theorem Place.afterGap_unified (ready : Bool) (s : List Char) :
    Place.afterGap ⟨ready, unifyLineBreaks s⟩ = (Place.afterGap ⟨ready, s⟩).unify := by
  simp only [afterGap, unify, startsGap_unified, dropGap_unified]

/-! ## Attributes -/

variable {p q : Place} {a : List Char × List Char}

/-- A value ends where its quote comes again, which is no line break. -/
theorem afterSigns?_unified (signs : Nat) (s : List Char) : afterSigns? signs (unifyLineBreaks s) =
    (afterSigns? signs s).map (Prod.map unifyLineBreaks Place.unify) := by
  rw [afterSigns?, afterSigns?, dropWhile_unifyLineBreaks (p := isBlank) rfl]
  cases hs : s.dropWhile isBlank with
  | nil => rfl
  | cons c t =>
    obtain ⟨hr, hn⟩ := not_isBreak_iff.1 (not_isBreak_of_not_isBlank (eq_false_of_dropWhile hs))
    have hquote : ('\r' != c) = ('\n' != c) := by
      rw [bne_iff_ne.2 (Ne.symm hr), bne_iff_ne.2 (Ne.symm hn)]
    have hcons := unifyLineBreaks_cons hr
    simp only [hcons, dropWhile_unifyLineBreaks (p := (· != c)) hquote,
      takeWhile_unifyLineBreaks (p := (· != c)) hquote,
      head?_any_unifyLineBreaks (p := isBlank) rfl,
      takeWhile_unifyLineBreaks (p := isBareChar) rfl,
      dropWhile_unifyLineBreaks (p := isBareChar) rfl]
    split
    · cases ht : t.dropWhile (· != c) with
      | nil =>
        simp only [unifyLineBreaks_nil]
        split
        · simp [Place.unify, hcons]
        · split <;> simp [Place.unify, unifyLineBreaks_cons]
      | cons d rest =>
        obtain rfl : d = c := by simpa using eq_false_of_dropWhile ht
        simp [Place.unify, hcons]
    · rw [← hcons, takeWhile_unifyLineBreaks (p := isBareChar) rfl,
        dropWhile_unifyLineBreaks (p := isBareChar) rfl]
      rfl

theorem value?_unified (s : List Char) : value? (unifyLineBreaks s) =
    (value? s).map (Prod.map unifyLineBreaks Place.unify) := by
  have hsigns := takeWhile_unifyLineBreaks_eq (p := (· == '=')) rfl rfl (s.dropWhile isBlank)
  have hrest := dropWhile_unifyLineBreaks (p := (· == '=')) rfl (s.dropWhile isBlank)
  simp only [value?, dropWhile_unifyLineBreaks (p := isBlank) rfl, hsigns, hrest,
    afterSigns?_unified]
  split <;> rfl

theorem attribute?_unified (p : Place) : attribute? p.unify =
    (attribute? p).map (Prod.map (Prod.map id unifyLineBreaks) Place.unify) := by
  obtain ⟨ready, s⟩ := p
  rcases unifyLineBreaks_cases s with rfl | ⟨b, t, t', hb, rfl, hu⟩ | ⟨c, t, hc, rfl, hu⟩
  · rfl
  · have hstart : isKeyStart b = false :=
      forall_isBreak (P := fun b ↦ isKeyStart b = false) rfl rfl hb
    have hstart' : isKeyStart '\n' = false := rfl
    simp only [attribute?, Place.unify, hu, hstart, hstart', Bool.and_false, Bool.false_eq_true,
      if_false, Option.map_none]
  · have hkey := takeWhile_unifyLineBreaks_eq (p := isKeyChar) rfl rfl t
    have hrest := dropWhile_unifyLineBreaks (p := isKeyChar) rfl t
    simp only [attribute?, Place.unify, hu, hkey, hrest, value?_unified]
    split
    · cases value? (t.dropWhile isKeyChar) with
      | none => simp [Place.afterGap_unified, Place.unify]
      | some v => simp [Place.afterGap_unified, Place.unify]
    · rfl

theorem attributes_of_some (h : attribute? p = some (a, q)) :
    attributes p = (a :: (attributes q).1, (attributes q).2) := by
  rw [attributes]
  split
  · rename_i h'
    rw [h] at h'
    cases h'
    rfl
  · rename_i h'
    rw [h] at h'
    cases h'

theorem attributes_of_none (h : attribute? p = none) : attributes p = ([], p) := by
  rw [attributes]
  split
  · rename_i h'
    rw [h] at h'
    cases h'
  · rfl

theorem attributes_unified (p : Place) : attributes p.unify =
    ((attributes p).1.map (Prod.map id unifyLineBreaks), (attributes p).2.unify) := by
  fun_induction attributes p with
  | case1 p a q h _ as q' hq ih =>
    have h' := attribute?_unified p
    rw [h] at h'
    rw [attributes_of_some h', ih, hq]
    rfl
  | case2 p h =>
    have h' := attribute?_unified p
    rw [h] at h'
    exact attributes_of_none h'

/-! ## Written tags -/

theorem written_unified (s : List Char) : written (unifyLineBreaks s) =
    ⟨(written s).name, (written s).attrs.map (Prod.map id unifyLineBreaks),
      unifyLineBreaks (written s).rest⟩ := by
  simp only [written, takeWhile_unifyLineBreaks_eq (p := isTagChar) rfl rfl,
    dropWhile_unifyLineBreaks (p := isTagChar) rfl, Place.afterGap_unified, attributes_unified]
  rfl

/-! ## Where a tag ends -/

theorem dropGap_suffix (s : List Char) : dropGap s <:+ s := by
  induction s with
  | nil => exact List.suffix_rfl
  | cons c s ih =>
    rw [dropGap]
    split
    · exact ih.trans (List.suffix_cons c s)
    · exact List.suffix_rfl

theorem startsGap_dropGap (s : List Char) : startsGap (dropGap s) = false := by
  induction s with
  | nil => rfl
  | cons c s ih =>
    rw [dropGap]
    split
    · exact ih
    · exact Bool.eq_false_iff.2 ‹_›

theorem suffix_of_afterSigns? {signs : Nat} {v : List Char}
    (h : afterSigns? signs s = some (v, p)) : p.rest <:+ s := by
  have hblank := List.dropWhile_suffix isBlank (l := s)
  rw [afterSigns?] at h
  split at h
  · cases h
    exact List.nil_suffix
  · rename_i c t hc
    rw [hc] at hblank
    split at h
    · split at h
      · rename_i hclose
        cases h
        have hrest := List.dropWhile_suffix (· != c) (l := t)
        rw [hclose] at hrest
        exact ((List.suffix_cons ..).trans hrest).trans ((List.suffix_cons ..).trans hblank)
      · split at h
        · cases h
          exact hblank
        · split at h
          · cases h
            exact List.dropWhile_suffix _
          · cases h
    · cases h
      exact (List.dropWhile_suffix _).trans hblank

theorem suffix_of_value? {v : List Char} (h : value? s = some (v, p)) : p.rest <:+ s := by
  obtain ⟨-, h⟩ := Option.ite_none_left_eq_some.1 h
  exact (suffix_of_afterSigns? h).trans ((List.dropWhile_suffix _).trans (List.dropWhile_suffix _))

/-- An attribute leaves an end of the text, and no gap. -/
theorem end_of_attribute? (h : attribute? p = some (a, q)) :
    q.rest <:+ p.rest ∧ startsGap q.rest = false := by
  rw [attribute?] at h
  split at h
  · cases h
  · rename_i c s hs
    obtain ⟨-, h⟩ := Option.ite_none_right_eq_some.1 h
    obtain ⟨-, rfl⟩ := Prod.mk.inj (Option.some.inj h)
    refine ⟨(dropGap_suffix _).trans ?_, startsGap_dropGap _⟩
    rw [hs]
    refine List.IsSuffix.trans ?_ ((List.dropWhile_suffix isKeyChar).trans (List.suffix_cons c s))
    cases hv : value? (s.dropWhile isKeyChar) with
    | none => exact List.suffix_rfl
    | some vp => exact suffix_of_value? hv

theorem end_of_attributes (hp : startsGap p.rest = false) :
    (attributes p).2.rest <:+ p.rest ∧ startsGap (attributes p).2.rest = false := by
  fun_induction attributes p with
  | case1 p a q h _ as q' hq ih =>
    obtain ⟨hsuffix, hgap⟩ := end_of_attribute? h
    rw [hq] at ih
    exact ⟨(ih hgap).1.trans hsuffix, (ih hgap).2⟩
  | case2 p h => exact ⟨List.suffix_rfl, hp⟩

theorem end_of_written (s : List Char) :
    (written s).rest <:+ s ∧ startsGap (written s).rest = false := by
  obtain ⟨hsuffix, hgap⟩ := end_of_attributes (p := Place.afterGap
    ⟨(s.takeWhile isTagChar).getLast?.any fun c ↦ isQuote c || isBlank c, s.dropWhile isTagChar⟩)
    (startsGap_dropGap _)
  exact ⟨hsuffix.trans ((dropGap_suffix _).trans (List.dropWhile_suffix _)), hgap⟩

/-! ## Reading a tag -/

theorem setAttr_unifies {done done' : List (String × String)} {key v v' : String}
    (h : UnifiesAttrs done done') (hv : Unifies v.toList v'.toList) :
    UnifiesAttrs (setAttr key v done) (setAttr key v' done') := by
  induction h with
  | nil => exact .cons ⟨rfl, hv⟩ .nil
  | @cons a b done done' hab _ ih =>
    obtain ⟨k, w⟩ := a
    obtain ⟨k', w'⟩ := b
    obtain ⟨rfl, hw⟩ := hab
    rw [setAttr, setAttr]
    split
    · exact .cons ⟨rfl, hv⟩ ‹_›
    · exact .cons ⟨rfl, hw⟩ ih

theorem readAttrs_unified {done done' : List (String × String)} (h : UnifiesAttrs done done')
    (as : List (List Char × List Char)) : SameOutcome UnifiesAttrs (readAttrs done as)
      (readAttrs done' (as.map (Prod.map id unifyLineBreaks))) := by
  induction as generalizing done done' with
  | nil => exact .ok h
  | cons a as ih =>
    obtain ⟨key, v⟩ := a
    refine (Reference.value_unified v).bind fun w w' hw ↦ ih (setAttr_unifies h ?_)
    rwa [String.toList_ofList, String.toList_ofList]

theorem take_front (s t : List Char) : (s ++ t).take ((s ++ t).length - t.length) = s := by
  rw [List.length_append, Nat.add_sub_cancel, List.take_left]

/-- A tag that something else than its end comes after is text, unless more of it may come. -/
theorem read_of_other (hs : (written s).rest = c :: t) (hc : c ≠ '>')
    (ht : c = '/' → t.head? ≠ some '>') : read s =
      if Text.isAsciiLetter c || c == '=' || c == '/' then .ok none
      else (readAttrs [] (written s).attrs).map fun _ ↦
        let front := s.take (s.length - (c :: t).length)
        some ⟨[.text (String.ofList ('<' :: front))], none, c :: t⟩ := by
  rw [read, hs]
  split
  · cases ‹c :: t = []›
  · rename_i heq
    exact absurd (List.cons.inj heq).1 hc
  · rename_i heq
    obtain ⟨rfl, rfl⟩ := List.cons.inj heq
    exact absurd rfl (ht rfl)
  · rename_i heq
    obtain ⟨rfl, rfl⟩ := List.cons.inj heq
    split
    · rfl
    · cases readAttrs [] (written s).attrs <;> rfl

theorem read_unified (s : List Char) :
    SameOutcome (Option.Rel Reading.Unifies) (read s) (read (unifyLineBreaks s)) := by
  obtain ⟨⟨front, hfront⟩, hgap⟩ := end_of_written s
  have hwritten := written_unified s
  have hattrs := readAttrs_unified .nil (written s).attrs
  rcases unifyLineBreaks_cases (written s).rest with
    hs | ⟨b, t, t', hb, hs, hu⟩ | ⟨c, t, hc, hs, hu⟩
  · rw [read, read, hwritten, hs]
    exact .ok .none
  · rw [hs, startsGap_break hb] at hgap
    cases hgap
  · by_cases hclose : c = '>'
    · subst hclose
      rw [read, read, hwritten, hs]
      exact hattrs.bind fun _ _ h ↦ .ok (.some ⟨.cons (.start _ h _) .nil, rfl, rfl⟩)
    by_cases hslash : c = '/' ∧ t.head? = some '>'
    · obtain ⟨rfl, ht⟩ := hslash
      obtain ⟨t, rfl⟩ := List.head?_eq_some_iff.1 ht
      rw [read, read, hwritten, hs]
      exact hattrs.bind fun _ _ h ↦ .ok (.some ⟨.cons (.start _ h _) .nil, rfl, rfl⟩)
    rw [hs] at hu
    have hrest : (written (unifyLineBreaks s)).rest = c :: unifyLineBreaks t := by
      rw [hwritten, hs, hu]
    have hslash' : c = '/' → (unifyLineBreaks t).head? ≠ some '>' := fun h h' ↦
      hslash ⟨h, (head?_unifyLineBreaks (by decide) t).1 h'⟩
    rw [read_of_other hs hclose fun h h' ↦ hslash ⟨h, h'⟩, read_of_other hrest hclose hslash',
      hwritten]
    split
    · exact .ok .none
    · refine hattrs.map fun _ _ _ ↦ .some ⟨.cons (.text ?_) .nil, rfl, hu.symm⟩
      -- the text of the tag ends before a character that is no line break
      have hunify : unifyLineBreaks (front ++ c :: t) =
          unifyLineBreaks front ++ c :: unifyLineBreaks t := by
        rw [unifyLineBreaks_append, hu]
        rintro u h
        exact (not_isBreak_iff.1 hc).2 (List.cons.inj h).1
      rw [hs] at hfront
      rw [String.toList_ofList, String.toList_ofList, ← hfront, hunify, take_front, take_front]
      exact .cons _ (.unified front)

end StartTag

end InstanceCatalog.Markup
