import InstanceCatalog.Markup.Aside
import InstanceCatalog.Proofs.Markup.LineBreak.StartTag

/-! # End tags and asides beside line breaks

An end tag, a comment and a declaration end at a mark that holds no line break, and look for it
alike with unified line breaks.  Only the reason for which a marked section makes a page unreadable
quotes the page as it is written. -/

namespace InstanceCatalog.Markup

open Text

variable {c : Char} {s t w : List Char}

namespace EndTag

/-! ## End tags -/

theorem strict?_unified (s : List Char) :
    strict? (unifyLineBreaks s) = (strict? s).map (Prod.map id unifyLineBreaks) := by
  rw [strict?, strict?, dropWhile_unifyLineBreaks (p := isBlank) rfl]
  cases hs : s.dropWhile isBlank with
  | nil => rfl
  | cons c t =>
    simp only [unifyLineBreaks_cons (ne_return_of_dropWhile hs),
      takeWhile_unifyLineBreaks_eq (p := isStrictChar) rfl rfl,
      dropWhile_unifyLineBreaks (p := isStrictChar) rfl,
      dropWhile_unifyLineBreaks (p := isBlank) rfl]
    split
    · cases ht : (t.dropWhile isStrictChar).dropWhile isBlank with
      | nil => rfl
      | cons d rest =>
        rw [unifyLineBreaks_cons (ne_return_of_dropWhile ht)]
        by_cases hclose : d = '>'
        · subst hclose
          rfl
        · split
          · exact absurd (List.cons.inj ‹_›).1 hclose
          · split
            · exact absurd (List.cons.inj ‹_›).1 hclose
            · rfl
    · rfl

theorem throughClose?_eq (s : List Char) : throughClose? s =
    match s.dropWhile (· != '>') with
    | [] => none
    | _ :: rest => some (s.takeWhile (· != '>') ++ ['>'], rest) := by
  induction s with
  | nil => rfl
  | cons c s ih =>
    rw [throughClose?, ih]
    by_cases hc : c = '>'
    · subst hc
      rfl
    · have hne : (c != '>') = true := bne_iff_ne.2 hc
      simp only [if_neg hc, List.dropWhile_cons, List.takeWhile_cons, hne, if_true]
      cases s.dropWhile (· != '>') <;> rfl

theorem throughClose?_unified (s : List Char) : throughClose? (unifyLineBreaks s) =
    (throughClose? s).map (Prod.map unifyLineBreaks unifyLineBreaks) := by
  rw [throughClose?_eq, throughClose?_eq, dropWhile_unifyLineBreaks (p := (· != '>')) rfl,
    takeWhile_unifyLineBreaks (p := (· != '>')) rfl]
  cases hs : s.dropWhile (· != '>') with
  | nil => rfl
  | cons c rest =>
    obtain rfl : c = '>' := by simpa using eq_false_of_dropWhile hs
    have hclose : unifyLineBreaks (s.takeWhile (· != '>') ++ ['>']) =
        unifyLineBreaks (s.takeWhile (· != '>')) ++ ['>'] :=
      unifyLineBreaks_append fun u h ↦ by cases h
    simp [unifyLineBreaks_cons, hclose]

/-- What an end tag that holds more than a name, or no name, comes to. -/
def readLoose (s rest : List Char) : Option Reading :=
  match s with
  | '>' :: _ => some ⟨[], none, rest⟩
  | c :: _ =>
    if Text.isAsciiLetter c then
      let name := s.takeWhile StartTag.isTagChar
      let after := StartTag.dropGap (s.dropWhile StartTag.isTagChar)
      (throughClose? after).map fun (_, rest) ↦ ⟨[finish name], none, rest⟩
    else some ⟨[.hidden], none, rest⟩
  | [] => none

theorem readLoose_cons (hc : c ≠ '>') (s rest : List Char) : readLoose (c :: s) rest =
    if Text.isAsciiLetter c then
      (throughClose? (StartTag.dropGap ((c :: s).dropWhile StartTag.isTagChar))).map
        fun (_, rest) ↦ ⟨[finish ((c :: s).takeWhile StartTag.isTagChar)], none, rest⟩
    else some ⟨[.hidden], none, rest⟩ := by
  rw [readLoose]
  exact hc

theorem readLoose_unified (s rest : List Char) : Option.Rel Reading.Unifies (readLoose s rest)
    (readLoose (unifyLineBreaks s) (unifyLineBreaks rest)) := by
  have hhidden : Option.Rel Reading.Unifies (some ⟨[.hidden], none, rest⟩)
      (some ⟨[.hidden], none, unifyLineBreaks rest⟩) := .some ⟨.cons .hidden .nil, rfl, rfl⟩
  rcases unifyLineBreaks_cases s with rfl | ⟨b, t, t', hb, rfl, hu⟩ | ⟨c, t, hc, rfl, hu⟩
  · exact .none
  · have hloose : readLoose (b :: t) rest = some ⟨[.hidden], none, rest⟩ :=
      forall_isBreak (P := fun b ↦ readLoose (b :: t) rest = _) rfl rfl hb
    rw [hloose, hu]
    exact hhidden
  · by_cases hclose : c = '>'
    · subst hclose
      exact .some ⟨.nil, rfl, rfl⟩
    · rw [hu, readLoose_cons hclose, readLoose_cons hclose, ← hu,
        takeWhile_unifyLineBreaks_eq (p := StartTag.isTagChar) rfl rfl,
        dropWhile_unifyLineBreaks (p := StartTag.isTagChar) rfl, StartTag.dropGap_unified,
        throughClose?_unified]
      split
      · cases throughClose? (StartTag.dropGap ((c :: t).dropWhile StartTag.isTagChar)) with
        | none => exact .none
        | some closed => exact .some ⟨.cons (.finish _) .nil, rfl, rfl⟩
      · exact hhidden

theorem read_eq (s : List Char) : read s = (throughClose? s).bind fun closed ↦
    match strict? s with
    | some (name, rest) => some ⟨[finish name], none, rest⟩
    | none => readLoose s closed.2 := by
  rw [read]
  cases throughClose? s <;> rfl

theorem read_unified (s : List Char) :
    Option.Rel Reading.Unifies (read s) (read (unifyLineBreaks s)) := by
  rw [read_eq, read_eq, throughClose?_unified, strict?_unified]
  cases throughClose? s with
  | none => exact .none
  | some closed =>
    cases strict? s with
    | some found => exact .some ⟨.cons (.finish _) .nil, rfl, rfl⟩
    | none => exact readLoose_unified s closed.2

/-! ## Raw text -/

theorem readRaw_unified (r : Raw) (s : List Char) :
    Option.Rel Reading.Unifies (readRaw r s) (readRaw r (unifyLineBreaks s)) := by
  rw [readRaw, readRaw, throughClose?_unified, strict?_unified]
  cases throughClose? s with
  | none => exact .none
  | some closed =>
    obtain ⟨through, rest⟩ := closed
    have hother : Reading.Unifies
        ⟨[.text (String.ofList ('<' :: '/' :: through))], some r, rest⟩
        ⟨[.text (String.ofList ('<' :: '/' :: unifyLineBreaks through))], some r,
          unifyLineBreaks rest⟩ := by
      refine ⟨.cons (.text ?_) .nil, rfl, rfl⟩
      rw [String.toList_ofList, String.toList_ofList]
      exact .cons _ (.cons _ (.unified through))
    cases strict? s with
    | none => exact .some hother
    | some found =>
      simp only [Option.map_some, Prod.map, id]
      split
      · exact .some ⟨.cons (.finish _) .nil, rfl, rfl⟩
      · exact .some hother

theorem dropFolded?_unified (hw : w.all (fun l ↦ !(folds l '\r' || folds l '\n')) = true)
    (s : List Char) :
    dropFolded? w (unifyLineBreaks s) = (dropFolded? w s).map unifyLineBreaks := by
  induction w generalizing s with
  | nil => rfl
  | cons l w ih =>
    rw [List.all_cons, Bool.and_eq_true, Bool.not_eq_true', Bool.or_eq_false_iff] at hw
    obtain ⟨hl, hw⟩ := hw
    rcases unifyLineBreaks_cases s with rfl | ⟨b, t, t', hb, rfl, hu⟩ | ⟨c, t, hc, rfl, hu⟩
    · rfl
    · have hnone : folds l b = false := forall_isBreak (P := fun b ↦ folds l b = false) hl.1 hl.2 hb
      rw [hu, dropFolded?, dropFolded?, hnone, hl.2]
      rfl
    · rw [hu, dropFolded?, dropFolded?, ih hw]
      split <;> rfl

theorem endsRaw_eq_false (r : Raw) (h : ¬ ['<', '/'] <+: s) : endsRaw r s = false := by
  rw [endsRaw.eq_def]
  split
  · exact absurd (List.prefix_append ['<', '/'] _) h
  · rfl

theorem endsRaw_unified (r : Raw) (s : List Char) :
    endsRaw r (unifyLineBreaks s) = endsRaw r s := by
  have hprefix := prefix_unifyLineBreaks (w := ['<', '/']) (s := s) (by simp [isBreak])
  by_cases hs : ['<', '/'] <+: s
  · obtain ⟨t, rfl⟩ := hs
    have hu : unifyLineBreaks (['<', '/'] ++ t) = '<' :: '/' :: unifyLineBreaks t := rfl
    have hfolds : r.tag.toList.all (fun l ↦ !(folds l '\r' || folds l '\n')) = true := by
      cases r <;> rfl
    rw [hu, List.cons_append, List.singleton_append, endsRaw, endsRaw,
      dropWhile_unifyLineBreaks (p := isBlank) rfl, dropFolded?_unified hfolds]
    cases dropFolded? r.tag.toList (t.dropWhile isBlank) with
    | none => rfl
    | some u =>
      simp only [Option.map_some, dropWhile_unifyLineBreaks (p := isBlank) rfl]
      rw [Bool.eq_iff_iff, beq_iff_eq, beq_iff_eq, head?_unifyLineBreaks (by decide)]
  · rw [endsRaw_eq_false r hs, endsRaw_eq_false r (mt hprefix.1 hs)]

theorem splitRaw?_unified (r : Raw) (s : List Char) : splitRaw? r (unifyLineBreaks s) =
    (splitRaw? r s).map (Prod.map unifyLineBreaks unifyLineBreaks) := by
  have hcons {c : Char} (hc : c ≠ '<') (s : List Char) : splitRaw? r (c :: s) =
      (splitRaw? r s).map fun (a, b) ↦ (c :: a, b) := by
    have hends : endsRaw r (c :: s) = false :=
      endsRaw_eq_false r fun h ↦ hc (List.cons_prefix_cons.1 h).1.symm
    rw [splitRaw?, hends, if_neg Bool.false_ne_true]
  fun_induction unifyLineBreaks s with
  | case1 => rfl
  | case2 s ih =>
    rw [hcons (by decide), hcons (by decide), hcons (by decide), ih]
    cases splitRaw? r s <;> rfl
  | case3 s hs ih =>
    rw [hcons (by decide), hcons (by decide), ih]
    cases h : splitRaw? r s with
    | none => rfl
    | some ab =>
      obtain ⟨a, b⟩ := ab
      have hlone : ∀ t, a ≠ '\n' :: t := by
        rintro t rfl
        exact hs _ (append_of_splitRaw? h).symm
      simp only [Option.map_some, Prod.map, unifyLineBreaks_lone hlone]
  | case4 c s _ hr ih =>
    have hends := endsRaw_unified r (c :: s)
    rw [unifyLineBreaks_cons hr] at hends
    rw [splitRaw?, splitRaw?, hends, ih]
    split
    · simp [unifyLineBreaks_cons hr]
    · cases splitRaw? r s with
      | none => rfl
      | some ab => simp [unifyLineBreaks_cons hr]

end EndTag

namespace Aside

/-! ## Marks -/

theorem dropSpaced?_unified (marks s : List Char) :
    dropSpaced? marks (unifyLineBreaks s) = (dropSpaced? marks s).map unifyLineBreaks := by
  induction marks generalizing s with
  | nil => rfl
  | cons m marks ih =>
    rw [dropSpaced?, dropSpaced?, dropWhile_unifyLineBreaks (p := isBlank) rfl]
    cases hs : s.dropWhile isBlank with
    | nil => rfl
    | cons c t =>
      simp only [unifyLineBreaks_cons (ne_return_of_dropWhile hs), ih]
      split <;> rfl

theorem afterMarks?_break {first : List Char} (hne : first ≠ [])
    (hfirst : ∀ c ∈ first, isBreak c = false) (marks : List Char) {b : Char}
    (hb : isBreak b = true) (s : List Char) :
    afterMarks? first marks (b :: s) = afterMarks? first marks s := by
  rw [afterMarks?, if_neg]
  intro h
  obtain ⟨c, first, rfl⟩ := List.exists_cons_of_ne_nil hne
  obtain ⟨rfl, -⟩ := List.cons_prefix_cons.1 (List.isPrefixOf_iff_prefix.1 h)
  rw [hfirst c List.mem_cons_self] at hb
  cases hb

theorem afterMarks?_unified {first : List Char} (hne : first ≠ [])
    (hfirst : ∀ c ∈ first, isBreak c = false) (marks s : List Char) :
    afterMarks? first marks (unifyLineBreaks s) =
      (afterMarks? first marks s).map unifyLineBreaks := by
  have hbreak {b : Char} := afterMarks?_break (b := b) hne hfirst marks
  have hmem : '\r' ∉ first := fun h ↦ by cases hfirst _ h
  fun_induction unifyLineBreaks s with
  | case1 => rfl
  | case2 s ih => rw [hbreak rfl, hbreak rfl, hbreak rfl, ih]
  | case3 s _ ih => rw [hbreak rfl, hbreak rfl, ih]
  | case4 c s _ hr ih =>
    have hprefix := prefix_unifyLineBreaks (s := c :: s) hfirst
    have hdrop := drop_unifyLineBreaks (s := c :: s) hmem
    rw [unifyLineBreaks_cons hr] at hprefix hdrop
    rw [← List.isPrefixOf_iff_prefix, ← List.isPrefixOf_iff_prefix, ← Bool.eq_iff_iff] at hprefix
    rw [afterMarks?, afterMarks?, hprefix, ih]
    split
    · rw [hdrop (List.isPrefixOf_iff_prefix.1 ‹_›), dropSpaced?_unified]
      cases dropSpaced? marks ((c :: s).drop first.length) <;> rfl
    · rfl

theorem hidden_unifies (rest : List Char) :
    Reading.Unifies (hidden rest) (hidden (unifyLineBreaks rest)) :=
  ⟨.cons .hidden .nil, rfl, rfl⟩

theorem map_hidden_unifies (o : Option (List Char)) :
    Option.Rel Reading.Unifies (o.map hidden) ((o.map unifyLineBreaks).map hidden) := by
  cases o with
  | none => exact .none
  | some rest => exact .some (hidden_unifies rest)

theorem comment_unified (s : List Char) :
    Option.Rel Reading.Unifies (comment s) (comment (unifyLineBreaks s)) := by
  rw [comment, comment, afterMarks?_unified (by decide) (by simp [isBreak])]
  exact map_hidden_unifies _

theorem upToClose_unified (s : List Char) :
    Option.Rel Reading.Unifies (upToClose s) (upToClose (unifyLineBreaks s)) := by
  rw [upToClose, upToClose, EndTag.throughClose?_unified]
  cases EndTag.throughClose? s with
  | none => exact .none
  | some closed => exact .some (hidden_unifies closed.2)

theorem length_add_length_eq_iff (p q : Char → Bool) (c : Char) (t : List Char) :
    (c :: t.takeWhile p).length + ((t.dropWhile p).takeWhile q).length = (c :: t).length ↔
      (t.dropWhile p).dropWhile q = [] := by
  have hp := congrArg List.length (List.takeWhile_append_dropWhile (p := p) (l := t))
  have hq := congrArg List.length (List.takeWhile_append_dropWhile (p := q) (l := t.dropWhile p))
  rw [List.length_append] at hp hq
  rw [← List.length_eq_zero_iff, List.length_cons, List.length_cons]
  omega

theorem markedSection_unified (s : List Char) : SameOutcome (Option.Rel Reading.Unifies)
    (markedSection s) (markedSection (unifyLineBreaks s)) := by
  rcases unifyLineBreaks_cases s with rfl | ⟨b, t, t', hb, rfl, hu⟩ | ⟨c, t, hc, rfl, hu⟩
  · exact .ok .none
  · have hletter : Text.isAsciiLetter b = false :=
      forall_isBreak (P := fun b ↦ Text.isAsciiLetter b = false) rfl rfl hb
    rw [hu, markedSection, markedSection, hletter]
    exact .rejected _ _
  · have hends := length_add_length_eq_iff isSectionChar isBlank c (unifyLineBreaks t)
    rw [takeWhile_unifyLineBreaks_eq (p := isSectionChar) rfl rfl,
      dropWhile_unifyLineBreaks (p := isSectionChar) rfl,
      dropWhile_unifyLineBreaks (p := isBlank) rfl, unifyLineBreaks_eq_nil_iff,
      ← length_add_length_eq_iff _ _ c t] at hends
    rw [hu]
    simp only [markedSection, takeWhile_unifyLineBreaks_eq (p := isSectionChar) rfl rfl,
      dropWhile_unifyLineBreaks (p := isSectionChar) rfl, hends]
    split
    · split
      · exact .ok .none
      · split
        · rw [← hu, afterMarks?_unified (by decide) (by simp [isBreak])]
          exact .ok (map_hidden_unifies _)
        · split
          · rw [← hu, afterMarks?_unified (by decide) (by simp [isBreak])]
            exact .ok (map_hidden_unifies _)
          · exact .rejected _ _
    · exact .rejected _ _

theorem upToClose_append (hw : '>' ∉ w) (s : List Char) : upToClose (w ++ s) = upToClose s := by
  induction w with
  | nil => rfl
  | cons c w ih =>
    rw [List.mem_cons, not_or] at hw
    rw [← ih hw.2, List.cons_append, upToClose, upToClose, EndTag.throughClose?,
      if_neg (Ne.symm hw.1), Option.map_map]
    rfl

/-- A document type is an odd declaration like others. -/
theorem declaration_of_other (hcomment : ¬ ['-', '-'] <+: s) (hmarked : ¬ ['['] <+: s) :
    declaration s = .ok (upToClose s) := by
  rw [declaration.eq_def]
  split
  · exact absurd (List.prefix_append ['-', '-'] _) hcomment
  · exact absurd (List.prefix_append ['['] _) hmarked
  · split
    · rename_i hdoctype
      have hmem : '>' ∉ s.take 7 := fun h ↦ by
        have := List.mem_map_of_mem (f := Char.toLower) h
        rw [hdoctype] at this
        revert this
        decide
      have hsplit := upToClose_append hmem (s.drop 7)
      rw [List.take_append_drop] at hsplit
      rw [hsplit]
    · rfl

theorem declaration_unified (s : List Char) : SameOutcome (Option.Rel Reading.Unifies)
    (declaration s) (declaration (unifyLineBreaks s)) := by
  have hcomment := prefix_unifyLineBreaks (w := ['-', '-']) (s := s) (by simp [isBreak])
  have hmarked := prefix_unifyLineBreaks (w := ['[']) (s := s) (by simp [isBreak])
  by_cases hs : ['-', '-'] <+: s
  · obtain ⟨t, rfl⟩ := hs
    exact .ok (comment_unified t)
  by_cases hs' : ['['] <+: s
  · obtain ⟨t, rfl⟩ := hs'
    exact markedSection_unified t
  rw [declaration_of_other hs hs', declaration_of_other (mt hcomment.1 hs)
    (mt hmarked.1 hs')]
  exact .ok (upToClose_unified s)

end Aside

end InstanceCatalog.Markup
