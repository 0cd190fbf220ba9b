import InstanceCatalog.Proofs.Markup.LineBreak.EndTag
import InstanceCatalog.Proofs.Markup.Pass

/-! # Reading pages with other line breaks

A step of the reader leads to the same place, and so do both passes.  The tokens of a page with
unified line breaks are its tokens but for line breaks in texts and values, and the page is
unreadable or not as before. -/

namespace InstanceCatalog.Markup

open Text

variable {s t : List Char}

namespace Step

/-- The same step but for line breaks in its tokens and unified line breaks in what follows. -/
inductive Unifies : Step → Step → Prop
  | go {ts ts' : List Token} (h : List.Forall₂ Token.Unifies ts ts') (raw : Option Raw)
    (rest : List Char) : Unifies (.go ts raw rest) (.go ts' raw (unifyLineBreaks rest))
  | stop {ts ts' : List Token} (h : List.Forall₂ Token.Unifies ts ts') (rest : List Char) :
    Unifies (.stop ts rest) (.stop ts' (unifyLineBreaks rest))

theorem text_unifies (h : Text.Unifies s t) : List.Forall₂ Token.Unifies [text s] [text t] := by
  refine .cons (.text ?_) .nil
  rwa [String.toList_ofList, String.toList_ofList]

theorem ofReading_unifies {r r' : Reading} (h : Reading.Unifies r r') :
    Unifies (ofReading r) (ofReading r') := by
  rw [ofReading, ofReading, ← h.raw, h.rest]
  exact .go h.tokens _ _

/-! ## Outside raw text -/

theorem unfinished_unified (s : List Char) (hs : ∀ t, s ≠ '\r' :: t) :
    Unifies (unfinished s) (unfinished (unifyLineBreaks s)) := by
  cases s with
  | nil => exact .stop .nil _
  | cons c t =>
    rw [unifyLineBreaks_cons fun h ↦ hs t (by rw [h]), unfinished, unfinished,
      EndTag.throughClose?_unified, dropWhile_unifyLineBreaks (p := (· != '<')) rfl,
      takeWhile_unifyLineBreaks (p := (· != '<')) rfl]
    cases EndTag.throughClose? t with
    | some closed => exact .go (text_unifies (.cons c (.unified _))) _ _
    | none =>
      cases ht : t.dropWhile (· != '<') with
      | nil => exact .go (text_unifies (.refl _)) _ _
      | cons d rest =>
        obtain rfl : d = '<' := by simpa using eq_false_of_dropWhile ht
        exact .go (text_unifies (.cons c (.unified _))) _ ('<' :: rest)

/-- After `<` nothing but a slash and two other marks matter, and whether a letter comes. -/
theorem angle_of_other {c : Char} (hc : c ≠ '/' ∧ c ≠ '!' ∧ c ≠ '?') (t : List Char) :
    angle (c :: t) = if Text.isAsciiLetter c then StartTag.read (c :: t)
      else .ok (some ⟨[text ['<']], none, c :: t⟩) := by
  rw [angle]
  · exact hc.1
  · exact hc.2.1
  · exact hc.2.2

theorem angle_unified (s : List Char) :
    SameOutcome (Option.Rel Reading.Unifies) (angle s) (angle (unifyLineBreaks s)) := by
  rcases unifyLineBreaks_cases s with rfl | ⟨b, t, t', hb, rfl, hu⟩ | ⟨c, t, hc, rfl, hu⟩
  · exact .ok .none
  · have hangle (t : List Char) : angle (b :: t) = .ok (some ⟨[text ['<']], none, b :: t⟩) :=
      forall_isBreak (P := fun b ↦ angle (b :: t) = .ok (some ⟨_, none, b :: t⟩)) rfl rfl hb
    rw [hangle, hu]
    exact .ok (.some ⟨text_unifies (.refl _), rfl, hu.symm⟩)
  · by_cases hslash : c = '/'
    · subst hslash
      exact .ok (EndTag.read_unified t)
    by_cases hdeclaration : c = '!'
    · subst hdeclaration
      exact Aside.declaration_unified t
    by_cases hinstruction : c = '?'
    · subst hinstruction
      exact .ok (Aside.upToClose_unified t)
    have hother := angle_of_other ⟨hslash, hdeclaration, hinstruction⟩
    rw [hu, hother, hother, ← hu]
    split
    · exact StartTag.read_unified (c :: t)
    · exact .ok (.some ⟨text_unifies (.refl _), rfl, rfl⟩)

theorem ofAngle_unified (final : Bool) (s : List Char) :
    SameOutcome Unifies (ofAngle final s) (ofAngle final (unifyLineBreaks s)) := by
  rw [ofAngle, ofAngle, isEmpty_unifyLineBreaks]
  split
  · exact .ok (.stop .nil ['<'])
  · refine (angle_unified s).map fun o o' h ↦ ?_
    cases h with
    | some h => exact ofReading_unifies h
    | none =>
      cases final with
      | true => exact unfinished_unified ('<' :: s) (by simp)
      | false => exact .stop .nil ('<' :: s)

theorem ofNumber_unified (s : List Char) :
    SameOutcome Unifies (ofNumber s) (ofNumber (unifyLineBreaks s)) := by
  rw [ofNumber, ofNumber, Reference.numericInText_unified]
  cases Reference.numericInText s with
  | error e => exact .error e
  | ok o =>
    cases o with
    | some found => exact .ok (.go (text_unifies (.refl _)) _ _)
    | none =>
      have hmem : ';' ∈ unifyLineBreaks s ↔ ';' ∈ s := mem_unifyLineBreaks (by decide)
      simp only [Except.map, Option.map_none, hmem]
      split
      · exact .ok (.stop (text_unifies (.refl _)) _)
      · exact .ok (.stop .nil ('&' :: '#' :: s))

theorem ofAmpersand_cons (final : Bool) {c : Char} (hc : c ≠ '#') (t : List Char) :
    ofAmpersand final (c :: t) = match Reference.namedInText (c :: t) with
      | some (cs, rest) => .ok (.go [text cs] none rest)
      | none =>
        if Text.isAsciiLetter c then
          .ok (.stop [] (if final && t.isEmpty then c :: t else '&' :: c :: t))
        else .ok (.go [text ['&']] none (c :: t)) := by
  rw [ofAmpersand.eq_def]
  split
  · exact absurd (List.cons.inj ‹c :: t = _›).1 hc
  · rfl

theorem ofAmpersand_unified (final : Bool) (s : List Char) :
    SameOutcome Unifies (ofAmpersand final s) (ofAmpersand final (unifyLineBreaks s)) := by
  rcases unifyLineBreaks_cases s with rfl | ⟨b, t, t', hb, rfl, hu⟩ | ⟨c, t, hc, rfl, hu⟩
  · exact .ok (.stop .nil ['&'])
  · have hampersand (t : List Char) :
        ofAmpersand final (b :: t) = .ok (.go [text ['&']] none (b :: t)) :=
      forall_isBreak (P := fun b ↦ ofAmpersand final (b :: t) = .ok (.go _ none (b :: t)))
        rfl rfl hb
    have hunified : ofAmpersand final ('\n' :: t') = .ok (.go [text ['&']] none ('\n' :: t')) := rfl
    rw [hampersand, hu, hunified, ← hu]
    exact .ok (.go (text_unifies (.refl _)) _ _)
  · by_cases hnumber : c = '#'
    · subst hnumber
      exact ofNumber_unified t
    · rw [hu, ofAmpersand_cons final hnumber, ofAmpersand_cons final hnumber, ← hu,
        Reference.namedInText_unified, isEmpty_unifyLineBreaks]
      cases Reference.namedInText (c :: t) with
      | some found => exact .ok (.go (text_unifies (.refl _)) _ _)
      | none =>
        simp only [Option.map_none]
        split
        · split
          · exact .ok (.stop .nil _)
          · exact .ok (.stop .nil ('&' :: c :: t))
        · exact .ok (.go (text_unifies (.refl _)) _ _)

/-! ## Raw text -/

theorem inRaw_of_end (r : Raw) (h : EndTag.splitRaw? r s = some ([], '<' :: '/' :: t)) :
    inRaw r s = match EndTag.readRaw r t with
      | some reading => ofReading reading
      | none => .stop [] s := by
  rw [inRaw, h]
  rfl

theorem inRaw_of_no_end (r : Raw) {rest : List Char} (h : EndTag.splitRaw? r s = some ([], rest))
    (hrest : ¬ ['<', '/'] <+: rest) : inRaw r s = .stop [] s := by
  rw [inRaw, h]
  split
  · rfl
  · rename_i heq
    cases heq
    exact absurd (List.prefix_append ['<', '/'] _) hrest
  · rfl
  · rename_i hne heq
    cases heq
    exact (hne rfl).elim

theorem inRaw_of_before (r : Raw) {before rest : List Char}
    (h : EndTag.splitRaw? r s = some (before, rest)) (hne : before ≠ []) :
    inRaw r s = .go [text before] (some r) rest := by
  rw [inRaw, h]
  split
  · rename_i heq
    cases heq
  · rename_i heq
    cases heq
    exact absurd rfl hne
  · rename_i heq
    cases heq
    exact absurd rfl hne
  · rename_i heq
    cases heq
    rfl

theorem inRaw_unified (r : Raw) (s : List Char) :
    Unifies (inRaw r s) (inRaw r (unifyLineBreaks s)) := by
  have hunified := EndTag.splitRaw?_unified r s
  cases hs : EndTag.splitRaw? r s with
  | none =>
    rw [hs] at hunified
    rw [inRaw, inRaw, hs, hunified]
    exact .stop .nil s
  | some found =>
    obtain ⟨before, rest⟩ := found
    rw [hs] at hunified
    by_cases hne : before = []
    · subst hne
      have hprefix := prefix_unifyLineBreaks (w := ['<', '/']) (s := rest) (by simp [isBreak])
      by_cases hrest : ['<', '/'] <+: rest
      · obtain ⟨t, rfl⟩ := hrest
        have hs : EndTag.splitRaw? r s = some ([], '<' :: '/' :: t) := hs
        have hunified : EndTag.splitRaw? r (unifyLineBreaks s) =
          some ([], '<' :: '/' :: unifyLineBreaks t) := hunified
        rw [inRaw_of_end r hs, inRaw_of_end r hunified]
        have hread := EndTag.readRaw_unified r t
        generalize EndTag.readRaw r t = o at hread
        generalize EndTag.readRaw r (unifyLineBreaks t) = o' at hread
        cases hread with
        | none => exact .stop .nil s
        | some h => exact ofReading_unifies h
      · rw [inRaw_of_no_end r hs hrest, inRaw_of_no_end r hunified (mt hprefix.1 hrest)]
        exact .stop .nil s
    · rw [inRaw_of_before r hs hne,
        inRaw_of_before r hunified (mt unifyLineBreaks_eq_nil_iff.1 hne)]
      exact .go (text_unifies (.unified before)) _ _

/-! ## Any step -/

theorem inText_of_plain (final : Bool) (hne : s ≠ []) (hangle : s.head? ≠ some '<')
    (hampersand : s.head? ≠ some '&') :
    inText final s = .ok (.go [text (s.takeWhile isPlain)] none (s.dropWhile isPlain)) := by
  rw [inText.eq_def]
  split
  · exact absurd rfl hne
  · exact absurd rfl hangle
  · exact absurd rfl hampersand
  · rfl

theorem inText_unified (final : Bool) (s : List Char) :
    SameOutcome Unifies (inText final s) (inText final (unifyLineBreaks s)) := by
  by_cases hne : s = []
  · subst hne
    exact .ok (.stop .nil [])
  by_cases hangle : s.head? = some '<'
  · obtain ⟨t, rfl⟩ := List.head?_eq_some_iff.1 hangle
    exact ofAngle_unified final t
  by_cases hampersand : s.head? = some '&'
  · obtain ⟨t, rfl⟩ := List.head?_eq_some_iff.1 hampersand
    exact ofAmpersand_unified final t
  rw [inText_of_plain final hne hangle hampersand, inText_of_plain final
    (mt unifyLineBreaks_eq_nil_iff.1 hne) (mt (head?_unifyLineBreaks (by decide) s).1 hangle)
    (mt (head?_unifyLineBreaks (by decide) s).1 hampersand),
    takeWhile_unifyLineBreaks (p := isPlain) rfl, dropWhile_unifyLineBreaks (p := isPlain) rfl]
  exact .ok (.go (text_unifies (.unified _)) _ _)

theorem next_unified (final : Bool) (raw : Option Raw) (s : List Char) :
    SameOutcome Unifies (next final raw s) (next final raw (unifyLineBreaks s)) := by
  cases raw with
  | some r => exact .ok (inRaw_unified r s)
  | none => exact inText_unified final s

end Step

/-! ## Passes -/

/-- The same pass but for line breaks in its tokens and unified line breaks where it stops. -/
structure Pass.Unifies (p p' : Pass) : Prop where
  tokens : List.Forall₂ Token.Unifies p.tokens p'.tokens
  raw : p.raw = p'.raw
  rest : p'.rest = unifyLineBreaks p.rest

theorem Pass.run_unified (final : Bool) (raw : Option Raw) (s : List Char) :
    SameOutcome Pass.Unifies (run final raw s) (run final raw (unifyLineBreaks s)) := by
  fun_induction run final raw s with
  | case1 raw s e hstep =>
    have hunified := Step.next_unified final raw s
    rw [hstep] at hunified
    generalize hstep' : Step.next final raw (unifyLineBreaks s) = o at hunified
    cases hunified with
    | error e => rw [run_of_error hstep']; exact .error e
    | rejected r r' => rw [run_of_error hstep']; exact .rejected r r'
  | case2 raw s ts rest hstep =>
    have hunified := Step.next_unified final raw s
    rw [hstep] at hunified
    generalize hstep' : Step.next final raw (unifyLineBreaks s) = o at hunified
    cases hunified with
    | ok h =>
      cases h with
      | stop h => rw [run_of_stop hstep']; exact .ok ⟨h, rfl, rfl⟩
  | case3 raw s ts raw' rest hstep _ ih =>
    have hunified := Step.next_unified final raw s
    rw [hstep] at hunified
    generalize hstep' : Step.next final raw (unifyLineBreaks s) = o at hunified
    cases hunified with
    | ok h =>
      cases h with
      | go h =>
        rw [run_of_go hstep']
        exact ih.map fun p p' hp ↦ ⟨List.rel_append h hp.tokens, hp.raw, hp.rest⟩

theorem tokens_unified (s : List Char) :
    SameOutcome (List.Forall₂ Token.Unifies) (tokens s) (tokens (unifyLineBreaks s)) := by
  refine (Pass.run_unified false none s).bind fun first first' hfirst ↦ ?_
  rw [← hfirst.raw, hfirst.rest]
  refine (Pass.run_unified true first.raw first.rest).bind fun second second' hsecond ↦ .ok ?_
  refine List.rel_append (List.rel_append hfirst.tokens hsecond.tokens) ?_
  rw [← hsecond.raw, hsecond.rest, isEmpty_unifyLineBreaks]
  split
  · exact .nil
  · exact Step.text_unifies (.unified _)

end InstanceCatalog.Markup
