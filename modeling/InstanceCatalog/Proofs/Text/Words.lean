import InstanceCatalog.Text.Ascii
import InstanceCatalog.Text.Blank
import InstanceCatalog.Text.Printable
import Mathlib.Data.List.Basic

/-! # The words of a text

What putting a text on one line keeps, and what a text on one line looks like. -/

namespace InstanceCatalog.Text

variable {s : List Char} {p : Char → Bool}

theorem isBlank_of_isAsciiDigit {c : Char} (h : isAsciiDigit c = true) : isBlank c = false := by
  have hbounds : 0x30 ≤ c.toNat ∧ c.toNat ≤ 0x39 := by
    rw [isAsciiDigit, Bool.and_eq_true, decide_eq_true_eq, decide_eq_true_eq] at h
    exact ⟨UInt32.le_iff_toNat_le.1 h.1, UInt32.le_iff_toNat_le.1 h.2⟩
  simp only [isBlank, Bool.or_eq_false_iff, Bool.and_eq_false_iff, decide_eq_false_iff_not,
    beq_eq_false_iff_ne]
  omega

theorem words_eq_nil (h : ∀ c ∈ s, isBlank c = true) : words s = [] := by
  induction s with
  | nil => rfl
  | cons c s ih =>
    obtain ⟨hc, hs⟩ := List.forall_mem_cons.1 h
    rw [words_cons_blank hc, ih hs]

/-- A character of the class divides the pieces of a text. -/
theorem splitAt_append_cons {c : Char} (hc : p c = true) (s t : List Char) :
    splitAt p (s ++ c :: t) = splitAt p s ++ splitAt p t := by
  induction s with
  | nil => rw [List.nil_append, splitAt_cons hc, splitAt_nil]; rfl
  | cons a s ih =>
    cases ha : p a with
    | true =>
      rw [List.cons_append, splitAt_cons ha, ih, splitAt_cons ha]
      rfl
    | false =>
      obtain ⟨w, ws, hs⟩ := List.exists_cons_of_ne_nil (splitAt_ne_nil p s)
      rw [List.cons_append, splitAt_cons_of_not ha, ih, splitAt_cons_of_not ha, hs]
      rfl

theorem splitAt_eq_singleton (h : ∀ c ∈ s, p c = false) : splitAt p s = [s] := by
  induction s with
  | nil => rfl
  | cons c s ih =>
    obtain ⟨hc, hs⟩ := List.forall_mem_cons.1 h
    rw [splitAt_cons_of_not hc, ih hs]
    rfl

theorem pieces_append_blank {c : Char} (hc : isBlank c = true) (s t : List Char) :
    pieces (s ++ c :: t) = pieces s ++ pieces t := splitAt_append_cons hc s t

/-- A blank character divides the words of a text. -/
theorem words_append_blank {c : Char} (hc : isBlank c = true) (s t : List Char) :
    words (s ++ c :: t) = words s ++ words t := by
  rw [words, pieces_append_blank hc, List.filter_append]
  rfl

/-- Texts with a space between each two have the words of each, one text after the other. -/
theorem words_intercalate (texts : List String) :
    words (" ".intercalate texts).toList = texts.flatMap fun s ↦ words s.toList := by
  rw [String.toList_intercalate]
  induction texts with
  | nil => rfl
  | cons s texts ih =>
    cases texts with
    | nil => simp
    | cons t texts =>
      rw [List.map_cons, List.map_cons, List.intercalate_cons_cons, ← List.map_cons,
        List.flatMap_cons, ← ih, List.append_assoc]
      exact words_append_blank rfl s.toList _

theorem pieces_eq_singleton (h : ∀ c ∈ s, isBlank c = false) : pieces s = [s] :=
  splitAt_eq_singleton h

/-- A word stays as it is. -/
theorem oneLine_ofList (hne : s ≠ []) (h : ∀ c ∈ s, isBlank c = false) :
    oneLine (String.ofList s) = String.ofList s := by
  have hwords : words s = [s] := by
    rw [words, pieces_eq_singleton h, List.filter_cons_of_pos (by simpa using hne)]
    rfl
  rw [oneLine, String.toList_ofList, hwords, joinWords, List.intercalate_singleton]

theorem filter_joinWords (hp : p ' ' = false) (ws : List (List Char)) :
    (joinWords ws).filter p = ws.flatMap (List.filter p) := by
  induction ws with
  | nil => rfl
  | cons w ws ih =>
    cases ws with
    | nil => simp [joinWords]
    | cons v ws =>
      have hspace : [' '].filter p = [] := by simp [hp]
      rw [joinWords] at ih ⊢
      rw [List.intercalate_cons_cons, List.filter_append, List.filter_append, ih, hspace,
        List.append_nil]
      rfl

theorem filter_flatMap_words (hp : ∀ c, isBlank c = true → p c = false) (s : List Char) :
    (words s).flatMap (List.filter p) = s.filter p := by
  have hempty (ws : List (List Char)) :
      (ws.filter fun w ↦ !w.isEmpty).flatMap (List.filter p) = ws.flatMap (List.filter p) := by
    induction ws with
    | nil => rfl
    | cons w ws ih => cases w <;> simp [ih]
  rw [words, hempty]
  induction s with
  | nil => rfl
  | cons c s ih =>
    cases hc : isBlank c with
    | true =>
      rw [pieces_cons_blank hc, List.flatMap_cons, ih, List.filter_cons_of_neg (by simp [hp c hc])]
      rfl
    | false =>
      obtain ⟨w, ws, hpieces⟩ := List.exists_cons_of_ne_nil (pieces_ne_nil s)
      rw [hpieces, List.flatMap_cons] at ih
      rw [pieces_cons_other hc, hpieces, List.modifyHead_cons, List.flatMap_cons, List.filter_cons,
        List.filter_cons, ← ih]
      split <;> rfl

/-- Only blank characters come and go when a text is put on one line. -/
theorem filter_oneLine (hp : ∀ c, isBlank c = true → p c = false) (s : String) :
    (oneLine s).toList.filter p = s.toList.filter p := by
  rw [oneLine, String.toList_ofList, filter_joinWords (hp ' ' rfl), filter_flatMap_words hp]

/-! ## Text on one line -/

/-- A word: at least one character, and no blank one. -/
structure IsWord (w : List Char) : Prop where
  ne_nil : w ≠ []
  not_blank : ∀ c ∈ w, isBlank c = false

theorem pieces_not_blank {w : List Char} (hw : w ∈ pieces s) : ∀ c ∈ w, isBlank c = false := by
  induction s generalizing w with
  | nil =>
    rw [pieces_nil, List.mem_singleton] at hw
    subst hw
    intro c hc
    cases hc
  | cons a s ih =>
    cases ha : isBlank a with
    | true =>
      rw [pieces_cons_blank ha, List.mem_cons] at hw
      obtain rfl | hw := hw
      · intro c hc; cases hc
      · exact ih hw
    | false =>
      obtain ⟨v, vs, hs⟩ := List.exists_cons_of_ne_nil (pieces_ne_nil s)
      rw [hs, List.forall_mem_cons] at ih
      rw [pieces_cons_other ha, hs, List.modifyHead_cons, List.mem_cons] at hw
      obtain rfl | hw := hw
      · exact List.forall_mem_cons.2 ⟨ha, ih.1⟩
      · exact ih.2 _ hw

theorem isWord_of_mem_words {w : List Char} (hw : w ∈ words s) : IsWord w := by
  obtain ⟨hpiece, hne⟩ := List.mem_filter.1 hw
  exact ⟨by simpa using hne, pieces_not_blank hpiece⟩

theorem joinWords_cons_cons (w v : List Char) (ws : List (List Char)) :
    joinWords (w :: v :: ws) = w ++ ' ' :: joinWords (v :: ws) := by
  rw [joinWords, List.intercalate_cons_cons, List.append_assoc]
  rfl

/-- Words that are joined are the pieces of the text, and there is no empty piece between them. -/
theorem pieces_joinWords {ws : List (List Char)} (h : ∀ w ∈ ws, IsWord w) (hne : ws ≠ []) :
    pieces (joinWords ws) = ws := by
  induction ws with
  | nil => exact absurd rfl hne
  | cons w ws ih =>
    obtain ⟨hw, hws⟩ := List.forall_mem_cons.1 h
    cases ws with
    | nil => rw [joinWords, List.intercalate_singleton, pieces_eq_singleton hw.not_blank]
    | cons v ws =>
      rw [joinWords_cons_cons, pieces_append_blank rfl, ih hws (List.cons_ne_nil _ _),
        pieces_eq_singleton hw.not_blank]
      rfl

theorem words_joinWords {ws : List (List Char)} (h : ∀ w ∈ ws, IsWord w) :
    words (joinWords ws) = ws := by
  by_cases hne : ws = []
  · rw [hne]; rfl
  · rw [words, pieces_joinWords h hne, List.filter_eq_self]
    intro w hw
    simpa using (h w hw).ne_nil

/-- No blanks at the ends, and between words single spaces. -/
structure Spaced (s : List Char) : Prop where
  head : ∀ c ∈ s.head?, isBlank c = false
  last : ∀ c ∈ s.getLast?, isBlank c = false
  eq_space : ∀ c ∈ s, isBlank c = true → c = ' '
  single : ∀ a b, s ≠ a ++ ' ' :: ' ' :: b

theorem eq_space_of_mem_joinWords {ws : List (List Char)} (h : ∀ w ∈ ws, IsWord w) :
    ∀ c ∈ joinWords ws, isBlank c = true → c = ' ' := by
  intro c hc hblank
  have hnot (w : List Char) (hw : w ∈ ws) : c ∉ w := fun hcw ↦ by
    rw [(h w hw).not_blank c hcw] at hblank
    cases hblank
  induction ws with
  | nil => cases hc
  | cons w ws ih =>
    obtain ⟨hw, hws⟩ := List.forall_mem_cons.1 hnot
    cases ws with
    | nil =>
      rw [joinWords, List.intercalate_singleton] at hc
      exact absurd hc hw
    | cons v ws =>
      rw [joinWords_cons_cons, List.mem_append, List.mem_cons] at hc
      obtain hc | rfl | hc := hc
      · exact absurd hc hw
      · rfl
      · exact ih (List.forall_mem_cons.1 h).2 hc hws

/-- A blank at an end of a text or beside another blank would give an empty piece. -/
theorem spaced_joinWords {ws : List (List Char)} (h : ∀ w ∈ ws, IsWord w) :
    Spaced (joinWords ws) := by
  by_cases hne : ws = []
  · subst hne
    refine ⟨?_, ?_, ?_, ?_⟩
    · intro c hc; cases hc
    · intro c hc; cases hc
    · intro c hc; cases hc
    · intro a b hab
      exact List.append_ne_nil_of_right_ne_nil a (List.cons_ne_nil _ _) hab.symm
  have hempty : [] ∉ pieces (joinWords ws) := by
    rw [pieces_joinWords h hne]
    exact fun hmem ↦ (h [] hmem).ne_nil rfl
  refine ⟨fun c hc ↦ ?_, fun c hc ↦ ?_, eq_space_of_mem_joinWords h, fun a b hab ↦ ?_⟩
  · obtain ⟨t, ht⟩ := List.head?_eq_some_iff.1 hc
    refine Bool.eq_false_iff.2 fun hblank ↦ hempty ?_
    rw [ht, pieces_cons_blank hblank]
    exact List.mem_cons_self
  · obtain ⟨t, ht⟩ := List.getLast?_eq_some_iff.1 hc
    refine Bool.eq_false_iff.2 fun hblank ↦ hempty ?_
    rw [ht, pieces_append_blank hblank]
    simp
  · refine hempty ?_
    rw [hab, pieces_append_blank rfl, pieces_cons_blank rfl]
    simp

theorem spaced_oneLine (s : String) : Spaced (oneLine s).toList := by
  rw [oneLine, String.toList_ofList]
  exact spaced_joinWords fun _ ↦ isWord_of_mem_words

theorem words_oneLine (s : String) : words (oneLine s).toList = words s.toList := by
  rw [oneLine, String.toList_ofList, words_joinWords fun _ ↦ isWord_of_mem_words]

theorem words_eq_nil_iff : words s = [] ↔ ∀ c ∈ s, isBlank c = true := by
  refine ⟨fun h ↦ ?_, words_eq_nil⟩
  have hfilter := filter_flatMap_words (p := fun c ↦ !isBlank c) (fun c hc ↦ by simp [hc]) s
  rw [h, List.flatMap_nil, eq_comm, List.filter_eq_nil_iff] at hfilter
  simpa using hfilter

theorem joinWords_eq_nil_iff {ws : List (List Char)} (h : ∀ w ∈ ws, IsWord w) :
    joinWords ws = [] ↔ ws = [] := by
  refine ⟨fun hnil ↦ ?_, fun hnil ↦ by rw [hnil]; rfl⟩
  rw [← words_joinWords h, hnil, words_nil]

/-! ## Where lines end

A text can be divided into lines at line breaks, and also at other controls and separators.  All of
these are blank, and none of them shows. -/

variable {c : Char} {t : List Char}

/-- The ends of lines in ASCII, its vertical tab, its form feed and three of its separators, the
control for a next line, and the separators of lines and of paragraphs. -/
def lineBoundaries : List Char :=
  ['\n', '\x0b', '\x0c', '\r', '\x1c', '\x1d', '\x1e', '\u0085', '\u2028', '\u2029']

def isLineBoundary (c : Char) : Bool := lineBoundaries.contains c

/-- A text that no reader divides into lines. -/
def SingleLine (s : List Char) : Prop := ∀ c ∈ s, isLineBoundary c = false

-- over the characters of the text, not over all that there are
instance : DecidablePred SingleLine := fun s ↦
  List.decidableBAll (isLineBoundary · = false) s

theorem lineBoundaries_hidden : ∀ c ∈ lineBoundaries,
    isBlank c = true ∧ c ≠ ' ' ∧ isPrintable c = false :=
  List.forall_iff_forall_mem.1 (by decide +kernel)

theorem isLineBoundary_of_isBlank (h : isBlank c = true → c = ' ') : isLineBoundary c = false := by
  refine Bool.eq_false_iff.2 fun hc ↦ ?_
  obtain ⟨hblank, hspace, -⟩ := lineBoundaries_hidden c (List.contains_iff_mem.1 hc)
  exact hspace (h hblank)

theorem isLineBoundary_of_isPrintable (h : isPrintable c = true) : isLineBoundary c = false := by
  refine Bool.eq_false_iff.2 fun hc ↦ ?_
  obtain ⟨-, -, hshown⟩ := lineBoundaries_hidden c (List.contains_iff_mem.1 hc)
  rw [h] at hshown
  cases hshown

theorem singleLine_of_not_blank (h : ∀ c ∈ s, isBlank c = false) : SingleLine s := fun c hc ↦
  isLineBoundary_of_isBlank fun hblank ↦ by rw [h c hc] at hblank; cases hblank

theorem SingleLine.append (hs : SingleLine s) (ht : SingleLine t) : SingleLine (s ++ t) :=
  List.forall_mem_append.2 ⟨hs, ht⟩

theorem Spaced.singleLine (h : Spaced s) : SingleLine s := fun c hc ↦
  isLineBoundary_of_isBlank (h.eq_space c hc)

/-- The lines of a text, as they are found by whoever takes every line boundary for one. -/
def linesOf (s : List Char) : List (List Char) := splitAt isLineBoundary s

theorem linesOf_flatMap {lines : List (List Char)} (h : ∀ l ∈ lines, SingleLine l) :
    linesOf (lines.flatMap (· ++ ['\n'])) = lines ++ [[]] := by
  induction lines with
  | nil => rfl
  | cons l lines ih =>
    obtain ⟨hl, hlines⟩ := List.forall_mem_cons.1 h
    rw [linesOf, List.flatMap_cons, List.append_assoc, List.singleton_append,
      splitAt_append_cons rfl, splitAt_eq_singleton hl]
    exact congrArg (l :: ·) (ih hlines)

end InstanceCatalog.Text
