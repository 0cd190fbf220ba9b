import InstanceCatalog.Proofs.Markup.Overlong
import InstanceCatalog.Proofs.Text.LineBreak

/-! # References beside line breaks

References are read alike in a text and in the same text with unified line breaks.  In attribute
values the word after an ampersand may run over a carriage return but not over a line feed.  It
makes no difference, since no name of a character has a carriage return in it: what is replaced ends
before the carriage return, and what comes after it is kept. -/

namespace InstanceCatalog.Markup

open Text

/-! ## Outcomes -/

/-- Both come to something, of which a relation holds, or both fail, and in the same way but for the
reason that a page is rejected for. -/
inductive SameOutcome {α β : Type} (R : α → β → Prop) : Except Failure α → Except Failure β → Prop
  | ok {a : α} {b : β} : R a b → SameOutcome R (.ok a) (.ok b)
  | error (e : Failure) : SameOutcome R (.error e) (.error e)
  | rejected (reason reason' : String) :
    SameOutcome R (.error (.declared (.rejectedMarkup reason)))
      (.error (.declared (.rejectedMarkup reason')))

namespace SameOutcome

variable {α β γ δ : Type} {R : α → β → Prop} {S : γ → δ → Prop}
variable {x : Except Failure α} {y : Except Failure β}

theorem of_eq {x y : Except Failure α} (h : x = y) : SameOutcome Eq x y := by
  subst h
  cases x with
  | ok a => exact .ok rfl
  | error e => exact .error e

theorem bind {f : α → Except Failure γ} {g : β → Except Failure δ} (h : SameOutcome R x y)
    (hfg : ∀ a b, R a b → SameOutcome S (f a) (g b)) : SameOutcome S (x >>= f) (y >>= g) := by
  cases h with
  | ok h => exact hfg _ _ h
  | error e => exact .error e
  | rejected r r' => exact .rejected r r'

theorem map {f : α → γ} {g : β → δ} (h : SameOutcome R x y) (hfg : ∀ a b, R a b → S (f a) (g b)) :
    SameOutcome S (x.map f) (y.map g) := by
  cases h with
  | ok h => exact .ok (hfg _ _ h)
  | error e => exact .error e
  | rejected r r' => exact .rejected r r'

end SameOutcome

/-! ## Names of characters -/

namespace Entity

variable {name : List Char}

theorem mem_bytes_of_mem (h : '\r' ∈ name) :
    13 ∈ (String.ofList name).toByteArray.data.toList := by
  change 13 ∈ (List.flatMap String.utf8EncodeChar name).toByteArray.data.toList
  rw [List.toList_data_toByteArray]
  exact List.mem_flatMap.2 ⟨'\r', h, by decide⟩

def tables : List (List (String × List Nat)) := [bare, capital, smallAToE, smallFToN, smallOToZ]

/-- No name has a carriage return in it. -/
theorem not_mem_bytes : ∀ table ∈ tables, ∀ e ∈ table, 13 ∉ e.1.toByteArray.data.toList := by
  decide +kernel

theorem lookup_eq_none {table : List (String × List Nat)} (ht : table ∈ tables)
    (h : '\r' ∈ name) : table.lookup (String.ofList name) = none := by
  rw [List.lookup_eq_none_iff]
  intro e he
  rw [bne_iff_ne]
  intro heq
  exact not_mem_bytes table ht e he (heq ▸ mem_bytes_of_mem h)

theorem bare?_eq_none (h : '\r' ∈ name) : bare? (String.ofList name) = none := by
  rw [bare?, lookup_eq_none (by simp [tables]) h]
  rfl

theorem terminated?_eq_none (h : '\r' ∈ name) : terminated? (String.ofList name) = none := by
  obtain ⟨c, rest, rfl⟩ := List.exists_cons_of_ne_nil (List.ne_nil_of_mem h)
  rw [terminated?, bare?_eq_none h]
  simp only [String.toList_ofList]
  refine Option.map_eq_none_iff.2 (lookup_eq_none ?_ h)
  split_ifs <;> simp [tables]

theorem bare?_singleton (c : Char) : bare? (String.ofList [c]) = none := by
  have hlong : ∀ e ∈ bare, e.1.toList.length ≠ 1 := by decide +kernel
  rw [bare?, Option.map_eq_none_iff, List.lookup_eq_none_iff]
  intro e he
  rw [bne_iff_ne]
  intro heq
  exact hlong e he (by rw [← heq, String.toList_ofList]; rfl)

end Entity

namespace Reference

variable {c : Char} {s t x z word rest : List Char}

/-! ## References in text -/

theorem numeric?_unified (s : List Char) : numeric? (unifyLineBreaks s) =
    (numeric? s).map fun n ↦ { n with rest := unifyLineBreaks n.rest } := by
  rcases unifyLineBreaks_cases s with rfl | ⟨b, t, t', hb, rfl, hu⟩ | ⟨c, t, hc, rfl, hu⟩
  · rfl
  · have hnone : numeric? (b :: t) = none :=
      forall_isBreak (P := fun b ↦ numeric? (b :: t) = none) rfl rfl hb
    rw [hu, hnone]
    rfl
  · have hdigits := takeWhile_unifyLineBreaks_eq (p := isAsciiDigit) rfl rfl (c :: t)
    have hrest := dropWhile_unifyLineBreaks (p := isAsciiDigit) rfl (c :: t)
    rw [hu] at hdigits hrest
    rw [hu, numeric?, numeric?, takeWhile_unifyLineBreaks_eq rfl rfl,
      dropWhile_unifyLineBreaks rfl, hdigits, hrest]
    split <;> simp only [] <;> split <;> rfl

theorem numericInText_unified (s : List Char) : numericInText (unifyLineBreaks s) =
    (numericInText s).map fun o ↦ o.map (Prod.map id unifyLineBreaks) := by
  rw [numericInText, numericInText, numeric?_unified]
  cases numeric? s with
  | none => rfl
  | some n =>
    obtain ⟨hex, digits, rest⟩ := n
    simp only [Option.map_some, Numeric.value]
    generalize (if hex = true then Except.ok (ofHexDigits digits) else ofDecimalDigits digits) = v
    rcases unifyLineBreaks_cases rest with rfl | ⟨b, t, t', hb, rfl, hu⟩ | ⟨c, t, hc, rfl, hu⟩
    · rfl
    · have hend : isHexDigit b = false ∧ b ≠ ';' :=
        forall_isBreak (P := fun b ↦ isHexDigit b = false ∧ b ≠ ';') (by decide) (by decide) hb
      simp only [hu, hend.1, if_neg hend.2]
      cases v with
      | error e => rfl
      | ok v => exact congrArg (fun r ↦ Except.ok (some (ofNumber v, r))) hu.symm
    · simp only [hu]
      split
      · rfl
      cases v with
      | error e => rfl
      | ok v =>
        by_cases hsemi : c = ';'
        · subst hsemi; rfl
        · simp only [if_neg hsemi]
          exact congrArg (fun r ↦ Except.ok (some (ofNumber v, r))) hu.symm

theorem append_of_cutAtLastMark {name a b : List Char} (h : cutAtLastMark name = some (a, b)) :
    a ++ b = name := by
  simp only [cutAtLastMark] at h
  split at h
  · rename_i mark before hdrop
    obtain ⟨rfl, rfl⟩ := Prod.mk.inj (Option.some.inj h)
    have hname := congrArg List.reverse (List.takeWhile_append_dropWhile
      (p := fun c ↦ !(c == '-' || c == '.')) (l := name.reverse))
    rw [hdrop, List.reverse_reverse] at hname
    simpa using hname
  · cases h

theorem name?_unified (s : List Char) :
    name? (unifyLineBreaks s) = (name? s).map (Prod.map id unifyLineBreaks) := by
  rcases unifyLineBreaks_cases s with rfl | ⟨b, t, t', hb, rfl, hu⟩ | ⟨c, t, hc, rfl, hu⟩
  · rfl
  · have hnone : name? (b :: t) = none :=
      forall_isBreak (P := fun b ↦ name? (b :: t) = none) rfl rfl hb
    rw [hu, hnone]
    rfl
  · simp only [hu, name?, takeWhile_unifyLineBreaks_eq (p := isNameChar) rfl rfl,
      dropWhile_unifyLineBreaks (p := isNameChar) rfl, isEmpty_unifyLineBreaks]
    split
    · split
      · -- the name is cut among characters that are no line breaks
        cases hcut : cutAtLastMark (t.takeWhile isNameChar) with
        | none => rfl
        | some ab =>
          have hmem : '\r' ∉ ab.2 := fun hm ↦ Text.not_mem_takeWhile (p := isNameChar) rfl t
            (append_of_cutAtLastMark hcut ▸ List.mem_append_right _ hm)
          simp only [Option.map_some, Prod.map, id, unifyLineBreaks_eq_self hmem]
      · rfl
    · rfl

/-- A text less the semicolon at its start. -/
def dropSemicolon : List Char → List Char
  | ';' :: s => s
  | s => s

theorem dropSemicolon_cons (h : c ≠ ';') (s : List Char) : dropSemicolon (c :: s) = c :: s := by
  rw [dropSemicolon]
  rintro t ⟨⟩
  exact h rfl

theorem dropSemicolon_unified (s : List Char) :
    dropSemicolon (unifyLineBreaks s) = unifyLineBreaks (dropSemicolon s) := by
  rcases unifyLineBreaks_cases s with rfl | ⟨b, t, t', hb, rfl, hu⟩ | ⟨c, t, hc, rfl, hu⟩
  · rfl
  · have hsemi : b ≠ ';' := forall_isBreak (P := (· ≠ ';')) (by decide) (by decide) hb
    rw [dropSemicolon_cons hsemi, hu]
    rfl
  · by_cases hsemi : c = ';'
    · subst hsemi
      rw [hu]; rfl
    · rw [dropSemicolon_cons hsemi, hu, dropSemicolon_cons hsemi]

theorem length_dropSemicolon_le (s : List Char) : (dropSemicolon s).length ≤ s.length := by
  rw [dropSemicolon.eq_def]
  split <;> simp

theorem namedInText_unified (s : List Char) :
    namedInText (unifyLineBreaks s) = (namedInText s).map (Prod.map id unifyLineBreaks) := by
  rw [namedInText, namedInText, name?_unified]
  cases name? s with
  | none => rfl
  | some nr =>
    obtain ⟨name, rest⟩ := nr
    exact congrArg (fun r ↦ some (ofName name, r)) (dropSemicolon_unified rest)

/-! ## References in attribute values -/

theorem valueWithin_congr {fuel fuel' : Nat} (h : s.length ≤ fuel) (h' : s.length ≤ fuel') :
    valueWithin fuel s = valueWithin fuel' s := by
  induction fuel generalizing s fuel' with
  | zero =>
    obtain rfl := List.length_eq_zero_iff.1 (Nat.le_zero.1 h)
    cases fuel' <;> rfl
  | succ fuel ih =>
    cases s with
    | nil => cases fuel' <;> rfl
    | cons c s =>
      obtain ⟨fuel', rfl⟩ : ∃ k, fuel' = k + 1 := ⟨fuel' - 1, by rw [List.length_cons] at h'; omega⟩
      have hs := Nat.le_of_succ_le_succ h
      have hs' := Nat.le_of_succ_le_succ h'
      rw [valueWithin, valueWithin, ih hs hs']
      cases hv : inValue s with
      | error e => rfl
      | ok o =>
        cases o with
        | none => rfl
        | some found =>
          obtain ⟨cs, rest⟩ := found
          obtain ⟨word, -, rfl⟩ := append_of_inValue hv
          rw [List.length_append] at hs hs'
          have hrest : valueWithin fuel rest = valueWithin fuel' rest := ih (by omega) (by omega)
          simp only [bind, Except.bind, hrest]

theorem value_cons (hc : c ≠ '&') (s : List Char) : value (c :: s) = (value s).map (c :: ·) := by
  rw [value, List.length_cons, valueWithin, if_neg hc]
  rfl

theorem value_append (hword : '&' ∉ word) (rest : List Char) :
    value (word ++ rest) = (value rest).map (word ++ ·) := by
  induction word with
  | nil => cases h : value rest <;> simp [h, Except.map]
  | cons c word ih =>
    rw [List.mem_cons, not_or] at hword
    rw [List.cons_append, value_cons (Ne.symm hword.1), ih hword.2]
    cases value rest <;> rfl

theorem value_of_inValue_none (h : inValue s = .ok none) :
    value ('&' :: s) = (value s).map ('&' :: ·) := by
  rw [value, List.length_cons, valueWithin, if_pos rfl, h]
  change (value s >>= fun v ↦ _) = _
  cases value s <;> rfl

theorem value_of_inValue_some {cs : List Char} (h : inValue s = .ok (some (cs, rest))) :
    value ('&' :: s) = (value rest).map (cs ++ ·) := by
  obtain ⟨word, -, rfl⟩ := append_of_inValue h
  have hrest : valueWithin (word ++ rest).length rest = value rest :=
    valueWithin_congr (by simp) (Nat.le_refl _)
  rw [value, List.length_cons, valueWithin, if_pos rfl, h]
  simp only [bind, Except.bind, hrest]
  cases value rest <;> rfl

theorem value_of_inValue_error {e : Failure} (h : inValue s = .error e) :
    value ('&' :: s) = .error e := by
  rw [value, List.length_cons, valueWithin, if_pos rfl, h]
  rfl

/-- A number with its value, as one step. -/
theorem value_number (t : List Char) : value ('&' :: '#' :: t) =
    match numeric? t with
    | none => (value ('#' :: t)).map ('&' :: ·)
    | some n => n.value >>= fun v ↦
      (value (dropSemicolon n.rest)).map (ofNumberInValue v ++ ·) := by
  have hin : inValue ('#' :: t) = match numeric? t with
    | none => .ok none
    | some n => n.value >>= fun v ↦ .ok (some (ofNumberInValue v, dropSemicolon n.rest)) := rfl
  cases hn : numeric? t with
  | none => rw [hn] at hin; rw [value_of_inValue_none hin]
  | some n =>
    simp only [hn] at hin ⊢
    cases hv : n.value with
    | error e => rw [hv] at hin; exact value_of_inValue_error hin
    | ok v => rw [hv] at hin; exact value_of_inValue_some hin

/-! ## Words that stop at line breaks -/

/-- The characters of a word but for the carriage return. -/
def isStrictChar (c : Char) : Bool := isWordChar c && c != '\r'

/-- The semicolon at the start of a text, if one is there. -/
def semicolon (s : List Char) : List Char := if s.head? = some ';' then [';'] else []

/-- A word of one to thirty-two characters of a class, with a semicolon if one follows. -/
def wordOf (p : Char → Bool) (s : List Char) : Option (List Char × List Char) :=
  let w := (s.take 32).takeWhile p
  if w.isEmpty then none
  else some (w ++ semicolon (s.drop w.length), dropSemicolon (s.drop w.length))

theorem word?_eq (s : List Char) : word? s = wordOf isWordChar s := by
  simp only [word?, wordOf]
  generalize s.drop ((s.take 32).takeWhile isWordChar).length = t
  split
  · rfl
  · rcases t with - | ⟨c, t⟩
    · simp [semicolon, dropSemicolon]
    · by_cases hc : c = ';'
      · subst hc
        rfl
      · rw [dropSemicolon_cons hc]
        split
        · exact absurd (List.cons.inj ‹c :: t = _›).1 hc
        · simp [semicolon, hc]

theorem length_rest_of_wordOf {p : Char → Bool} (h : wordOf p s = some (word, rest)) :
    rest.length ≤ s.length := by
  obtain ⟨-, h⟩ := Option.ite_none_left_eq_some.1 h
  obtain ⟨-, rfl⟩ := Prod.mk.inj (Option.some.inj h)
  exact (length_dropSemicolon_le _).trans (List.drop_sublist _ _).length_le

theorem wordOf_unified {p : Char → Bool} (hr : p '\r' = false) (hn : p '\n' = false)
    (s : List Char) :
    wordOf p (unifyLineBreaks s) = (wordOf p s).map (Prod.map id unifyLineBreaks) := by
  have hw : ((unifyLineBreaks s).take 32).takeWhile p = (s.take 32).takeWhile p := by
    rw [← List.take_takeWhile, ← List.take_takeWhile, takeWhile_unifyLineBreaks_eq hr hn]
  have hdrop := drop_unifyLineBreaks (Text.not_mem_takeWhile hr (s.take 32))
    ((List.takeWhile_prefix _).trans (List.take_prefix _ s))
  have hsemicolon (t : List Char) : semicolon (unifyLineBreaks t) = semicolon t := by
    simp only [semicolon, head?_unifyLineBreaks (c := ';') (by decide)]
  simp only [wordOf, hw, hdrop, hsemicolon, dropSemicolon_unified]
  split <;> rfl

theorem longestName_append (x z : List Char) {k : Nat} (hk : k ≤ x.length) :
    longestName (x ++ z) k = (longestName x k).map (· ++ z) := by
  induction k with
  | zero => rfl
  | succ k ih =>
    rw [longestName, longestName, List.take_append_of_le_length hk,
      List.drop_append_of_le_length hk, ih (Nat.le_of_succ_le hk)]
    split
    · rfl
    · cases Entity.bare? (String.ofList (x.take (k + 1))) with
      | none => rfl
      | some cs => simp

/-- Beginnings of a word that go over a carriage return are no names. -/
theorem longestName_over (x z : List Char) (k : Nat) :
    longestName (x ++ '\r' :: z) (x.length + k) = longestName (x ++ '\r' :: z) x.length := by
  induction k with
  | zero => rfl
  | succ k ih =>
    have hmem : '\r' ∈ (x ++ '\r' :: z).take (x.length + k + 1) := by
      rw [List.take_append]
      simp [Nat.add_assoc]
    rw [← Nat.add_assoc, longestName, Entity.bare?_eq_none hmem, ih]
    split
    · have hx : x.length = 0 := by omega
      rw [hx]; rfl
    · rfl

/-- A word without a semicolon is looked up from the whole of it down. -/
theorem ofWord_eq (hne : x ≠ []) (hx : ';' ∉ x) :
    ofWord x = (longestName x x.length).getD ('&' :: x) := by
  have hreverse : ∀ r, x.reverse ≠ ';' :: r := fun r hr ↦
    hx (List.mem_reverse.1 (hr ▸ List.mem_cons_self))
  obtain ⟨k, hk⟩ : ∃ k, x.length = k + 1 := ⟨x.length - 1, by
    have := List.length_pos_iff.2 hne
    omega⟩
  have hwhole : longestName x (k + 1) =
      (Entity.bare? (String.ofList x)).or (longestName x k) := by
    rw [longestName, ← hk, List.take_length, List.drop_length]
    split
    · obtain ⟨c, rfl⟩ := List.length_eq_one_iff.1 (show x.length = 1 by omega)
      obtain rfl : k = 0 := by simpa using hk.symm
      rw [Entity.bare?_singleton]
      rfl
    · cases Entity.bare? (String.ofList x) <;> simp
  have hknown : ofWord x = (Entity.bare? (String.ofList x)).getD
      ((longestName x (x.length - 1)).getD ('&' :: x)) := by
    rw [ofWord]
    split
    · rename_i cs hcs
      split at hcs
      · exact absurd ‹x.reverse = _› (hreverse _)
      · rw [hcs, Option.getD_some]
    · rename_i hcs
      split at hcs
      · exact absurd ‹x.reverse = _› (hreverse _)
      · rw [hcs, Option.getD_none]
  rw [hknown, hk, hwhole, Nat.add_sub_cancel]
  cases Entity.bare? (String.ofList x) <;> rfl

/-- What is put for a word is decided before its first carriage return. -/
theorem ofWord_over (hx : ';' ∉ x) (z : List Char) :
    ofWord (x ++ '\r' :: z) = (if x = [] then ['&'] else ofWord x) ++ '\r' :: z := by
  have hunknown : ofWord (x ++ '\r' :: z) =
      (longestName (x ++ '\r' :: z) (x.length + z.length)).getD ('&' :: (x ++ '\r' :: z)) := by
    have hlength : (x ++ '\r' :: z).length - 1 = x.length + z.length := by simp
    rw [ofWord, hlength]
    split
    · rename_i cs hcs
      split at hcs
      · rename_i r hr
        have hmem : '\r' ∈ (x ++ '\r' :: z).reverse := by simp
        rw [hr, List.mem_cons] at hmem
        rw [Entity.terminated?_eq_none (List.mem_reverse.2 (hmem.resolve_left (by decide)))] at hcs
        cases hcs
      · rw [Entity.bare?_eq_none (by simp)] at hcs
        cases hcs
    · rfl
  rw [hunknown, longestName_over, longestName_append x _ (Nat.le_refl _)]
  by_cases hne : x = []
  · subst hne
    rfl
  · rw [if_neg hne, ofWord_eq hne hx]
    cases longestName x x.length <;> rfl

theorem takeWhile_isStrictChar (s : List Char) :
    s.takeWhile isStrictChar = (s.takeWhile isWordChar).takeWhile (· != '\r') := by
  rw [List.takeWhile_takeWhile]
  refine congrFun (congrArg List.takeWhile (funext fun c ↦ ?_)) s
  rw [isStrictChar, Bool.eq_iff_iff, Bool.and_eq_true, decide_eq_true_iff, and_comm]

/-- A word either stops at line breaks anyway, or is cut at its first carriage return. -/
theorem wordOf_isStrictChar (hw : word? s = some (word, rest)) :
    wordOf isStrictChar s = some (word, rest) ∨ ∃ x z, word = x ++ '\r' :: z ∧ ';' ∉ x ∧
      wordOf isStrictChar s = if x = [] then none else some (x, '\r' :: z ++ rest) := by
  have hs := (append_of_word? hw).2
  have hstrict := takeWhile_isStrictChar (s.take 32)
  have hsemi : ';' ∉ (s.take 32).takeWhile isWordChar := fun hm ↦ by
    cases List.mem_takeWhile_imp hm
  rw [word?_eq] at hw
  obtain ⟨hempty, hw⟩ := Option.ite_none_left_eq_some.1 hw
  generalize (s.take 32).takeWhile isWordChar = w at *
  by_cases hmem : '\r' ∈ w
  · right
    obtain ⟨x, z, rfl, hx⟩ := List.eq_append_cons_of_mem hmem
    have hcut : (s.take 32).takeWhile isStrictChar = x := by
      rw [hstrict]
      exact takeWhile_run (fun c hc ↦ bne_iff_ne.2 fun h ↦ hx (h ▸ hc)) (by rintro _ ⟨⟩; rfl)
    obtain ⟨z', rfl⟩ : ∃ z', word = x ++ '\r' :: z' := by
      obtain ⟨rfl, -⟩ := Prod.mk.inj (Option.some.inj hw)
      exact ⟨_, by rw [List.append_assoc, List.cons_append]⟩
    have hdrop : s.drop x.length = '\r' :: z' ++ rest := by
      rw [hs, List.append_assoc, List.drop_left]
    refine ⟨x, z', rfl, fun h ↦ hsemi (List.mem_append_left _ h), ?_⟩
    simp [wordOf, hcut, hdrop, semicolon, dropSemicolon_cons]
  · left
    have hcut : (s.take 32).takeWhile isStrictChar = w := by
      rw [hstrict, List.takeWhile_eq_self_iff]
      exact fun c hc ↦ bne_iff_ne.2 fun h ↦ hmem (h ▸ hc)
    rw [wordOf, hcut, if_neg hempty]
    exact hw

theorem wordOf_isStrictChar_eq_none (hw : word? s = none) : wordOf isStrictChar s = none := by
  rw [word?_eq, wordOf] at hw
  split at hw
  · rename_i hempty
    rw [wordOf, takeWhile_isStrictChar, List.isEmpty_iff.1 hempty]
    rfl
  · cases hw

/-- Values are read alike with words that stop at line breaks. -/
theorem value_strict (hs : s.head? ≠ some '#') : value ('&' :: s) =
    (wordOf isStrictChar s).elim ((value s).map ('&' :: ·)) fun w ↦
      (value w.2).map (ofWord w.1 ++ ·) := by
  have hin : inValue s = .ok ((word? s).map (Prod.map ofWord id)) := by
    rw [inValue.eq_def]
    split
    · exact absurd rfl hs
    · rfl
  cases hw : word? s with
  | none =>
    rw [hw] at hin
    rw [wordOf_isStrictChar_eq_none hw, value_of_inValue_none hin, Option.elim_none]
  | some found =>
    obtain ⟨word, rest⟩ := found
    have hin : inValue s = .ok (some (ofWord word, rest)) := by rw [hin, hw]; rfl
    rw [value_of_inValue_some hin]
    rcases wordOf_isStrictChar hw with h | ⟨x, z, rfl, hx, h⟩
    · rw [h, Option.elim_some]
    · obtain ⟨hword, hs⟩ := append_of_word? hw
      have hz : '&' ∉ '\r' :: z := fun hm ↦ hword (List.mem_append_right _ hm)
      rw [h, ofWord_over hx]
      by_cases hne : x = []
      · subst hne
        rw [List.nil_append] at hs
        simp only [if_true, hs, value_append hz]
        cases value rest <;> rfl
      · rw [if_neg hne, if_neg hne, Option.elim_some, value_append hz]
        cases value rest <;> simp [Except.map]

/-- A value is the same, but for its line breaks, with unified line breaks. -/
theorem value_unified (s : List Char) :
    SameOutcome Unifies (value s) (value (unifyLineBreaks s)) := by
  induction hn : s.length using Nat.strong_induction_on generalizing s with
  | _ n ih =>
  have shorter {t : List Char} (h : t.length < s.length) := ih _ (hn ▸ h) t rfl
  fun_cases unifyLineBreaks s with
  | case1 => exact .ok .nil
  | case2 t =>
    have hbreak : '&' ∉ ['\r', '\n'] := by decide
    have hpair : value ('\r' :: '\n' :: t) = _ := value_append hbreak t
    rw [hpair, value_cons (by decide)]
    exact (shorter (by simp only [List.length_cons]; omega)).map fun a b h ↦ .pair h
  | case3 t =>
    rw [value_cons (by decide), value_cons (by decide)]
    exact (shorter (by simp)).map fun a b h ↦ .lone h
  | case4 c t _ hr =>
    by_cases hc : c = '&'
    · subst hc
      by_cases hnumber : t.head? = some '#'
      · obtain ⟨t, rfl⟩ := List.head?_eq_some_iff.1 hnumber
        have hu : unifyLineBreaks ('#' :: t) = '#' :: unifyLineBreaks t := rfl
        rw [hu, value_number, value_number, numeric?_unified]
        cases hnum : numeric? t with
        | none => exact (shorter (by simp)).map fun a b h ↦ .cons _ h
        | some n =>
          have hvalue : ({ n with rest := unifyLineBreaks n.rest } : Numeric).value = n.value := rfl
          have hlength := (length_dropSemicolon_le n.rest).trans (length_rest_of_numeric? hnum)
          simp only [Option.map_some, hvalue, dropSemicolon_unified]
          cases n.value with
          | error e => exact .error e
          | ok v =>
            have hshort : (dropSemicolon n.rest).length < ('&' :: '#' :: t).length := by
              simp only [List.length_cons]
              omega
            exact (shorter hshort).map fun a b h ↦ (Unifies.refl _).append h
      · have hnumber' := mt (head?_unifyLineBreaks (by decide) t).1 hnumber
        rw [value_strict hnumber, value_strict hnumber', wordOf_unified rfl rfl]
        cases hw : wordOf isStrictChar t with
        | none => exact (shorter (by simp)).map fun a b h ↦ .cons _ h
        | some found =>
          have hshort := Nat.lt_succ_of_le (length_rest_of_wordOf hw)
          exact (shorter hshort).map fun a b h ↦ (Unifies.refl _).append h
    · rw [value_cons hc, value_cons hc]
      exact (shorter (by simp)).map fun a b h ↦ .cons _ h

end Reference

end InstanceCatalog.Markup
