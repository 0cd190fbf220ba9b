import InstanceCatalog.Proofs.Markup.Pass
import InstanceCatalog.Proofs.Text.Run

/-! # References of too many digits

A reference by a decimal number is the one thing in a page that is not read within bounds: with more
digits than are converted the reader gives up.  This file says where it does. -/

namespace InstanceCatalog.Markup

open Text

theorem map_eq_error_iff {α β : Type} {f : α → β} {x : Except Failure α} {e : Failure} :
    f <$> x = .error e ↔ x = .error e := by
  cases x with
  | error e' => exact ⟨fun h ↦ by cases h; rfl, fun h ↦ by cases h; rfl⟩
  | ok a => exact ⟨nofun, nofun⟩

/-- A text starts with `n` digits, more than are converted. -/
def StartsOverlong (s : List Char) (n : Nat) : Prop :=
  (s.takeWhile isAsciiDigit).length = n ∧ Numeral.digitLimit < n

theorem StartsOverlong.takeWhile_ne_nil {s : List Char} {n : Nat} (h : StartsOverlong s n) :
    s.takeWhile isAsciiDigit ≠ [] := by
  obtain ⟨rfl, hn⟩ := h
  exact List.length_pos_iff.1 (Nat.zero_lt_of_lt hn)

namespace Reference

variable {s t word rest : List Char} {e : Failure} {n : Nat} {m : Numeric}

/-! ## Numbers -/

theorem numeric?_of_digit (h : s.takeWhile isAsciiDigit ≠ []) :
    numeric? s = some ⟨false, s.takeWhile isAsciiDigit, s.dropWhile isAsciiDigit⟩ := by
  cases s with
  | nil => exact absurd rfl h
  | cons c s =>
    have hc : isAsciiDigit c = true := by
      by_contra hc
      exact h (by rw [List.takeWhile_cons, if_neg hc])
    have hx : (c == 'x' || c == 'X') = false := by
      rw [Bool.or_eq_false_iff, beq_eq_false_iff_ne, beq_eq_false_iff_ne]
      constructor <;> rintro rfl <;> cases hc
    have hempty : ((c :: s).takeWhile isAsciiDigit).isEmpty = false := by
      rwa [List.isEmpty_eq_false_iff]
    simp only [numeric?, hx, Bool.false_eq_true, if_false, hempty]

theorem hexadecimal_of_numeric? (h : s.takeWhile isAsciiDigit = []) (hm : numeric? s = some m) :
    m.hexadecimal = true := by
  cases s with
  | nil => cases hm
  | cons c s =>
    simp only [numeric?, h] at hm
    split at hm
    · obtain ⟨-, hm⟩ := Option.ite_none_left_eq_some.1 hm
      exact Option.some.inj hm ▸ rfl
    · obtain ⟨hempty, -⟩ := Option.ite_none_left_eq_some.1 hm
      exact absurd rfl hempty

theorem value_decimal : (⟨false, s, rest⟩ : Numeric).value = .error e ↔
    Numeral.digitLimit < s.length ∧ e = .tooManyDigits s.length := by
  simp only [Numeric.value, Bool.false_eq_true, if_false, ofDecimalDigits]
  split
  · constructor
    · rintro ⟨⟩; exact ⟨‹_›, rfl⟩
    · rintro ⟨-, rfl⟩; rfl
  · constructor
    · rintro ⟨⟩
    · rintro ⟨h, -⟩; exact absurd h ‹_›

theorem value_hexadecimal (h : m.hexadecimal = true) : m.value = .ok (ofHexDigits m.digits) := by
  rw [Numeric.value, if_pos h]

/-- In text a reference has to be ended by something that is no digit of either kind. -/
theorem numericInText_eq_error_iff : numericInText s = .error e ↔
    ∃ n, StartsOverlong s n ∧ (∃ c ∈ (s.dropWhile isAsciiDigit).head?, isHexDigit c = false) ∧
      e = .tooManyDigits n := by
  by_cases hs : s.takeWhile isAsciiDigit = []
  · refine iff_of_false ?_ ?_
    · rw [numericInText]
      split
      · nofun
      · rename_i m hm
        rw [value_hexadecimal (hexadecimal_of_numeric? hs hm)]
        split
        · nofun
        · split <;> nofun
    · rintro ⟨n, hn, -⟩
      exact hn.takeWhile_ne_nil hs
  · rw [numericInText, numeric?_of_digit hs]
    cases hrest : s.dropWhile isAsciiDigit with
    | nil => exact iff_of_false nofun (by simp)
    | cons c rest =>
      simp only [List.head?_cons, Option.mem_some_iff, exists_eq_left']
      cases hc : isHexDigit c with
      | true => simp
      | false =>
        simp only [Bool.false_eq_true, if_false, bind_pure_comp, map_eq_error_iff, value_decimal]
        constructor
        · rintro ⟨hn, rfl⟩
          exact ⟨_, ⟨rfl, hn⟩, trivial, rfl⟩
        · rintro ⟨n, ⟨rfl, hn⟩, -, rfl⟩
          exact ⟨hn, rfl⟩

/-! ## Attribute values -/

/-- The number of digits of the first overlong reference in an attribute value. -/
def firstOverlong? : List Char → Option Nat
  | '&' :: '#' :: t =>
    if Numeral.digitLimit < (t.takeWhile isAsciiDigit).length then
      some (t.takeWhile isAsciiDigit).length
    else firstOverlong? ('#' :: t)
  | _ :: s => firstOverlong? s
  | [] => none

theorem firstOverlong?_append (hword : '&' ∉ word) :
    firstOverlong? (word ++ rest) = firstOverlong? rest := by
  induction word with
  | nil => rfl
  | cons c word ih =>
    rw [List.mem_cons, not_or] at hword
    rw [List.cons_append, firstOverlong?, ih hword.2]
    rintro t h -
    exact hword.1 h.symm

theorem append_of_numeric? (h : numeric? s = some m) : ∃ word, '&' ∉ word ∧ s = word ++ m.rest := by
  cases s with
  | nil => cases h
  | cons c s =>
    simp only [numeric?] at h
    obtain ⟨-, h⟩ := Option.ite_none_left_eq_some.1 h
    obtain rfl := Option.some.inj h
    split
    · rename_i hx
      refine ⟨c :: s.takeWhile isHexDigit, ?_, ?_⟩
      · rw [List.mem_cons, not_or]
        refine ⟨?_, not_mem_takeWhile rfl s⟩
        rintro rfl
        cases hx
      · rw [List.cons_append, List.takeWhile_append_dropWhile]
    · exact ⟨_, not_mem_takeWhile rfl _, (List.takeWhile_append_dropWhile ..).symm⟩

theorem append_of_word? {w : List Char} (h : word? s = some (w, rest)) :
    '&' ∉ w ∧ s = w ++ rest := by
  simp only [word?] at h
  obtain ⟨-, h⟩ := Option.ite_none_left_eq_some.1 h
  have hnot : '&' ∉ (s.take 32).takeWhile isWordChar := not_mem_takeWhile rfl _
  have hfront : (s.take 32).takeWhile isWordChar <+: s :=
    (List.takeWhile_prefix _).trans (List.take_prefix _ _)
  have hs := List.prefix_iff_eq_append.1 hfront
  split at h
  · rename_i hdrop
    cases h
    refine ⟨by simp [hnot], ?_⟩
    rw [List.append_assoc, List.singleton_append, ← hdrop, hs]
  · cases h
    exact ⟨hnot, hs.symm⟩

/-- A reference in a value takes characters of which none begins another one. -/
theorem append_of_inValue {cs : List Char} (h : inValue s = .ok (some (cs, rest))) :
    ∃ word, '&' ∉ word ∧ s = word ++ rest := by
  rw [inValue.eq_def] at h
  split at h
  · rename_i t
    split at h
    · cases h
    · rename_i m hm
      obtain ⟨word, hword, rfl⟩ := append_of_numeric? hm
      cases hv : m.value with
      | error e => rw [hv] at h; cases h
      | ok v =>
        rw [hv] at h
        obtain ⟨-, rfl⟩ := Prod.mk.inj (Option.some.inj (Except.ok.inj h))
        split
        · rename_i hsemi
          exact ⟨'#' :: (word ++ [';']), by simp [hword], by simp [hsemi]⟩
        · exact ⟨'#' :: word, by simp [hword], rfl⟩
  · obtain ⟨⟨w, rest'⟩, hw, he⟩ := Option.map_eq_some_iff.1 (Except.ok.inj h)
    cases he
    exact ⟨w, append_of_word? hw⟩

theorem inValue_eq_error_iff : inValue s = .error e ↔
    ∃ t n, s = '#' :: t ∧ StartsOverlong t n ∧ e = .tooManyDigits n := by
  rw [inValue.eq_def]
  split
  · rename_i t
    have hreduce : (∃ t' n, '#' :: t = '#' :: t' ∧ StartsOverlong t' n ∧ e = .tooManyDigits n) ↔
        ∃ n, StartsOverlong t n ∧ e = .tooManyDigits n := by simp
    rw [hreduce]
    by_cases ht : t.takeWhile isAsciiDigit = []
    · refine iff_of_false ?_ ?_
      · split
        · nofun
        · rename_i m hm
          rw [value_hexadecimal (hexadecimal_of_numeric? ht hm)]
          nofun
      · rintro ⟨n, hn, -⟩
        exact hn.takeWhile_ne_nil ht
    · simp only [numeric?_of_digit ht, bind_pure_comp, map_eq_error_iff, value_decimal]
      constructor
      · rintro ⟨hn, rfl⟩
        exact ⟨_, ⟨rfl, hn⟩, rfl⟩
      · rintro ⟨n, ⟨rfl, hn⟩, rfl⟩
        exact ⟨hn, rfl⟩
  · rename_i hne
    refine iff_of_false nofun ?_
    rintro ⟨t, n, rfl, -⟩
    exact hne t rfl

theorem firstOverlong?_of_startsOverlong (h : StartsOverlong t n) :
    firstOverlong? ('&' :: '#' :: t) = some n := by
  obtain ⟨rfl, hn⟩ := h
  rw [firstOverlong?, if_pos hn]

theorem firstOverlong?_of_inValue {o : Option (List Char × List Char)} (h : inValue s = .ok o) :
    firstOverlong? ('&' :: s) = firstOverlong? s := by
  by_cases hs : ∃ t, s = '#' :: t
  · obtain ⟨t, rfl⟩ := hs
    have hshort : ¬ Numeral.digitLimit < (t.takeWhile isAsciiDigit).length := fun hn ↦ by
      rw [inValue_eq_error_iff.2 ⟨t, _, rfl, ⟨rfl, hn⟩, rfl⟩] at h
      cases h
    rw [firstOverlong?, if_neg hshort]
  · rw [firstOverlong?]
    rintro t - rfl
    exact hs ⟨t, rfl⟩

/-- A value is not read exactly if it holds an overlong reference; all references are looked at. -/
theorem valueWithin_eq_error_iff {fuel : Nat} (h : s.length ≤ fuel) :
    valueWithin fuel s = .error e ↔ ∃ n, firstOverlong? s = some n ∧ e = .tooManyDigits n := by
  induction fuel generalizing s with
  | zero =>
    obtain rfl := List.length_eq_zero_iff.1 (Nat.le_zero.1 h)
    exact iff_of_false nofun (by simp [firstOverlong?])
  | succ fuel ih =>
    cases s with
    | nil => exact iff_of_false nofun (by simp [firstOverlong?])
    | cons c s =>
      have hs : s.length ≤ fuel := Nat.le_of_succ_le_succ h
      rw [valueWithin]
      by_cases hc : c = '&'
      · subst hc
        rw [if_pos rfl]
        cases hv : inValue s with
        | error e' =>
          obtain ⟨t, n, rfl, hn, rfl⟩ := inValue_eq_error_iff.1 hv
          rw [firstOverlong?_of_startsOverlong hn]
          simp [bind, Except.bind, eq_comm]
        | ok o =>
          rw [firstOverlong?_of_inValue hv]
          cases o with
          | none => exact map_eq_error_iff.trans (ih hs)
          | some found =>
            obtain ⟨cs, rest⟩ := found
            obtain ⟨word, hword, rfl⟩ := append_of_inValue hv
            rw [firstOverlong?_append hword]
            refine map_eq_error_iff.trans (ih ?_)
            rw [List.length_append] at hs
            omega
      · have hfirst : firstOverlong? (c :: s) = firstOverlong? s :=
          firstOverlong?_append (by simpa using Ne.symm hc : '&' ∉ [c])
        rw [if_neg hc, hfirst, ← ih hs]
        exact map_eq_error_iff

theorem lt_of_firstOverlong? (h : firstOverlong? s = some n) : Numeral.digitLimit < n := by
  fun_induction firstOverlong? s with
  | case1 t hlt => exact Option.some.inj h ▸ hlt
  | case2 t hle ih => exact ih h
  | case3 => exact ‹_ → _› h
  | case4 => cases h

end Reference

/-! ## Start tags -/

namespace StartTag

variable {s : List Char} {e : Failure}

/-- The first overlong reference in the values of some attributes. -/
def firstOverlong? (attrs : List (List Char × List Char)) : Option Nat :=
  attrs.findSome? fun a ↦ Reference.firstOverlong? a.2

/-- Whether the attributes before a text are read: the text ends the tag, or else spoils it in such
a way that it is text. -/
def IsRead : List Char → Prop
  | [] => False
  | '>' :: _ => True
  | '/' :: '>' :: _ => True
  | c :: _ => (Text.isAsciiLetter c || c == '=' || c == '/') = false

theorem readAttrs_eq_error_iff {done : List (String × String)}
    {attrs : List (List Char × List Char)} : readAttrs done attrs = .error e ↔
      ∃ n, firstOverlong? attrs = some n ∧ e = .tooManyDigits n := by
  induction attrs generalizing done with
  | nil => exact iff_of_false nofun (by simp [firstOverlong?])
  | cons a attrs ih =>
    obtain ⟨key, value⟩ := a
    have hvalue := Reference.valueWithin_eq_error_iff (e := e) (Nat.le_refl value.length)
    rw [readAttrs, firstOverlong?, List.findSome?_cons, Reference.value]
    cases hv : Reference.valueWithin value.length value with
    | error e' =>
      obtain ⟨n, hn, rfl⟩ := (Reference.valueWithin_eq_error_iff (Nat.le_refl _)).1 hv
      simp [hn, bind, Except.bind, eq_comm]
    | ok v =>
      have hnone : Reference.firstOverlong? value = none := by
        rw [Option.eq_none_iff_forall_ne_some]
        intro n hn
        rw [(Reference.valueWithin_eq_error_iff (Nat.le_refl _)).2 ⟨n, hn, rfl⟩] at hv
        cases hv
      rw [hnone]
      exact ih

theorem read_eq_error_iff : read s = .error e ↔ IsRead (written s).rest ∧
    ∃ n, firstOverlong? (written s).attrs = some n ∧ e = .tooManyDigits n := by
  have hread : readAttrs [] (written s).attrs = .error e ↔ _ := readAttrs_eq_error_iff
  rw [read, ← hread]
  generalize (written s).rest = rest
  split
  · refine iff_of_false ?_ fun h ↦ h.1
    intro h
    cases h
  · simp only [bind_pure_comp, map_eq_error_iff, IsRead, true_and]
  · simp only [bind_pure_comp, map_eq_error_iff, IsRead, true_and]
  · rename_i c t hclose hslash
    rw [IsRead]
    · cases Text.isAsciiLetter c || c == '=' || c == '/' with
      | true =>
        refine iff_of_false ?_ (by simp)
        intro h
        cases h
      | false =>
        simp only [Bool.false_eq_true, if_false, bind_pure_comp, map_eq_error_iff, true_and]
    · exact hclose
    · exact hslash

end StartTag

/-! ## Steps -/

namespace Step

variable {final : Bool} {raw : Option Raw} {s : List Char} {e : Failure} {n : Nat}

/-- Where the reader gives up on a reference: it stands in the text and is ended by what could be no
digit of it, or it is the first of its kind in the attributes of a tag that are read. -/
inductive GivesUp : List Char → Nat → Prop
  | reference {t : List Char} {n : Nat} : StartsOverlong t n →
    (∃ c ∈ (t.dropWhile isAsciiDigit).head?, isHexDigit c = false) → GivesUp ('&' :: '#' :: t) n
  | inTag {c : Char} {t : List Char} {n : Nat} : Text.isAsciiLetter c = true →
    StartTag.IsRead (StartTag.written (c :: t)).rest →
    StartTag.firstOverlong? (StartTag.written (c :: t)).attrs = some n → GivesUp ('<' :: c :: t) n

theorem GivesUp.lt (h : GivesUp s n) : Numeral.digitLimit < n := by
  cases h with
  | reference h => exact h.2
  | inTag _ _ h =>
    obtain ⟨a, -, ha⟩ := List.exists_of_findSome?_eq_some h
    exact Reference.lt_of_firstOverlong? ha

theorem ofNumber_eq_error_iff : ofNumber s = .error e ↔
    ∃ n, GivesUp ('&' :: '#' :: s) n ∧ e = .tooManyDigits n := by
  have hmap {α β : Type} {f : α → β} {x : Except Failure α} :
      x.map f = .error e ↔ x = .error e := map_eq_error_iff
  rw [ofNumber, hmap, Reference.numericInText_eq_error_iff]
  constructor
  · rintro ⟨n, hn, hend, rfl⟩
    exact ⟨n, .reference hn hend, rfl⟩
  · rintro ⟨n, ⟨hn, hend⟩, rfl⟩
    exact ⟨n, hn, hend, rfl⟩

/-- What a declaration is rejected with. -/
theorem declaration_error {t : List Char} (h : Aside.declaration t = .error e) :
    ∃ reason, e = .declared (.rejectedMarkup reason) := by
  rw [Aside.declaration.eq_def] at h
  split at h
  · cases h
  · rw [Aside.markedSection.eq_def] at h
    split at h
    · cases h
    · dsimp only at h
      split_ifs at h
      all_goals cases h
      all_goals exact ⟨_, rfl⟩
  · split at h <;> cases h

theorem angle_eq_error_iff : angle s = .error e ↔
    (∃ n, GivesUp ('<' :: s) n ∧ e = .tooManyDigits n) ∨
      ∃ t, s = '!' :: t ∧ Aside.declaration t = .error e := by
  have hmark {c : Char} {t : List Char} (hc : Text.isAsciiLetter c = false) :
      ¬ ∃ n, GivesUp ('<' :: c :: t) n ∧ e = .tooManyDigits n := by
    rintro ⟨n, ⟨⟩, -⟩
    simp_all
  rw [angle.eq_def]
  split
  · refine iff_of_false nofun ?_
    rintro (⟨n, ⟨⟩, -⟩ | ⟨t, ⟨⟩, -⟩)
  · refine iff_of_false nofun ?_
    rintro (h | ⟨t, ⟨⟩, -⟩)
    exact hmark rfl h
  · constructor
    · intro h
      exact .inr ⟨_, rfl, h⟩
    · rintro (h | ⟨t, ⟨⟩, h⟩)
      · exact absurd h (hmark rfl)
      · exact h
  · refine iff_of_false nofun ?_
    rintro (h | ⟨t, ⟨⟩, -⟩)
    exact hmark rfl h
  · rename_i c t _ hbang _
    have hdeclaration : ¬ ∃ t', c :: t = '!' :: t' ∧ Aside.declaration t' = .error e := by
      rintro ⟨t', h, -⟩
      exact hbang (List.cons.inj h).1
    rw [or_iff_left hdeclaration]
    cases hc : Text.isAsciiLetter c with
    | false => exact iff_of_false nofun (hmark hc)
    | true =>
      rw [if_pos rfl, StartTag.read_eq_error_iff]
      constructor
      · rintro ⟨hread, n, hn, rfl⟩
        exact ⟨n, .inTag hc hread hn, rfl⟩
      · rintro ⟨n, hgives, rfl⟩
        cases hgives with
        | inTag _ hread hn => exact ⟨hread, n, hn, rfl⟩

theorem ofAngle_eq_error_iff : ofAngle final s = .error e ↔ angle s = .error e := by
  have hmap {α β : Type} {f : α → β} {x : Except Failure α} :
      x.map f = .error e ↔ x = .error e := map_eq_error_iff
  cases s with
  | nil => exact iff_of_false nofun nofun
  | cons c t =>
    rw [ofAngle, List.isEmpty_cons, if_neg Bool.false_ne_true]
    exact hmap

theorem ofAmpersand_eq_error_iff : ofAmpersand final s = .error e ↔
    ∃ n, GivesUp ('&' :: s) n ∧ e = .tooManyDigits n := by
  rw [ofAmpersand.eq_def]
  split
  · exact ofNumber_eq_error_iff
  · rename_i hnumber
    refine iff_of_false ?_ ?_
    · split
      · nofun
      · split
        · nofun
        · split <;> nofun
    · rintro ⟨n, ⟨⟩, -⟩
      exact hnumber _ rfl

/-- A step fails on a reference that it gives up on, or on a declaration that is rejected. -/
theorem next_eq_error_iff : next final raw s = .error e ↔ raw = none ∧
    ((∃ n, GivesUp s n ∧ e = .tooManyDigits n) ∨
      ∃ t, s = '<' :: '!' :: t ∧ Aside.declaration t = .error e) := by
  cases raw with
  | some r => exact iff_of_false nofun nofun
  | none =>
    simp only [next, true_and]
    rw [inText.eq_def]
    split
    · refine iff_of_false nofun ?_
      rintro (⟨n, ⟨⟩, -⟩ | ⟨t, ⟨⟩, -⟩)
    · rw [ofAngle_eq_error_iff, angle_eq_error_iff]
      simp only [List.cons.injEq, true_and]
    · rw [ofAmpersand_eq_error_iff]
      refine (or_iff_left ?_).symm
      rintro ⟨t, ⟨⟩, -⟩
    · rename_i hangle hampersand
      refine iff_of_false nofun ?_
      rintro (⟨n, h, -⟩ | ⟨t, rfl, -⟩)
      · cases h with
        | reference => exact hampersand _ rfl
        | inTag => exact hangle _ rfl
      · exact hangle _ rfl

end Step

/-- What a page that cannot be read fails with. -/
theorem tokens_error {page : List Char} {e : Failure} (h : tokens page = .error e) :
    (∃ n, Numeral.digitLimit < n ∧ e = .tooManyDigits n) ∨
      ∃ reason, e = .declared (.rejectedMarkup reason) := by
  obtain ⟨final, raw, s, -, hstep⟩ := tokens_eq_error_iff.1 h
  obtain ⟨-, ⟨n, hn, he⟩ | ⟨t, -, he⟩⟩ := Step.next_eq_error_iff.1 hstep
  · exact .inl ⟨n, hn.lt, he⟩
  · exact .inr (Step.declaration_error he)

/-- The reader of a page comes to a reference of `n` digits that it gives up on. -/
def MeetsOverlong (page : List Char) (n : Nat) : Prop :=
  ∃ final s, Reaches page final none s ∧ Step.GivesUp s n

theorem tokens_eq_tooManyDigits_iff {page : List Char} {n : Nat} :
    tokens page = .error (.tooManyDigits n) ↔ MeetsOverlong page n := by
  rw [tokens_eq_error_iff]
  constructor
  · rintro ⟨final, raw, s, hs, hstep⟩
    obtain ⟨rfl, ⟨m, hm, he⟩ | ⟨t, -, he⟩⟩ := Step.next_eq_error_iff.1 hstep
    · cases he
      exact ⟨final, s, hs, hm⟩
    · obtain ⟨reason, he⟩ := Step.declaration_error he
      cases he
  · rintro ⟨final, s, hs, hgives⟩
    exact ⟨final, none, s, hs, Step.next_eq_error_iff.2 ⟨rfl, .inl ⟨n, hgives, rfl⟩⟩⟩

end InstanceCatalog.Markup
