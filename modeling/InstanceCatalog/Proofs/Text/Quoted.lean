import InstanceCatalog.Proofs.Text.Words
import InstanceCatalog.Text.Ascii
import InstanceCatalog.Text.Quoted
import Mathlib.Algebra.Order.BigOperators.Group.List
import Mathlib.Algebra.Order.Group.Nat

/-! # Quoted text can be read back

Of an escaped text the first character is found without looking at the others, and no escape starts
with the mark.  So a quoted text shows where it ends, whatever stands after it. -/

namespace InstanceCatalog.Text.Quoted

variable {q c d : Char} {s t x y : List Char}

/-- The two marks that texts are quoted with. -/
def IsMark (q : Char) : Prop := q = '\'' ∨ q = '"'

theorem isMark_mark (s : List Char) : IsMark (mark s) := by
  rw [mark]
  split
  · exact .inr rfl
  · exact .inl rfl

/-! ## One character -/

theorem ofHexDigits_concat (ds : List Char) (d : Char) :
    ofHexDigits (ds ++ [d]) = 16 * ofHexDigits ds + hexValue d := by
  rw [ofHexDigits, List.foldl_append]
  rfl

theorem hexValue_hexDigit : ∀ n < 16, hexValue (hexDigit n) = n := by decide +kernel

/-- The last hexadecimal digits of a number say what it leaves when divided by their power. -/
theorem ofHexDigits_hex (k n : Nat) : ofHexDigits (hex k n) = n % 16 ^ k := by
  induction k generalizing n with
  | zero => rw [Nat.pow_zero, Nat.mod_one]; rfl
  | succ k ih =>
    rw [hex, ofHexDigits_concat, ih, hexValue_hexDigit _ (Nat.mod_lt n (by decide)), Nat.pow_succ',
      Nat.mod_mul, Nat.add_comm]

/-- What holds of the sixteen digits holds of all in which a number is written. -/
theorem forall_mem_hex {P : Char → Prop} (h : ∀ n < 16, P (hexDigit n)) (k n : Nat) :
    ∀ d ∈ hex k n, P d := by
  induction k generalizing n with
  | zero => nofun
  | succ k ih =>
    rw [hex]
    have hlast : P (hexDigit (n % 16)) := h _ (Nat.mod_lt n (by decide))
    exact List.forall_mem_append.2 ⟨ih (n / 16), List.forall_mem_singleton.2 hlast⟩

/-- The first character of an escaped text, and the text after it. -/
def unescape? : List Char → Option (Char × List Char)
  | '\\' :: 'n' :: s => some ('\n', s)
  | '\\' :: 'r' :: s => some ('\r', s)
  | '\\' :: 't' :: s => some ('\t', s)
  | '\\' :: 'x' :: s => some (Char.ofNat (ofHexDigits (s.take 2)), s.drop 2)
  | '\\' :: 'u' :: s => some (Char.ofNat (ofHexDigits (s.take 4)), s.drop 4)
  | '\\' :: 'U' :: s => some (Char.ofNat (ofHexDigits (s.take 8)), s.drop 8)
  | '\\' :: c :: s => some (c, s)
  | c :: s => some (c, s)
  | [] => none

theorem ofNat_take_hex {k : Nat} (h : c.toNat < 16 ^ k) (x : List Char) :
    (Char.ofNat (ofHexDigits ((hex k c.toNat ++ x).take k)), (hex k c.toNat ++ x).drop k) =
      (c, x) := by
  rw [List.take_left' (length_hex k _), List.drop_left' (length_hex k _), ofHexDigits_hex,
    Nat.mod_eq_of_lt h, Char.ofNat_toNat]

theorem unescape?_escapeCode (c : Char) (x : List Char) :
    unescape? (escapeCode c.toNat ++ x) = some (c, x) := by
  have hlt : c.toNat < 16 ^ 8 := c.val.toNat_lt
  rw [escapeCode]
  split_ifs with htwo hfour
  · exact congrArg some (ofNat_take_hex htwo x)
  · exact congrArg some (ofNat_take_hex hfour x)
  · exact congrArg some (ofNat_take_hex hlt x)

theorem unescape?_escape (hq : IsMark q) (c : Char) (x : List Char) :
    unescape? (escape q c ++ x) = some (c, x) := by
  rw [escape]
  split_ifs with hself hline hreturn htab hshown
  · obtain rfl | rfl := hself
    · rfl
    · obtain rfl | rfl := hq <;> rfl
  · subst hline; rfl
  · subst hreturn; rfl
  · subst htab; rfl
  · have hback : c ≠ '\\' := fun hc ↦ hself (.inl hc)
    rw [List.singleton_append, unescape?.eq_def]
    split <;> simp_all
  · exact unescape?_escapeCode c x

/-- An escape has a first character, and it is not the mark. -/
theorem exists_escape_eq_cons (hq : IsMark q) (c : Char) : ∃ a u, escape q c = a :: u ∧ a ≠ q := by
  have hback : '\\' ≠ q := by obtain rfl | rfl := hq <;> decide
  rw [escape]
  split_ifs with hself
  · exact ⟨_, _, rfl, hback⟩
  · exact ⟨_, _, rfl, hback⟩
  · exact ⟨_, _, rfl, hback⟩
  · exact ⟨_, _, rfl, hback⟩
  · exact ⟨c, [], rfl, fun hc ↦ hself (.inr hc)⟩
  · rw [escapeCode]
    split_ifs <;> exact ⟨_, _, rfl, hback⟩

/-- Everything in an escape shows. -/
theorem isPrintable_of_mem_escape (hq : IsMark q) (c : Char) :
    ∀ a ∈ escape q c, isPrintable a = true := by
  have hcode {b : Char} {k n : Nat} (hb : isPrintable b = true) :
      ∀ a ∈ '\\' :: b :: hex k n, isPrintable a = true :=
    List.forall_mem_cons.2 ⟨rfl, List.forall_mem_cons.2 ⟨hb, forall_mem_hex (by decide) k n⟩⟩
  rw [escape]
  split_ifs with hself _ _ _ hshown
  · refine List.forall_mem_cons.2 ⟨rfl, List.forall_mem_singleton.2 ?_⟩
    obtain rfl | rfl := hself
    · rfl
    · obtain rfl | rfl := hq <;> rfl
  · exact List.all_eq_true.1 rfl
  · exact List.all_eq_true.1 rfl
  · exact List.all_eq_true.1 rfl
  · exact List.forall_mem_singleton.2 hshown
  · rw [escapeCode]
    split_ifs <;> exact hcode rfl

/-! ## Texts -/

theorem flatMap_escape_inj (hq : IsMark q)
    (h : s.flatMap (escape q) ++ q :: x = t.flatMap (escape q) ++ q :: y) : s = t ∧ x = y := by
  induction s generalizing t with
  | nil =>
    cases t with
    | nil => exact ⟨rfl, (List.cons.inj h).2⟩
    | cons d t =>
      obtain ⟨a, u, hu, ha⟩ := exists_escape_eq_cons hq d
      rw [List.flatMap_cons, hu] at h
      exact absurd (List.cons.inj h).1.symm ha
  | cons c s ih =>
    cases t with
    | nil =>
      obtain ⟨a, u, hu, ha⟩ := exists_escape_eq_cons hq c
      rw [List.flatMap_cons, hu] at h
      exact absurd (List.cons.inj h).1 ha
    | cons d t =>
      rw [List.flatMap_cons, List.flatMap_cons, List.append_assoc, List.append_assoc] at h
      have hread := congrArg unescape? h
      rw [unescape?_escape hq, unescape?_escape hq] at hread
      obtain ⟨rfl, hrest⟩ := Prod.mk.inj (Option.some.inj hread)
      obtain ⟨rfl, hxy⟩ := ih hrest
      exact ⟨rfl, hxy⟩

theorem encode_append (s x : List Char) :
    encode s ++ x = mark s :: (s.flatMap (escape (mark s)) ++ mark s :: x) := by
  rw [encode, List.cons_append, List.cons_append, List.append_assoc, List.singleton_append]

/-- A quoted text is found at the start of a longer one. -/
theorem encode_append_inj (h : encode s ++ x = encode t ++ y) : s = t ∧ x = y := by
  rw [encode_append, encode_append] at h
  obtain ⟨hmark, hrest⟩ := List.cons.inj h
  rw [← hmark] at hrest
  exact flatMap_escape_inj (isMark_mark s) hrest

theorem singleLine_encode (s : List Char) : SingleLine (encode s) := by
  have hmark := isMark_mark s
  have hshown : isPrintable (mark s) = true := by obtain h | h := hmark <;> rw [h] <;> rfl
  intro c hc
  refine isLineBoundary_of_isPrintable ?_
  rw [← List.append_nil (encode s), encode_append, List.mem_cons, List.mem_append,
    List.mem_flatMap, List.mem_singleton] at hc
  obtain rfl | ⟨d, -, hd⟩ | rfl := hc
  · exact hshown
  · exact isPrintable_of_mem_escape hmark d c hd
  · exact hshown

/-! ## Lengths -/

/-- No mark makes a character shorter than a mark that it is not. -/
theorem length_escape_le {r : Char} (hr : IsMark r) (hc : c ≠ q) :
    (escape q c).length ≤ (escape r c).length := by
  by_cases hback : c = '\\'
  · subst hback
    exact le_rfl
  by_cases hself : c = r
  · subst hself
    have hshort : escape q c = [c] := by
      rw [escape, if_neg (not_or.2 ⟨hback, hc⟩)]
      obtain rfl | rfl := hr <;> rfl
    rw [hshort, escape, if_pos (.inr rfl)]
    exact Nat.le_succ 1
  · rw [escape, escape, if_neg (not_or.2 ⟨hback, hc⟩), if_neg (not_or.2 ⟨hback, hself⟩)]

/-- A text with its own mark in it keeps that mark when more follows. -/
theorem mark_append (h : mark s ∈ s) (t : List Char) : mark (s ++ t) = mark s := by
  by_cases hs : '\'' ∈ s ∧ '"' ∉ s
  · rw [mark, if_pos hs] at h
    exact absurd h hs.2
  · rw [mark, if_neg hs] at h
    have hdouble : '"' ∈ s := by_contra fun hnot ↦ hs ⟨h, hnot⟩
    rw [mark, mark, if_neg hs, if_neg fun hst ↦ hst.2 (List.mem_append_left t hdouble)]

theorem length_encode (s : List Char) :
    (encode s).length = (s.flatMap (escape (mark s))).length + 2 := by
  rw [← List.append_nil (encode s), encode_append, List.length_cons, List.length_append]
  rfl

/-- More text is not shorter when it is quoted, though it may get the other mark. -/
theorem length_encode_le_append (s t : List Char) :
    (encode s).length ≤ (encode (s ++ t)).length := by
  have hle : (s.flatMap (escape (mark s))).length ≤
      (s.flatMap (escape (mark (s ++ t)))).length := by
    by_cases h : mark s ∈ s
    · rw [mark_append h]
    · rw [List.length_flatMap, List.length_flatMap]
      exact List.sum_le_sum fun c hc ↦
        length_escape_le (isMark_mark (s ++ t)) fun heq ↦ h (heq ▸ hc)
  rw [length_encode, length_encode, List.flatMap_append, List.length_append]
  omega

/-- A text that stands before its own quoted form is found, though nothing marks its end: a longer
one would leave too little room for the quoted form. -/
theorem append_encode_inj {between : List Char}
    (h : s ++ (between ++ (encode s ++ x)) = t ++ (between ++ (encode t ++ x))) : s = t := by
  wlog hle : s.length ≤ t.length generalizing s t with hshorter
  · exact (hshorter h.symm (Nat.le_of_not_le hle)).symm
  have hprefix : s <+: t :=
    List.prefix_of_prefix_length_le ⟨_, h⟩ ⟨_, rfl⟩ hle
  obtain ⟨more, rfl⟩ := hprefix
  have hroom := length_encode_le_append s more
  have hlength := congrArg List.length h
  simp only [List.length_append] at hlength
  have hnil : more = [] := List.length_eq_zero_iff.1 (by omega)
  rw [hnil, List.append_nil]

end InstanceCatalog.Text.Quoted
