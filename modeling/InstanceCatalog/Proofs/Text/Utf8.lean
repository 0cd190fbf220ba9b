import InstanceCatalog.Text.Utf8
import Mathlib.Data.List.Basic
import Mathlib.Data.Nat.Init

/-! # UTF-8 there and back

A step of decoding reads a character if and only if the bytes start with what encoding writes for
it, so decoding accepts the encodings of texts and nothing else. -/

namespace InstanceCatalog.Text.Utf8

/-- The first of some bytes lies between two bounds, and those after it are any tails. -/
def InTails : Nat → Nat → Bytes → Prop
  | _, _, [] => True
  | low, high, b :: bs => (low ≤ b.toNat ∧ b.toNat ≤ high) ∧ InTails 0x80 0xBF bs

/-- The code point that tails complete. -/
def pointOf (n : Nat) (ts : Bytes) : Nat := ts.foldl (fun n b ↦ 64 * n + (b.toNat - 0x80)) n

variable {b : UInt8} {bs ts rest : Bytes} {c : Char} {low high taken n k more : Nat} {l : Lead}

theorem inTails_cons :
    InTails low high (b :: bs) ↔ (low ≤ b.toNat ∧ b.toNat ≤ high) ∧ InTails 0x80 0xBF bs := by
  rw [InTails]

theorem pointOf_cons : pointOf n (b :: bs) = pointOf (64 * n + (b.toNat - 0x80)) bs := by
  rw [pointOf, List.foldl_cons, ← pointOf]

theorem readTails_eq_char_iff : readTails low high taken n k bs = .char c more ↔
    ∃ ts rest, bs = ts ++ rest ∧ ts.length = k ∧ InTails low high ts ∧
      c = Char.ofNat (pointOf n ts) ∧ more = taken + k := by
  induction k generalizing low high taken n bs with
  | zero =>
    rw [readTails]
    constructor
    · rintro ⟨⟩
      exact ⟨[], bs, rfl, rfl, trivial, rfl, rfl⟩
    · rintro ⟨ts, rest, rfl, hlength, -, rfl, rfl⟩
      rw [List.length_eq_zero_iff.1 hlength]
      rfl
  | succ k ih =>
    cases bs with
    | nil =>
      rw [readTails]
      refine iff_of_false nofun ?_
      rintro ⟨ts, rest, happend, hlength, -⟩
      rw [(List.append_eq_nil_iff.1 happend.symm).1] at hlength
      cases hlength
    | cons b bs =>
      rw [readTails]
      split
      · rename_i hb
        rw [ih]
        constructor
        · rintro ⟨ts, rest, rfl, rfl, hts, rfl, rfl⟩
          refine ⟨b :: ts, rest, rfl, rfl, inTails_cons.2 ⟨hb, hts⟩, ?_, by omega⟩
          rw [pointOf_cons]
        · rintro ⟨_ | ⟨t, ts⟩, rest, happend, hlength, hts, rfl, rfl⟩
          · cases hlength
          · cases happend
            refine ⟨ts, rest, rfl, Nat.succ.inj hlength, (inTails_cons.1 hts).2, ?_, by omega⟩
            rw [pointOf_cons]
      · rename_i hb
        refine iff_of_false nofun ?_
        rintro ⟨_ | ⟨t, ts⟩, rest, happend, hlength, hts, -⟩
        · cases hlength
        · cases happend
          exact hb (inTails_cons.1 hts).1

/-- A character is written by a first byte and the tails that this asks for. -/
def Writes (c : Char) (b : UInt8) (ts : Bytes) : Prop :=
  ∃ low high bits, lead? b.toNat = some ⟨ts.length, low, high, bits⟩ ∧ InTails low high ts ∧
    c = Char.ofNat (pointOf bits ts)

theorem step_eq_char_iff : step b bs = .char c more ↔
    ∃ ts rest, bs = ts ++ rest ∧ Writes c b ts ∧ more = ts.length := by
  rw [step]
  cases hl : lead? b.toNat with
  | none =>
    refine iff_of_false nofun ?_
    rintro ⟨ts, rest, -, ⟨_, _, _, hl', -⟩, -⟩
    rw [hl] at hl'
    cases hl'
  | some l =>
    obtain ⟨tails, low, high, bits⟩ := l
    simp only [readTails_eq_char_iff, Writes, hl]
    constructor
    · rintro ⟨ts, rest, rfl, rfl, hts, rfl, rfl⟩
      exact ⟨ts, rest, rfl, ⟨_, _, _, rfl, hts, rfl⟩, Nat.zero_add _⟩
    · rintro ⟨ts, rest, rfl, ⟨_, _, _, ⟨⟩, hts, rfl⟩, rfl⟩
      exact ⟨ts, rest, rfl, rfl, hts, rfl, (Nat.zero_add _).symm⟩

/-! ## Characters -/

theorem toNat_toUInt8 (h : n < 0x100) : n.toUInt8.toNat = n := by
  rw [Nat.toUInt8_eq, UInt8.toNat_ofNat', Nat.mod_eq_of_lt h]

theorem inTails_tail (h : low ≤ 0x80 + n % 0x40 ∧ 0x80 + n % 0x40 ≤ high)
    (hts : InTails 0x80 0xBF ts) : InTails low high ((0x80 + n % 0x40).toUInt8 :: ts) := by
  rw [inTails_cons, toNat_toUInt8 (by omega)]
  exact ⟨h, hts⟩

theorem pointOf_tail : pointOf k ((0x80 + n % 0x40).toUInt8 :: ts) =
    pointOf (64 * k + n % 0x40) ts := by
  rw [pointOf_cons, toNat_toUInt8 (by omega), Nat.add_sub_cancel_left]

theorem pointOf_nil : pointOf n [] = n := rfl

theorem writes_of_encodeChar (h : encodeChar c = b :: ts) : Writes c b ts := by
  have hvalid : c.toNat < 0xD800 ∨ 0xDFFF < c.toNat ∧ c.toNat < 0x110000 := c.valid
  have hc : Char.ofNat c.toNat = c := Char.ofNat_toNat c
  simp only [encodeChar] at h
  generalize c.toNat = n at h hc hvalid
  split at h
  · cases h
    refine ⟨0x80, 0xBF, n, ?_, trivial, hc.symm⟩
    rw [toNat_toUInt8 (by omega), lead?, if_pos (by omega)]
    rfl
  split at h
  · cases h
    refine ⟨0x80, 0xBF, n / 0x40, ?_, inTails_tail (by omega) trivial, ?_⟩
    · rw [toNat_toUInt8 (by omega), lead?, if_neg (by omega), if_neg (by omega), if_pos (by omega),
        Nat.add_sub_cancel_left]
      rfl
    · rw [pointOf_tail, pointOf_nil, Nat.div_add_mod, hc]
  split at h
  · cases h
    have hpoint : 64 * (64 * (n / 0x1000) + n / 0x40 % 0x40) + n % 0x40 = n := by omega
    refine ⟨if 0xE0 + n / 0x1000 = 0xE0 then 0xA0 else 0x80,
      if 0xE0 + n / 0x1000 = 0xED then 0x9F else 0xBF, n / 0x1000, ?_, ?_, ?_⟩
    · rw [toNat_toUInt8 (by omega), lead?, if_neg (by omega), if_neg (by omega), if_neg (by omega),
        if_pos (by omega), Nat.add_sub_cancel_left]
      rfl
    · refine inTails_tail ?_ (inTails_tail (by omega) trivial)
      constructor <;> split <;> omega
    · rw [pointOf_tail, pointOf_tail, pointOf_nil, hpoint, hc]
  · cases h
    have hpoint : 64 * (64 * (64 * (n / 0x40000) + n / 0x1000 % 0x40) + n / 0x40 % 0x40) +
        n % 0x40 = n := by omega
    refine ⟨if 0xF0 + n / 0x40000 = 0xF0 then 0x90 else 0x80,
      if 0xF0 + n / 0x40000 = 0xF4 then 0x8F else 0xBF, n / 0x40000, ?_, ?_, ?_⟩
    · rw [toNat_toUInt8 (by omega), lead?, if_neg (by omega), if_neg (by omega), if_neg (by omega),
        if_neg (by omega), if_pos (by omega), Nat.add_sub_cancel_left]
      rfl
    · refine inTails_tail ?_ (inTails_tail (by omega) (inTails_tail (by omega) trivial))
      constructor <;> split <;> omega
    · rw [pointOf_tail, pointOf_tail, pointOf_tail, pointOf_nil, hpoint, hc]

theorem toUInt8_eq (h : n = b.toNat) : n.toUInt8 = b := by
  rw [h]
  simp

theorem toNat_ofNat (h : n < 0xD800 ∨ 0xDFFF < n ∧ n < 0x110000) : (Char.ofNat n).toNat = n := by
  rw [Char.ofNat, dif_pos h]
  rfl

theorem encodeChar_of_writes (h : Writes c b ts) : encodeChar c = b :: ts := by
  obtain ⟨low, high, bits, hl, hts, rfl⟩ := h
  rw [lead?] at hl
  split at hl
  · simp only [Option.some.injEq, Lead.mk.injEq] at hl
    obtain ⟨hlength, rfl, rfl, rfl⟩ := hl
    rw [List.length_eq_zero_iff.1 hlength.symm, pointOf_nil]
    simp only [encodeChar]
    rw [toNat_ofNat (by omega), if_pos (by omega), toUInt8_eq rfl]
  split at hl
  · cases hl
  split at hl
  · simp only [Option.some.injEq, Lead.mk.injEq] at hl
    obtain ⟨hlength, rfl, rfl, rfl⟩ := hl
    obtain ⟨t, rfl⟩ := List.length_eq_one_iff.1 hlength.symm
    obtain ⟨ht, -⟩ := inTails_cons.1 hts
    rw [pointOf_cons, pointOf_nil]
    simp only [encodeChar]
    rw [toNat_ofNat (by omega), if_neg (by omega), if_pos (by omega),
      toUInt8_eq (b := b) (by omega), toUInt8_eq (b := t) (by omega)]
  split at hl
  · simp only [Option.some.injEq, Lead.mk.injEq] at hl
    obtain ⟨hlength, rfl, rfl, rfl⟩ := hl
    obtain ⟨t, u, rfl⟩ := List.length_eq_two.1 hlength.symm
    obtain ⟨ht, hts⟩ := inTails_cons.1 hts
    obtain ⟨hu, -⟩ := inTails_cons.1 hts
    have hlow : 0x80 ≤ t.toNat ∧ (b.toNat = 0xE0 → 0xA0 ≤ t.toNat) := by grind
    have hhigh : t.toNat ≤ 0xBF ∧ (b.toNat = 0xED → t.toNat ≤ 0x9F) := by grind
    rw [pointOf_cons, pointOf_cons, pointOf_nil]
    simp only [encodeChar]
    rw [toNat_ofNat (by omega), if_neg (by omega), if_neg (by omega), if_pos (by omega),
      toUInt8_eq (b := b) (by omega), toUInt8_eq (b := t) (by omega),
      toUInt8_eq (b := u) (by omega)]
  split at hl
  · simp only [Option.some.injEq, Lead.mk.injEq] at hl
    obtain ⟨hlength, rfl, rfl, rfl⟩ := hl
    obtain ⟨t, u, v, rfl⟩ := List.length_eq_three.1 hlength.symm
    obtain ⟨ht, hts⟩ := inTails_cons.1 hts
    obtain ⟨hu, hts⟩ := inTails_cons.1 hts
    obtain ⟨hv, -⟩ := inTails_cons.1 hts
    have hlow : 0x80 ≤ t.toNat ∧ (b.toNat = 0xF0 → 0x90 ≤ t.toNat) := by grind
    have hhigh : t.toNat ≤ 0xBF ∧ (b.toNat = 0xF4 → t.toNat ≤ 0x8F) := by grind
    rw [pointOf_cons, pointOf_cons, pointOf_cons, pointOf_nil]
    simp only [encodeChar]
    rw [toNat_ofNat (by omega), if_neg (by omega), if_neg (by omega), if_neg (by omega),
      toUInt8_eq (b := b) (by omega), toUInt8_eq (b := t) (by omega),
      toUInt8_eq (b := u) (by omega), toUInt8_eq (b := v) (by omega)]
  · cases hl

/-! ## Texts -/

theorem decodeFrom_skip {place : Nat} (skipped bs : Bytes) :
    decodeFrom place skipped.length (skipped ++ bs) =
      decodeFrom (place + skipped.length) 0 bs := by
  induction skipped generalizing place with
  | nil => rfl
  | cons b skipped ih =>
    rw [List.length_cons, List.cons_append, decodeFrom, ih, Nat.add_assoc, Nat.add_comm 1]

theorem decodeFrom_encodeChar {place : Nat} (h : encodeChar c = b :: ts) :
    decodeFrom place 0 (b :: (ts ++ rest)) =
      (decodeFrom (place + 1 + ts.length) 0 rest).map (c :: ·) := by
  have hstep : step b (ts ++ rest) = .char c ts.length :=
    step_eq_char_iff.2 ⟨ts, rest, rfl, writes_of_encodeChar h, rfl⟩
  rw [decodeFrom, hstep]
  simp only [decodeFrom_skip]

theorem exists_encodeChar (c : Char) : ∃ b ts, encodeChar c = b :: ts := by
  rw [encodeChar]
  dsimp only
  split
  · exact ⟨_, _, rfl⟩
  split
  · exact ⟨_, _, rfl⟩
  split <;> exact ⟨_, _, rfl⟩

theorem encode_cons (c : Char) (s : List Char) : encode (c :: s) = encodeChar c ++ encode s :=
  List.flatMap_cons

theorem decodeFrom_encode (place : Nat) (s : List Char) :
    decodeFrom place 0 (encode s) = .ok s := by
  induction s generalizing place with
  | nil => rfl
  | cons c s ih =>
    obtain ⟨b, ts, h⟩ := exists_encodeChar c
    rw [encode_cons, h, List.cons_append, decodeFrom_encodeChar h, ih]
    rfl

theorem eq_encode_of_decodeFrom {place : Nat} {s : List Char} (h : decodeFrom place 0 bs = .ok s) :
    bs = encode s := by
  induction hlength : bs.length using Nat.strong_induction_on generalizing place bs s with
  | _ n ih =>
    cases bs with
    | nil => cases h; rfl
    | cons b bs =>
      cases hstep : step b bs with
      | bad p more =>
        rw [decodeFrom, hstep] at h
        cases h
      | char c more =>
        obtain ⟨ts, rest, rfl, hwrites, rfl⟩ := step_eq_char_iff.1 hstep
        have hc := encodeChar_of_writes hwrites
        rw [decodeFrom_encodeChar hc] at h
        cases hrest : decodeFrom (place + 1 + ts.length) 0 rest with
        | error m => rw [hrest] at h; cases h
        | ok t =>
          rw [hrest] at h
          cases h
          have hshort : rest.length < n := by
            rw [← hlength, List.length_cons, List.length_append]
            omega
          calc b :: (ts ++ rest) = encodeChar c ++ rest := by rw [hc, List.cons_append]
            _ = encodeChar c ++ encode t := by rw [ih _ hshort hrest rfl]
            _ = encode (c :: t) := (encode_cons c t).symm

/-- Decoding accepts exactly what encoding writes. -/
theorem decode_eq_ok_iff {s : List Char} : decode bs = .ok s ↔ bs = encode s := by
  refine ⟨eq_encode_of_decodeFrom, ?_⟩
  rintro rfl
  exact decodeFrom_encode 0 s

theorem decode_encode (s : List Char) : decode (encode s) = .ok s := decode_eq_ok_iff.2 rfl

/-- Where strict decoding gives a text, lossy decoding gives the same. -/
theorem decodeLossyFrom_eq {place skip : Nat} {s : List Char}
    (h : decodeFrom place skip bs = .ok s) : decodeLossyFrom skip bs = s := by
  fun_induction decodeFrom place skip bs generalizing s with
  | case1 place skip => cases h; cases skip <;> rfl
  | case2 place skip b bs ih => exact ih h
  | case3 place b bs c more hstep ih =>
    rw [decodeLossyFrom, hstep]
    cases hrest : decodeFrom (place + 1) more bs with
    | error m => rw [hrest] at h; cases h
    | ok t =>
      rw [hrest] at h
      cases h
      exact congrArg (c :: ·) (ih hrest)
  | case4 => cases h

theorem decodeLossy_encode (s : List Char) : decodeLossy (encode s) = s :=
  decodeLossyFrom_eq (decode_encode s)

theorem encode_injective : Function.Injective encode := by
  intro s t h
  have hs : decode (encode s) = .ok t := decode_eq_ok_iff.2 h
  rw [decode_encode] at hs
  cases hs
  rfl

end InstanceCatalog.Text.Utf8
