import InstanceCatalog.Proofs.Markup.Reading
import InstanceCatalog.Proofs.Text.Lower
import Mathlib.Tactic.MkIffOfInductiveProp

/-! # Tags as they are written

A start tag is written with its attributes in double quotes, one blank before each.  Names are in
small letters; values hold anything. -/

namespace InstanceCatalog.Markup

open Text Step

/-! ## Names -/

def isSmall (c : Char) : Bool := 'a' ≤ c && c ≤ 'z'

def isNameRest (c : Char) : Bool := isSmall c || isAsciiDigit c

/-- A small letter, and small letters and digits after it. -/
def isTagName : List Char → Bool
  | [] => false
  | c :: s => isSmall c && s.all isNameRest

/-- Small letters. -/
def isKeyName (s : List Char) : Bool := !s.isEmpty && s.all isSmall

variable {c : Char} {s name rest : List Char}

theorem toNat_lt_of_isNameRest (h : isNameRest c = true) : c.toNat < 128 := by
  simp only [isNameRest, isSmall, isAsciiDigit, Bool.or_eq_true, Bool.and_eq_true,
    decide_eq_true_eq, Char.le_def, UInt32.le_iff_toNat_le] at h
  have hz : ('z' : Char).val.toNat = 122 := rfl
  have h9 : ('9' : Char).val.toNat = 57 := rfl
  rw [hz, h9] at h
  have : c.toNat = c.val.toNat := rfl
  omega

/-- What the readers of tags ask of the characters of a name. -/
@[mk_iff] structure InName (c : Char) : Prop where
  tagChar : StartTag.isTagChar c = true
  keyChar : StartTag.isKeyChar c = true
  strictChar : EndTag.isStrictChar c = true
  lower : Case.lowerChar c = [c]
  blank : isBlank c = false
  sigma : c ≠ 'Σ'
  slash : c ≠ '/'

instance : DecidablePred InName := fun c ↦ decidable_of_iff _ (inName_iff c).symm

theorem inName_of_isNameRest (h : isNameRest c = true) : InName c :=
  forall_ascii (P := fun c ↦ isNameRest c = true → InName c) (by decide)
    (toNat_lt_of_isNameRest h) h

theorem isNameRest_of_isSmall (h : isSmall c = true) : isNameRest c = true := by
  rw [isNameRest, h, Bool.true_or]

theorem isAsciiLetter_of_isSmall (h : isSmall c = true) : Text.isAsciiLetter c = true := by
  rw [isSmall] at h
  rw [isAsciiLetter, h, Bool.true_or]

theorem lowerFrom_of_inName (h : ∀ c ∈ s, InName c) (before : List Char) :
    Case.lowerFrom before s = s := by
  induction s generalizing before with
  | nil => rfl
  | cons c s ih =>
    obtain ⟨hc, hs⟩ := List.forall_mem_cons.1 h
    rw [Case.lowerFrom_cons hc.sigma, hc.lower, ih hs]
    rfl

theorem lower_of_inName (h : ∀ c ∈ s, InName c) : lower s = s := lowerFrom_of_inName h []

theorem exists_of_isTagName (h : isTagName name = true) :
    ∃ c s, name = c :: s ∧ isSmall c = true ∧ ∀ d ∈ name, InName d := by
  cases name with
  | nil => cases h
  | cons c s =>
    rw [isTagName, Bool.and_eq_true, List.all_eq_true] at h
    refine ⟨c, s, rfl, h.1, List.forall_mem_cons.2 ⟨?_, fun d hd ↦ inName_of_isNameRest (h.2 d hd)⟩⟩
    exact inName_of_isNameRest (isNameRest_of_isSmall h.1)

theorem inName_of_isKeyName (h : isKeyName name = true) : name ≠ [] ∧ ∀ d ∈ name, InName d := by
  rw [isKeyName, Bool.and_eq_true, List.all_eq_true, Bool.not_eq_true', List.isEmpty_eq_false_iff]
    at h
  exact ⟨h.1, fun d hd ↦ inName_of_isNameRest (isNameRest_of_isSmall (h.2 d hd))⟩

/-! ## End tags -/

def writeEnd (tag : String) : List Char := '<' :: '/' :: tag.toList ++ ['>']

theorem throughClose?_append (h : ∀ c ∈ s, c ≠ '>') :
    EndTag.throughClose? (s ++ '>' :: rest) = some (s ++ ['>'], rest) := by
  induction s with
  | nil => rfl
  | cons c s ih =>
    obtain ⟨hc, hs⟩ := List.forall_mem_cons.1 h
    rw [List.cons_append, EndTag.throughClose?, if_neg hc, ih hs]
    rfl

theorem InName.ne_close (h : InName c) : c ≠ '>' := by
  rintro rfl
  cases h.tagChar

theorem strict?_append (h : isTagName name = true) :
    EndTag.strict? (name ++ '>' :: rest) = some (name, rest) := by
  obtain ⟨c, s, rfl, hc, hname⟩ := exists_of_isTagName h
  obtain ⟨hc', hs⟩ := List.forall_mem_cons.1 hname
  have hclose : ∀ c ∈ ('>' :: rest).head?, EndTag.isStrictChar c = false := by rintro _ ⟨⟩; rfl
  have hstrict : ∀ c ∈ s, EndTag.isStrictChar c = true := fun d hd ↦ (hs d hd).strictChar
  rw [EndTag.strict?, List.cons_append,
    dropWhile_eq_self (p := isBlank) (by rintro _ ⟨⟩; exact hc'.blank)]
  simp only [isAsciiLetter_of_isSmall hc, if_true, dropWhile_run hstrict hclose,
    takeWhile_run hstrict hclose]
  rw [dropWhile_eq_self (by rintro _ ⟨⟩; rfl)]
  rfl

theorem reads_end {tag : String} (h : isTagName tag.toList = true) :
    Reads (writeEnd tag) (Nesting.finish tag) := by
  obtain ⟨c, s, hcs, hc, hname⟩ := exists_of_isTagName h
  have hread (rest : List Char) : angle ('/' :: tag.toList ++ ['>'] ++ rest) =
      .ok (some ⟨[.finish tag], none, rest⟩) := by
    have hclose : EndTag.throughClose? (tag.toList ++ '>' :: rest) = _ :=
      throughClose?_append fun d hd ↦ (hname d hd).ne_close
    have hfinish : EndTag.finish tag.toList = .finish tag := by
      rw [EndTag.finish, lower_of_inName hname, String.ofList_toList]
    rw [List.append_assoc, List.singleton_append, List.cons_append, angle, EndTag.read, hclose]
    simp only [strict?_append h, hfinish]
  exact (reads_of_angle (by simp) hread).congr fun n ↦ rfl

/-! ## Attribute values -/

/-- A value as it is written, with double quotes named too. -/
def escapeValue (c : Char) : List Char :=
  if c = '"' then ['&', 'q', 'u', 'o', 't', ';'] else escape c

theorem valueWithin_named (word : List Char) {fuel : Nat} (hword : Reference.ofWord word = [c])
    (hread : Reference.inValue (word ++ rest) = .ok (some (Reference.ofWord word, rest))) :
    Reference.valueWithin (fuel + 1) ('&' :: word ++ rest) =
      (c :: ·) <$> Reference.valueWithin fuel rest := by
  rw [List.cons_append, Reference.valueWithin, if_pos rfl, hread, hword]
  rfl

theorem length_escapeValue_pos (c : Char) : 0 < (escapeValue c).length := by
  simp only [escapeValue, escape]
  split_ifs <;> simp

/-- The first character of a value, written out, takes one step. -/
theorem valueWithin_escapeValue (c : Char) (fuel : Nat) (rest : List Char) :
    Reference.valueWithin (fuel + 1) (escapeValue c ++ rest) =
      (c :: ·) <$> Reference.valueWithin fuel rest := by
  rw [escapeValue, escape]
  split
  · subst ‹c = '"'›
    exact valueWithin_named ['q', 'u', 'o', 't', ';'] (by decide) rfl
  split
  · subst ‹c = '&'›
    exact valueWithin_named ['a', 'm', 'p', ';'] (by decide) rfl
  split
  · subst ‹c = '<'›
    exact valueWithin_named ['l', 't', ';'] (by decide) rfl
  split
  · subst ‹c = '>'›
    exact valueWithin_named ['g', 't', ';'] (by decide) rfl
  · rw [List.singleton_append, Reference.valueWithin, if_neg ‹c ≠ '&'›]
    rfl

theorem value_escapeValue (s : List Char) : Reference.value (s.flatMap escapeValue) = .ok s := by
  have hwithin (fuel : Nat) (h : (s.flatMap escapeValue).length ≤ fuel) :
      Reference.valueWithin fuel (s.flatMap escapeValue) = .ok s := by
    induction s generalizing fuel with
    | nil => cases fuel <;> rfl
    | cons c s ih =>
      rw [List.flatMap_cons, List.length_append] at h
      have hpos := length_escapeValue_pos c
      obtain ⟨fuel, rfl⟩ : ∃ k, fuel = k + 1 := ⟨fuel - 1, by omega⟩
      rw [List.flatMap_cons, valueWithin_escapeValue, ih fuel (by omega)]
      rfl
  exact hwithin _ le_rfl

theorem ne_quote_of_mem_escapeValue {d : Char} (h : d ∈ escapeValue c) : d ≠ '"' := by
  rintro rfl
  simp only [escapeValue, escape] at h
  split_ifs at h with hquote
  all_goals simp at h
  exact hquote h.symm

/-! ## Start tags -/

def writeAttr (a : String × String) : List Char :=
  ' ' :: a.1.toList ++ '=' :: '"' :: a.2.toList.flatMap escapeValue ++ ['"']

def writeStart (tag : String) (attrs : List (String × String)) : List Char :=
  '<' :: tag.toList ++ attrs.flatMap writeAttr ++ ['>']

/-- The keys of attributes are names, and none comes twice. -/
@[mk_iff] structure ProperAttrs (attrs : List (String × String)) : Prop where
  keys : ∀ a ∈ attrs, isKeyName a.1.toList = true
  nodup : (attrs.map Prod.fst).Nodup

instance : DecidablePred ProperAttrs := fun attrs ↦
  decidable_of_iff _ (properAttrs_iff attrs).symm

namespace StartTag

variable {attrs : List (String × String)} {b : Bool}

/-- An attribute as it stands in a tag, its references not yet replaced. -/
def rawAttr (a : String × String) : List Char × List Char :=
  (a.1.toList, a.2.toList.flatMap escapeValue)

theorem startsGap_of_inName (h : InName c) (s : List Char) : startsGap (c :: s) = false := by
  simp [startsGap, h.blank, h.slash]

theorem afterGap_blank (hc : InName c) (s : List Char) :
    Place.afterGap ⟨b, ' ' :: c :: s⟩ = ⟨true, c :: s⟩ := by
  have hblank : startsGap (' ' :: c :: s) = true := rfl
  simp only [Place.afterGap, hblank, Bool.or_true, dropGap, if_true,
    startsGap_of_inName hc s, Bool.false_eq_true, if_false]

theorem value?_quoted {v : List Char} (hv : ∀ c ∈ v, (c != '"') = true) (rest : List Char) :
    value? ('=' :: '"' :: (v ++ '"' :: rest)) = some (v, ⟨true, rest⟩) := by
  have hclose : ∀ c ∈ ('"' :: rest).head?, (c != '"') = false := by rintro _ ⟨⟩; rfl
  have hafter : afterSigns? 1 ('"' :: (v ++ '"' :: rest)) = some (v, ⟨true, rest⟩) := by
    have hquote : ('"' :: (v ++ '"' :: rest)).dropWhile isBlank = '"' :: (v ++ '"' :: rest) := rfl
    simp only [afterSigns?, hquote, takeWhile_run hv hclose, dropWhile_run hv hclose]
    rfl
  exact hafter

/-- The blank before an attribute is a gap, and the attribute is read up to its second quote. -/
theorem attribute?_written {a : String × String} (ha : isKeyName a.1.toList = true)
    (rest : List Char) : attribute? (Place.afterGap ⟨b, writeAttr a ++ rest⟩) =
      some (rawAttr a, Place.afterGap ⟨true, rest⟩) := by
  obtain ⟨hne, hkey⟩ := inName_of_isKeyName ha
  obtain ⟨c, s, hcs⟩ := List.exists_cons_of_ne_nil hne
  rw [hcs] at hkey
  obtain ⟨hc, hs⟩ := List.forall_mem_cons.1 hkey
  have hstop : ∀ c ∈ ('=' :: '"' :: (a.2.toList.flatMap escapeValue ++ '"' :: rest)).head?,
      isKeyChar c = false := by rintro _ ⟨⟩; rfl
  have hrun : ∀ c ∈ s, isKeyChar c = true := fun d hd ↦ (hs d hd).keyChar
  have hvalue : ∀ c ∈ a.2.toList.flatMap escapeValue, (c != '"') = true := by
    intro c hc
    obtain ⟨d, -, hd⟩ := List.mem_flatMap.1 hc
    exact bne_iff_ne.2 (ne_quote_of_mem_escapeValue hd)
  have hwritten : writeAttr a ++ rest =
      ' ' :: c :: (s ++ '=' :: '"' :: (a.2.toList.flatMap escapeValue ++ '"' :: rest)) := by
    simp [writeAttr, hcs]
  have hstart : isKeyStart c = true := by rw [isKeyStart, hc.keyChar, Bool.or_true]
  rw [hwritten, afterGap_blank hc]
  simp only [attribute?, Bool.true_and, hstart, if_true, takeWhile_run hrun hstop,
    dropWhile_run hrun hstop, value?_quoted hvalue, Option.getD_some, rawAttr, hcs]

theorem attributes_written (hattrs : ∀ a ∈ attrs, isKeyName a.1.toList = true)
    (rest : List Char) :
    ∃ b', attributes (Place.afterGap ⟨b, attrs.flatMap writeAttr ++ '>' :: rest⟩) =
      (attrs.map rawAttr, ⟨b', '>' :: rest⟩) := by
  induction attrs generalizing b with
  | nil =>
    have hgap : Place.afterGap ⟨b, '>' :: rest⟩ = ⟨b, '>' :: rest⟩ := by
      simp [Place.afterGap, startsGap, dropGap, isBlank]
    have hnone : attribute? ⟨b, '>' :: rest⟩ = none := by
      simp [attribute?, isKeyStart, isKeyChar]
    refine ⟨b, ?_⟩
    rw [List.flatMap_nil, List.nil_append, hgap, attributes]
    split
    · rename_i h
      rw [hnone] at h
      cases h
    · rfl
  | cons a attrs ih =>
    obtain ⟨ha, hattrs⟩ := List.forall_mem_cons.1 hattrs
    have hfirst := attribute?_written (b := b) ha (attrs.flatMap writeAttr ++ '>' :: rest)
    obtain ⟨b', hrest⟩ := ih (b := true) hattrs
    refine ⟨b', ?_⟩
    rw [List.flatMap_cons, List.append_assoc, attributes]
    split
    · rename_i q h
      rw [hfirst] at h
      cases h
      rw [hrest]
      rfl
    · rename_i h
      rw [hfirst] at h
      cases h

theorem written_writeStart {tag : List Char} (ht : isTagName tag = true)
    (hattrs : ∀ a ∈ attrs, isKeyName a.1.toList = true) (rest : List Char) :
    written (tag ++ attrs.flatMap writeAttr ++ '>' :: rest) =
      ⟨tag, attrs.map rawAttr, '>' :: rest⟩ := by
  obtain ⟨-, -, -, -, hname⟩ := exists_of_isTagName ht
  have hrun : ∀ c ∈ tag, isTagChar c = true := fun d hd ↦ (hname d hd).tagChar
  have hstop : ∀ c ∈ (attrs.flatMap writeAttr ++ '>' :: rest).head?, isTagChar c = false := by
    cases attrs with
    | nil => rintro _ ⟨⟩; rfl
    | cons a attrs => rintro _ ⟨⟩; rfl
  rw [written, List.append_assoc, takeWhile_run hrun hstop, dropWhile_run hrun hstop]
  obtain ⟨b', h⟩ := attributes_written (b := tag.getLast?.any fun c ↦ isQuote c || isBlank c)
    hattrs rest
  rw [h]

theorem setAttr_of_not_mem {key value : String} {done : List (String × String)}
    (h : key ∉ done.map Prod.fst) : setAttr key value done = done ++ [(key, value)] := by
  induction done with
  | nil => rfl
  | cons a done ih =>
    rw [List.map_cons, List.mem_cons, not_or] at h
    rw [setAttr, if_neg (Ne.symm h.1), ih h.2, List.cons_append]

theorem readAttrs_rawAttr (done : List (String × String))
    (hkeys : ∀ a ∈ attrs, isKeyName a.1.toList = true)
    (hnodup : ((done ++ attrs).map Prod.fst).Nodup) :
    readAttrs done (attrs.map rawAttr) = .ok (done ++ attrs) := by
  induction attrs generalizing done with
  | nil => rw [List.append_nil]; rfl
  | cons a attrs ih =>
    obtain ⟨ha, hkeys⟩ := List.forall_mem_cons.1 hkeys
    have hlower : String.ofList (lower a.1.toList) = a.1 := by
      rw [lower_of_inName (inName_of_isKeyName ha).2, String.ofList_toList]
    have hnew : a.1 ∉ done.map Prod.fst := by
      rw [List.map_append, List.nodup_append] at hnodup
      intro hmem
      exact hnodup.2.2 _ hmem _ List.mem_cons_self rfl
    rw [List.map_cons, rawAttr, readAttrs, value_escapeValue]
    change readAttrs (setAttr (String.ofList (lower a.1.toList)) (String.ofList a.2.toList) done)
      (attrs.map rawAttr) = _
    rw [hlower, String.ofList_toList, setAttr_of_not_mem hnew, ih _ hkeys (by simpa using hnodup),
      List.append_assoc, List.singleton_append]

end StartTag

theorem reads_start {tag : String} {attrs : List (String × String)}
    (ht : isTagName tag.toList = true) (hraw : Raw.ofTag? tag = none) (ha : ProperAttrs attrs) :
    Reads (writeStart tag attrs) (Nesting.start tag attrs false) := by
  obtain ⟨c, s, hcs, hc, hname⟩ := exists_of_isTagName ht
  have hread (rest : List Char) : angle (tag.toList ++ attrs.flatMap writeAttr ++ ['>'] ++ rest) =
      .ok (some ⟨[.start tag attrs false], none, rest⟩) := by
    have hwritten := StartTag.written_writeStart ht ha.keys rest
    have hlower : String.ofList (lower tag.toList) = tag := by
      rw [lower_of_inName hname, String.ofList_toList]
    have hletter : angle (tag.toList ++ attrs.flatMap writeAttr ++ '>' :: rest) =
        StartTag.read (tag.toList ++ attrs.flatMap writeAttr ++ '>' :: rest) := by
      have hmark {d : Char} (hd : isSmall d = false) : c ≠ d := by
        rintro rfl
        rw [hc] at hd
        cases hd
      rw [hcs, List.cons_append, List.cons_append, angle, if_pos (isAsciiLetter_of_isSmall hc)]
      · exact hmark rfl
      · exact hmark rfl
      · exact hmark rfl
    rw [List.append_assoc, List.singleton_append, hletter, StartTag.read, hwritten]
    simp only [hlower, hraw, StartTag.readAttrs_rawAttr [] ha.keys ha.nodup,
      List.nil_append]
    rfl
  exact (reads_of_angle (by simp) hread).congr fun n ↦ rfl

end InstanceCatalog.Markup
