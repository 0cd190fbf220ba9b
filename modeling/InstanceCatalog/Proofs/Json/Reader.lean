import InstanceCatalog.Proofs.Json.Token

/-! # Reading JSON

A reader for the texts of the grammar.  It takes what it is given character by character, and every
choice is made on the next one.  It gives a value for the texts of the grammar and for no others, so
a text stands for one value at most. -/

namespace InstanceCatalog.JsonValue

open Text

variable {s t rest : List Char} {c : Char} {n : Nat}

/-! ## Values -/

section Read

variable {α : Type}

/-- What is read with space before and after it. -/
def readSpaced (read : List Char → Option (α × List Char)) (s : List Char) :
    Option (α × List Char) := do
  let (x, s) ← read (s.dropWhile isSpace)
  return (x, s.dropWhile isSpace)

/-- One or more entries, a comma between two of them, and a closing mark. -/
def readEntries (read : List Char → Option (α × List Char)) (close : Char) :
    Nat → List Char → Option (List α × List Char)
  | 0, _ => none
  | fuel + 1, s => do
    let (x, s) ← read s
    match s with
    | [] => none
    | c :: s =>
      if c = close then some ([x], s)
      else if c = ',' then do
        let (xs, s) ← readEntries read close fuel s
        return (x :: xs, s)
      else none

/-- Entries up to a closing mark, or space alone. -/
def readBracket (read : List Char → Option (α × List Char)) (close : Char) (s : List Char) :
    Option (List α × List Char) :=
  match s.dropWhile isSpace with
  | [] => none
  | c :: rest => if c = close then some ([], rest) else readEntries read close s.length s

/-- A string, a colon and what is read after it. -/
def readMember (read : List Char → Option (α × List Char)) (s : List Char) :
    Option ((String × α) × List Char) :=
  match s.dropWhile isSpace with
  | '"' :: s => do
    let (k, s) ← readChars s.length s
    match s.dropWhile isSpace with
    | ':' :: s => do
      let (x, s) ← readSpaced read s
      return ((String.ofList k, x), s)
    | _ => none
  | _ => none

end Read

def readValue : Nat → List Char → Option (JsonValue × List Char)
  | 0, _ => none
  | _, [] => none
  | fuel + 1, c :: s =>
    if c = '"' then do
      let (cs, s) ← readChars s.length s
      return (string (String.ofList cs), s)
    else if c = '[' then do
      let (vs, s) ← readBracket (readSpaced (readValue fuel)) ']' s
      return (array vs, s)
    else if c = '\x7b' then do
      let (ms, s) ← readBracket (readMember (readValue fuel)) '\x7d' s
      return (object ms, s)
    else do
      let v ← ofWord? ((c :: s).takeWhile inWord)
      return (v, (c :: s).dropWhile inWord)

/-- The value that a whole text stands for. -/
def ofText? (s : String) : Option JsonValue :=
  match readSpaced (readValue s.length) s.toList with
  | some (v, []) => some v
  | _ => none

/-! ## What is read is what the text stands for -/

section Sound

variable {α : Type} {read : List Char → Option (α × List Char)} {close : Char} {fuel : Nat}

/-- What a reader takes stands for what it gives. -/
def Sound (read : List Char → Option (α × List Char)) (P : List Char → α → Prop) : Prop :=
  ∀ s x rest, read s = some (x, rest) → ∃ t, P t x ∧ s = t ++ rest

variable {P : List Char → α → Prop} {Q : List Char → List α → Prop}

theorem exists_of_dropWhile_isSpace (h : s.dropWhile isSpace = rest) :
    ∃ a, a.all isSpace = true ∧ s = a ++ rest :=
  ⟨s.takeWhile isSpace, List.all_takeWhile, by rw [← h, List.takeWhile_append_dropWhile]⟩

/-- A sequence of entries stands for the list of what they stand for. -/
structure Sequence (P : List Char → α → Prop) (Q : List Char → List α → Prop) : Prop where
  last : ∀ {t x}, P t x → Q t [x]
  cons : ∀ {t u x xs}, P t x → Q u xs → Q (t ++ ',' :: u) (x :: xs)

theorem sequence_items : Sequence (fun t v ↦ Denotes t (.element v)) fun t vs ↦
    Denotes t (.items vs) := ⟨.item, .items⟩

theorem sequence_members : Sequence (fun t m ↦ Denotes t (.member m)) fun t ms ↦
    Denotes t (.members ms) := ⟨.lastMember, .members⟩

theorem of_readEntries (hread : Sound read P) (hseq : Sequence P Q) {xs : List α}
    (h : readEntries read close fuel s = some (xs, rest)) :
    ∃ t, Q t xs ∧ s = t ++ close :: rest := by
  induction fuel generalizing s xs with
  | zero => cases h
  | succ fuel ih =>
    obtain ⟨⟨x, s'⟩, hfirst, hafter⟩ := Option.bind_eq_some_iff.1 h
    obtain ⟨t, ht, rfl⟩ := hread _ _ _ hfirst
    dsimp only at hafter
    split at hafter
    · cases hafter
    split at hafter
    · cases hafter
      subst ‹_ = close›
      exact ⟨t, hseq.last ht, rfl⟩
    split at hafter
    · subst ‹_ = ','›
      obtain ⟨⟨xs', s''⟩, hrest, hafter⟩ := Option.bind_eq_some_iff.1 hafter
      cases hafter
      obtain ⟨u, hu, rfl⟩ := ih hrest
      refine ⟨t ++ ',' :: u, hseq.cons ht hu, ?_⟩
      rw [List.append_assoc, List.cons_append]
    · cases hafter

theorem of_readBracket (hread : Sound read P) (hseq : Sequence P Q) {xs : List α}
    (h : readBracket read close s = some (xs, rest)) :
    ∃ t, (xs = [] ∧ t.all isSpace = true ∨ Q t xs) ∧ s = t ++ close :: rest := by
  rw [readBracket] at h
  split at h
  · cases h
  · rename_i hdrop
    split at h
    · cases h
      subst ‹_ = close›
      obtain ⟨w, hw, rfl⟩ := exists_of_dropWhile_isSpace hdrop
      exact ⟨w, .inl ⟨rfl, hw⟩, rfl⟩
    · obtain ⟨t, ht, rfl⟩ := of_readEntries hread hseq h
      exact ⟨t, .inr ht, rfl⟩

variable {read : List Char → Option (JsonValue × List Char)}

theorem sound_readSpaced (hread : Sound read fun t v ↦ Denotes t (.value v)) :
    Sound (readSpaced read) fun t v ↦ Denotes t (.element v) := by
  intro s v rest h
  obtain ⟨⟨v', s'⟩, hvalue, h⟩ := Option.bind_eq_some_iff.1 h
  cases h
  obtain ⟨t, ht, hdrop⟩ := hread _ _ _ hvalue
  obtain ⟨a, ha, rfl⟩ := exists_of_dropWhile_isSpace hdrop
  obtain ⟨b, hb, heq⟩ := exists_of_dropWhile_isSpace (s := s') rfl
  refine ⟨a ++ t ++ b, .element ha ht hb, ?_⟩
  rw [List.append_assoc (a ++ t), ← heq, List.append_assoc]

theorem sound_readMember (hread : Sound read fun t v ↦ Denotes t (.value v)) :
    Sound (readMember read) fun t m ↦ Denotes t (.member m) := by
  intro s m rest h
  rw [readMember.eq_def] at h
  split at h
  · rename_i hquote
    obtain ⟨a, ha, rfl⟩ := exists_of_dropWhile_isSpace hquote
    obtain ⟨⟨k, s'⟩, hchars, hafter⟩ := Option.bind_eq_some_iff.1 h
    obtain ⟨t, ht, rfl⟩ := denotesChars_of_readChars hchars
    dsimp only at hafter
    split at hafter
    · rename_i hcolon
      obtain ⟨b, hb, rfl⟩ := exists_of_dropWhile_isSpace hcolon
      obtain ⟨⟨v, s''⟩, hvalue, hafter⟩ := Option.bind_eq_some_iff.1 hafter
      cases hafter
      obtain ⟨u, hu, rfl⟩ := sound_readSpaced hread _ _ _ hvalue
      exact ⟨_, .member ha ht hb hu, by simp⟩
    · cases hafter
  · cases h

/-- Whatever is read as a value is a text of it. -/
theorem sound_readValue (fuel : Nat) :
    Sound (readValue fuel) fun t v ↦ Denotes t (.value v) := by
  induction fuel with
  | zero =>
    intro s v rest h
    cases h
  | succ fuel ih =>
    intro s v rest h
    cases s with
    | nil => cases h
    | cons c s =>
      rw [readValue] at h
      split at h
      · subst ‹c = '"'›
        obtain ⟨⟨cs, s'⟩, hchars, h⟩ := Option.bind_eq_some_iff.1 h
        cases h
        obtain ⟨t, ht, rfl⟩ := denotesChars_of_readChars hchars
        exact ⟨_, .string ht, by simp⟩
      split at h
      · subst ‹c = '['›
        obtain ⟨⟨vs, s'⟩, hitems, h⟩ := Option.bind_eq_some_iff.1 h
        cases h
        obtain ⟨t, ⟨rfl, ht⟩ | ht, rfl⟩ :=
          of_readBracket (sound_readSpaced ih) sequence_items hitems
        · exact ⟨_, .emptyArray ht, by simp⟩
        · exact ⟨_, .array ht, by simp⟩
      split at h
      · subst ‹c = '\x7b'›
        obtain ⟨⟨ms, s'⟩, hmembers, h⟩ := Option.bind_eq_some_iff.1 h
        cases h
        obtain ⟨t, ⟨rfl, ht⟩ | ht, rfl⟩ :=
          of_readBracket (sound_readMember ih) sequence_members hmembers
        · exact ⟨_, .emptyObject ht, by simp⟩
        · exact ⟨_, .object ht, by simp⟩
      · obtain ⟨v', hword, h⟩ := Option.bind_eq_some_iff.1 h
        cases h
        exact ⟨_, denotes_of_ofWord? hword, List.takeWhile_append_dropWhile.symm⟩

end Sound

/-! ## Every text is read -/

section Complete

/-- Neither space nor a word goes on here. -/
def Ended (rest : List Char) : Prop := ∀ c ∈ rest.head?, isSpace c = false ∧ inWord c = false

theorem ended_cons (hspace : isSpace c = false) (hword : inWord c = false) : Ended (c :: rest) := by
  rintro _ ⟨⟩
  exact ⟨hspace, hword⟩

theorem dropWhile_isSpace {a : List Char} (ha : a.all isSpace = true)
    (hs : ∀ c ∈ s.head?, isSpace c = false) : (a ++ s).dropWhile isSpace = s :=
  dropWhile_run (List.all_eq_true.1 ha) hs

theorem dropWhile_isSpace_cons {a : List Char} (ha : a.all isSpace = true)
    (hc : isSpace c = false) (s : List Char) : (a ++ c :: s).dropWhile isSpace = c :: s := by
  refine dropWhile_isSpace ha ?_
  rintro _ ⟨⟩
  exact hc

/-- No word goes on where only space comes before its end. -/
theorem head?_inWord {b : List Char} (hb : b.all isSpace = true) (hrest : Ended rest) :
    ∀ c ∈ (b ++ rest).head?, inWord c = false := by
  cases b with
  | nil => exact fun c hc ↦ (hrest c hc).2
  | cons d b =>
    rw [List.all_cons, Bool.and_eq_true] at hb
    rintro _ ⟨⟩
    exact inWord_of_isSpace hb.1

/-- After space comes a character that closes nothing. -/
def Starts (s : List Char) : Prop :=
  ∃ a c, a.all isSpace = true ∧ isSpace c = false ∧ c ≠ ']' ∧ c ≠ '\x7d' ∧ a ++ [c] <+: s

theorem Starts.append (h : Starts s) (rest : List Char) : Starts (s ++ rest) := by
  obtain ⟨a, c, ha, hspace, hbracket, hbrace, hstart⟩ := h
  exact ⟨a, c, ha, hspace, hbracket, hbrace, hstart.trans (List.prefix_append s rest)⟩

theorem exists_cons_of_value {v : JsonValue} (h : Denotes t (.value v)) :
    ∃ c u, t = c :: u ∧ isSpace c = false ∧ c ≠ ']' ∧ c ≠ '\x7d' := by
  cases h with
  | null => exact ⟨_, _, rfl, by decide⟩
  | bool b =>
    cases b with
    | false => exact ⟨_, _, rfl, by decide⟩
    | true => exact ⟨_, _, rfl, by decide⟩
  | number h =>
    obtain ⟨c, u, rfl⟩ := List.exists_cons_of_ne_nil (ne_nil_of_isNumber h)
    have hword : inWord c = true :=
      List.all_eq_true.1 (inWord_of_isNumber h) c List.mem_cons_self
    refine ⟨c, u, rfl, ?_, ne_of_inWord hword rfl, ne_of_inWord hword rfl⟩
    rw [← Bool.not_eq_true]
    intro hspace
    rw [inWord_of_isSpace hspace] at hword
    cases hword
  | string => exact ⟨_, _, rfl, by decide⟩
  | emptyArray => exact ⟨_, _, rfl, by decide⟩
  | array => exact ⟨_, _, rfl, by decide⟩
  | emptyObject => exact ⟨_, _, rfl, by decide⟩
  | object => exact ⟨_, _, rfl, by decide⟩

theorem starts_of_element {v : JsonValue} (h : Denotes t (.element v)) : Starts t := by
  cases h with
  | element ha ht =>
    obtain ⟨c, u, rfl, hspace, hbracket, hbrace⟩ := exists_cons_of_value ht
    exact ⟨_, c, ha, hspace, hbracket, hbrace, by simp⟩

theorem starts_of_items {vs : List JsonValue} (h : Denotes t (.items vs)) : Starts t := by
  cases h with
  | item h => exact starts_of_element h
  | items h => exact (starts_of_element h).append _

theorem starts_of_member {m : String × JsonValue} (h : Denotes t (.member m)) : Starts t := by
  cases h with
  | member ha => exact ⟨_, '"', ha, rfl, by decide, by decide, by simp⟩

theorem starts_of_members {ms : List (String × JsonValue)} (h : Denotes t (.members ms)) :
    Starts t := by
  cases h with
  | lastMember h => exact starts_of_member h
  | members h => exact (starts_of_member h).append _

variable {α : Type} {read : List Char → Option (α × List Char)} {close : Char} {x : α}

theorem readEntries_last (hread : read (t ++ close :: rest) = some (x, close :: rest)) :
    readEntries read close (n + 1) (t ++ close :: rest) = some ([x], rest) := by
  simp only [readEntries, hread, Option.bind_eq_bind, Option.bind_some, if_true]

theorem readEntries_cons {xs : List α} (hclose : close ≠ ',')
    (hread : read (t ++ ',' :: s) = some (x, ',' :: s))
    (hrest : readEntries read close n s = some (xs, rest)) :
    readEntries read close (n + 1) (t ++ ',' :: s) = some (x :: xs, rest) := by
  simp only [readEntries, hread, Option.bind_eq_bind, Option.bind_some, if_neg hclose.symm, hrest,
    if_true]
  rfl

theorem readBracket_empty {w : List Char} (hw : w.all isSpace = true)
    (hclose : isSpace close = false) :
    readBracket read close (w ++ close :: rest) = some ([], rest) := by
  have hdrop : (w ++ close :: rest).dropWhile isSpace = close :: rest :=
    dropWhile_isSpace_cons hw hclose rest
  simp only [readBracket, hdrop, if_true]

theorem readBracket_of_starts (h : Starts s) (hclose : close = ']' ∨ close = '\x7d') :
    readBracket read close s = readEntries read close s.length s := by
  obtain ⟨a, c, ha, hspace, hbracket, hbrace, u, rfl⟩ := h
  have hdrop : (a ++ [c] ++ u).dropWhile isSpace = c :: u := by
    rw [List.append_assoc]
    exact dropWhile_isSpace_cons ha hspace u
  have hne : c ≠ close := by
    obtain rfl | rfl := hclose
    · exact hbracket
    · exact hbrace
  simp only [readBracket, hdrop, if_neg hne]

/-- A piece of a text is read as what it stands for, whatever comes after it that does not go on
with it. -/
def IsRead (t : List Char) : Meaning → Prop
  | .value v => ∀ fuel rest, t.length ≤ fuel → (∀ c ∈ rest.head?, inWord c = false) →
    readValue fuel (t ++ rest) = some (v, rest)
  | .element v => ∀ fuel rest, t.length ≤ fuel → Ended rest →
    readSpaced (readValue fuel) (t ++ rest) = some (v, rest)
  | .items vs => ∀ fuel n rest, t.length ≤ fuel → t.length < n →
    readEntries (readSpaced (readValue fuel)) ']' n (t ++ ']' :: rest) = some (vs, rest)
  | .member m => ∀ fuel rest, t.length ≤ fuel → Ended rest →
    readMember (readValue fuel) (t ++ rest) = some (m, rest)
  | .members ms => ∀ fuel n rest, t.length ≤ fuel → t.length < n →
    readEntries (readMember (readValue fuel)) '\x7d' n (t ++ '\x7d' :: rest) = some (ms, rest)

theorem isRead_word {w : List Char} {v : JsonValue} (hw : w.all inWord = true) (hne : w ≠ [])
    (hv : ofWord? w = some v) : IsRead w (.value v) := by
  intro fuel rest hfuel hrest
  obtain ⟨c, u, rfl⟩ := List.exists_cons_of_ne_nil hne
  obtain ⟨fuel, rfl⟩ : ∃ k, fuel = k + 1 := ⟨fuel - 1, by simp at hfuel; omega⟩
  have hall := List.all_eq_true.1 hw
  have hc : inWord c = true := hall c List.mem_cons_self
  rw [List.cons_append, readValue, if_neg (ne_of_inWord hc rfl), if_neg (ne_of_inWord hc rfl),
    if_neg (ne_of_inWord hc rfl), ← List.cons_append, takeWhile_run hall hrest,
    dropWhile_run hall hrest, hv]
  rfl

theorem isRead_string {cs : List Char} (h : DenotesChars t cs) :
    IsRead ('"' :: t ++ ['"']) (.value (string (String.ofList cs))) := by
  intro fuel rest hfuel _
  simp only [List.length_append, List.length_cons, List.length_nil] at hfuel
  obtain ⟨fuel, rfl⟩ : ∃ k, fuel = k + 1 := ⟨fuel - 1, by omega⟩
  have hchars : readChars (t ++ '"' :: rest).length (t ++ '"' :: rest) = some (cs, rest) :=
    readChars_append h (by simp) rest
  rw [List.append_assoc, List.cons_append, List.cons_append, List.nil_append, readValue,
    if_pos rfl, hchars]
  rfl

/-- An array is read as what its brackets hold. -/
theorem isRead_array {vs : List JsonValue} (h : ∀ fuel rest, t.length ≤ fuel →
    readBracket (readSpaced (readValue fuel)) ']' (t ++ ']' :: rest) = some (vs, rest)) :
    IsRead ('[' :: t ++ [']']) (.value (array vs)) := by
  intro fuel rest hfuel _
  simp only [List.length_append, List.length_cons, List.length_nil] at hfuel
  obtain ⟨fuel, rfl⟩ : ∃ k, fuel = k + 1 := ⟨fuel - 1, by omega⟩
  rw [List.append_assoc, List.cons_append, List.cons_append, List.nil_append, readValue,
    if_neg (by decide), if_pos rfl, h fuel rest (by omega)]
  rfl

theorem isRead_object {ms : List (String × JsonValue)} (h : ∀ fuel rest, t.length ≤ fuel →
    readBracket (readMember (readValue fuel)) '\x7d' (t ++ '\x7d' :: rest) = some (ms, rest)) :
    IsRead ('\x7b' :: t ++ ['\x7d']) (.value (object ms)) := by
  intro fuel rest hfuel _
  simp only [List.length_append, List.length_cons, List.length_nil] at hfuel
  obtain ⟨fuel, rfl⟩ : ∃ k, fuel = k + 1 := ⟨fuel - 1, by omega⟩
  rw [List.append_assoc, List.cons_append, List.cons_append, List.nil_append, readValue,
    if_neg (by decide), if_neg (by decide), if_pos rfl, h fuel rest (by omega)]
  rfl

theorem isRead_element {a b : List Char} {v : JsonValue} (ha : a.all isSpace = true)
    (ht : Denotes t (.value v)) (hread : IsRead t (.value v)) (hb : b.all isSpace = true) :
    IsRead (a ++ t ++ b) (.element v) := by
  intro fuel rest hfuel hrest
  obtain ⟨c, u, rfl, hspace, -⟩ := exists_cons_of_value ht
  rw [List.length_append, List.length_append] at hfuel
  have hdrop : (a ++ (c :: u ++ (b ++ rest))).dropWhile isSpace = c :: u ++ (b ++ rest) :=
    dropWhile_isSpace_cons ha hspace _
  have hvalue := hread fuel (b ++ rest) (by omega) (head?_inWord hb hrest)
  rw [List.append_assoc, List.append_assoc, readSpaced, hdrop, hvalue]
  show some (v, (b ++ rest).dropWhile isSpace) = _
  rw [dropWhile_isSpace hb fun c hc ↦ (hrest c hc).1]

theorem isRead_member {a k b cs : List Char} {v : JsonValue} (ha : a.all isSpace = true)
    (hk : DenotesChars k cs) (hb : b.all isSpace = true) (hread : IsRead t (.element v)) :
    IsRead (a ++ '"' :: k ++ '"' :: b ++ ':' :: t) (.member (String.ofList cs, v)) := by
  intro fuel rest hfuel hrest
  simp only [List.length_append, List.length_cons] at hfuel
  have hvalue := hread fuel rest (by omega) hrest
  have hcolon : (b ++ ':' :: (t ++ rest)).dropWhile isSpace = ':' :: (t ++ rest) :=
    dropWhile_isSpace_cons hb rfl _
  have hquote : (a ++ '"' :: (k ++ '"' :: (b ++ ':' :: (t ++ rest)))).dropWhile isSpace =
      '"' :: (k ++ '"' :: (b ++ ':' :: (t ++ rest))) :=
    dropWhile_isSpace_cons ha rfl _
  have hchars : readChars (k ++ '"' :: (b ++ ':' :: (t ++ rest))).length
      (k ++ '"' :: (b ++ ':' :: (t ++ rest))) = some (cs, b ++ ':' :: (t ++ rest)) :=
    readChars_append hk (by simp) _
  simp only [List.append_assoc, List.cons_append, readMember, hquote, hchars, hcolon, hvalue,
    Option.bind_eq_bind, Option.bind_some]
  rfl

theorem isRead_of_denotes {m : Meaning} (h : Denotes t m) : IsRead t m := by
  induction h with
  | null => exact isRead_word (by decide) (by decide) rfl
  | bool b =>
    cases b with
    | false => exact isRead_word (by decide) (by decide) rfl
    | true => exact isRead_word (by decide) (by decide) rfl
  | number h =>
    exact isRead_word (inWord_of_isNumber h) (ne_nil_of_isNumber h) (ofWord?_of_isNumber h)
  | string h => exact isRead_string h
  | emptyArray hw => exact isRead_array fun _ _ _ ↦ readBracket_empty hw rfl
  | array h ih =>
    refine isRead_array fun fuel rest hfuel ↦ ?_
    rw [readBracket_of_starts ((starts_of_items h).append _) (.inl rfl)]
    exact ih fuel _ rest hfuel (by simp)
  | emptyObject hw => exact isRead_object fun _ _ _ ↦ readBracket_empty hw rfl
  | object h ih =>
    refine isRead_object fun fuel rest hfuel ↦ ?_
    rw [readBracket_of_starts ((starts_of_members h).append _) (.inr rfl)]
    exact ih fuel _ rest hfuel (by simp)
  | element ha ht hb ih => exact isRead_element ha ht ih hb
  | item _ ih =>
    intro fuel n rest hfuel hn
    obtain ⟨n, rfl⟩ : ∃ k, n = k + 1 := ⟨n - 1, by omega⟩
    exact readEntries_last (ih fuel _ hfuel (ended_cons rfl rfl))
  | items _ _ ihfirst ihrest =>
    intro fuel n rest hfuel hn
    rw [List.length_append, List.length_cons] at hfuel hn
    obtain ⟨n, rfl⟩ : ∃ k, n = k + 1 := ⟨n - 1, by omega⟩
    rw [List.append_assoc, List.cons_append]
    exact readEntries_cons (by decide) (ihfirst fuel _ (by omega) (ended_cons rfl rfl))
      (ihrest fuel n rest (by omega) (by omega))
  | member ha hk hb _ ih => exact isRead_member ha hk hb ih
  | lastMember _ ih =>
    intro fuel n rest hfuel hn
    obtain ⟨n, rfl⟩ : ∃ k, n = k + 1 := ⟨n - 1, by omega⟩
    exact readEntries_last (ih fuel _ hfuel (ended_cons rfl rfl))
  | members _ _ ihfirst ihrest =>
    intro fuel n rest hfuel hn
    rw [List.length_append, List.length_cons] at hfuel hn
    obtain ⟨n, rfl⟩ : ∃ k, n = k + 1 := ⟨n - 1, by omega⟩
    rw [List.append_assoc, List.cons_append]
    exact readEntries_cons (by decide) (ihfirst fuel _ (by omega) (ended_cons rfl rfl))
      (ihrest fuel n rest (by omega) (by omega))

end Complete

/-- The reader gives a value for the texts of that value and for no others. -/
theorem ofText?_eq_some_iff {s : String} {v : JsonValue} :
    ofText? s = some v ↔ Denotes s.toList (.element v) := by
  constructor
  · intro h
    rw [ofText?] at h
    split at h
    · rename_i hread
      cases h
      obtain ⟨t, ht, hs⟩ := sound_readSpaced (sound_readValue _) _ _ _ hread
      rwa [hs, List.append_nil]
    · cases h
  · intro h
    have hread := isRead_of_denotes h s.length [] String.length_toList.le (by rintro _ ⟨⟩)
    rw [List.append_nil] at hread
    rw [ofText?, hread]

example : ofText? " [1, \"\\ud83d\\ude00\"]\n" = some (.array [.number "1", .string "😀"]) := by rfl

example : ofText? "[01]" = none := by rfl

end InstanceCatalog.JsonValue
