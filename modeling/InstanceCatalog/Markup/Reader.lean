import InstanceCatalog.Markup.Aside

/-! # Reading markup

The text is read construct by construct.  A first pass stops at a construct that the text does not
finish; a second pass reads on from there and takes such a construct as text. -/

namespace InstanceCatalog.Markup

/-- One step of a pass. -/
inductive Step where
  /-- The pass goes on, inside raw text or not. -/
  | go (tokens : List Token) (raw : Option Raw) (rest : List Char)
  /-- The pass ends before the rest. -/
  | stop (tokens : List Token) (rest : List Char)

namespace Step

def text (cs : List Char) : Token := .text (String.ofList cs)

def ofReading (r : Reading) : Step := .go r.tokens r.raw r.rest

/-- A construct that is not finished as text: up to the first `>` with it, or else before the next
`<`, or else its first character alone. -/
def unfinished (s : List Char) : Step :=
  match s with
  | [] => .stop [] []
  | c :: t =>
    match EndTag.throughClose? t with
    | some (through, rest) => .go [text (c :: through)] none rest
    | none =>
      match t.dropWhile (· != '<') with
      | [] => .go [text [c]] none t
      | rest => .go [text (c :: t.takeWhile (· != '<'))] none rest

/-- The construct that starts with `<`, if the text finishes it. -/
def angle (s : List Char) : Except Failure (Option Reading) :=
  match s with
  | [] => .ok none
  | '/' :: t => .ok (EndTag.read t)
  | '!' :: t => Aside.declaration t
  | '?' :: t => .ok (Aside.upToClose t)
  | c :: _ =>
    if Text.isAsciiLetter c then StartTag.read s else .ok (some ⟨[text ['<']], none, s⟩)

/-- After `<`. -/
def ofAngle (final : Bool) (s : List Char) : Except Failure Step :=
  if s.isEmpty then .ok (.stop [] ['<'])
  else (angle s).map fun
    | some r => ofReading r
    | none => if final then unfinished ('<' :: s) else .stop [] ('<' :: s)

/-- After `&#`. -/
def ofNumber (s : List Char) : Except Failure Step :=
  (Reference.numericInText s).map fun
    | some (c, rest) => .go [text [c]] none rest
    | none => if ';' ∈ s then .stop [text ['&', '#']] s else .stop [] ('&' :: '#' :: s)

/-- After `&`.  At the very end of the text, an ampersand before a single letter is lost. -/
def ofAmpersand (final : Bool) (s : List Char) : Except Failure Step :=
  match s with
  | '#' :: t => ofNumber t
  | _ =>
    match Reference.namedInText s with
    | some (cs, rest) => .ok (.go [text cs] none rest)
    | none =>
      match s with
      | [] => .ok (.stop [] ['&'])
      | c :: t =>
        if Text.isAsciiLetter c then
          .ok (.stop [] (if final && t.isEmpty then s else '&' :: s))
        else .ok (.go [text ['&']] none s)

/-- One step inside raw text. -/
def inRaw (r : Raw) (s : List Char) : Step :=
  match EndTag.splitRaw? r s with
  | none => .stop [] s
  | some ([], '<' :: '/' :: t) =>
    match EndTag.readRaw r t with
    | some reading => ofReading reading
    | none => .stop [] s
  | some ([], _) => .stop [] s
  | some (before, rest) => .go [text before] (some r) rest

def isPlain (c : Char) : Bool := c != '<' && c != '&'

/-- One step outside raw text. -/
def inText (final : Bool) (s : List Char) : Except Failure Step :=
  match s with
  | [] => .ok (.stop [] [])
  | '<' :: t => ofAngle final t
  | '&' :: t => ofAmpersand final t
  | _ => .ok (.go [text (s.takeWhile isPlain)] none (s.dropWhile isPlain))

def next (final : Bool) (raw : Option Raw) (s : List Char) : Except Failure Step :=
  match raw with
  | some r => .ok (inRaw r s)
  | none => inText final s

/-- Whether a step goes on with a shorter text, if it goes on. -/
def Shortens (s : List Char) : Step → Prop
  | .go _ _ rest => rest.length < s.length
  | .stop _ _ => True

theorem shortens_unfinished {s : List Char} : (unfinished s).Shortens s := by
  cases s with
  | nil => trivial
  | cons c t =>
    simp only [unfinished]
    split
    · rename_i through rest h
      have := EndTag.length_rest_of_throughClose? h
      simp only [Shortens, List.length_cons]; omega
    · split
      · simp [Shortens]
      · have := Reference.length_dropWhile_le (· != '<') t
        simp only [Shortens, List.length_cons]; omega

theorem length_rest_of_angle {s : List Char} {r : Reading} (h : angle s = .ok (some r)) :
    r.rest.length ≤ s.length := by
  unfold angle at h
  split at h
  · simp at h
  · have := EndTag.length_rest_of_read (Except.ok.inj h)
    simp only [List.length_cons]; omega
  · have := Aside.length_rest_of_declaration h
    simp only [List.length_cons]; omega
  · have := Aside.length_rest_of_upToClose (Except.ok.inj h)
    simp only [List.length_cons]; omega
  · split at h
    · exact StartTag.length_rest_of_read h
    · simp only [Except.ok.injEq, Option.some.injEq] at h
      simp [← h]

theorem shortens_of_ofAngle {final : Bool} {s : List Char} {p : Step}
    (h : ofAngle final s = .ok p) : p.Shortens ('<' :: s) := by
  unfold ofAngle at h
  split at h
  · simp only [Except.ok.injEq] at h
    rw [← h]; trivial
  · cases ha : angle s with
    | error e => simp [ha, Except.map] at h
    | ok o =>
      simp only [ha, Except.map, Except.ok.injEq] at h
      rw [← h]
      split
      · rename_i r
        have := length_rest_of_angle ha
        simp only [ofReading, Shortens, List.length_cons]; omega
      · split
        · exact shortens_unfinished
        · trivial

theorem shortens_of_ofNumber {s : List Char} {p : Step} (h : ofNumber s = .ok p) :
    p.Shortens ('&' :: '#' :: s) := by
  unfold ofNumber at h
  cases hn : Reference.numericInText s with
  | error e => simp [hn, Except.map] at h
  | ok o =>
    simp only [hn, Except.map, Except.ok.injEq] at h
    rw [← h]
    split
    · have := Reference.length_rest_of_numericInText hn
      simp only [Shortens, List.length_cons]; omega
    · split <;> trivial

theorem shortens_of_ofAmpersand {final : Bool} {s : List Char} {p : Step}
    (h : ofAmpersand final s = .ok p) : p.Shortens ('&' :: s) := by
  unfold ofAmpersand at h
  split at h
  · exact shortens_of_ofNumber h
  · split at h
    · rename_i hn
      have := Reference.length_rest_of_namedInText hn
      simp only [Except.ok.injEq] at h
      rw [← h]
      simp only [Shortens, List.length_cons]; omega
    · split at h
      · simp only [Except.ok.injEq] at h
        rw [← h]; trivial
      · split at h <;> simp only [Except.ok.injEq] at h <;> rw [← h]
        · trivial
        · simp [Shortens]

theorem shortens_inRaw {r : Raw} {s : List Char} : (inRaw r s).Shortens s := by
  unfold inRaw
  split
  · trivial
  · rename_i t h
    have hs := EndTag.append_of_splitRaw? h
    split
    · rename_i reading hr
      have := EndTag.length_rest_of_readRaw hr
      rw [← hs]
      simp only [ofReading, Shortens, List.nil_append, List.length_cons]; omega
    · trivial
  · trivial
  · rename_i before rest hne _ h
    have hs := EndTag.append_of_splitRaw? h
    have hb : before ≠ [] := by
      rintro rfl
      simp_all
    have := List.length_pos_iff.2 hb
    rw [← hs]
    simp only [Shortens, List.length_append]; omega

theorem shortens_of_inText {final : Bool} {s : List Char} {p : Step}
    (h : inText final s = .ok p) : p.Shortens s := by
  unfold inText at h
  split at h
  · simp only [Except.ok.injEq] at h
    rw [← h]; trivial
  · exact shortens_of_ofAngle h
  · exact shortens_of_ofAmpersand h
  · rename_i hne hlt hamp
    simp only [Except.ok.injEq] at h
    rw [← h]
    cases s with
    | nil => exact absurd rfl hne
    | cons c t =>
      have h₁ : c ≠ '<' := fun e ↦ hlt t (by rw [e])
      have h₂ : c ≠ '&' := fun e ↦ hamp t (by rw [e])
      have hc : isPlain c = true := by simp [isPlain, h₁, h₂]
      have := Reference.length_dropWhile_le isPlain t
      simp only [Shortens, List.dropWhile_cons_of_pos hc, List.length_cons]; omega

theorem shortens_of_next {final : Bool} {raw : Option Raw} {s : List Char} {p : Step}
    (h : next final raw s = .ok p) : p.Shortens s := by
  unfold next at h
  split at h
  · simp only [Except.ok.injEq] at h
    rw [← h]; exact shortens_inRaw
  · exact shortens_of_inText h

end Step

/-- What a pass gives: its tokens, where it stops, and in which raw text. -/
structure Pass where
  tokens : List Token
  raw : Option Raw
  rest : List Char

/-- Steps from a place on until one stops. -/
def Pass.run (final : Bool) (raw : Option Raw) (s : List Char) : Except Failure Pass :=
  match h : Step.next final raw s with
  | .error e => .error e
  | .ok (.stop tokens rest) => .ok ⟨tokens, raw, rest⟩
  | .ok (.go tokens raw' rest) =>
    have : rest.length < s.length := Step.shortens_of_next h
    (run final raw' rest).map fun p ↦ ⟨tokens ++ p.tokens, p.raw, p.rest⟩
termination_by s.length

/-- The tokens of a text.  What the second pass leaves is text too, but raw text that never ends is
lost. -/
def tokens (s : List Char) : Except Failure (List Token) := do
  let first ← Pass.run false none s
  let second ← Pass.run true first.raw first.rest
  let left := if second.raw.isSome || second.rest.isEmpty then [] else [Step.text second.rest]
  return first.tokens ++ second.tokens ++ left

end InstanceCatalog.Markup
