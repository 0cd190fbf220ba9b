import InstanceCatalog.Markup.EndTag
import InstanceCatalog.Text.Quoted

/-! # Comments, declarations, instructions and marked sections

None of these leaves anything in the document; what matters is where they end, and that some marked
sections make the whole page unreadable. -/

namespace InstanceCatalog.Markup.Aside

open Text

def hidden (rest : List Char) : Reading := ⟨[.hidden], none, rest⟩

/-- The text after a mark, with blanks allowed between its characters. -/
def dropSpaced? : List Char → List Char → Option (List Char)
  | [], s => some s
  | m :: ms, s =>
    match s.dropWhile isBlank with
    | c :: t => if c = m then dropSpaced? ms t else none
    | [] => none

theorem length_rest_of_dropSpaced? {ms s rest : List Char} (h : dropSpaced? ms s = some rest) :
    rest.length ≤ s.length := by
  induction ms generalizing s with
  | nil =>
    simp only [dropSpaced?, Option.some.injEq] at h
    simp [h]
  | cons m ms ih =>
    have hs := Reference.length_dropWhile_le isBlank s
    simp only [dropSpaced?] at h
    split at h
    · rename_i c t hc
      rw [hc, List.length_cons] at hs
      simp only [Option.ite_none_right_eq_some] at h
      have := ih h.2; omega
    · simp at h

/-- The text after the first place where `first` is followed by the other marks. -/
def afterMarks? (first : List Char) (marks : List Char) : List Char → Option (List Char)
  | [] => none
  | c :: s =>
    if first.isPrefixOf (c :: s) then
      match dropSpaced? marks ((c :: s).drop first.length) with
      | some rest => some rest
      | none => afterMarks? first marks s
    else afterMarks? first marks s

theorem length_rest_of_afterMarks? {first marks s rest : List Char}
    (h : afterMarks? first marks s = some rest) : rest.length ≤ s.length := by
  induction s with
  | nil => simp [afterMarks?] at h
  | cons c s ih =>
    simp only [afterMarks?] at h
    have step (h : afterMarks? first marks s = some rest) : rest.length ≤ (c :: s).length := by
      have := ih h
      simp only [List.length_cons]; omega
    split at h
    · split at h
      · rename_i hd
        simp only [Option.some.injEq] at h
        have := length_rest_of_dropSpaced? hd
        rw [List.length_drop] at this
        rw [← h]; omega
      · exact step h
    · exact step h

/-- A comment, after `<!--`. -/
def comment (s : List Char) : Option Reading := (afterMarks? ['-', '-'] ['>'] s).map hidden

theorem length_rest_of_comment {s : List Char} {r : Reading} (h : comment s = some r) :
    r.rest.length ≤ s.length := by
  obtain ⟨rest, hr, rfl⟩ := Option.map_eq_some_iff.1 h
  exact length_rest_of_afterMarks? hr

/-- An instruction or an odd declaration, up to the first `>`. -/
def upToClose (s : List Char) : Option Reading :=
  (EndTag.throughClose? s).map fun (_, rest) ↦ hidden rest

theorem length_rest_of_upToClose {s : List Char} {r : Reading} (h : upToClose s = some r) :
    r.rest.length < s.length := by
  obtain ⟨⟨a, rest⟩, hr, rfl⟩ := Option.map_eq_some_iff.1 h
  exact EndTag.length_rest_of_throughClose? hr

def rejection (problem : String) : Failure :=
  .declared (.rejectedMarkup ("The markup you provided was rejected by the parser. Trying a " ++
    "different parser or a different encoding may help.\n\nOriginal exception(s) from parser:\n " ++
    "AssertionError: " ++ problem))

def isSectionChar (c : Char) : Bool := Reference.isNameChar c || c == '_'

/-- A marked section, after `<![`. -/
def markedSection (s : List Char) : Except Failure (Option Reading) :=
  match s with
  | [] => .ok none
  | c :: t =>
    if Text.isAsciiLetter c then
      let name := c :: t.takeWhile isSectionChar
      let blanks := (t.dropWhile isSectionChar).takeWhile isBlank
      if name.length + blanks.length = s.length then .ok none
      else
        let word := String.ofList (lower name)
        if ["temp", "cdata", "ignore", "include", "rcdata"].contains word then
          .ok ((afterMarks? [']'] [']', '>'] s).map hidden)
        else if ["if", "else", "endif"].contains word then
          .ok ((afterMarks? [']'] ['>'] s).map hidden)
        else .error (rejection ("unknown status keyword " ++
          quoted (String.ofList (name ++ blanks)) ++ " in marked section"))
    else .error (rejection ("expected name token at " ++
      quoted (String.ofList (('<' :: '!' :: '[' :: s).take 20))))

theorem length_rest_of_markedSection {s : List Char} {r : Reading}
    (h : markedSection s = .ok (some r)) : r.rest.length ≤ s.length := by
  have key {first marks : List Char} (h : (afterMarks? first marks s).map hidden = some r) :
      r.rest.length ≤ s.length := by
    obtain ⟨rest, hr, rfl⟩ := Option.map_eq_some_iff.1 h
    exact length_rest_of_afterMarks? hr
  unfold markedSection at h
  split at h
  · simp at h
  · dsimp only at h
    split at h
    · split at h
      · simp at h
      · split at h
        · exact key (Except.ok.inj h)
        · split at h
          · exact key (Except.ok.inj h)
          · simp at h
    · simp at h

/-- A declaration, after `<!`. -/
def declaration (s : List Char) : Except Failure (Option Reading) :=
  match s with
  | '-' :: '-' :: t => .ok (comment t)
  | '[' :: t => markedSection t
  | _ =>
    if (s.take 7).map Char.toLower = "doctype".toList then .ok (upToClose (s.drop 7))
    else .ok (upToClose s)

theorem length_rest_of_declaration {s : List Char} {r : Reading}
    (h : declaration s = .ok (some r)) : r.rest.length ≤ s.length := by
  unfold declaration at h
  split at h
  · have := length_rest_of_comment (Except.ok.inj h)
    simp only [List.length_cons]; omega
  · have := length_rest_of_markedSection h
    simp only [List.length_cons]; omega
  · split at h
    · have := length_rest_of_upToClose (Except.ok.inj h)
      rw [List.length_drop] at this; omega
    · exact Nat.le_of_lt (length_rest_of_upToClose (Except.ok.inj h))

end InstanceCatalog.Markup.Aside
