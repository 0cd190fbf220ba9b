import InstanceCatalog.Markup.Nesting
import InstanceCatalog.Proofs.Markup.Pass
import InstanceCatalog.Proofs.Text.Run
import InstanceCatalog.Proofs.Text.Words

/-! # What written markup is read as

A finished piece of markup changes what is nested so far in one way, whatever comes after it. -/

namespace InstanceCatalog.Markup

open Text Step

/-- In front of any text that is read, `w` is read, and makes the change `f`. -/
def Reads (w : List Char) (f : Nesting → Nesting) : Prop :=
  ∀ rest p, Pass.run false none rest = .ok p → ∃ p', Pass.run false none (w ++ rest) = .ok p' ∧
    p'.raw = p.raw ∧ p'.rest = p.rest ∧
      ∀ n, p'.tokens.foldl Nesting.token n = p.tokens.foldl Nesting.token (f n)

variable {w v : List Char} {f g : Nesting → Nesting} {ts : List Token} {c : Char}

theorem reads_nil : Reads [] id := fun _ p h ↦ ⟨p, h, rfl, rfl, fun _ ↦ rfl⟩

theorem Reads.append (hw : Reads w f) (hv : Reads v g) : Reads (w ++ v) fun n ↦ g (f n) := by
  intro rest p h
  obtain ⟨p₁, hrun₁, hraw₁, hrest₁, hfold₁⟩ := hv rest p h
  obtain ⟨p₂, hrun₂, hraw₂, hrest₂, hfold₂⟩ := hw (v ++ rest) p₁ hrun₁
  refine ⟨p₂, by rw [List.append_assoc, hrun₂], hraw₂.trans hraw₁, hrest₂.trans hrest₁, fun n ↦ ?_⟩
  rw [hfold₂, hfold₁]

theorem Reads.congr (h : Reads w f) (hfg : ∀ n, f n = g n) : Reads w g := by
  rwa [← funext hfg]

/-- Markup that a step takes as a whole. -/
theorem reads_of_next (h : ∀ rest, next false none (w ++ rest) = .ok (.go ts none rest)) :
    Reads w fun n ↦ ts.foldl Nesting.token n := by
  intro rest p hp
  refine ⟨⟨ts ++ p.tokens, p.raw, p.rest⟩, ?_, rfl, rfl, fun n ↦ List.foldl_append ..⟩
  rw [Pass.run_of_go (h rest), hp]
  rfl

theorem reads_of_angle (hw : w ≠ [])
    (h : ∀ rest, angle (w ++ rest) = .ok (some ⟨ts, none, rest⟩)) :
    Reads ('<' :: w) fun n ↦ ts.foldl Nesting.token n := by
  refine reads_of_next fun rest ↦ ?_
  have hne : (w ++ rest).isEmpty = false := by
    rw [List.isEmpty_eq_false_iff]
    exact List.append_ne_nil_of_left_ne_nil hw rest
  change ofAngle false (w ++ rest) = _
  rw [ofAngle, hne, h]
  rfl

/-! ## Text -/

namespace Nesting

theorem isBlank_of_isLayout {c : Char} (h : isLayout c = true) : Text.isBlank c = true := by
  simp only [isLayout, Bool.or_eq_true, beq_iff_eq] at h
  obtain (((rfl | rfl) | rfl) | rfl) | rfl := h
  all_goals rfl

/-- A text of nothing but blanks has no words, and neither has what it is reduced to. -/
theorem oneLine_collapse (text : String) :
    Text.oneLine (collapse text) = Text.oneLine text := by
  rw [collapse]
  split
  · rename_i hall
    have hblank : ∀ c ∈ text.toList, Text.isBlank c = true := fun c hc ↦
      isBlank_of_isLayout (List.all_eq_true.1 hall c hc)
    rw [Text.oneLine, Text.oneLine, Text.words_eq_nil hblank]
    split <;> rfl
  · rfl

end Nesting

/-- A text as it is written: the three characters that could begin or end markup are named. -/
def escape (c : Char) : List Char :=
  if c = '&' then ['&', 'a', 'm', 'p', ';']
  else if c = '<' then ['&', 'l', 't', ';']
  else if c = '>' then ['&', 'g', 't', ';']
  else [c]

theorem token_text_append (n : Nesting) (a b : List Char) :
    (n.token (.text (String.ofList a))).token (.text (String.ofList b)) =
      n.token (.text (String.ofList (a ++ b))) := by
  simp only [Nesting.token, String.ofList_append, String.append_assoc]

theorem next_plain (hc : isPlain c = true) (s : List Char) :
    next false none (c :: s) =
      .ok (.go [text (c :: s.takeWhile isPlain)] none (s.dropWhile isPlain)) := by
  have hangle : c ≠ '<' := by rintro rfl; cases hc
  have hampersand : c ≠ '&' := by rintro rfl; cases hc
  rw [next, inText]
  · rw [List.takeWhile_cons, List.dropWhile_cons, if_pos hc, if_pos hc]
  · nofun
  · rintro t h
    exact hangle (List.cons.inj h).1
  · rintro t h
    exact hampersand (List.cons.inj h).1

/-- A plain character joins the run of plain characters after it. -/
theorem reads_plain (hc : isPlain c = true) :
    Reads [c] fun n ↦ n.token (.text (String.ofList [c])) := by
  intro rest p hp
  have hrun := Pass.run_of_go (next_plain hc rest)
  rw [List.singleton_append, hrun]
  cases rest with
  | nil =>
    rw [List.dropWhile_nil, hp]
    exact ⟨_, rfl, rfl, rfl, fun n ↦ rfl⟩
  | cons d rest =>
    cases hd : isPlain d with
    | false =>
      rw [List.takeWhile_cons, List.dropWhile_cons, hd, if_neg Bool.false_ne_true,
        if_neg Bool.false_ne_true, hp]
      exact ⟨_, rfl, rfl, rfl, fun n ↦ rfl⟩
    | true =>
      rw [Pass.run_of_go (next_plain hd rest)] at hp
      rw [List.takeWhile_cons, List.dropWhile_cons, hd, if_pos rfl, if_pos rfl]
      cases hafter : Pass.run false none (rest.dropWhile isPlain) with
      | error e => rw [hafter] at hp; cases hp
      | ok q =>
        rw [hafter] at hp
        obtain rfl := Except.ok.inj hp
        refine ⟨_, rfl, rfl, rfl, fun n ↦ ?_⟩
        exact congrArg (q.tokens.foldl Nesting.token ·)
          (token_text_append n [c] (d :: rest.takeWhile isPlain)).symm

theorem reads_named (name : List Char) {s : List Char} (hs : Reference.ofName name = s)
    (h : ∀ rest, next false none ('&' :: name ++ ';' :: rest) =
      .ok (.go [text (Reference.ofName name)] none rest)) :
    Reads ('&' :: name ++ [';']) fun n ↦ n.token (.text (String.ofList s)) := by
  have hnext (rest : List Char) : next false none ('&' :: name ++ [';'] ++ rest) =
      .ok (.go [text s] none rest) := by
    rw [← hs, ← h rest, List.append_assoc]
    rfl
  exact (reads_of_next hnext).congr fun n ↦ rfl

theorem reads_escape (c : Char) : Reads (escape c) fun n ↦ n.token (.text (String.ofList [c])) := by
  rw [escape]
  split
  · subst ‹c = '&'›
    exact reads_named ['a', 'm', 'p'] (by decide) fun _ ↦ rfl
  split
  · subst ‹c = '<'›
    exact reads_named ['l', 't'] (by decide) fun _ ↦ rfl
  split
  · subst ‹c = '>'›
    exact reads_named ['g', 't'] (by decide) fun _ ↦ rfl
  · refine reads_plain ?_
    simp [isPlain, *]

theorem reads_text (s : List Char) :
    Reads (s.flatMap escape) fun n ↦ n.token (.text (String.ofList s)) := by
  induction s with
  | nil => exact reads_nil.congr fun n ↦ by simp [Nesting.token]
  | cons c s ih =>
    rw [List.flatMap_cons]
    exact ((reads_escape c).append ih).congr fun n ↦ token_text_append n [c] s

end InstanceCatalog.Markup
