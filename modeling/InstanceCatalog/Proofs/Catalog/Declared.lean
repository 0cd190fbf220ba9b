import InstanceCatalog.Command.Run
import InstanceCatalog.Proofs.Catalog.PageResult
import InstanceCatalog.Proofs.Catalog.Rows
import InstanceCatalog.Proofs.Markup.Overlong
import InstanceCatalog.Service.Answer

/-! # Failures that callers are told to expect

A page fails with one of eight declared errors, or else on more digits than are converted: in a
reference that its reader comes to, or in the number of processors of the first row that fails.
Nothing else is undeclared, and callers that expect declared errors alone break on exactly this. -/

namespace InstanceCatalog

open Markup Numeral

/-! ## Errors of pages -/

/-- The errors that a page can be the cause of, as opposed to getting it. -/
def ScrapeError.OfPage : ScrapeError → Prop
  | .rejectedMarkup _ | .anchorNotFound _ | .headerNotFound .. | .tableNotFound _ => True
  | .tableTooSmall .. | .columnCount .. | .emptyField _ | .notANumber .. => True
  | .fetch .. | .badStatus .. | .other .. => False

/-- A declared error of a page. -/
def Failure.OfPage (x : Failure) : Prop := ∃ e, x = .declared e ∧ e.OfPage

theorem Record.ofPage_of_judge {cells : List String} {e : ScrapeError}
    (h : judge cells = .error e) : e.OfPage := by
  by_cases hlength : cells.length = 12
  · obtain ⟨c, rfl⟩ := Columns.exists_of_length hlength
    rw [judge_texts, Columns.judge] at h
    split_ifs at h
    all_goals cases h
    all_goals trivial
  · rw [judge_of_length_ne hlength] at h
    cases h
    trivial

theorem Section.ofPage_of_ofForest {anchor : String} {f : Forest} {x : Failure}
    (h : ofForest anchor f = .error x) : x.OfPage := by
  rw [ofForest] at h
  split at h
  · cases h; exact ⟨_, rfl, trivial⟩
  split at h
  · cases h; exact ⟨_, rfl, trivial⟩
  split at h
  · cases h; exact ⟨_, rfl, trivial⟩
  · cases h

namespace Markup

/-! ## Rows and tables -/

variable {row table : Element} {f : Forest} {x : Failure} {n : Nat}

theorem Element.record_error (h : row.record = .error x) :
    x.OfPage ∨ ∃ n, digitLimit < n ∧ x = .tooManyDigits n := by
  obtain ⟨n, hn, hread⟩ | ⟨-, hread⟩ := Record.ofCells_cases row.texts
  · rw [Element.record, hread] at h
    cases h
    obtain ⟨_, _, _, -, -, -, -, -, hlt⟩ := hn
    exact .inr ⟨n, hlt, rfl⟩
  · rw [Element.record, hread] at h
    cases hj : Record.judge row.texts with
    | ok r => rw [hj] at h; cases h
    | error e =>
      rw [hj] at h
      cases h
      exact .inl ⟨e, rfl, Record.ofPage_of_judge hj⟩

/-- Of the rows of a table, the first that fails does so on a number of processors of `n` digits. -/
def Element.MeetsOverlong (table : Element) (n : Nat) : Prop :=
  Catalog.leastRows ≤ (table.tagged "tr").length ∧ ∃ before row after,
    (table.tagged "tr").drop 1 = before ++ row :: after ∧
      (∀ b ∈ before, ∃ r, b.record = .ok r) ∧ Record.Overlong row.texts n

theorem Element.catalog_error (h : table.catalog = .error x) :
    x.OfPage ∨ ∃ n, digitLimit < n ∧ x = .tooManyDigits n := by
  rw [Element.catalog] at h
  split at h
  · cases h
    exact .inl ⟨_, rfl, trivial⟩
  · obtain ⟨_, row, _, -, -, hrow⟩ := mapM_eq_error_iff.1 h
    exact row.record_error hrow

theorem Element.catalog_eq_tooManyDigits_iff :
    table.catalog = .error (.tooManyDigits n) ↔ table.MeetsOverlong n := by
  rw [Element.catalog, MeetsOverlong]
  split
  · refine iff_of_false ?_ fun h ↦ absurd h.1 (Nat.not_le.2 ‹_›)
    intro h
    cases h
  · simp only [mapM_eq_error_iff, Element.record, Record.overlong_iff, Nat.not_lt.1 ‹_›, true_and]

/-- The section of a forest meets such a row. -/
def Forest.MeetsOverlong (f : Forest) (n : Nat) : Prop :=
  ∃ table, Section.ofForest Section.anchorId f = .ok table ∧ table.MeetsOverlong n

theorem Forest.catalog_error (h : f.catalog = .error x) :
    x.OfPage ∨ ∃ n, digitLimit < n ∧ x = .tooManyDigits n := by
  rw [Forest.catalog] at h
  cases ht : Section.ofForest Section.anchorId f with
  | error x' =>
    rw [ht] at h
    cases h
    exact .inl (Section.ofPage_of_ofForest ht)
  | ok table =>
    simp only [ht, bind, Except.bind] at h
    exact table.catalog_error h

theorem Forest.catalog_eq_tooManyDigits_iff :
    f.catalog = .error (.tooManyDigits n) ↔ f.MeetsOverlong n := by
  rw [Forest.catalog, MeetsOverlong]
  cases ht : Section.ofForest Section.anchorId f with
  | error x =>
    refine iff_of_false ?_ (by simp)
    intro h
    cases h
    obtain ⟨e, he, -⟩ := Section.ofPage_of_ofForest ht
    cases he
  | ok table =>
    simp only [bind, Except.bind, Except.ok.injEq, exists_eq_left']
    exact table.catalog_eq_tooManyDigits_iff

end Markup

namespace Catalog

/-- The page has more than the limit of digits, `n`, in a reference or in a number of processors
that is come to before anything else is wrong. -/
def MeetsOverlong (page : String) (n : Nat) : Prop :=
  Markup.MeetsOverlong page.toList n ∨ ∃ f, Document.forestOf page = .ok f ∧ f.MeetsOverlong n

variable {page : String} {x : Failure} {n : Nat}

theorem forestOf_eq_error_iff :
    Document.forestOf page = .error x ↔ tokens page.toList = .error x := map_eq_error_iff

theorem result_ofPage_error (h : (ofPage page).result = .error x) :
    x.OfPage ∨ ∃ n, digitLimit < n ∧ x = .tooManyDigits n := by
  rw [result_ofPage_eq] at h
  cases hf : Document.forestOf page with
  | error x' =>
    rw [hf] at h
    cases h
    obtain h | ⟨reason, rfl⟩ := tokens_error (forestOf_eq_error_iff.1 hf)
    · exact .inr h
    · exact .inl ⟨_, rfl, trivial⟩
  | ok f =>
    simp only [hf, bind, Except.bind] at h
    exact f.catalog_error h

theorem result_ofPage_eq_tooManyDigits_iff :
    (ofPage page).result = .error (.tooManyDigits n) ↔ MeetsOverlong page n := by
  rw [result_ofPage_eq, MeetsOverlong, ← tokens_eq_tooManyDigits_iff, ← forestOf_eq_error_iff]
  cases Document.forestOf page with
  | error x =>
    simp only [reduceCtorEq, false_and, exists_false, or_false]
    exact ⟨fun h ↦ by cases h; rfl, fun h ↦ by cases h; rfl⟩
  | ok f =>
    simp only [bind, Except.bind, reduceCtorEq, false_or, Except.ok.injEq, exists_eq_left']
    exact f.catalog_eq_tooManyDigits_iff

/-- A page has a catalog, or fails with an error that is declared for pages, or meets more digits
than are converted; and it is then, and only then, that the command crashes and that the service
does not know what went wrong. -/
theorem declared_unless_overlong (page : String) :
    ((∃ records, (ofPage page).result = .ok records) ∨
      (∃ e, (ofPage page).result = .error (.declared e) ∧ e.OfPage) ∨
      ∃ n, digitLimit < n ∧ (ofPage page).result = .error (.tooManyDigits n)) ∧
    (∀ n, (ofPage page).result = .error (.tooManyDigits n) ↔ MeetsOverlong page n) ∧
    (∀ json errors level,
      (Command.conclude json errors level (ofPage page).result).crash.isSome = true ↔
        ∃ n, MeetsOverlong page n) ∧
    ((Service.Answer.ofResult .catalog (ofPage page).result).status = 500 ↔
      ∃ n, MeetsOverlong page n) := by
  simp only [← result_ofPage_eq_tooManyDigits_iff]
  cases h : (ofPage page).result with
  | ok records =>
    refine ⟨.inl ⟨records, rfl⟩, fun _ ↦ trivial, fun _ _ _ ↦ iff_of_false ?_ ?_,
      iff_of_false ?_ ?_⟩
    · nofun
    · rintro ⟨n, h⟩; cases h
    · nofun
    · rintro ⟨n, h⟩; cases h
  | error x =>
    obtain ⟨e, rfl, he⟩ | ⟨n, hn, rfl⟩ := result_ofPage_error h
    · refine ⟨.inr (.inl ⟨e, rfl, he⟩), fun _ ↦ trivial, fun _ _ _ ↦ iff_of_false ?_ ?_,
        iff_of_false ?_ ?_⟩
      · nofun
      · rintro ⟨n, h⟩; cases h
      · nofun
      · rintro ⟨n, h⟩; cases h
    · exact ⟨.inr (.inr ⟨n, hn, rfl⟩), fun _ ↦ trivial, fun _ _ _ ↦ iff_of_true rfl ⟨n, rfl⟩,
        iff_of_true rfl ⟨n, rfl⟩⟩

/-- A number of 4301 digits. -/
def longNumber : List Char := List.replicate 4301 '1'

/-- Two rows, of which the first gives the long number for its processors. -/
def longRows : List (List String) :=
  [["a", String.ofList longNumber, "1", "", "", "", "3.5", "Yes", "", "", "", ""],
    ["b", "1", "2", "", "", "", "3.5", "Yes", "", "", "", ""]]

theorem overlong_longNumber {name : String} (hname : Text.oneLine name ≠ "") {rest : List String}
    (hrest : rest.length = 10) :
    Record.Overlong ((name :: String.ofList longNumber :: rest).map Text.oneLine) 4301 := by
  have hmem : ∀ c ∈ longNumber, c = '1' := fun c ↦ List.eq_of_mem_replicate
  have hne : longNumber ≠ [] := List.cons_ne_nil '1' (List.replicate 4300 '1')
  have hword : Text.oneLine (String.ofList longNumber) = String.ofList longNumber :=
    Text.oneLine_ofList hne fun c hc ↦ by rw [hmem c hc]; rfl
  have hdigits : longNumber.filter Text.isAsciiDigit = longNumber :=
    List.filter_eq_self.2 fun c hc ↦ by rw [hmem c hc]; rfl
  have hinteger : IsInteger longNumber := by
    refine ⟨[], longNumber, .none, ?_, rfl⟩
    exact isDigits_iff.2 ⟨hne, fun c hc ↦ by rw [hmem c hc]; rfl⟩
  refine ⟨_, _, rest.map Text.oneLine, rfl, by rw [List.length_map, hrest], hname, ?_, ?_, ?_⟩
  · rw [hword, String.toList_ofList]
    exact hinteger
  · rw [hword, String.toList_ofList, hdigits]
    exact List.length_replicate
  · decide

/-- The page of these rows is not readable, and nobody is told to expect it. -/
theorem undeclared_longRows :
    (ofPage (Page.write longRows)).result = .error (.tooManyDigits 4301) ∧
    (∀ json errors level, (Command.conclude json errors level
      (ofPage (Page.write longRows)).result).crash.isSome = true) ∧
    (Service.Answer.ofResult .catalog (ofPage (Page.write longRows)).result).status = 500 := by
  have hname : Text.oneLine "a" ≠ "" := by decide
  have hresult : (ofPage (Page.write longRows)).result = .error (.tooManyDigits 4301) := by
    rw [result_write_eq, if_neg (by decide), longRows, List.mapM_cons,
      Record.ofCells_of_overlong (overlong_longNumber hname rfl)]
    rfl
  rw [hresult]
  exact ⟨rfl, fun _ _ _ ↦ rfl, rfl⟩

end Catalog

end InstanceCatalog
