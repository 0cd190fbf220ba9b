import InstanceCatalog.Command.Run
import InstanceCatalog.Proofs.Catalog.PageResult
import InstanceCatalog.Proofs.Catalog.Rows
import InstanceCatalog.Proofs.Json.Grammar
import InstanceCatalog.Service.Answer

/-! # Records with finite numbers

The grammar of decimals bounds neither the digits nor the exponent, so a cell may write a number
that is out of range and its record then holds an infinity.  This is said exactly: a record is
finite if and only if its two decimal cells stay below the limit, and it is for finite records and
no others that the command prints JSON and the service leaves no number out. -/

namespace InstanceCatalog

open Markup Numeral

/-- Nothing is missing from the body of an answer. -/
def Service.Answer.NullFree (a : Answer) : Prop := ∀ v ∈ a.body, v.Everywhere (· ≠ .null)

/-! ## Records -/

namespace Record

open JsonValue

variable {r : Record} {cells : List String}

/-- Both decimal members are finite numbers. -/
@[mk_iff finite_iff] structure Finite (r : Record) : Prop where
  memory : r.memory.isFinite = true
  clockSpeed : r.clockSpeed.isFinite = true

/-- The texts for the two decimal members write numbers below the limit. -/
def Bounded (cells : List String) : Prop :=
  ∀ i ∈ [2, 6], ∀ t ∈ cells[i]?, (decimalValue t.toList).magnitude < Binary64.overflow

theorem finite_iff_of_judge (h : judge cells = .ok r) : r.Finite ↔ Bounded cells := by
  obtain ⟨c, rfl, -, rfl⟩ := judge_eq_ok_iff.1 h
  have hbounded : Bounded c.texts ↔ (decimalValue c.memory.toList).magnitude < Binary64.overflow ∧
      (decimalValue c.clockSpeed.toList).magnitude < Binary64.overflow := by
    simp [Bounded, Columns.texts]
  rw [hbounded, ← Binary64.ofDecimal_isFinite_iff, ← Binary64.ofDecimal_isFinite_iff]
  exact finite_iff c.record

/-- Only the decimal members of a record are written by choice. -/
theorem everywhere_json {P : JsonValue → Prop} {number : Binary64 → JsonValue}
    (hnumber : ∀ i, P (.number (decimal i))) (hstring : ∀ s, P (.string s))
    (hbool : ∀ b, P (.bool b)) (hobject : ∀ ms, P (.object ms)) :
    Everywhere P (r.json number) ↔
      Everywhere P (number r.memory) ∧ Everywhere P (number r.clockSpeed) := by
  simp only [json, everywhere_object, List.forall_mem_cons, everywhere_number, everywhere_string,
    everywhere_bool, hnumber, hstring, hbool, hobject, true_and]
  simp

theorem written_printedJson : Everywhere Written r.printedJson ↔ r.Finite := by
  have htoken (x : Binary64) : Everywhere Written (.number x.jsonToken) ↔ x.isFinite = true := by
    rw [everywhere_number, Written, Binary64.isNumber_jsonToken_iff]
  rw [printedJson, everywhere_json (fun i ↦ ?_) (fun _ ↦ trivial) (fun _ ↦ trivial) fun _ ↦ trivial,
    htoken, htoken]
  · exact (finite_iff r).symm
  · rw [Written, decimal, String.toList_ofList]
    exact isNumber_signed i

theorem nullFree_servedJson : Everywhere (· ≠ .null) r.servedJson ↔ r.Finite := by
  have htoken (x : Binary64) : Everywhere (· ≠ .null) (if x.isFinite then .number x.text else .null)
      ↔ x.isFinite = true := by
    split
    · simp [everywhere_number, *]
    · refine iff_of_false (fun h ↦ h _ .here rfl) ‹_›
  rw [servedJson, everywhere_json (by simp) (by simp) (by simp) (by simp), htoken, htoken]
  exact (finite_iff r).symm

end Record

/-! ## Catalogs -/

theorem forall_iff_of_forall₂ {α β : Type} {P : α → Prop} {Q : β → Prop} {xs : List α} {ys : List β}
    (h : List.Forall₂ (fun x y ↦ P x ↔ Q y) xs ys) : (∀ x ∈ xs, P x) ↔ ∀ y ∈ ys, Q y := by
  induction h with
  | nil => simp
  | cons hxy _ ih => rw [List.forall_mem_cons, List.forall_mem_cons, hxy, ih]

namespace Catalog

open JsonValue

variable {page : String} {records : List Record}

/-- The rows behind the records of a page. -/
theorem exists_rows_of_ofPage (h : (ofPage page).result = .ok records) : ∃ f table,
    Document.forestOf page = .ok f ∧ Section.ofForest Section.anchorId f = .ok table ∧
      List.Forall₂ (fun row r ↦ row.record = .ok r) ((table.tagged "tr").drop 1) records := by
  rw [result_ofPage_eq] at h
  cases hf : Document.forestOf page with
  | error e => rw [hf] at h; cases h
  | ok f =>
    simp only [hf, bind, Except.bind, Forest.catalog] at h
    cases ht : Section.ofForest Section.anchorId f with
    | error e => rw [ht] at h; cases h
    | ok table =>
      rw [ht] at h
      simp only [Element.catalog] at h
      split at h
      · cases h
      · exact ⟨f, table, rfl, ht, mapM_eq_ok_iff.1 h⟩

theorem written_printedJson :
    Everywhere Written (.array (records.map Record.printedJson)) ↔ ∀ r ∈ records, r.Finite := by
  rw [everywhere_array, List.forall_mem_map]
  simp only [Record.written_printedJson]
  exact ⟨And.right, fun h ↦ ⟨trivial, h⟩⟩

theorem nullFree_catalog :
    (Service.Answer.catalog records).NullFree ↔ ∀ r ∈ records, r.Finite := by
  have hbody : (Service.Answer.catalog records).NullFree ↔
      Everywhere (· ≠ .null) (.array (records.map Record.servedJson)) :=
    ⟨fun h ↦ h _ rfl, fun h v hv ↦ Option.some.inj hv ▸ h⟩
  rw [hbody, everywhere_array, List.forall_mem_map]
  simp only [Record.nullFree_servedJson]
  exact ⟨And.right, fun h ↦ ⟨by simp, h⟩⟩

theorem nullFree_record {name : String} : (Service.Answer.record name records).NullFree ↔
    ∀ r ∈ records.find? (·.name == name), r.Finite := by
  rw [Service.Answer.record]
  cases records.find? (·.name == name) with
  | none =>
    refine iff_of_true ?_ (by simp)
    rintro v ⟨⟩
    rw [everywhere_object]
    simp [everywhere_string]
  | some r =>
    have hbody (s : Nat) : Service.Answer.NullFree ⟨s, some r.servedJson⟩ ↔
        Everywhere (· ≠ .null) r.servedJson :=
      ⟨fun h ↦ h _ rfl, fun h v hv ↦ Option.some.inj hv ▸ h⟩
    simp only [hbody, Record.nullFree_servedJson]
    simp

/-- The catalog of a page holds finite numbers exactly as far as the cells for memory and clock
speed stay below the limit; and exactly then the command prints JSON and no answer of the service
leaves a number out. -/
theorem finite_iff_bounded (h : (ofPage page).result = .ok records) : ∃ f table,
    Document.forestOf page = .ok f ∧ Section.ofForest Section.anchorId f = .ok table ∧
    List.Forall₂ (fun row r ↦ Record.judge row.texts = .ok r ∧
      (r.Finite ↔ Record.Bounded row.texts)) ((table.tagged "tr").drop 1) records ∧
    (∀ r ∈ records, r.memory ≠ .nan ∧ r.clockSpeed ≠ .nan) ∧
    ((∀ r ∈ records, r.Finite) ↔
      ∀ row ∈ (table.tagged "tr").drop 1, Record.Bounded row.texts) ∧
    (∃ v, Command.printed true records = Command.printedLine v.text ∧
      (Everywhere Written v ↔ ∀ r ∈ records, r.Finite)) ∧
    ((Service.Answer.catalog records).NullFree ↔ ∀ r ∈ records, r.Finite) ∧
    ∀ name, (Service.Answer.record name records).NullFree ↔
      ∀ r ∈ records.find? (·.name == name), r.Finite := by
  obtain ⟨f, table, hf, ht, hrows⟩ := exists_rows_of_ofPage h
  have hjudged : List.Forall₂ (fun row r ↦ Record.judge row.texts = .ok r ∧
      (r.Finite ↔ Record.Bounded row.texts)) ((table.tagged "tr").drop 1) records :=
    hrows.imp fun row r hr ↦
      have hj := (Record.ofCells_eq_ok_iff.1 hr).2
      ⟨hj, Record.finite_iff_of_judge hj⟩
  have hbounded := forall_iff_of_forall₂ (hjudged.imp fun row r h ↦ h.2.symm)
  have hnan : (∀ row ∈ (table.tagged "tr").drop 1, True) ↔
      ∀ r ∈ records, r.memory ≠ .nan ∧ r.clockSpeed ≠ .nan := by
    refine forall_iff_of_forall₂ (hjudged.imp fun row r h ↦ ?_)
    obtain ⟨c, -, -, rfl⟩ := Record.judge_eq_ok_iff.1 h.1
    exact iff_of_true trivial ⟨Binary64.ofDecimal_ne_nan _, Binary64.ofDecimal_ne_nan _⟩
  exact ⟨f, table, hf, ht, hjudged, hnan.1 fun _ _ ↦ trivial, hbounded.symm,
    ⟨_, rfl, written_printedJson⟩, nullFree_catalog, fun name ↦ nullFree_record⟩

/-- Two rows, of which the first writes a memory out of range. -/
def outOfRange : List (List String) :=
  [["a", "1", "1e400", "", "", "", "3.5", "Yes", "", "", "", ""],
    ["b", "1", "2", "", "", "", "3.5", "Yes", "", "", "", ""]]

theorem exists_records_outOfRange : ∃ records,
    (ofPage (Page.write outOfRange)).result = .ok records ∧
      records.map Record.memory = [.infinite false, .finite false (2 ^ 52) (-51)] := by
  have heval : (outOfRange.mapM fun texts ↦
      Record.ofCells (texts.map Text.oneLine)).toOption.map (·.map Record.memory) =
        some [.infinite false, .finite false (2 ^ 52) (-51)] := by decide
  rw [result_write_eq, if_neg (by decide)]
  revert heval
  cases outOfRange.mapM fun texts ↦ Record.ofCells (texts.map Text.oneLine) with
  | error e => nofun
  | ok records => exact fun heval ↦ ⟨records, rfl, Option.some.inj heval⟩

theorem finite_iff_bounded_outOfRange : ∃ records f table,
    (ofPage (Page.write outOfRange)).result = .ok records ∧
    Document.forestOf (Page.write outOfRange) = .ok f ∧
    Section.ofForest Section.anchorId f = .ok table ∧
    ((∀ r ∈ records, r.Finite) ↔
      ∀ row ∈ (table.tagged "tr").drop 1, Record.Bounded row.texts) := by
  obtain ⟨records, h, -⟩ := exists_records_outOfRange
  obtain ⟨f, table, hf, ht, -, -, hbounded, -⟩ := finite_iff_bounded h
  exact ⟨records, f, table, h, hf, ht, hbounded⟩

/-- The infinity goes into the record, is printed and is left out by the service. -/
theorem infinite_outOfRange : ∃ records, (ofPage (Page.write outOfRange)).result = .ok records ∧
    (∃ r ∈ records, r.memory = .infinite false) ∧
    (∃ v, Command.printed true records = Command.printedLine v.text ∧ ¬ Everywhere Written v) ∧
    ¬ (Service.Answer.catalog records).NullFree := by
  obtain ⟨records, h, hmemory⟩ := exists_records_outOfRange
  obtain ⟨r, hr, hinfinite⟩ : ∃ r ∈ records, r.memory = .infinite false := by
    rw [← List.mem_map, hmemory]
    exact List.mem_cons_self
  have hnot : ¬ ∀ r ∈ records, r.Finite := fun hall ↦ by
    have := (hall r hr).memory
    rw [hinfinite] at this
    cases this
  exact ⟨records, h, ⟨r, hr, hinfinite⟩, ⟨_, rfl, fun hv ↦ hnot (written_printedJson.1 hv)⟩,
    fun hv ↦ hnot (nullFree_catalog.1 hv)⟩

end Catalog

end InstanceCatalog
