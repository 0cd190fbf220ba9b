import InstanceCatalog.Proofs.Catalog.Finite
import InstanceCatalog.Proofs.Command.SavedPage
import InstanceCatalog.Proofs.Json.Reader

/-! # The catalog printed as JSON

What a run prints as JSON is one text of JSON in ASCII, and a reader of JSON gets the records back
from it: every member of each, in the order of the records. -/

namespace InstanceCatalog

open JsonValue Numeral

/-! ## Records -/

namespace Record

/-- An object tells a record: its members have the names of the columns in their order.  Under them
stand the texts and truth values of the record as they are, the numeral of its integer and, for its
decimals, what `number` says. -/
def ToldWith (number : Binary64 → JsonValue) (r : Record) (v : JsonValue) : Prop :=
  ∃ cpus, plainInteger cpus.toList = .ok r.cpus ∧
    v = .object [("name", .string r.name), ("cpus", .number cpus), ("memory", number r.memory),
      ("storage", .string r.storage), ("network_spec", .string r.network),
      ("processor", .string r.processor), ("clock_speed", number r.clockSpeed),
      ("intel_avx", .bool r.avx), ("intel_avx2", .bool r.avx2), ("intel_turbo", .bool r.turbo),
      ("ebs_opt", .bool r.ebsOptimized), ("enhanced_networking", .bool r.enhancedNetworking)]

/-- An object tells a record, its decimals by their shortest texts. -/
def ToldBy : Record → JsonValue → Prop := ToldWith fun x ↦ .number x.text

variable {r : Record}

theorem toldWith_json (h : r.Printable) (number : Binary64 → JsonValue) :
    r.ToldWith number (r.json number) := by
  refine ⟨decimal r.cpus, ?_, rfl⟩
  rw [decimal, String.toList_ofList]
  exact plainInteger_signed h

theorem toldBy_printedJson (hfinite : r.Finite) (hprintable : r.Printable) :
    r.ToldBy r.printedJson := by
  have hjson : r.printedJson = r.json fun x ↦ .number x.text := by
    rw [printedJson, json, json, Binary64.jsonToken_eq_text hfinite.memory,
      Binary64.jsonToken_eq_text hfinite.clockSpeed]
  rw [hjson]
  exact toldWith_json hprintable _

end Record

/-! ## The printed text -/

namespace Command

open Text

/-- A value is printed as it is written, since no terminal takes any of it for itself. -/
theorem toList_printedLine_text {v : JsonValue} (hv : Everywhere Written v) :
    (printedLine v.text).toList = write 0 v ++ ['\n'] := by
  have hshown := List.all_eq_true.1 (all_isShown_write v hv 0)
  have hplain : '\x1b' ∉ v.text.toList := by
    rw [JsonValue.text, String.toList_ofList]
    intro h
    exact absurd (hshown _ h) (by decide)
  have heq := Terminal.plain_append hplain ""
  rw [String.append_empty] at heq
  rw [printedLine, heq, JsonValue.text]
  simp [Terminal.plain, Terminal.plainFrom]

/-- What is printed is in ASCII and a text of JSON for one value alone.  A reader gets that value:
an array of objects that tell the records one by one. -/
theorem ofText?_printed {records : List Record} (h : ∀ r ∈ records, r.Finite ∧ r.Printable) :
    (∀ c ∈ (printed true records).toList, c = '\n' ∨ ' ' ≤ c ∧ c ≤ '~') ∧
    ∃ objects, (∀ v, Denotes (printed true records).toList (.element v) ↔ v = .array objects) ∧
      JsonValue.ofText? (printed true records) = some (.array objects) ∧
      List.Forall₂ Record.ToldBy records objects := by
  have hwritten : Everywhere Written (.array (records.map Record.printedJson)) :=
    Catalog.written_printedJson.2 fun r hr ↦ (h r hr).1
  have hprinted : (printed true records).toList = _ := toList_printedLine_text hwritten
  have hdenotes : Denotes (printed true records).toList
      (.element (.array (records.map Record.printedJson))) := by
    rw [hprinted, ← List.nil_append (write _ _)]
    exact .element rfl (denotes_write _ hwritten 0) rfl
  have hread := ofText?_eq_some_iff.2 hdenotes
  refine ⟨?_, records.map Record.printedJson, ?_, hread, ?_⟩
  · intro c hc
    rw [hprinted, List.mem_append] at hc
    rcases hc with hc | hc
    · simpa [isShown] using List.all_eq_true.1 (all_isShown_write _ hwritten 0) c hc
    · exact .inl (List.mem_singleton.1 hc)
  · intro v
    rw [← ofText?_eq_some_iff, hread, Option.some_inj]
    exact eq_comm
  · rw [List.forall₂_map_right_iff, List.forall₂_same]
    exact fun r hr ↦ Record.toldBy_printedJson (h r hr).1 (h r hr).2

/-- A record whose texts hold quotes, a backslash, control characters and characters that take two
units, with a negative integer and decimals of both layouts. -/
def escapedRecord : Record :=
  ⟨"\"a\\b\"\n\x00\x7f", -16, .finite false (2 ^ 52) (-53), "é€", "😀", "\x1b[0m",
    .finite true (3 * 2 ^ 51) 19, true, false, true, false, true⟩

theorem ofText?_printed_escaped :
    (∀ r ∈ [escapedRecord, escapedRecord], r.Finite ∧ r.Printable) ∧
    ∃ objects,
      JsonValue.ofText? (printed true [escapedRecord, escapedRecord]) = some (.array objects) ∧
      List.Forall₂ Record.ToldBy [escapedRecord, escapedRecord] objects := by
  have hproper : escapedRecord.Finite ∧ escapedRecord.Printable :=
    ⟨⟨rfl, rfl⟩, by rw [Record.Printable]; decide⟩
  have h : ∀ r ∈ [escapedRecord, escapedRecord], r.Finite ∧ r.Printable := by
    simpa using hproper
  obtain ⟨-, objects, -, hread, htold⟩ := ofText?_printed h
  exact ⟨h, objects, hread, htold⟩

end Command

end InstanceCatalog
