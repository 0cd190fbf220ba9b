import InstanceCatalog.Catalog.Record
import InstanceCatalog.Proofs.Numeral.Grammar
import InstanceCatalog.Proofs.Text.Lower
import Mathlib.Tactic.FinCases

/-! # What the texts of a row come to

The record of twelve texts, or the error of the first text that is not what its column asks for, by
the grammar of numerals and the texts that say yes, and nothing else.  Reading a row gives the same,
but for one row: it gives up on an integer of too many digits. -/

namespace InstanceCatalog

open Text Numeral

/-! ## Cells -/

namespace Cell

theorem integer_eq (field text : String) : integer field text =
    if IsInteger text.toList then
      if digitLimit < (text.toList.filter isAsciiDigit).length then
        .error (.tooManyDigits (text.toList.filter isAsciiDigit).length)
      else .ok (integerValue text.toList)
    else .error (.declared (.notANumber field text)) := by
  rw [integer, plainInteger_eq]
  split_ifs <;> rfl

theorem decimal_eq (field text : String) : decimal field text =
    if IsDecimal text.toList then .ok (.ofDecimal (decimalValue text.toList))
    else .error (.declared (.notANumber field text)) := by
  rw [decimal, ofPlain?_eq]
  split_ifs <;> rfl

/-- The texts that say yes. -/
def yeses : List String := ["yes", "yeS", "yEs", "yES", "Yes", "YeS", "YEs", "YES"]

theorem saysYes_iff (text : String) : saysYes text = true ↔ text ∈ yeses := by
  have hyes : "yes".toList = ['y', 'e', 's'] := rfl
  have hplain : ∀ c ∈ ['y', 'e', 's'], Case.IsPlain c := by
    intro c hc
    fin_cases hc <;> decide
  rw [saysYes, beq_iff_eq, hyes, lower_eq_iff hplain]
  constructor
  · intro h
    obtain ⟨a, s, hs, ha, h⟩ := List.map_eq_cons_iff.1 h
    obtain ⟨b, s, rfl, hb, h⟩ := List.map_eq_cons_iff.1 h
    obtain ⟨c, s, rfl, hc, h⟩ := List.map_eq_cons_iff.1 h
    obtain rfl := List.map_eq_nil_iff.1 h
    rw [toLower_eq_iff (by decide)] at ha hb hc
    rw [← String.ofList_toList (s := text), hs]
    rcases ha with rfl | rfl <;> rcases hb with rfl | rfl <;> rcases hc with rfl | rfl <;> decide
  · intro h
    have hall : ∀ t ∈ yeses, t.toList.map Char.toLower = ['y', 'e', 's'] := by decide
    exact hall text h

theorem saysYes_eq (text : String) : saysYes text = decide (text ∈ yeses) :=
  Bool.eq_iff_iff.2 <| (saysYes_iff text).trans decide_eq_true_iff.symm

end Cell

/-! ## Rows -/

namespace Record

/-- The texts of a row of twelve cells, by column. -/
structure Columns where
  name : String
  cpus : String
  memory : String
  storage : String
  network : String
  processor : String
  clockSpeed : String
  avx : String
  avx2 : String
  turbo : String
  ebsOptimized : String
  enhancedNetworking : String

namespace Columns

def texts (c : Columns) : List String :=
  [c.name, c.cpus, c.memory, c.storage, c.network, c.processor, c.clockSpeed, c.avx, c.avx2,
    c.turbo, c.ebsOptimized, c.enhancedNetworking]

theorem exists_of_length {ts : List String} (h : ts.length = 12) : ∃ c : Columns, ts = c.texts := by
  match ts, h with
  | [name, cpus, memory, storage, network, processor, clockSpeed, avx, avx2, turbo, ebs,
      enhanced], _ =>
    exact ⟨⟨name, cpus, memory, storage, network, processor, clockSpeed, avx, avx2, turbo, ebs,
      enhanced⟩, rfl⟩

theorem texts_injective : Function.Injective texts := by
  intro c c' h
  cases c
  cases c'
  simpa [texts] using h

/-- What the texts stand for, if there are numerals where numbers should be. -/
def record (c : Columns) : Record where
  name := c.name
  cpus := integerValue c.cpus.toList
  memory := .ofDecimal (decimalValue c.memory.toList)
  storage := c.storage
  network := c.network
  processor := c.processor
  clockSpeed := .ofDecimal (decimalValue c.clockSpeed.toList)
  avx := decide (c.avx ∈ Cell.yeses)
  avx2 := decide (c.avx2 ∈ Cell.yeses)
  turbo := decide (c.turbo ∈ Cell.yeses)
  ebsOptimized := decide (c.ebsOptimized ∈ Cell.yeses)
  enhancedNetworking := decide (c.enhancedNetworking ∈ Cell.yeses)

/-- A name, and numerals where numbers should be. -/
structure Proper (c : Columns) : Prop where
  name_ne : c.name ≠ ""
  cpus : IsInteger c.cpus.toList
  memory : IsDecimal c.memory.toList
  clockSpeed : IsDecimal c.clockSpeed.toList

/-- The record of the texts, or the error of the first of them that is at fault: the name is looked
at first, then the three numbers from left to right. -/
def judge (c : Columns) : Except ScrapeError Record :=
  if c.name = "" then .error (.emptyField "Name")
  else if ¬ IsInteger c.cpus.toList then .error (.notANumber "CPUs" c.cpus)
  else if ¬ IsDecimal c.memory.toList then .error (.notANumber "Memory" c.memory)
  else if ¬ IsDecimal c.clockSpeed.toList then .error (.notANumber "ClockSpeed" c.clockSpeed)
  else .ok c.record

theorem judge_eq_ok_iff {c : Columns} {r : Record} : c.judge = .ok r ↔ c.Proper ∧ r = c.record := by
  rw [judge]
  split_ifs with hname hcpus hmemory hclock
  · exact iff_of_false not_false fun h ↦ h.1.name_ne hname
  · rw [Except.ok.injEq, eq_comm, and_iff_right ⟨hname, hcpus, hmemory, hclock⟩]
  · exact iff_of_false not_false fun h ↦ hclock h.1.clockSpeed
  · exact iff_of_false not_false fun h ↦ hmemory h.1.memory
  · exact iff_of_false not_false fun h ↦ hcpus h.1.cpus

end Columns

/-- The record of a row's texts, or its error.  How many there are is looked at before any of
them. -/
def judge : List String → Except ScrapeError Record
  | [name, cpus, memory, storage, network, processor, clockSpeed, avx, avx2, turbo, ebs,
      enhanced] =>
    Columns.judge ⟨name, cpus, memory, storage, network, processor, clockSpeed, avx, avx2, turbo,
      ebs, enhanced⟩
  | cells => .error (.columnCount 12 cells.length)

/-- Twelve texts with a name and, for the number of processors, an integer of more digits than are
converted. -/
def Overlong (cells : List String) (n : Nat) : Prop :=
  ∃ name cpus rest, cells = name :: cpus :: rest ∧ rest.length = 10 ∧ name ≠ "" ∧
    IsInteger cpus.toList ∧ (cpus.toList.filter isAsciiDigit).length = n ∧ 4300 < n

variable {c : Columns} {cells : List String} {n : Nat} {r : Record}

theorem judge_texts (c : Columns) : judge c.texts = c.judge := rfl

theorem judge_of_length_ne (h : cells.length ≠ 12) :
    judge cells = .error (.columnCount 12 cells.length) := by
  rw [judge]
  rintro _ _ _ _ _ _ _ _ _ _ _ _ rfl; exact h rfl

theorem judge_eq_ok_iff : judge cells = .ok r ↔
    ∃ c : Columns, cells = c.texts ∧ c.Proper ∧ r = c.record := by
  by_cases hlength : cells.length = 12
  · obtain ⟨c, rfl⟩ := Columns.exists_of_length hlength
    rw [judge_texts, Columns.judge_eq_ok_iff]
    refine ⟨fun h ↦ ⟨c, rfl, h⟩, ?_⟩
    rintro ⟨c', htexts, h⟩
    obtain rfl := Columns.texts_injective htexts
    exact h
  · rw [judge_of_length_ne hlength]
    refine iff_of_false nofun ?_
    rintro ⟨c, rfl, -⟩
    exact hlength rfl

/-! ## Reading a row -/

theorem ofCells_of_length_ne (h : cells.length ≠ 12) :
    ofCells cells = .error (.declared (.columnCount 12 cells.length)) := by
  rw [ofCells]
  · rfl
  · rintro _ _ _ _ _ _ _ _ _ _ _ _ rfl; exact h rfl

theorem overlong_texts_iff : Overlong c.texts n ↔ c.name ≠ "" ∧ IsInteger c.cpus.toList ∧
    (c.cpus.toList.filter isAsciiDigit).length = n ∧ 4300 < n := by
  constructor
  · rintro ⟨name, cpus, rest, htexts, -, h⟩
    obtain ⟨rfl, hrest⟩ := List.cons.inj htexts
    obtain ⟨rfl, -⟩ := List.cons.inj hrest
    exact h
  · exact fun h ↦ ⟨c.name, c.cpus, _, rfl, rfl, h⟩

theorem Overlong.exists_columns (h : Overlong cells n) : ∃ c : Columns, cells = c.texts := by
  obtain ⟨_, _, rest, rfl, hrest, -⟩ := h
  exact Columns.exists_of_length (by rw [List.length_cons, List.length_cons, hrest])

theorem ofCells_of_overlong (h : Overlong cells n) : ofCells cells = .error (.tooManyDigits n) := by
  obtain ⟨c, rfl⟩ := h.exists_columns
  obtain ⟨hname, hcpus, rfl, hlong⟩ := overlong_texts_iff.1 h
  have hn : digitLimit < (c.cpus.toList.filter isAsciiDigit).length := hlong
  have hempty : c.name.isEmpty = false := by simpa using hname
  simp only [Columns.texts, ofCells, hempty, Cell.integer_eq, if_pos hcpus, if_pos hn]
  rfl

/-- Reading a row gives what its texts come to. -/
theorem ofCells_of_not_overlong (h : ∀ n, ¬ Overlong cells n) :
    ofCells cells = (judge cells).mapError .declared := by
  by_cases hlength : cells.length = 12
  · obtain ⟨c, rfl⟩ := Columns.exists_of_length hlength
    rw [judge_texts, Columns.judge, Columns.record]
    simp only [ofCells, Columns.texts, Cell.integer_eq, Cell.decimal_eq, Cell.saysYes_eq]
    by_cases hname : c.name = ""
    · rw [if_pos hname, hname]; rfl
    have hempty : c.name.isEmpty = false := by simpa using hname
    rw [if_neg hname, if_neg (by rw [hempty]; exact Bool.false_ne_true)]
    by_cases hcpus : IsInteger c.cpus.toList
    · have hn : ¬ digitLimit < (c.cpus.toList.filter isAsciiDigit).length := fun hn ↦
        h _ (overlong_texts_iff.2 ⟨hname, hcpus, rfl, hn⟩)
      rw [if_pos hcpus, if_neg hn, if_neg (not_not.2 hcpus)]
      by_cases hmemory : IsDecimal c.memory.toList
      · rw [if_pos hmemory, if_neg (not_not.2 hmemory)]
        by_cases hclock : IsDecimal c.clockSpeed.toList
        · rw [if_pos hclock, if_neg (not_not.2 hclock)]; rfl
        · rw [if_neg hclock, if_pos hclock]; rfl
      · rw [if_neg hmemory, if_pos hmemory]; rfl
    · rw [if_neg hcpus, if_pos hcpus]; rfl
  · rw [ofCells_of_length_ne hlength, judge_of_length_ne hlength]
    rfl

/-- Reading a row gives up on an integer of too many digits, and gives what its texts come to in
all other cases. -/
theorem ofCells_cases (cells : List String) :
    (∃ n, Overlong cells n ∧ ofCells cells = .error (.tooManyDigits n)) ∨
      (∀ n, ¬ Overlong cells n) ∧ ofCells cells = (judge cells).mapError .declared := by
  by_cases h : ∃ n, Overlong cells n
  · obtain ⟨n, hn⟩ := h
    exact .inl ⟨n, hn, ofCells_of_overlong hn⟩
  · exact .inr ⟨not_exists.1 h, ofCells_of_not_overlong (not_exists.1 h)⟩

theorem overlong_iff : ofCells cells = .error (.tooManyDigits n) ↔ Overlong cells n := by
  refine ⟨fun h ↦ ?_, ofCells_of_overlong⟩
  obtain ⟨m, hm, hread⟩ | ⟨-, hread⟩ := ofCells_cases cells
  · rw [hread] at h
    cases h
    exact hm
  · rw [hread] at h
    cases hj : judge cells <;> rw [hj] at h <;> cases h

/-- A record that is read is the one its texts come to. -/
theorem ofCells_eq_ok_iff : ofCells cells = .ok r ↔
    (∀ n, ¬ Overlong cells n) ∧ judge cells = .ok r := by
  constructor
  · intro h
    obtain ⟨n, -, hread⟩ | ⟨hnone, hread⟩ := ofCells_cases cells
    · rw [hread] at h
      cases h
    · refine ⟨hnone, ?_⟩
      rw [hread] at h
      cases hj : judge cells <;> rw [hj] at h <;> cases h
      rfl
  · rintro ⟨hnone, hj⟩
    rw [ofCells_of_not_overlong hnone, hj]
    rfl

end Record

end InstanceCatalog
