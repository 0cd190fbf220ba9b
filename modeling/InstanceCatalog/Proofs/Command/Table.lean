import InstanceCatalog.Proofs.Command.LivePage
import InstanceCatalog.Proofs.Json.Number

/-! # The catalog printed as a table

A run that gets a catalog and prints no JSON prints one line for each record.  A line is read from
its end.  The storage is what stands after the last two spaces in a row, since there are no two in
it and none at its start.  After that each number is what stands after the last space, and the name
is what is left without the spaces that fill it up. -/

namespace InstanceCatalog

open Text Numeral

/-! ## Columns -/

namespace Text

variable {s t a b : List Char} {w : Nat}

/-- A text on one line is found behind two spaces. -/
theorem two_spaces_inj (hs : Spaced s) (ht : Spaced t)
    (h : a ++ ' ' :: ' ' :: s = b ++ ' ' :: ' ' :: t) : a = b ∧ s = t := by
  wlog hle : s.length ≤ t.length generalizing s t a b with hshorter
  · obtain ⟨hab, hst⟩ := hshorter ht hs h.symm (Nat.le_of_not_le hle)
    exact ⟨hab.symm, hst.symm⟩
  have hs' : s <:+ a ++ ' ' :: ' ' :: s := ⟨a ++ [' ', ' '], by simp⟩
  have ht' : t <:+ a ++ ' ' :: ' ' :: s := ⟨b ++ [' ', ' '], by simp [h]⟩
  obtain ⟨u, rfl⟩ := List.suffix_of_suffix_length_le hs' ht' hle
  have hfront : a ++ [' '] ++ [' '] = b ++ [' ', ' '] ++ u :=
    (List.append_left_inj s).1 (by simpa using h)
  -- of what the longer text has before the shorter one, the last two characters would be spaces
  obtain rfl | ⟨u, y, rfl⟩ := List.eq_nil_or_concat' u
  · exact ⟨(List.append_left_inj [' ', ' ']).1 (by simpa using hfront), rfl⟩
  rw [← List.append_assoc] at hfront
  obtain ⟨hbefore, hy⟩ := List.append_inj' hfront rfl
  obtain rfl : ' ' = y := List.singleton_inj.1 hy
  obtain rfl | ⟨u, x, rfl⟩ := List.eq_nil_or_concat' u
  · exact absurd (ht.head ' ' rfl) (by decide)
  rw [← List.append_assoc] at hbefore
  obtain rfl : ' ' = x := List.singleton_inj.1 (List.append_inj' hbefore rfl).2
  exact absurd (by simp) (ht.single u s)

/-- A number is found behind the last space, whatever it was filled up to. -/
theorem last_space_inj (hs : ∀ c ∈ s, isBlank c = false) (ht : ∀ c ∈ t, isBlank c = false)
    (h : a ++ ' ' :: padBefore w s = b ++ ' ' :: padBefore w t) : a = b ∧ s = t := by
  have hspace (a : List Char) (n : Nat) :
      ∀ c ∈ (a ++ ' ' :: List.replicate n ' ').getLast?, (!isBlank c) = false := by
    intro c hc
    rw [← List.replicate_succ, List.getLast?_append, List.getLast?_replicate, if_neg n.succ_ne_zero,
      Option.some_or] at hc
    obtain rfl : ' ' = c := Option.some.inj hc
    rfl
  have hword {s : List Char} (hs : ∀ c ∈ s, isBlank c = false) : ∀ c ∈ s, (!isBlank c) = true :=
    fun c hc ↦ by rw [hs c hc]; rfl
  rw [padBefore, padBefore, ← List.cons_append, ← List.cons_append, ← List.append_assoc,
    ← List.append_assoc] at h
  obtain ⟨hfront, rfl⟩ := append_run_inj (hword hs) (hspace a _) (hword ht) (hspace b _) h
  exact ⟨List.append_cancel_right hfront, rfl⟩

/-- Nothing of a text on one line is taken for spaces that fill it up. -/
theorem padAfter_inj (hs : Spaced s) (ht : Spaced t) (h : padAfter w s = padAfter w t) : s = t := by
  have hlast {s : List Char} (hs : Spaced s) : ∀ c ∈ s.getLast?, (c == ' ') = false := by
    refine fun c hc ↦ beq_false_of_ne ?_
    rintro rfl
    exact absurd (hs.last ' ' hc) (by decide)
  have hspaces (n : Nat) : ∀ c ∈ List.replicate n ' ', (c == ' ') = true := fun c hc ↦
    beq_of_eq (List.eq_of_mem_replicate hc)
  exact (append_run_inj (hspaces _) (hlast hs) (hspaces _) (hlast ht) h).1

end Text

/-! ## Numbers -/

theorem JsonValue.isBlank_of_isNumberChar {c : Char} (h : isNumberChar c = true) :
    isBlank c = false := by
  have hmarks : ∀ c ∈ ['-', '+', '.', 'e', 'E'], isBlank c = false :=
    List.forall_iff_forall_mem.1 (by decide)
  rw [isNumberChar, Bool.or_eq_true, decide_eq_true_eq] at h
  obtain hdigit | hmark := h
  · exact isBlank_of_isAsciiDigit hdigit
  · exact hmarks c hmark

theorem Binary64.not_blank_sixDigits (x : Binary64) :
    ∀ c ∈ x.sixDigits.toList, isBlank c = false := by
  by_cases hx : x.isFinite = true
  · have hall := JsonValue.all_isNumberChar (isNumber_sixDigits hx)
    exact fun c hc ↦ JsonValue.isBlank_of_isNumberChar (List.all_eq_true.1 hall c hc)
  · cases x with
    | finite => exact absurd rfl hx
    | infinite negative => cases negative <;> exact List.forall_iff_forall_mem.1 (by decide)
    | nan => exact List.forall_iff_forall_mem.1 (by decide)

namespace Record

variable {r r' : Record}

theorem toList_line (r : Record) : r.line.toList =
    ' ' :: ' ' :: padAfter 14 r.name.toList ++ ' ' :: padBefore 3 (signed r.cpus) ++
      " vCPU ".toList ++ ' ' :: padBefore 7 r.memory.sixDigits.toList ++
      " GiB ".toList ++ ' ' :: padBefore 0 r.clockSpeed.sixDigits.toList ++
      " GHz".toList ++ ' ' :: ' ' :: r.storage.toList := by
  simp [line, padBefore]

/-- The texts of a record that a line shows are on one line each. -/
structure OnOneLine (r : Record) : Prop where
  name : Spaced r.name.toList
  storage : Spaced r.storage.toList

/-- Two records are the same in all that a line shows: in their names, processors and storage, and
in their other numbers to six digits. -/
structure ShownAlike (r r' : Record) : Prop where
  name : r.name = r'.name
  cpus : r.cpus = r'.cpus
  memory : r.memory.sixDigits = r'.memory.sixDigits
  clockSpeed : r.clockSpeed.sixDigits = r'.clockSpeed.sixDigits
  storage : r.storage = r'.storage

/-- A line determines what it shows of its record, however long its columns are and whatever words
stand in them. -/
theorem line_inj (hr : r.OnOneLine) (hr' : r'.OnOneLine) (h : r.line = r'.line) :
    ShownAlike r r' := by
  have hline : r.line.toList = r'.line.toList := by rw [h]
  rw [toList_line, toList_line] at hline
  obtain ⟨hline, hstorage⟩ := two_spaces_inj hr.storage hr'.storage hline
  obtain ⟨hline, hclock⟩ := last_space_inj (Binary64.not_blank_sixDigits _)
    (Binary64.not_blank_sixDigits _) (List.append_cancel_right hline)
  obtain ⟨hline, hmemory⟩ := last_space_inj (Binary64.not_blank_sixDigits _)
    (Binary64.not_blank_sixDigits _) (List.append_cancel_right hline)
  obtain ⟨hline, hcpus⟩ := last_space_inj (not_blank_signed _) (not_blank_signed _)
    (List.append_cancel_right hline)
  have hname := padAfter_inj hr.name hr'.name ((List.append_right_inj [' ', ' ']).1 hline)
  exact {
    name := String.toList_injective hname
    cpus := signed_injective hcpus
    memory := String.toList_injective hmemory
    clockSpeed := String.toList_injective hclock
    storage := String.toList_injective hstorage
  }

theorem singleLine_line (hr : r.OnOneLine) : SingleLine r.line.toList := by
  have hspaces (n : Nat) : SingleLine (List.replicate n ' ') := fun c hc ↦ by
    rw [List.eq_of_mem_replicate hc]; rfl
  have hnumber {s : List Char} (w : Nat) (hs : ∀ c ∈ s, isBlank c = false) :
      SingleLine (' ' :: padBefore w s) :=
    List.forall_mem_cons.2 ⟨rfl, (hspaces _).append (singleLine_of_not_blank hs)⟩
  have hname : SingleLine (' ' :: ' ' :: padAfter 14 r.name.toList) :=
    List.forall_mem_cons.2 ⟨rfl, List.forall_mem_cons.2 ⟨rfl,
      hr.name.singleLine.append (hspaces _)⟩⟩
  have hstorage : SingleLine (' ' :: ' ' :: r.storage.toList) :=
    List.forall_mem_cons.2 ⟨rfl, List.forall_mem_cons.2 ⟨rfl, hr.storage.singleLine⟩⟩
  have hunits : SingleLine " vCPU ".toList ∧ SingleLine " GiB ".toList ∧
      SingleLine " GHz".toList := by
    decide +kernel
  have hcpus := hname.append (hnumber 3 (not_blank_signed r.cpus))
  have hmemory := (hcpus.append hunits.1).append (hnumber 7 (Binary64.not_blank_sixDigits r.memory))
  have hclock :=
    (hmemory.append hunits.2.1).append (hnumber 0 (Binary64.not_blank_sixDigits r.clockSpeed))
  rw [toList_line]
  exact (hclock.append hunits.2.2).append hstorage

theorem onOneLine_of_ofCells {cells : List String} (hcells : ∀ s ∈ cells, Spaced s.toList)
    (h : ofCells cells = .ok r) : r.OnOneLine := by
  obtain ⟨-, hjudge⟩ := ofCells_eq_ok_iff.1 h
  obtain ⟨c, rfl, -, rfl⟩ := judge_eq_ok_iff.1 hjudge
  exact ⟨hcells c.name (by simp [Columns.texts]), hcells c.storage (by simp [Columns.texts])⟩

end Record

/-- The texts of a record come from the cells of a page, and so are on one line each. -/
theorem Catalog.onOneLine_of_ofPage {page : String} {records : List Record}
    (h : (ofPage page).result = .ok records) : ∀ r ∈ records, r.OnOneLine := by
  intro r hr
  obtain ⟨f, table, -, -, hrows⟩ := exists_rows_of_ofPage h
  obtain ⟨row, -, hrow⟩ := exists_of_mem_mapM (mapM_eq_ok_iff.2 hrows) hr
  refine Record.onOneLine_of_ofCells (fun s hs ↦ ?_) hrow
  obtain ⟨cell, -, rfl⟩ := List.mem_map.1 hs
  exact spaced_oneLine _

/-! ## What is printed -/

namespace Text

variable {c : Char} {s : List Char}

/-- What is left of a text without terminal sequences was there before. -/
theorem Terminal.mem_of_mem_plainFrom {skip : Nat} (h : c ∈ plainFrom skip s) : c ∈ s := by
  fun_induction plainFrom skip s with
  | case1 => exact h
  | case2 skip a s ih => exact List.mem_cons_of_mem a (ih h)
  | case3 a s n hn ih => exact List.mem_cons_of_mem a (ih h)
  | case4 a s hn ih =>
    obtain rfl | h := List.mem_cons.1 h
    · exact List.mem_cons_self
    · exact List.mem_cons_of_mem a (ih h)

theorem singleLine_plain {s : String} (h : SingleLine s.toList) :
    SingleLine (Terminal.plain s).toList := by
  rw [Terminal.plain, String.toList_ofList]
  exact fun c hc ↦ h c (Terminal.mem_of_mem_plainFrom hc)

end Text

namespace Command

variable {records : List Record}

/-- What is printed are the lines of the records, and nothing before, between or after them. -/
theorem linesOf_printed (h : ∀ r ∈ records, r.OnOneLine) :
    linesOf (printed false records).toList =
      records.map (fun r ↦ (Terminal.plain r.line).toList) ++ [[]] := by
  have hprinted : (printed false records).toList =
      (records.map fun r ↦ (Terminal.plain r.line).toList).flatMap (· ++ ['\n']) := by
    have hfalse : printed false records =
        String.join (records.map fun r ↦ printedLine r.line) := rfl
    rw [hfalse, String.toList_join, List.flatMap_map, List.flatMap_map]
    simp only [printedLine, String.toList_append]
    rfl
  rw [hprinted]
  refine linesOf_flatMap fun l hl ↦ ?_
  obtain ⟨r, hr, rfl⟩ := List.mem_map.1 hl
  exact singleLine_plain (Record.singleLine_line (h r hr))

/-! ## Runs -/

/-- The records that a task has to print, of a saved page or of one that is fetched. -/
inductive Gets (s : Settings) (files : Files) (script : Http.Script) (t : Task)
    (records : List Record) : Prop
  | saved {file page : String} {content : Bytes} (hfile : t.file = some file)
    (hcontent : files (Path.parse file) = .ok content) (hpage : pageText content = .ok page)
    (hrecords : (Catalog.ofPage page).result = .ok records)
  | fetched (hfile : t.file = none)
    (hrecords : (Catalog.fetch s none none script).logged.result = .ok records)

variable {s : Settings} {files : Files} {script : Http.Script} {args : List String}
  {verbose : Bool} {task : Task} {level : Nat}

namespace Gets

theorem exists_page (h : Gets s files script task records) :
    ∃ page, (Catalog.ofPage page).result = .ok records := by
  cases h with
  | saved _ _ _ hrecords => exact ⟨_, hrecords⟩
  | fetched _ hrecords => exact Catalog.exists_page_of_fetch hrecords

theorem runTask_eq (h : Gets s files script task records) (level : Nat) : ∃ errors,
    runTask s files script level task =
      ⟨0, some (printed task.json records), some errors, some level, none⟩ := by
  cases h with
  | saved hfile hcontent hpage hrecords =>
    refine ⟨"", ?_⟩
    simp only [runTask, hfile, runFile, hcontent, hpage, hrecords]
    rfl
  | fetched hfile hrecords =>
    refine ⟨notice ("Fetching " ++ quoted s.url ++ " …"), ?_⟩
    simp only [runTask, hfile, runFetch, hrecords]
    rfl

end Gets

/-- A run that prints no JSON prints one line for each record, in their order and with no line
boundary in it.  From such a line all that it shows of its record can be told, among the records of
all pages. -/
theorem table_lines (hargs : Invocation.ofArguments args = .instanceTypes verbose (some task))
    (hjson : task.json = false) (hlevel : levelOf s verbose = .ok level)
    (hgets : Gets s files script task records) :
    (∃ output errors,
      run s files script args = ⟨0, some output, some errors, some level, none⟩ ∧
      linesOf output.toList = records.map (fun r ↦ (Terminal.plain r.line).toList) ++ [[]]) ∧
    ∀ r ∈ records, SingleLine r.line.toList ∧
      ∀ page records', (Catalog.ofPage page).result = .ok records' →
        ∀ r' ∈ records', r.line = r'.line → r.ShownAlike r' := by
  obtain ⟨page, hpage⟩ := hgets.exists_page
  have honeLine := Catalog.onOneLine_of_ofPage hpage
  obtain ⟨errors, hrun⟩ := hgets.runTask_eq level
  refine ⟨⟨printed false records, errors, ?_, linesOf_printed honeLine⟩, fun r hr ↦ ?_⟩
  · rw [hjson] at hrun
    simp only [run, hargs, hlevel, hrun]
  · refine ⟨Record.singleLine_line (honeLine r hr), fun page' records' hpage' r' hr' hline ↦ ?_⟩
    exact Record.line_inj (honeLine r hr) (Catalog.onOneLine_of_ofPage hpage' r' hr') hline

/-- Two rows with units in names and storage, a name beyond its width and a number beyond its. -/
def wordyRows : List (List String) :=
  [["m5.24xlarge  96 vCPU", "+96", "384", "3.1 GHz\n EBS", "", "", "3.10", "", "", "", "", ""],
    ["a", "12345", "1e9", "", "", "", "2", "", "", "", "", ""]]

/-- The page of these rows as a response. -/
def wordyResponse : Http.Response where
  status := 200
  headers := [("Content-Type", "text/html; charset=utf-8")]
  body := Utf8.encode (Page.write wordyRows).toList

theorem exists_records_wordyRows : ∃ records,
    (Catalog.ofPage (Page.write wordyRows)).result = .ok records ∧
      records.map (fun r ↦ Terminal.plain r.line) =
        ["  m5.24xlarge 96 vCPU  96 vCPU      384 GiB  3.1 GHz  3.1 GHz EBS",
          "  a              12345 vCPU    1e+09 GiB  2 GHz  "] := by
  have heval : (wordyRows.mapM fun texts ↦ Record.ofCells (texts.map oneLine)).toOption.map
      (·.map fun r ↦ Terminal.plain r.line) =
        some ["  m5.24xlarge 96 vCPU  96 vCPU      384 GiB  3.1 GHz  3.1 GHz EBS",
          "  a              12345 vCPU    1e+09 GiB  2 GHz  "] := by decide +kernel
  rw [Catalog.result_write_eq, if_neg (by decide)]
  revert heval
  cases wordyRows.mapM fun texts ↦ Record.ofCells (texts.map oneLine) with
  | error e => nofun
  | ok records => exact fun heval ↦ ⟨records, rfl, Option.some.inj heval⟩

theorem table_lines_wordyRows : ∃ output errors,
    run usualSettings (folderOf []).read [.response wordyResponse] ["instance-types"] =
        ⟨0, some output, some errors, some 30, none⟩ ∧
      linesOf output.toList =
        ["  m5.24xlarge 96 vCPU  96 vCPU      384 GiB  3.1 GHz  3.1 GHz EBS".toList,
          "  a              12345 vCPU    1e+09 GiB  2 GHz  ".toList, []] := by
  obtain ⟨records, hpage, hlines⟩ := exists_records_wordyRows
  have hserved : Catalog.Serves usualSettings none none [.response wordyResponse]
      (Page.write wordyRows).toList :=
    Catalog.serves_of_response rfl (by decide +kernel) rfl rfl rfl rfl (by decide +kernel)
      (by simp only [wordyResponse])
  have hrecords := Catalog.result_of_serves hserved
  rw [String.ofList_toList, hpage] at hrecords
  have hargs : Invocation.ofArguments ["instance-types"] = .instanceTypes false (some {}) := by
    decide +kernel
  have hlevel : levelOf usualSettings false = .ok 30 := rfl
  have hgets : Gets usualSettings (folderOf []).read [.response wordyResponse] {} records :=
    .fetched rfl hrecords
  obtain ⟨⟨output, errors, hrun, houtput⟩, -⟩ := table_lines hargs rfl hlevel hgets
  refine ⟨output, errors, hrun, ?_⟩
  have hshown := congrArg (List.map String.toList) hlines
  rw [List.map_map] at hshown
  rw [houtput]
  exact congrArg (· ++ [[]]) hshown

end Command

end InstanceCatalog
