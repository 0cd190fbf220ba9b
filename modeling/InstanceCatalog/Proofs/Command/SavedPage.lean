import InstanceCatalog.Proofs.Catalog.Declared
import InstanceCatalog.Proofs.Catalog.Finite
import InstanceCatalog.Proofs.Numeral.Digits
import InstanceCatalog.Proofs.Text.Utf8

/-! # Runs on a saved page

Whatever the bytes of a file are, a run on it prints all of a catalog or nothing.  It says why
nothing was printed, except for bytes that are no text and for pages that meet more digits than are
converted: on these, and on no others, it crashes. -/

namespace InstanceCatalog

open Text Numeral

/-! ## Printing records -/

/-- The number of processors has no more digits than are converted, so that it can be printed. -/
def Record.Printable (r : Record) : Prop := (digits r.cpus.natAbs).length ≤ digitLimit

theorem Numeral.natAbs_integerValue_lt (s : List Char) :
    (integerValue s).natAbs < 10 ^ (s.filter isAsciiDigit).length := by
  have hlt : ofDigits (s.filter isAsciiDigit) < 10 ^ (s.filter isAsciiDigit).length :=
    ofDigits_lt fun _ hc ↦ List.of_mem_filter hc
  rw [integerValue, applySign]
  split
  · rwa [Int.natAbs_neg, Int.natAbs_natCast]
  · rwa [Int.natAbs_natCast]

theorem Record.printable_of_ofCells {cells : List String} {r : Record}
    (h : ofCells cells = .ok r) : r.Printable := by
  obtain ⟨hnone, hj⟩ := ofCells_eq_ok_iff.1 h
  obtain ⟨c, rfl, hc, rfl⟩ := judge_eq_ok_iff.1 hj
  have hdigits : (c.cpus.toList.filter isAsciiDigit).length ≤ digitLimit := by
    by_contra hlt
    exact hnone _ (overlong_texts_iff.2 ⟨hc.name_ne, hc.cpus, rfl, not_le.1 hlt⟩)
  rw [Printable, length_digits_le_iff (by decide)]
  exact (natAbs_integerValue_lt _).trans_le (Nat.pow_le_pow_right (by decide) hdigits)

theorem Catalog.printable_of_ofPage {page : String} {records : List Record}
    (h : (ofPage page).result = .ok records) : ∀ r ∈ records, r.Printable := by
  obtain ⟨f, table, -, -, hrows⟩ := exists_rows_of_ofPage h
  have hread : List.Forall₂ (fun _ r ↦ True ↔ Record.Printable r) _ records :=
    hrows.imp fun _ _ h ↦ iff_of_true trivial (Record.printable_of_ofCells h)
  exact (forall_iff_of_forall₂ hread).1 fun _ _ ↦ trivial

namespace Command

/-! ## Ends of a run -/

namespace Outcome

variable (o : Outcome)

/-- The run printed all of a catalog, and nothing else.  What `printed` shows of the records is told
by `ofText?_printed` for JSON and by `table_lines` for the table. -/
structure Prints (json : Bool) (records : List Record) : Prop where
  exit : o.exit = 0
  output : o.output = some (printed json records)
  errors : o.errors = some ""
  crash : o.crash = none
  printable : ∀ r ∈ records, r.Printable

/-- The run printed nothing, and said on the error stream what is wrong. -/
structure Reports : Prop where
  exit : o.exit = 1
  output : o.output = some ""
  errors : ∃ reason, o.errors = some ("[instance-types] Error: " ++ reason ++ "\n")
  crash : o.crash = none

/-- The run printed nothing and did not end by itself. -/
structure Crashes : Prop where
  exit : o.exit = 1
  output : o.output = some ""
  errors : o.errors = some ""
  crash : o.crash.isSome = true

end Outcome

theorem exists_notice_error (text : String) :
    ∃ reason, notice ("Error: " ++ text) = "[instance-types] Error: " ++ reason ++ "\n" := by
  refine ⟨Terminal.plain text, ?_⟩
  rw [notice, printedLine, ← String.append_assoc, Terminal.plain_append (by decide)]
  rfl

theorem reports_conclude (json : Bool) (level : Nat) (e : ScrapeError) :
    (conclude json "" level (.error (.declared e))).Reports := by
  obtain ⟨reason, hreason⟩ := exists_notice_error e.text
  have herrors : (conclude json "" level (.error (.declared e))).errors =
      some (notice ("Error: " ++ e.text)) := by
    rw [conclude, String.empty_append]
  exact ⟨rfl, rfl, ⟨reason, herrors.trans (congrArg some hreason)⟩, rfl⟩

/-! ## Saved pages -/

/-- The page that a saved text is read as. -/
def pageOf (text : List Char) : String := String.ofList (unifyLineBreaks text)

theorem pageText_encode (text : List Char) : pageText (Utf8.encode text) = .ok (pageOf text) := by
  rw [pageText, Utf8.decode_encode]
  rfl

/-- Bytes that are no text, or the text of a page that meets more digits than are converted. -/
def Unreadable (content : Bytes) : Prop :=
  (∀ text, content ≠ Utf8.encode text) ∨
    ∃ text n, content = Utf8.encode text ∧ Catalog.MeetsOverlong (pageOf text) n

theorem unreadable_encode {text : List Char} : Unreadable (Utf8.encode text) ↔
    ∃ n, (Catalog.ofPage (pageOf text)).result = .error (.tooManyDigits n) := by
  simp only [Catalog.result_ofPage_eq_tooManyDigits_iff]
  constructor
  · rintro (hno | ⟨text', n, htext, hn⟩)
    · exact absurd rfl (hno text)
    · cases Utf8.encode_injective htext
      exact ⟨n, hn⟩
  · rintro ⟨n, hn⟩
    exact .inr ⟨text, n, rfl, hn⟩

variable {s : Settings} {files : Files} {script : Http.Script} {args : List String}
variable {verbose : Bool} {task : Task} {file : String} {content : Bytes} {level : Nat}

theorem run_eq_runFile (hargs : Invocation.ofArguments args = .instanceTypes verbose (some task))
    (hfile : task.file = some file) (hlevel : levelOf s verbose = .ok level) :
    run s files script args = runFile files task.json level file := by
  simp only [run, hargs, hlevel, runTask, hfile]

theorem runFile_malformed {json : Bool} {m : Utf8.Malformed}
    (hcontent : files (Path.parse file) = .ok content) (hm : Utf8.decode content = .error m) :
    runFile files json level file = .crashed "" (some level) (.malformedFile m) := by
  simp only [runFile, hcontent, pageText, hm]
  rfl

theorem runFile_encode {json : Bool} {text : List Char}
    (hcontent : files (Path.parse file) = .ok (Utf8.encode text)) :
    runFile files json level file =
      conclude json "" level (Catalog.ofPage (pageOf text)).result := by
  simp only [runFile, hcontent, pageText_encode]

/-- A run on a saved page, with logging set up, prints the catalog or says why it does not, and
crashes on unreadable bytes alone. -/
theorem run_savedPage (hargs : Invocation.ofArguments args = .instanceTypes verbose (some task))
    (hfile : task.file = some file) (hcontent : files (Path.parse file) = .ok content)
    (hlevel : levelOf s verbose = .ok level) :
    (¬ Unreadable content ∧ ∃ text, content = Utf8.encode text ∧
      ((∃ records, (Catalog.ofPage (pageOf text)).result = .ok records ∧
          (run s files script args).Prints task.json records) ∨
        (∃ e, (Catalog.ofPage (pageOf text)).result = .error (.declared e) ∧
          (run s files script args).Reports))) ∨
    (Unreadable content ∧ (run s files script args).Crashes) := by
  rw [run_eq_runFile hargs hfile hlevel]
  cases hdecode : Utf8.decode content with
  | error m =>
    rw [runFile_malformed hcontent hdecode]
    refine .inr ⟨.inl ?_, rfl, rfl, rfl, rfl⟩
    rintro text rfl
    rw [Utf8.decode_encode] at hdecode
    cases hdecode
  | ok text =>
    obtain rfl := Utf8.decode_eq_ok_iff.1 hdecode
    rw [runFile_encode hcontent, unreadable_encode]
    cases hresult : (Catalog.ofPage (pageOf text)).result with
    | ok records =>
      refine .inl ⟨?_, text, rfl, .inl ⟨records, hresult, rfl, rfl, rfl, rfl, ?_⟩⟩
      · rintro ⟨n, ⟨⟩⟩
      · exact Catalog.printable_of_ofPage hresult
    | error x =>
      obtain ⟨e, rfl, -⟩ | ⟨n, -, rfl⟩ := Catalog.result_ofPage_error hresult
      · refine .inl ⟨?_, text, rfl, .inr ⟨e, hresult, reports_conclude ..⟩⟩
        rintro ⟨n, ⟨⟩⟩
      · exact .inr ⟨⟨n, rfl⟩, rfl, rfl, rfl, rfl⟩

/-- A folder with one page. -/
def folderOf (content : Bytes) : Folder := ⟨[(["page.html"], .file content)]⟩

def pageArguments : List String := ["instance-types", "--file", "page.html"]

def usualSettings : Settings where
  url := "https://aws.amazon.com/ec2/instance-types/"
  timeout := .finite false 8444249301319680 (-48)
  retries := 2
  userAgent := "resize-bot"
  logLevel := "WARNING"

/-- A run on the page of such a folder. -/
def runOn (content : Bytes) : Outcome :=
  run usualSettings (folderOf content).read [] pageArguments

theorem ofArguments_pageArguments : Invocation.ofArguments pageArguments =
    .instanceTypes false (some { file := some "page.html" }) := by
  decide +kernel

theorem read_folderOf (content : Bytes) :
    (folderOf content).read (Path.parse "page.html") = .ok content := rfl

/-- A page without a section, in letters of one, two and three bytes. -/
def oddPage : List Char := "<p>Größe: 3 €".toList

theorem run_savedPage_oddPage :
    Invocation.ofArguments pageArguments =
        .instanceTypes false (some { file := some "page.html" }) ∧
      (folderOf (Utf8.encode oddPage)).read (Path.parse "page.html") =
        .ok (Utf8.encode oddPage) ∧
      levelOf usualSettings false = .ok 30 ∧
      (¬ Unreadable (Utf8.encode oddPage) ∧ (∃ text, Utf8.encode oddPage = Utf8.encode text ∧
        ((∃ records, (Catalog.ofPage (pageOf text)).result = .ok records ∧
          (runOn (Utf8.encode oddPage)).Prints false records) ∨
        (∃ e, (Catalog.ofPage (pageOf text)).result = .error (.declared e) ∧
          (runOn (Utf8.encode oddPage)).Reports))) ∨
      (Unreadable (Utf8.encode oddPage) ∧ (runOn (Utf8.encode oddPage)).Crashes)) :=
  ⟨ofArguments_pageArguments, read_folderOf _, rfl,
    run_savedPage ofArguments_pageArguments rfl (read_folderOf _) rfl⟩

/-- A byte that starts no character ends a run as a crash. -/
theorem crashes_malformed : (runOn [0xFF]).Crashes ∧ ¬ (runOn [0xFF]).Reports ∧
    ∀ records, ¬ (runOn [0xFF]).Prints false records := by
  have hrun : runOn [0xFF] =
      .crashed "" (some 30) (.malformedFile ⟨0xFF, 0, 1, .badStart⟩) := rfl
  rw [hrun]
  refine ⟨⟨rfl, rfl, rfl, rfl⟩, fun h ↦ ?_, fun records h ↦ ?_⟩
  · cases h.crash
  · cases h.crash

end Command

end InstanceCatalog
