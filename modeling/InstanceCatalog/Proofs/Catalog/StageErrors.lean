import InstanceCatalog.Catalog.Fetch
import InstanceCatalog.Proofs.Catalog.Rows
import InstanceCatalog.Proofs.Markup.Overlong

/-! # The errors of a stage

Each kind of declared error belongs to the one stage whose work can come to it.  To look around in a
document declares nothing at all, so what a stage declares is what it says itself. -/

namespace InstanceCatalog

/-- The declared errors that the work of a stage can come to. -/
def Stage.Raises : Stage → ScrapeError → Prop
  | .fetching, .fetch .. | .fetching, .badStatus .. => True
  | .parsing, .rejectedMarkup _ => True
  | .locatingSection, .anchorNotFound _ | .locatingSection, .headerNotFound .. => True
  | .locatingSection, .tableNotFound _ => True
  | .enumeratingRows, .tableTooSmall .. => True
  | .parsingRows, .columnCount .. | .parsingRows, .emptyField _ => True
  | .parsingRows, .notANumber .. => True
  | _, _ => False

/-- The declared errors that a computation ends in are among some. -/
def DeclaresOnly {α : Type} (P : ScrapeError → Prop) (x : Except Failure α) : Prop :=
  ∀ e, x = .error (.declared e) → P e

variable {α β : Type} {P : ScrapeError → Prop}

namespace DeclaresOnly

theorem ok (a : α) : DeclaresOnly P (.ok a) := nofun

theorem declared {e : ScrapeError} (h : P e) :
    DeclaresOnly P (.error (.declared e) : Except _ α) := by
  rintro _ ⟨⟩
  exact h

theorem map {x : Except Failure α} (h : DeclaresOnly P x) (f : α → β) :
    DeclaresOnly P (x.map f) := by
  intro e he
  cases x with
  | ok a => cases he
  | error y => cases he; exact h e rfl

theorem bind_of_ok {x : Except Failure α} {f : α → Except Failure β} (hx : DeclaresOnly P x)
    (hf : ∀ a, x = .ok a → DeclaresOnly P (f a)) : DeclaresOnly P (x >>= f) := by
  intro e he
  cases x with
  | ok a => exact hf a rfl e he
  | error y => cases he; exact hx e rfl

theorem bind {x : Except Failure α} {f : α → Except Failure β} (hx : DeclaresOnly P x)
    (hf : ∀ a, DeclaresOnly P (f a)) : DeclaresOnly P (x >>= f) :=
  hx.bind_of_ok fun a _ ↦ hf a

theorem mapM {f : α → Except Failure β} (h : ∀ a, DeclaresOnly P (f a)) (xs : List α) :
    DeclaresOnly P (xs.mapM f) := by
  induction xs with
  | nil => exact ok []
  | cons x xs ih =>
    rw [List.mapM_cons]
    exact (h x).bind fun _ ↦ ih.bind fun _ ↦ ok _

end DeclaresOnly

/-! ## Documents -/

namespace Document

variable (d : Document) (h : Handle)

theorem declaresOnly_get : DeclaresOnly P (d.get h) := by
  intro e he
  rw [get] at he
  split at he <;> cases he

theorem declaresOnly_descendants : DeclaresOnly P (d.descendants h) :=
  (declaresOnly_get d h).map _

theorem declaresOnly_findAll (m : Matcher) : DeclaresOnly P (d.findAll h m) :=
  (declaresOnly_descendants d h).map _

theorem declaresOnly_findFirst (m : Matcher) : DeclaresOnly P (d.findFirst h m) :=
  (declaresOnly_descendants d h).map _

theorem declaresOnly_hasClasses (wanted : List String) : DeclaresOnly P (d.hasClasses wanted h) :=
  ((declaresOnly_get d h).map _).map _ |>.map _

theorem declaresOnly_followingSiblings : DeclaresOnly P (d.followingSiblings h) :=
  (declaresOnly_get d h).map _

theorem declaresOnly_text : DeclaresOnly P (d.text h) :=
  (declaresOnly_descendants d h).map _

/-- The text of a node is on one line, in whatever document. -/
theorem exists_oneLine_of_text {text : String} (ht : d.text h = .ok text) :
    ∃ s, text = Text.oneLine s := by
  rw [Document.text] at ht
  cases hs : d.descendants h with
  | error e => rw [hs] at ht; cases ht
  | ok hs' =>
    rw [hs] at ht
    exact ⟨_, (Except.ok.inj ht).symm⟩

end Document

/-! ## The work of the stages -/

namespace Page

variable {url : String}

theorem declaresOnly_failureOf (h : ∀ reason, P (.fetch url reason)) (t : Http.Trouble) :
    DeclaresOnly P (.error (failureOf url t) : Except _ Page) := by
  cases t with
  | mistake m => nofun
  | fault f =>
    rw [failureOf]
    split
    · exact .declared (h _)
    · nofun

theorem declaresOnly_ofResponse (h : ∀ status, P (.badStatus status url)) (r : Http.Response) :
    DeclaresOnly P (ofResponse url r) := by
  rw [ofResponse]
  split
  · exact .declared (h _)
  · cases r.text with
    | ok html => exact .ok _
    | error f => nofun

theorem declaresOnly_fetch (hfetch : ∀ reason, P (.fetch url reason))
    (hstatus : ∀ status, P (.badStatus status url)) (c : Http.Client) (script : Http.Script) :
    DeclaresOnly P (fetch c url script).logged.result := by
  simp only [fetch]
  cases (c.send url script).outcome with
  | error t => exact declaresOnly_failureOf hfetch t
  | ok r => exact declaresOnly_ofResponse hstatus r

end Page

theorem Document.declaresOnly_ofMarkup (h : ∀ reason, P (.rejectedMarkup reason)) (page : String) :
    DeclaresOnly P (ofMarkup page) := by
  refine DeclaresOnly.map (DeclaresOnly.map ?_ _) _
  intro e he
  obtain ⟨n, -, hn⟩ | ⟨reason, hreason⟩ := Markup.tokens_error he
  · cases hn
  · cases hreason
    exact h reason

namespace Section

variable (d : Document)

theorem declaresOnly_firstWith (wanted : List String) (hs : List Handle) :
    DeclaresOnly P (firstWith d wanted hs) := by
  induction hs with
  | nil => exact .ok none
  | cons h hs ih =>
    refine (d.declaresOnly_hasClasses h wanted).bind fun found ↦ ?_
    cases found with
    | true => exact .ok _
    | false => exact ih

theorem declaresOnly_locate {anchor : String} (hanchor : P (.anchorNotFound anchor))
    (hheader : P (.headerNotFound anchor headerClasses))
    (htable : P (.tableNotFound tableClasses)) :
    DeclaresOnly P (locate d anchor) := by
  refine (d.declaresOnly_findFirst Document.root _).bind fun found ↦ ?_
  cases found with
  | none => exact .declared hanchor
  | some a =>
    refine (declaresOnly_firstWith d headerClasses _).bind fun found ↦ ?_
    cases found with
    | none => exact .declared hheader
    | some header =>
      refine (d.declaresOnly_followingSiblings header).bind fun hs ↦ ?_
      refine (declaresOnly_firstWith d tableClasses hs).bind fun found ↦ ?_
      cases found with
      | none => exact .declared htable
      | some table => exact .ok table

end Section

theorem Catalog.declaresOnly_rows (h : ∀ n, P (.tableTooSmall leastRows n)) (d : Document)
    (table : Handle) : DeclaresOnly P (rows d table) := by
  refine (d.declaresOnly_findAll table _).bind fun hs ↦ ?_
  by_cases hlength : hs.length < leastRows
  · rw [if_pos hlength]
    exact .declared (h _)
  · rw [if_neg hlength]
    exact .ok hs

namespace Cell

variable {field text : String}

theorem declaresOnly_integer (h : P (.notANumber field text)) :
    DeclaresOnly P (integer field text) := by
  rw [integer]
  split
  · exact .ok _
  · exact .declared h
  · nofun

theorem declaresOnly_decimal (h : P (.notANumber field text)) :
    DeclaresOnly P (decimal field text) := by
  rw [decimal]
  split
  · exact .ok _
  · exact .declared h

end Cell

namespace Record

/-- The fields that are numbers. -/
def numberFields : List String := ["CPUs", "Memory", "ClockSpeed"]

theorem declaresOnly_ofCells {cells : List String} (hcount : ∀ n, P (.columnCount columns n))
    (hname : P (.emptyField "Name"))
    (hnumber : ∀ field ∈ numberFields, ∀ text ∈ cells, P (.notANumber field text)) :
    DeclaresOnly P (ofCells cells) := by
  unfold ofCells
  split
  · split
    · exact .declared hname
    · refine (Cell.declaresOnly_integer (hnumber _ (by decide) _ (by simp))).bind fun cpus ↦ ?_
      refine (Cell.declaresOnly_decimal (hnumber _ (by decide) _ (by simp))).bind fun memory ↦ ?_
      refine (Cell.declaresOnly_decimal (hnumber _ (by decide) _ (by simp))).bind fun speed ↦ ?_
      exact .ok _
  · exact .declared (hcount _)

theorem declaresOnly_ofRow (hcount : ∀ n, P (.columnCount columns n))
    (hname : P (.emptyField "Name"))
    (hnumber : ∀ field ∈ numberFields, ∀ text, P (.notANumber field (Text.oneLine text)))
    (d : Document) (row : Handle) : DeclaresOnly P (ofRow d row) := by
  refine (d.declaresOnly_findAll row _).bind fun cells ↦ ?_
  refine (DeclaresOnly.mapM d.declaresOnly_text cells).bind_of_ok fun texts htexts ↦ ?_
  refine declaresOnly_ofCells hcount hname fun field hfield text hmem ↦ ?_
  obtain ⟨cell, -, htext⟩ := exists_of_mem_mapM htexts hmem
  obtain ⟨s, rfl⟩ := d.exists_oneLine_of_text cell htext
  exact hnumber field hfield s

end Record

end InstanceCatalog
