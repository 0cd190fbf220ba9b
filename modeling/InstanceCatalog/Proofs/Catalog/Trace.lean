import InstanceCatalog.Proofs.Catalog.OfForest
import InstanceCatalog.Proofs.Catalog.StageErrors
import InstanceCatalog.Proofs.Text.Run

/-! # The trace of a scrape

The log of a call tells how far it came: which stages were entered, in their one order, and which of
them failed.  Computations that pass through some stages are closed under `bind`, so that the trace
of the whole call comes from that of each stage. -/

namespace InstanceCatalog

/-! ## What lines tell -/

namespace LogLine

/-- The name of the stage that a line announces: what follows its mark, up to a space. -/
def stage? (l : LogLine) : Option String :=
  if l.level = .debug ∧ "stage=".toList <+: l.message.toList then
    some (String.ofList ((l.message.toList.drop 6).takeWhile (· != ' ')))
  else none

def isWarning (l : LogLine) : Bool := l.level = .warning

end LogLine

/-- The lines announce some stages in this order, and warn of nothing. -/
structure Announces (lines : List LogLine) (ss : List Stage) : Prop where
  stages : lines.filterMap LogLine.stage? = ss.map Stage.name
  quiet : lines.filter LogLine.isWarning = []

namespace Announces

variable {lines lines' : List LogLine} {ss ts : List Stage}

theorem nil : Announces [] [] := ⟨rfl, rfl⟩

theorem append (h : Announces lines ss) (h' : Announces lines' ts) :
    Announces (lines ++ lines') (ss ++ ts) where
  stages := by rw [List.filterMap_append, h.stages, h'.stages, List.map_append]
  quiet := by rw [List.filter_append, h.quiet, h'.quiet, List.append_nil]

theorem info (message : String) : Announces [⟨.info, message⟩] [] := ⟨rfl, rfl⟩

end Announces

namespace Stage

/-- The stages in the order in which a scrape passes through them. -/
def order : List Stage :=
  [.idle, .fetching, .parsing, .locatingSection, .enumeratingRows, .parsingRows, .done]

theorem name_injective : Function.Injective name := by
  intro s t h
  cases s <;> cases t <;> first | rfl | exact absurd h (by decide)

theorem ne_space_of_mem_name (s : Stage) : ∀ c ∈ s.name.toList, (c != ' ') = true := by
  have hall : s.name.toList.all (· != ' ') = true := by cases s <;> rfl
  exact List.all_eq_true.1 hall

/-- Whatever more a line says behind a space, it announces its stage. -/
theorem announces (s : Stage) {more : String} (h : ∀ c ∈ more.toList.head?, c = ' ') :
    Announces [⟨.debug, "stage=" ++ s.name ++ more⟩] [s] where
  stages := by
    have hname : (s.name.toList ++ more.toList).takeWhile (· != ' ') = s.name.toList := by
      refine Text.takeWhile_run s.ne_space_of_mem_name fun c hc ↦ ?_
      rw [h c hc]
      rfl
    have hmessage : ("stage=" ++ s.name ++ more).toList =
        "stage=".toList ++ (s.name.toList ++ more.toList) := by
      rw [String.toList_append, String.toList_append, List.append_assoc]
    have hdrop : ("stage=" ++ s.name ++ more).toList.drop 6 = s.name.toList ++ more.toList := by
      rw [hmessage]
      rfl
    have hstage : LogLine.stage? ⟨.debug, "stage=" ++ s.name ++ more⟩ = some s.name := by
      rw [LogLine.stage?, if_pos ⟨rfl, hmessage ▸ List.prefix_append ..⟩, hdrop, hname,
        String.ofList_toList]
    rw [List.filterMap_cons_some hstage]
    rfl
  quiet := rfl

example : LogLine.stage? ⟨.debug, "stage=fetching url=a b"⟩ = some "fetching" := by decide

/-- What is logged of a failure in a stage. -/
def report (s : Stage) : Failure → List LogLine
  | .declared e => [s.failed e]
  | _ => []

theorem filterMap_report (s : Stage) (f : Failure) :
    (s.report f).filterMap LogLine.stage? = [] := by
  cases f <;> rfl

theorem filter_report (s : Stage) (f : Failure) :
    (s.report f).filter LogLine.isWarning = s.report f := by
  cases f <;> rfl

/-- A stage can fail in this way. -/
def FailsWith (s : Stage) (f : Failure) : Prop := s ≠ .done ∧ ∀ e, f = .declared e → s.Raises e

end Stage

/-! ## Passing through stages -/

namespace Logged

variable {α β : Type} {ss ts : List Stage} {x : Logged α}

/-- A computation enters some stages one after the other.  It succeeds after all of them, without a
warning, or it fails in one of them, which it then reports. -/
inductive Passes (ss : List Stage) (x : Logged α) : Prop
  | ok (a : α) (hresult : x.result = .ok a) (hlog : Announces x.log ss)
  | failed (before after : List Stage) (s : Stage) (f : Failure) (lines : List LogLine)
      (hstages : ss = before ++ s :: after) (hresult : x.result = .error f) (hf : s.FailsWith f)
      (hlog : x.log = lines ++ s.report f) (hlines : Announces lines (before ++ [s]))

theorem Passes.bind {f : α → Logged β} (hx : x.Passes ss) (hf : ∀ a, (f a).Passes ts) :
    (x >>= f).Passes (ss ++ ts) := by
  cases hx with
  | ok a hresult hlog =>
    rw [bind_of_ok hresult]
    cases hf a with
    | ok b hresult' hlog' => exact .ok b hresult' (hlog.append hlog')
    | failed before after s f lines hstages hresult' hf hlog' hlines =>
      refine .failed (ss ++ before) after s f (x.log ++ lines) ?_ hresult' hf ?_ ?_
      · rw [hstages, List.append_assoc]
      · rw [hlog', List.append_assoc]
      · rw [List.append_assoc]
        exact hlog.append hlines
  | failed before after s f lines hstages hresult hf hlog hlines =>
    rw [bind_of_error hresult]
    refine .failed before (after ++ ts) s f lines ?_ rfl hf hlog hlines
    rw [hstages, List.append_assoc, List.cons_append]

/-- A stage that is announced, whatever comes of it, and watched. -/
theorem passes_onDeclared {s : Stage} (hlog : Announces x.log [s])
    (hf : ∀ f, x.result = .error f → s.FailsWith f) : (x.onDeclared s.failed).Passes [s] := by
  cases hresult : x.result with
  | ok a =>
    have heq : x.onDeclared s.failed = x := by rw [onDeclared, hresult]
    rw [heq]
    exact .ok a hresult hlog
  | error f =>
    refine .failed [] [] s f x.log rfl ?_ (hf f hresult) ?_ hlog
    · rw [result_onDeclared, hresult]
    · rw [onDeclared, hresult]
      cases f with
      | declared e => rfl
      | _ => exact (List.append_nil x.log).symm

theorem passes_perform {s : Stage} {work : Except Failure α} {more : String} (hs : s ≠ .done)
    (hwork : DeclaresOnly s.Raises work) (hmore : ∀ c ∈ more.toList.head?, c = ' ') :
    (s.perform work more).Passes [s] := by
  refine passes_onDeclared (s.announces hmore) fun f hf ↦ ⟨hs, ?_⟩
  rintro e rfl
  exact hwork e hf

theorem passes_announce (s : Stage) : (s.announce).Passes [s] := .ok () rfl (s.announces nofun)

end Logged

namespace Catalog

open Logged

theorem passes_ofDocument (d : Document) :
    (ofDocument d).Passes [.locatingSection, .enumeratingRows, .parsingRows] := by
  have hlocate : DeclaresOnly Stage.locatingSection.Raises (Section.locate d) :=
    Section.declaresOnly_locate d trivial trivial trivial
  have hrows (table : Handle) : DeclaresOnly Stage.enumeratingRows.Raises (rows d table) :=
    declaresOnly_rows (fun _ ↦ trivial) d table
  have hrow : ∀ row, DeclaresOnly Stage.parsingRows.Raises (Record.ofRow d row) :=
    Record.declaresOnly_ofRow (fun _ ↦ trivial) trivial (fun _ _ _ ↦ trivial) d
  refine (passes_perform (by decide) hlocate (by simp)).bind fun table ↦ ?_
  refine (passes_perform (by decide) (hrows table) (by simp)).bind fun rs ↦ ?_
  exact passes_perform (by decide) (DeclaresOnly.mapM hrow _) (by simp)

theorem passes_ofPage (page : String) :
    (ofPage page).Passes [.parsing, .locatingSection, .enumeratingRows, .parsingRows, .done] := by
  have hparse : DeclaresOnly Stage.parsing.Raises (Document.ofMarkup page) :=
    Document.declaresOnly_ofMarkup (fun _ ↦ trivial) page
  refine (passes_perform (by decide) hparse (by simp)).bind fun d ↦ ?_
  refine (passes_ofDocument d).bind fun records ↦ ?_
  exact (passes_announce .done).bind fun _ ↦ .ok records rfl .nil

end Catalog

theorem Page.passes_fetch (c : Http.Client) (url : String) (script : Http.Script) :
    ((Page.fetch c url script).logged.onDeclared Stage.fetching.failed).Passes [.fetching] := by
  have hannounce : Announces [⟨.debug, "stage=" ++ Stage.fetching.name ++ (" url=" ++ url)⟩]
      [.fetching] := Stage.announces _ (by simp)
  refine Logged.passes_onDeclared ?_ ?_
  · simp only [Page.fetch]
    cases (c.send url script).outcome with
    | error t => exact hannounce
    | ok r => exact hannounce.append (.info _)
  · intro f hf
    refine ⟨by decide, ?_⟩
    rintro e rfl
    exact declaresOnly_fetch (fun _ ↦ trivial) (fun _ ↦ trivial) c script e hf

/-! ## The last line -/

namespace Logged

variable {α β : Type}

/-- If a computation succeeds, its last line is one about its result. -/
def EndsWith (x : Logged α) (last : α → LogLine) : Prop :=
  ∀ a, x.result = .ok a → x.log.getLast? = some (last a)

theorem EndsWith.bind {x : Logged α} {f : α → Logged β} {last : β → LogLine}
    (h : ∀ a, (f a).EndsWith last) : (x >>= f).EndsWith last := by
  intro b hb
  cases hresult : x.result with
  | error e =>
    rw [bind_of_error hresult] at hb
    cases hb
  | ok a =>
    rw [bind_of_ok hresult] at hb ⊢
    rw [List.getLast?_append, h a b hb, Option.some_or]

end Logged

namespace Catalog

/-- The last line of a call that returns. -/
def countLine (url : String) (records : List Record) : LogLine :=
  ⟨.info, "Scraped " ++ Numeral.decimal records.length ++ " instance types from " ++ url⟩

theorem passes_ofFetched {url : String} {page : Logged Page}
    (h : (page.onDeclared Stage.fetching.failed).Passes [.fetching]) :
    (ofFetched url page).Passes Stage.order := by
  refine (Logged.passes_announce .idle).bind fun _ ↦ ?_
  refine h.bind fun page ↦ ?_
  refine (passes_ofPage page.html).bind fun records ↦ ?_
  exact .ok records rfl (.info _)

theorem endsWith_ofFetched (url : String) (page : Logged Page) :
    (ofFetched url page).EndsWith (countLine url) := by
  refine .bind fun _ ↦ .bind fun page ↦ .bind fun records ↦ ?_
  rintro _ ⟨⟩
  rfl

/-! ## The whole call -/

/-- What the log of a call for the catalog at an address tells about its end. -/
structure Traced (url : String) (x : Logged (List Record)) : Prop where
  /-- The stages are entered in their order, none is left out, and none is entered twice. -/
  ordered : x.log.filterMap LogLine.stage? <+: Stage.order.map Stage.name
  once : (x.log.filterMap LogLine.stage?).Nodup
  /-- To return is to come to the last stage. -/
  returns_iff : (∃ records, x.result = .ok records) ↔
    Stage.done.name ∈ x.log.filterMap LogLine.stage?
  counted : ∀ records, x.result = .ok records →
    x.log.getLast? = some (countLine url records) ∧ x.log.filter LogLine.isWarning = []
  /-- A declared error belongs to the stage entered last.  The one warning names this stage and ends
  with the text of the error. -/
  warned : ∀ e, x.result = .error (.declared e) → ∃ (s : Stage) (warning : LogLine), s.Raises e ∧
    (x.log.filterMap LogLine.stage?).getLast? = some s.name ∧
    warning = ⟨.warning, "Instance type scrape failed while " ++ s.name ++ ": " ++ e.text⟩ ∧
    x.log.getLast? = some warning ∧ x.log.filter LogLine.isWarning = [warning]
  unwarned : ∀ f, x.result = .error f → f.isDeclared = false →
    x.log.filter LogLine.isWarning = []

variable {url : String} {x : Logged (List Record)}

theorem nodup_order : (Stage.order.map Stage.name).Nodup := by decide

/-- A stage that can fail is not the last one, and neither is any before it. -/
theorem done_notMem_of_failsWith {before after : List Stage} {s : Stage} {f : Failure}
    (h : Stage.order = before ++ s :: after) (hf : s.FailsWith f) :
    Stage.done.name ∉ (before ++ [s]).map Stage.name := by
  rw [List.mem_map_of_injective Stage.name_injective]
  have hentered : before ++ [s] <+: Stage.order.dropLast ++ [.done] :=
    ⟨after, by rw [List.append_assoc, List.singleton_append, ← h]; rfl⟩
  rcases List.prefix_concat_iff.1 hentered with heq | hbefore
  · exact absurd (List.append_inj_right' heq rfl) (by simpa using hf.1)
  · intro hdone
    exact absurd (hbefore.subset hdone) (by decide)

theorem traced_of_passes (h : x.Passes Stage.order) (hlast : x.EndsWith (countLine url)) :
    Traced url x := by
  cases h with
  | ok records hresult hlog =>
    exact {
      ordered := hlog.stages ▸ List.prefix_rfl
      once := hlog.stages ▸ nodup_order
      returns_iff := iff_of_true ⟨records, hresult⟩ (hlog.stages ▸ by decide)
      counted := fun records h ↦ ⟨hlast records h, hlog.quiet⟩
      warned := fun e h ↦ by rw [hresult] at h; cases h
      unwarned := fun f h ↦ by rw [hresult] at h; cases h }
  | failed before after s f lines horder hresult hf hlog hlines =>
    have hstages : x.log.filterMap LogLine.stage? = (before ++ [s]).map Stage.name := by
      rw [hlog, List.filterMap_append, hlines.stages, s.filterMap_report, List.append_nil]
    have hwarnings : x.log.filter LogLine.isWarning = s.report f := by
      rw [hlog, List.filter_append, hlines.quiet, s.filter_report, List.nil_append]
    have hentered : (before ++ [s]).map Stage.name <+: Stage.order.map Stage.name := by
      refine List.IsPrefix.map _ ⟨after, ?_⟩
      rw [horder, List.append_assoc, List.singleton_append]
    refine {
      ordered := hstages ▸ hentered
      once := hstages ▸ nodup_order.sublist hentered.sublist
      returns_iff := ?_
      counted := fun records h ↦ by rw [hresult] at h; cases h
      warned := ?_
      unwarned := ?_ }
    · refine iff_of_false ?_ (hstages ▸ done_notMem_of_failsWith horder hf)
      rintro ⟨records, h⟩
      rw [hresult] at h
      cases h
    · intro e he
      cases hresult.symm.trans he
      refine ⟨s, s.failed e, hf.2 e rfl, ?_, rfl, ?_, hwarnings⟩
      · rw [hstages, List.map_append]
        exact List.getLast?_concat
      · rw [hlog]
        exact List.getLast?_concat
    · intro f' hf' hdeclared
      cases hresult.symm.trans hf'
      rw [hwarnings]
      cases f with
      | declared e => cases hdeclared
      | _ => rfl

/-- A call that does not come to its client logs nothing. -/
theorem traced_unmade (s : Settings) (f : Text.NotAscii) (script : Http.Script) :
    Traced url (Visit.unmade s f script).logged where
  ordered := List.nil_prefix
  once := List.nodup_nil
  returns_iff := iff_of_false (fun ⟨_, h⟩ ↦ by cases h) List.not_mem_nil
  counted := nofun
  warned := nofun
  unwarned := fun _ _ _ ↦ rfl

/-- With any client or none, at any address and for whatever the other side does, the log of a call
tells how it ended. -/
theorem traced_fetch (s : Settings) (client : Option Http.Client) (url : Option String)
    (script : Http.Script) : Traced (address s url) (fetch s client url script).logged := by
  have hwith (c : Http.Client) :
      Traced (address s url) (fetchWith c (address s url) script).logged :=
    traced_of_passes (passes_ofFetched (Page.passes_fetch c _ script)) (endsWith_ofFetched _ _)
  cases client with
  | some c => exact hwith c
  | none =>
    simp only [fetch, fetchOwn]
    cases Http.Client.ofSettings s with
    | error f => exact traced_unmade s f script
    | ok c => exact hwith c

end Catalog

end InstanceCatalog
