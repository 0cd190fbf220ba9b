import InstanceCatalog.Proofs.Catalog.Calls
import InstanceCatalog.Proofs.Command.Json
import InstanceCatalog.Service.Answer

/-! # What the service tells

Each request for the catalog or for a record is answered from one call of its own, on what the
requests before it left of the script.  Its client learns the catalog or the record, or that there
is none; of a declared failure only the log tells which one it was. -/

namespace InstanceCatalog

open Http

/-! ## Lines about errors -/

namespace Logged

variable {α β : Type} {x : Logged α}

def errors (log : List LogLine) : List String :=
  (log.filter fun l ↦ decide (l.level = .error)).map (·.message)

theorem errors_append (log log' : List LogLine) :
    errors (log ++ log') = errors log ++ errors log' := by
  rw [errors, List.filter_append, List.map_append]
  rfl

theorem errors_bind {f : α → Logged β} (hx : errors x.log = []) (hf : ∀ a, errors (f a).log = []) :
    errors (x >>= f).log = [] := by
  cases hresult : x.result with
  | error e => rwa [bind_of_error hresult]
  | ok a => rw [bind_of_ok hresult, errors_append, hx, hf a]; rfl

theorem errors_onDeclared {s : Stage} (hx : errors x.log = []) :
    errors (x.onDeclared s.failed).log = [] := by
  rw [onDeclared]
  split
  · rw [errors_append, hx]
    rfl
  · exact hx

theorem errors_perform (s : Stage) (work : Except Failure α) (more : String) :
    errors (s.perform work more).log = [] :=
  errors_onDeclared (errors_bind rfl fun _ ↦ rfl)

end Logged

namespace Catalog

open Logged

theorem errors_ofPage (page : String) : errors (ofPage page).log = [] := by
  refine errors_bind (errors_perform _ _ _) fun d ↦ errors_bind ?_ fun records ↦ ?_
  · refine errors_bind (errors_perform _ _ _) fun table ↦ ?_
    exact errors_bind (errors_perform _ _ _) fun rows ↦ errors_perform _ _ _
  · exact errors_bind rfl fun _ ↦ rfl

theorem errors_fetchWith (c : Client) (url : String) (script : Script) :
    errors (fetchWith c url script).logged.log = [] := by
  refine errors_bind rfl fun _ ↦ errors_bind (errors_onDeclared ?_) fun page ↦ ?_
  · refine errors_bind rfl fun _ ↦ ?_
    cases (c.send url script).outcome with
    | error t => rfl
    | ok r => exact errors_bind rfl fun _ ↦ rfl
  · exact errors_bind (errors_ofPage _) fun _ ↦ errors_bind rfl fun _ ↦ rfl

/-- A call itself logs nothing as an error. -/
theorem errors_fetch (s : Settings) (client : Option Client) (url : Option String)
    (script : Script) : errors (fetch s client url script).logged.log = [] := by
  cases client with
  | some c => exact errors_fetchWith c _ script
  | none =>
    simp only [fetch, fetchOwn]
    cases Client.ofSettings s with
    | error f => rfl
    | ok c => exact errors_fetchWith c _ script

end Catalog

/-! ## Records -/

/-- An object tells a record, its decimals by their shortest texts, and a decimal that is not finite
by null. -/
def Record.ServedAs : Record → JsonValue → Prop :=
  ToldWith fun x ↦ if x.isFinite then .number x.text else .null

theorem Record.servedAs_servedJson {r : Record} (h : r.Printable) : r.ServedAs r.servedJson :=
  toldWith_json h _

namespace Service

/-! ## Endpoints -/

/-- What is asked for at the routes that answer from the catalog. -/
inductive Endpoint where
  | list
  | record (name : String)
deriving DecidableEq

namespace Endpoint

def route : Endpoint → Route
  | list => .list
  | record name => .record name

/-- The answer for a catalog. -/
def found : Endpoint → List Record → Answer
  | list => .catalog
  | record name => .record name

/-- An answer tells what is asked for: all records in their order, or the first record of the name,
or that no record has it. -/
def Tells (records : List Record) : Endpoint → Answer → Prop
  | list, a => a = ⟨200, some (.array (records.map Record.servedJson))⟩
  | record name, a =>
    (a.status = 404 ↔ ∀ r ∈ records, r.name ≠ name) ∧
    (a.status = 404 → a = ⟨404, some (.object [("detail",
      .string ("Instance type " ++ Text.quoted name ++ " not found."))])⟩) ∧
    ∀ before r after, records = before ++ r :: after → (∀ x ∈ before, x.name ≠ name) →
      r.name = name → a = ⟨200, some r.servedJson⟩

theorem tells_found (e : Endpoint) (records : List Record) : e.Tells records (e.found records) := by
  cases e with
  | list => rfl
  | record name =>
    have hnone : records.find? (·.name == name) = none ↔ ∀ r ∈ records, r.name ≠ name := by
      rw [List.find?_eq_none]
      simp
    refine ⟨?_, ?_, fun before r after hrecords hbefore hname ↦ ?_⟩
    · rw [← hnone, found, Answer.record]
      cases records.find? (·.name == name) with
      | none => exact iff_of_true rfl rfl
      | some r => exact iff_of_false (show ¬ 200 = 404 by decide) (Option.some_ne_none r)
    · rw [found, Answer.record]
      cases records.find? (·.name == name) with
      | none => exact fun _ ↦ rfl
      | some r => exact fun h ↦ absurd h (show ¬ 200 = 404 by decide)
    · have hfirst : records.find? (·.name == name) = some r := by
        rw [List.find?_eq_some_iff_append]
        exact ⟨beq_iff_eq.2 hname, before, after, hrecords, by simpa using hbefore⟩
      rw [found, Answer.record, hfirst]

end Endpoint

/-! ## One request -/

namespace Served

/-- What is served for a request with some call behind it. -/
def ofVisit (e : Endpoint) (visit : Visit (List Record)) : Served where
  answer := .ofResult e.found visit.logged.result
  log := visit.logged.log ++ Answer.failureLog visit.logged.result
  events := visit.events
  rest := visit.rest

/-- A request was answered from a call, and told no more than it should. -/
structure AnswersFrom (e : Endpoint) (visit : Visit (List Record)) (served : Served) : Prop where
  /-- Nothing else was done towards the other side. -/
  events : served.events = visit.events
  fetches : served.fetches = visit.requests.length
  rest : served.rest = visit.rest
  found : ∀ records, visit.logged.result = .ok records → e.Tells records served.answer
  /-- What is sent for a record tells it. -/
  told : ∀ records, visit.logged.result = .ok records → ∀ r ∈ records, r.ServedAs r.servedJson
  unavailable : ∀ err, visit.logged.result = .error (.declared err) →
    served.answer =
      ⟨502, some (.object [("detail", .string "Instance type catalog is unavailable.")])⟩ ∧
      Logged.errors served.log = ["Instance type catalog unavailable: " ++ err.text]
  broken : ∀ f, visit.logged.result = .error f → f.isDeclared = false →
    served.answer = ⟨500, none⟩
  unlogged : (∀ err, visit.logged.result ≠ .error (.declared err)) →
    Logged.errors served.log = []

theorem ofVisit_answersFrom (e : Endpoint) {visit : Visit (List Record)}
    (h : Logged.errors visit.logged.log = [])
    (hprintable : ∀ records, visit.logged.result = .ok records → ∀ r ∈ records, r.Printable) :
    AnswersFrom e visit (ofVisit e visit) where
  events := rfl
  fetches := rfl
  rest := rfl
  found records hresult := by
    rw [ofVisit, hresult]
    exact e.tells_found records
  told records hresult r hr := Record.servedAs_servedJson (hprintable records hresult r hr)
  unavailable err hresult := by
    rw [ofVisit, hresult, Logged.errors_append, h]
    exact ⟨rfl, rfl⟩
  broken f hresult hf := by
    rw [ofVisit, hresult]
    cases f with
    | declared => cases hf
    | _ => rfl
  unlogged hnot := by
    rw [ofVisit, Logged.errors_append, h]
    cases hresult : visit.logged.result with
    | ok => rfl
    | error f =>
      cases f with
      | declared err => exact absurd hresult (hnot err)
      | _ => rfl

end Served

theorem serve_endpoint {target : String} {e : Endpoint} (h : Route.ofTarget target = .ok e.route)
    (s : Settings) (script : Script) : serve s "GET" target script =
      .ok (.ofVisit e (Catalog.fetch s none none script)) := by
  have hmethod : String.ofList ("GET".toList.map Char.toUpper) = "GET" := by decide
  simp only [serve, h, hmethod]
  cases e <;> rfl

/-! ## Requests one after the other -/

/-- Some requests one after the other, on one script. -/
def serveAll (s : Settings) : List String → Script → Except TargetFault (List Served)
  | [], _ => .ok []
  | target :: targets, script => do
    let served ← serve s "GET" target script
    let others ← serveAll s targets served.rest
    return served :: others

/-- The calls behind some requests. -/
def visits (s : Settings) (count : Nat) (script : Script) : List (Visit (List Record)) :=
  Catalog.calls s (List.replicate count (none, none)) script

theorem visits_succ (s : Settings) (count : Nat) (script : Script) :
    visits s (count + 1) script = Catalog.fetch s none none script ::
      visits s count (Catalog.fetch s none none script).rest := rfl

theorem exists_script_of_mem_visits {s : Settings} {count : Nat} {script : Script}
    {visit : Visit (List Record)} (h : visit ∈ visits s count script) :
    ∃ left, visit = Catalog.fetch s none none left := by
  induction count generalizing script with
  | zero => cases h
  | succ count ih =>
    rw [visits_succ, List.mem_cons] at h
    obtain rfl | h := h
    · exact ⟨script, rfl⟩
    · exact ih h

variable {targets : List String} {endpoints : List Endpoint}

/-- Each target is an address of its endpoint. -/
def Asks (targets : List String) (endpoints : List Endpoint) : Prop :=
  List.Forall₂ (fun target e ↦ Route.ofTarget target = .ok e.route) targets endpoints

/-- Each request is served from its own call. -/
theorem serveAll_eq (h : Asks targets endpoints) (s : Settings) (script : Script) :
    serveAll s targets script = .ok
      ((endpoints.zip (visits s targets.length script)).map (Function.uncurry Served.ofVisit)) := by
  induction h generalizing script with
  | nil => rfl
  | @cons target e targets endpoints htarget _ ih =>
    have hrest := ih (Catalog.fetch s none none script).rest
    rw [serveAll, serve_endpoint htarget]
    show (serveAll s targets (Catalog.fetch s none none script).rest).bind _ = _
    rw [hrest]
    rfl

/-- Two calls look alike if they ended in the same way, or both in a declared failure. -/
def LookAlike (v v' : Visit (List Record)) : Prop :=
  v.logged.result = v'.logged.result ∨
    ∃ err err', v.logged.result = .error (.declared err) ∧
      v'.logged.result = .error (.declared err')

theorem answer_congr (e : Endpoint) {v v' : Visit (List Record)} (h : LookAlike v v') :
    (Served.ofVisit e v).answer = (Served.ofVisit e v').answer := by
  obtain h | ⟨err, err', h, h'⟩ := h
  · simp only [Served.ofVisit, h]
  · simp only [Served.ofVisit, h, h']
    rfl

theorem answers_congr {vs vs' : List (Visit (List Record))} (h : List.Forall₂ LookAlike vs vs')
    (endpoints : List Endpoint) :
    (endpoints.zip vs).map (fun p ↦ (Served.ofVisit p.1 p.2).answer) =
      (endpoints.zip vs').map fun p ↦ (Served.ofVisit p.1 p.2).answer := by
  induction h generalizing endpoints with
  | nil => rfl
  | cons hv _ ih =>
    cases endpoints with
    | nil => rfl
    | cons e endpoints =>
      rw [List.zip_cons_cons, List.zip_cons_cons, List.map_cons, List.map_cons, ih,
        answer_congr e hv]

/-- Requests for the catalog and for records are answered one by one, each from one call of its own
on what the calls before it left of the script.  To a client, two series of calls that look alike
are the same. -/
theorem serveAll_answers (h : Asks targets endpoints) (s : Settings) (script : Script) :
    (∀ k < targets.length, (visits s targets.length script)[k]? = some (Catalog.fetch s none none
      (script.after (Catalog.sentIn ((visits s targets.length script).take k))))) ∧
    ∃ served, serveAll s targets script = .ok served ∧ served.length = targets.length ∧
      List.Forall₂ (fun p one ↦ Served.AnswersFrom p.1 p.2 one)
        (endpoints.zip (visits s targets.length script)) served ∧
      ∀ s' script' served', serveAll s' targets script' = .ok served' →
        List.Forall₂ LookAlike (visits s targets.length script)
          (visits s' targets.length script') →
        served.map (·.answer) = served'.map (·.answer) := by
  refine ⟨fun k hk ↦ ?_, _, serveAll_eq h s script, ?_, ?_, ?_⟩
  · rw [visits, Catalog.getElem?_calls, List.getElem?_replicate, if_pos hk]
    rfl
  · have hvisits : (visits s targets.length script).length = targets.length := by
      rw [visits, Catalog.length_calls, List.length_replicate]
    rw [List.length_map, List.length_zip, hvisits, ← h.length_eq, Nat.min_self]
  · rw [List.forall₂_map_right_iff, List.forall₂_same]
    intro p hp
    obtain ⟨left, hleft⟩ := exists_script_of_mem_visits (List.of_mem_zip hp).2
    refine Served.ofVisit_answersFrom p.1 ?_ fun records hrecords ↦ ?_
    · rw [hleft]
      exact Catalog.errors_fetch s none none left
    · rw [hleft] at hrecords
      obtain ⟨page, hpage⟩ := Catalog.exists_page_of_fetch hrecords
      exact Catalog.printable_of_ofPage hpage
  · intro s' script' served' hserved' hlook
    rw [serveAll_eq h] at hserved'
    obtain rfl := Except.ok.inj hserved'
    rw [List.map_map, List.map_map]
    exact answers_congr hlook endpoints

theorem serveAll_answers_faulty :
    Asks ["/instance-types", "/instance-types/t2.micro"] [.list, .record "t2.micro"] ∧
    ∃ served, serveAll Catalog.plainSettings ["/instance-types", "/instance-types/t2.micro"]
        Catalog.faultyScript = .ok served ∧
      List.Forall₂ (fun p one ↦ Served.AnswersFrom p.1 p.2 one)
        ([.list, .record "t2.micro"].zip (visits Catalog.plainSettings 2 Catalog.faultyScript))
        served := by
  have hasks : Asks ["/instance-types", "/instance-types/t2.micro"] [.list, .record "t2.micro"] :=
    .cons (by decide) (.cons (by decide) .nil)
  obtain ⟨-, served, hserved, -, hanswers, -⟩ :=
    serveAll_answers hasks Catalog.plainSettings Catalog.faultyScript
  exact ⟨hasks, served, hserved, hanswers⟩

end Service

end InstanceCatalog
