import InstanceCatalog.Catalog.Fetch
import InstanceCatalog.Catalog.Json
import InstanceCatalog.Service.Route

/-! # Answers of the service

Each request for the catalog or a record scrapes the page afresh.  A declared failure is logged, and
its client is told no more than that there is no catalog. -/

namespace InstanceCatalog.Service

open Http

structure Answer where
  status : Nat
  body : Option JsonValue

namespace Answer

def detail (status : Nat) (s : String) : Answer := ⟨status, some (.object [("detail", .string s)])⟩

def notFound : Answer := detail 404 "Not Found"

def unavailable : Answer := detail 502 "Instance type catalog is unavailable."

def notAllowed : Answer := detail 405 "Method Not Allowed"

/-- Something else went wrong than what callers are told of. -/
def broken : Answer := ⟨500, none⟩

def moved : Answer := ⟨307, none⟩

def catalog (rs : List Record) : Answer := ⟨200, some (.array (rs.map Record.servedJson))⟩

/-- The first record of a name. -/
def record (name : String) (rs : List Record) : Answer :=
  match rs.find? (·.name == name) with
  | some r => ⟨200, some r.servedJson⟩
  | none => detail 404 ("Instance type " ++ Text.quoted name ++ " not found.")

/-- The answer to a call that ended in a catalog or a failure, with `found` for a catalog. -/
def ofResult (found : List Record → Answer) : Except Failure (List Record) → Answer
  | .ok rs => found rs
  | .error (.declared _) => unavailable
  | .error _ => broken

/-- The line that is logged for a declared failure. -/
def failureLog : Except Failure (List Record) → List LogLine
  | .error (.declared e) => [⟨.error, "Instance type catalog unavailable: " ++ e.text⟩]
  | _ => []

end Answer

/-- One request served: the answer with the log of the whole call, what was done towards the other
side for it, and the script after that. -/
structure Served where
  answer : Answer
  log : List LogLine := []
  events : List Event := []
  rest : Script

namespace Served

/-- How many requests were sent to the other side. -/
def fetches (served : Served) : Nat := (served.events.filterMap Event.request?).length

/-- Scrapes the page and answers from what that gives. -/
def scrape (s : Settings) (found : List Record → Answer) (script : Script) : Served :=
  let visit := Catalog.fetch s none none script
  { answer := .ofResult found visit.logged.result
    log := visit.logged.log ++ Answer.failureLog visit.logged.result
    events := visit.events
    rest := visit.rest }

/-- An answer to a question about headers has no body. -/
def forMethod (method : String) (served : Served) : Served :=
  if method = "HEAD" then { served with answer := { served.answer with body := none } } else served

end Served

/-- Serves a request for a route, if its method is the one that routes have. -/
def serveRoute (s : Settings) (method : String) (route : Route) (script : Script) : Served :=
  match route with
  | .unknown => { answer := .notFound, rest := script }
  | .moved => { answer := .moved, rest := script }
  | .list =>
    if method = "GET" then .scrape s .catalog script
    else { answer := .notAllowed, rest := script }
  | .record name =>
    if method = "GET" then .scrape s (.record name) script
    else { answer := .notAllowed, rest := script }

/-- Serves a request; its target has to be an address. -/
def serve (s : Settings) (method target : String) (script : Script) :
    Except TargetFault Served := do
  let route ← Route.ofTarget target
  let method := String.ofList (method.toList.map Char.toUpper)
  return (serveRoute s method route script).forMethod method

end InstanceCatalog.Service
