import InstanceCatalog.Catalog.Scrape
import InstanceCatalog.Http.Exchange

/-! # Fetching the page and its catalog

A visit is one call with all it did: its result and log, what it did with clients and requests, the
script it left, and the caller's client as it is then. -/

namespace InstanceCatalog

open Http

/-- What a call does towards the other side. -/
inductive Event where
  /-- A transport was made for a client, with so many retries. -/
  | made (retries : Int)
  | sent (r : Request)
  | closed
deriving DecidableEq, Repr

namespace Event

def retries? : Event → Option Int
  | .made retries => some retries
  | _ => none

def request? : Event → Option Request
  | .sent r => some r
  | _ => none

end Event

structure Visit (α : Type) where
  logged : Logged α
  /-- In the order in which they happened. -/
  events : List Event
  rest : Script
  /-- The client that the caller gave, with the cookies it has now. -/
  client : Option Client := none

namespace Visit

variable {α : Type}

def requests (v : Visit α) : List Request := v.events.filterMap Event.request?

/-- The retries of each transport that was made for a client. -/
def made (v : Visit α) : List Int := v.events.filterMap Event.retries?

/-- How many clients were closed. -/
def closed (v : Visit α) : Nat := v.events.count .closed

/-- A visit for which no client could be made, though its transport was. -/
def unmade (s : Settings) (f : Text.NotAscii) (script : Script) : Visit α where
  logged := .ofResult (.error (.mistaken (.header f)))
  events := [.made s.retries]
  rest := script

/-- A visit with a client that was made for it, and that the caller does not get to see. -/
def making (c : Client) (visit : Visit α) : Visit α :=
  { visit with events := .made c.retries :: visit.events, client := none }

/-- A visit after which its client is closed, whatever its result. -/
def closing (visit : Visit α) : Visit α := { visit with events := visit.events ++ [.closed] }

end Visit

/-- A page as it was received. -/
structure Page where
  url : String
  html : String
  status : Int
deriving DecidableEq, Repr

namespace Page

/-- The failure that trouble with a request stands for. -/
def failureOf (url : String) : Trouble → Failure
  | .fault f => if f.kind.ofExchange then .declared (.fetch url f.reason) else .escaped f
  | .mistake m => .mistaken m

/-- The page of a response. -/
def ofResponse (url : String) (r : Response) : Except Failure Page :=
  if !r.isSuccess then .error (.declared (.badStatus r.status url))
  else match r.text with
    | .ok html => .ok ⟨url, html, r.status⟩
    | .error f => .error (.unreadable f)

/-- The page that the end of an exchange gives. -/
def ofOutcome (url : String) : Except Trouble Response → Logged Page
  | .error t => .ofResult (.error (failureOf url t))
  | .ok r => do
    .line .info ("GET " ++ url ++ " -> HTTP " ++ Numeral.decimal r.status)
    .ofResult (ofResponse url r)

/-- Fetches a page with the given client. -/
def fetch (c : Client) (url : String) (script : Script) : Visit Page :=
  let sent := c.send url script
  { logged := do
      Stage.fetching.announce (" url=" ++ url)
      ofOutcome url sent.outcome
    events := sent.requests.map .sent
    rest := sent.rest
    client := some sent.client }

/-- Fetches a page with a client made for it from the settings, and left open. -/
def fetchOwn (s : Settings) (url : String) (script : Script) : Visit Page :=
  match Client.ofSettings s with
  | .error f => .unmade s f script
  | .ok c => (fetch c url script).making c

end Page

namespace Catalog

/-- The catalog of a page that was fetched. -/
def ofFetched (url : String) (page : Logged Page) : Logged (List Record) := do
  Stage.idle.announce
  let page ← page.onDeclared Stage.fetching.failed
  let records ← ofPage page.html
  .line .info ("Scraped " ++ Numeral.decimal records.length ++ " instance types from " ++ url)
  return records

/-- Fetches the catalog at an address with a client of the caller's. -/
def fetchWith (c : Client) (url : String) (script : Script) : Visit (List Record) :=
  let visit := Page.fetch c url script
  { visit with logged := ofFetched url visit.logged }

/-- The address to scrape: the one of the settings unless another is given. -/
def address (s : Settings) (url : Option String) : String :=
  match url with
  | some u => if u.isEmpty then s.url else u
  | none => s.url

/-- Fetches the catalog with a client made for it from the settings, and closed after it. -/
def fetchOwn (s : Settings) (url : String) (script : Script) : Visit (List Record) :=
  match Client.ofSettings s with
  | .error f => .unmade s f script
  | .ok c => (fetchWith c url script).closing.making c

/-- Fetches the catalog with the given client, or without one with a client of its own. -/
def fetch (s : Settings) (client : Option Client) (url : Option String) (script : Script) :
    Visit (List Record) :=
  match client with
  | some c => fetchWith c (address s url) script
  | none => fetchOwn s (address s url) script

end Catalog

end InstanceCatalog
