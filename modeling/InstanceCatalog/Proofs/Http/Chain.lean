import InstanceCatalog.Proofs.Http.Exchange
import InstanceCatalog.Proofs.Text.Run

/-! # Chains of redirects

The requests of an exchange go along a chain.  Each takes the next entry of the script, and the last
entry answers all requests after it.  While an answer sends the client on, the next request is for
the address to which it does.  The chain comes to an end where an answer sends the client no
further, or where no redirect is left to follow. -/

namespace InstanceCatalog.Http

open Text

/-! ## Addresses of the web -/

namespace Url

variable {u : Url} {text : String} {c : Client}

def IsWeb (u : Url) : Prop := u.scheme = "http".toList ∨ u.scheme = "https".toList

/-- A text writes an address of the web, which can be connected to. -/
structure Written (text : String) (u : Url) : Prop where
  ofText : ofText text.toList = .ok u
  web : u.IsWeb
  host : u.host ≠ []
  checkHost : u.checkHost = .ok ()

end Url

/-! ## Entries and responses -/

namespace Script

variable {script : Script}

/-- What answers the request after some others.  The last entry answers all requests after it. -/
def answer? (script : Script) (k : Nat) : Option Entry := script[min k (script.length - 1)]?

end Script

namespace Response

variable {r : Response} {body : Bytes} {html : String} {location : List Char}

/-- A response is received with this body, which is this text. -/
structure Reads (r : Response) (body : Bytes) (html : String) : Prop where
  headers : r.checkHeaders = .ok ()
  decoded : r.decoded = .ok { r with body }
  text : ({ r with body } : Response).text = .ok html

/-- A response with a body and at most the header that redirects. -/
def located (status : Int) (location : Option String) (body : Bytes) : Response :=
  ⟨status, (location.map ("Location", ·)).toList, body⟩

/-- A response redirects to a location. -/
def Redirects (r : Response) (location : List Char) : Prop :=
  r.status ∈ [301, 302, 303, 307, 308] ∧ r.header? "location" = some location

end Response

/-! ## Chains -/

/-- The answer to a request for an address sends a client on to another one. -/
def SendsOn (follows : Bool) (v : Url) (e : Entry) (t : Url) : Prop :=
  follows = true ∧
    ∃ r location, e = .response r ∧ r.Redirects location ∧ v.redirected location = .ok t

section Chain

variable (follows : Bool) (script : Script) (u : Url)

/-- An exchange from an address asks for some others, the last of which sends the client on to this
one. -/
inductive Chain : List Url → Url → Prop
  | here : Chain [] u
  | next {us : List Url} {v t : Url} {e : Entry} : Chain us v → script.answer? us.length = some e →
    SendsOn follows v e t → Chain (us ++ [v]) t

/-- A chain ends with an entry that sends the client no further. -/
structure Stops (us : List Url) (v : Url) (e : Entry) : Prop where
  chain : Chain follows script u us v
  length_le : us.length ≤ redirectLimit
  entry : script.answer? us.length = some e
  stays : ∀ t, ¬SendsOn follows v e t

/-- A chain comes to its limit with an answer that sends the client on. -/
structure Exceeds (us : List Url) (v : Url) : Prop where
  chain : Chain follows script u us v
  length_eq : us.length = redirectLimit
  onward : ∃ e t, script.answer? us.length = some e ∧ SendsOn follows v e t

/-- A script that answers an exchange from an address: it has an entry, its responses can be read,
and the locations to which they redirect a client on its way lead to addresses of the web. -/
structure Script.Proper : Prop where
  ne_nil : script ≠ []
  reads : ∀ r, .response r ∈ script → ∃ body html, r.Reads body html
  leads : ∀ us v r location, Chain follows script u us v → us.length ≤ redirectLimit →
    script.answer? us.length = some (.response r) → r.Redirects location →
    ∃ t, v.redirected location = .ok t ∧ t.IsWeb

end Chain

variable {c : Client} {follows : Bool} {script : Script} {u v t : Url} {us : List Url} {e : Entry}
  {r : Response} {f : Fault} {body : Bytes} {html : String}

namespace Client

section Along

variable (hu : u.IsWeb) (hs : script.Proper c.followsRedirects u)

include hu hs

end Along

end Client

end InstanceCatalog.Http
