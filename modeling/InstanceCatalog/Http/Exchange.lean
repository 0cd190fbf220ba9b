import InstanceCatalog.Binary64.Basic
import InstanceCatalog.Http.Cookie
import InstanceCatalog.Http.Redirect
import InstanceCatalog.Http.Response
import InstanceCatalog.Settings

/-! # Exchanges

The other side is a script: each request takes its next entry, and the last entry answers all
requests after it.  A client keeps the cookies of the responses it gets and looks at where they
redirect to; if it follows redirects it sends a request for each, up to a limit. -/

namespace InstanceCatalog.Http

open Text

/-- What answers a request: a response, or a fault of the exchange. -/
inductive Entry where
  | response (r : Response)
  | fault (f : Fault)
deriving DecidableEq, Repr

abbrev Script := List Entry

namespace Script

def noRoute : Entry := .fault ⟨.connectError, "no route"⟩

/-- The entry for the next request; without a script no request gets through. -/
def head : Script → Entry
  | [] => noRoute
  | e :: _ => e

/-- The script after a request; the last entry stays. -/
def rest : Script → Script
  | _ :: e :: es => e :: es
  | s => s

end Script

structure Request where
  url : String
  userAgent : String
  timeout : Binary64
deriving DecidableEq, Repr

structure Client where
  userAgent : String
  /-- In seconds. -/
  timeout : Binary64
  followsRedirects : Bool
  /-- How often the transport tries again to connect. -/
  retries : Int := 0
  /-- The time in seconds, by which cookies end. -/
  clock : Int := 1795132800
  /-- The cookies that responses have set. -/
  jar : CookieJar := []
deriving DecidableEq, Repr

namespace Client

/-- The client that settings ask for. -/
def ofSettings (s : Settings) : Except NotAscii Client := do
  NotAscii.check s.userAgent.toList
  return {
    userAgent := s.userAgent
    timeout := s.timeout
    followsRedirects := true
    retries := s.retries
  }

def request (c : Client) (u : Url) : Request := ⟨String.ofList u.toText, c.userAgent, c.timeout⟩

end Client

/-- How a request ended, all requests that were sent for it, the client with the cookies it has
then, and the script after them. -/
structure Sent where
  outcome : Except Trouble Response
  requests : List Request
  client : Client
  rest : Script

def redirectLimit : Nat := 20

def tooManyRedirects : Fault := ⟨.tooManyRedirects, "Exceeded maximum allowed redirects."⟩

namespace Client

/-- A response as it is used. -/
def read (r : Response) : Except Trouble Response := do
  r.checkHeaders.mapError (.mistake ∘ .header)
  r.decoded.mapError fun f ↦ .fault ⟨.decodingError, f.message⟩

/-- What a client receives in an entry that answers a request for an address, and the client with
the cookies of it. -/
def receive (c : Client) (u : Url) : Entry → Except Trouble (Response × Client)
  | .fault f => .error (.fault f)
  | .response r => do
    let r ← read r
    u.checkScheme.mapError .mistake
    let jar := c.jar.receive c.clock u (r.header Cookie.Form.plain.header)
      (r.header Cookie.Form.worded.header)
    return (r, { c with jar })

/-- Checks an address that a client with cookies asks for: it has a scheme. -/
def checkAddress (c : Client) (u : Url) : Except Mistake Unit :=
  if c.jar.isEmpty then .ok () else u.checkScheme

/-- Where the response to a request for an address sends a client, if anywhere.  It is looked at
even by a client that does not follow. -/
def target? (c : Client) (u : Url) (r : Response) : Except Trouble (Option Url) :=
  match r.redirect? with
  | none => .ok none
  | some location => do
    let target ← u.redirected location
    (c.checkAddress target).mapError .mistake
    return if c.followsRedirects then some target else none

/-- Sends a request with a number of redirects left to follow. -/
def sendWithin : Nat → Client → Url → Script → Sent
  | budget, c, u, script =>
    match c.receive u script.head with
    | .error t => ⟨.error t, [c.request u], c, script.rest⟩
    | .ok (r, c) =>
      match c.target? u r, budget with
      | .error t, _ => ⟨.error t, [c.request u], c, script.rest⟩
      | .ok none, _ => ⟨.ok r, [c.request u], c, script.rest⟩
      | .ok (some _), 0 =>
        ⟨.error (.fault tooManyRedirects), [c.request u], c, script.rest⟩
      | .ok (some target), budget + 1 =>
        let sent := sendWithin budget c target script.rest
        { sent with requests := c.request u :: sent.requests }

/-- The address of a client's request for a text. -/
def address (c : Client) (text : String) : Except Mistake Url := do
  let u ← Url.meant {} text.toList
  c.checkAddress u
  u.checkHost
  return u

/-- Sends a request for the address that a text writes. -/
def send (c : Client) (text : String) (script : Script) : Sent :=
  match c.address text with
  | .error m => ⟨.error (.mistake m), [], c, script⟩
  | .ok u => sendWithin redirectLimit c u script

end Client

end InstanceCatalog.Http
