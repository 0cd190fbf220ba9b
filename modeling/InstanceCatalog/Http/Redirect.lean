import InstanceCatalog.Http.Fault
import InstanceCatalog.Http.Mistake
import InstanceCatalog.Http.Url.Basic

/-! # Addresses that are asked for

The address of a request is the one that was given, or the one to which a response redirects.  A
redirection is a reference on the page that answered, and the fragment of the page's address goes
with it. -/

namespace InstanceCatalog.Http

open Text

/-- A request that cannot be sent or answered: the exchange failed, or what was asked for is
mistaken. -/
inductive Trouble where
  | fault (f : Fault)
  | mistake (m : Mistake)
deriving DecidableEq, Repr

def Trouble.message : Trouble → String
  | .fault f => f.message
  | .mistake m => m.message

namespace Url

/-- The host as it is read. -/
def readHost (u : Url) : Except Mistake (List Char) := (Host.read u.host).mapError .host

/-- An address can be connected to if its host can be read and written. -/
def checkHost (u : Url) : Except Mistake Unit := do
  let _ ← u.readHost
  (NotAscii.check u.server).mapError .header

/-- The address that a text means, which may be relative to a base. -/
def meant (base : Url) (s : List Char) : Except Mistake Url :=
  (do below base (← ofText s)).mapError .address

/-- The scheme of an address is what stands before its first colon, unless a slash comes first. -/
def hasScheme (text : List Char) : Bool :=
  let start := text.takeWhile fun c ↦ c != '/' && c != ':'
  !start.isEmpty && (text.drop start.length).head? == some ':'

/-- A text without the tag after its last number sign, and that tag. -/
def cutTag (text : List Char) : List Char × List Char :=
  if '#' ∈ text then Authority.cutLast '#' text else (text, [])

/-- A request is made for an address with a scheme, which its tag does not give.  An empty tag is
not shown. -/
def checkScheme (u : Url) : Except Mistake Unit :=
  let (text, tag) := cutTag u.toText
  if hasScheme text then .ok ()
  else .error (.noScheme (if tag.isEmpty then text else u.toText))

/-- A reference with a scheme and no host is on the host of the page. -/
def onHostOf (page u : Url) : Except Mistake Url := do
  if u.scheme.isEmpty then return u
  if !(← u.readHost).isEmpty then return u
  (u.onHost (← page.readHost)).mapError .address

/-- The address that a reference means on a page. -/
def resolvedOn (page u : Url) : Except Mistake Url := do
  if u.isAbsolute then return u
  let text ← (Reference.resolveText page.toText u.toText).mapError .reference
  (ofText text).mapError .address

/-- A reference without a fragment takes that of the page. -/
def withFragmentOf (page u : Url) : Except UrlFault Url :=
  if page.fragmentText.isEmpty || !u.fragmentText.isEmpty then .ok u
  else rebuild { u.parts with fragment := some page.fragmentText }

/-- Where a page redirects to that names an address. -/
def located (page u : Url) : Except Mistake Url := do
  let u ← page.onHostOf u
  let u ← page.resolvedOn u
  let u ← (page.withFragmentOf u).mapError .address
  u.checkHost
  return u

/-- Where a location on a page leads. -/
def redirected (page : Url) (location : List Char) : Except Trouble Url :=
  match ofText location with
  | .error f =>
    .error (.fault ⟨.remoteProtocolError, "Invalid URL in location header: " ++ f.message ++ "."⟩)
  | .ok u => (page.located u).mapError .mistake

end Url

end InstanceCatalog.Http
