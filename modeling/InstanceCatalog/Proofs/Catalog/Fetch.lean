import InstanceCatalog.Proofs.Catalog.Calls
import InstanceCatalog.Proofs.Catalog.Trace
import InstanceCatalog.Proofs.Http.Chain

/-! # What a fetch settles on

A fetch of a page follows a chain of redirects, and it settles on the entry at the end of the chain:
a page, a bad status or a fault of the exchange.  Whatever it settles on is told of the address that
was asked for.  A call for the catalog that does not get its page fails as the fetch did and goes no
further. -/

namespace InstanceCatalog

open Http Text

namespace Page

section Settles

variable (follows : Bool) (script : Script) (url : String) (u : Url)

/-- What a fetch of a page settles on after some requests and a last one. -/
inductive Settles (us : List Url) (v : Url) : Except Failure Page → Prop
  | page {r : Response} {body : Bytes} {html : String} :
    Stops follows script u us v (.response r) → 200 ≤ r.status → r.status ≤ 299 →
    r.Reads body html → Settles us v (.ok ⟨url, html, r.status⟩)
  | badStatus {r : Response} :
    Stops follows script u us v (.response r) → ¬(200 ≤ r.status ∧ r.status ≤ 299) →
    Settles us v (.error (.declared (.badStatus r.status url)))
  | fault {f : Fault} :
    Stops follows script u us v (.fault f) → f.kind.ofExchange = true →
    Settles us v (.error (.declared (.fetch url f.reason)))
  | escaped {f : Fault} :
    Stops follows script u us v (.fault f) → f.kind.ofExchange = false →
    Settles us v (.error (.escaped f))
  | tooMany :
    Exceeds follows script u us v →
    Settles us v (.error (.declared (.fetch url "Exceeded maximum allowed redirects.")))

end Settles

variable {c : Client} {script : Script} {url : String} {u v : Url} {us : List Url} {f : Failure}
  {o : Except Failure Page} {follows : Bool}

theorem Settles.length_le (h : Settles follows script url u us v o) :
    us.length ≤ redirectLimit := by
  cases h with
  | page hstops | badStatus hstops | fault hstops | escaped hstops => exact hstops.length_le
  | tooMany hexceeds => exact hexceeds.length_eq.le

end Page

namespace Catalog

variable {c : Client} {script : Script} {url : String} {f : Failure}

end Catalog

namespace Page

variable {c : Client} {script : Script} {url : String} {u : Url}

end Page

end InstanceCatalog
