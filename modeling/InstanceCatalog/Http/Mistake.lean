import InstanceCatalog.Http.Host.Fault
import InstanceCatalog.Http.Url.Resolve
import InstanceCatalog.Text.AsciiOnly

/-! # Mistakes in what is asked for

A mistake is not a failure of the exchange: the request or its answer is such that nothing sensible
can be sent. -/

namespace InstanceCatalog.Http

inductive Mistake where
  | address (f : UrlFault)
  | host (f : HostFault)
  | reference (f : ReferenceFault)
  /-- The value of a header is not ASCII. -/
  | header (f : Text.NotAscii)
  /-- An address without a scheme. -/
  | noScheme (text : List Char)
deriving DecidableEq, Repr

namespace Mistake

def message : Mistake → String
  | .address f => f.message
  | .host f => f.message
  | .reference f => f.message
  | .header f => f.message
  | .noScheme text => "unknown url type: " ++ Text.quoted (String.ofList text)

end Mistake

end InstanceCatalog.Http
