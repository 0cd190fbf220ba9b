import InstanceCatalog.Http.Redirect
import InstanceCatalog.Http.Response
import InstanceCatalog.Numeral.Integer
import InstanceCatalog.ScrapeError

/-! # Ways in which a catalog is not had

A declared failure is one that callers are told to expect.  The others pass every stage as they
are. -/

namespace InstanceCatalog

inductive Failure where
  | declared (e : ScrapeError)
  /-- A handle that the document does not have. -/
  | outOfRange
  /-- An integer of more digits than are converted. -/
  | tooManyDigits (count : Nat)
  /-- An exchange that could not be asked for. -/
  | escaped (f : Http.Fault)
  | mistaken (m : Http.Mistake)
  /-- A body of which there is no text. -/
  | unreadable (f : Http.TextFault)

namespace Failure

def isDeclared : Failure → Bool
  | .declared _ => true
  | _ => false

def message : Failure → String
  | .declared e => e.text
  | .outOfRange => "list index out of range"
  | .tooManyDigits n => Numeral.tooManyDigitsMessage n
  | .escaped f => f.message
  | .mistaken m => m.message
  | .unreadable f => f.message

@[simp] theorem isDeclared_declared (e : ScrapeError) : isDeclared (.declared e) = true := rfl
@[simp] theorem message_declared (e : ScrapeError) : message (.declared e) = e.text := rfl

end Failure

end InstanceCatalog
