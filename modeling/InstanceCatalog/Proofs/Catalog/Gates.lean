import InstanceCatalog.Proofs.Catalog.Cells
import InstanceCatalog.Proofs.Numeral.Typed

/-! # Numbers of cells and numbers of settings

A cell that is no plain numeral is refused as it is.  A plain numeral is the same number as a
setting.  The number of retries is read from what stands for a plain integer, the timeout from what
stands for a plain decimal, or names a number.

Integers are converted up to a limit of digits.  Decimals are spoken of up to one, beyond which a
reader may give up. -/

namespace InstanceCatalog

open Text Numeral

variable {field text typed : String} {env : Environment} {s : Settings} {i : Int} {x : Binary64}

/-! ## Settings -/

namespace Settings

/-- The two numbers that an environment gives, with the defaults of those it does not set. -/
def Numbers (env : Environment) (timeout : Binary64) (retries : Int) : Prop :=
  readTimeout ((env.lookup "REQUEST_TIMEOUT").getD "30.0") = .ok timeout ∧
    readRetries ((env.lookup "HTTP_RETRIES").getD "2") = .ok retries

end Settings

/-! ## Lengths -/

namespace Cell

end Cell

end InstanceCatalog
