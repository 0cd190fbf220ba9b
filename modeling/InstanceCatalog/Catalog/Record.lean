import InstanceCatalog.Binary64.Basic
import InstanceCatalog.Failure
import InstanceCatalog.Numeral.Integer
import InstanceCatalog.Text.Case

/-! # Records of the catalog

A record is read from the twelve cells of one row.  The number of cells is looked at first, then the
name, then the three numbers from left to right. -/

namespace InstanceCatalog

/-- One instance type, with its fields in the order of the columns. -/
structure Record where
  name : String
  cpus : Int
  /-- In GiB. -/
  memory : Binary64
  storage : String
  network : String
  processor : String
  /-- In GHz. -/
  clockSpeed : Binary64
  avx : Bool
  avx2 : Bool
  turbo : Bool
  ebsOptimized : Bool
  enhancedNetworking : Bool
deriving DecidableEq, Repr

namespace Cell

/-- A plain integer numeral, and nothing around it. -/
def integer (field text : String) : Except Failure Int :=
  match Numeral.plainInteger text.toList with
  | .ok i => .ok i
  | .error .malformed => .error (.declared (.notANumber field text))
  | .error (.tooManyDigits n) => .error (.tooManyDigits n)

/-- A plain decimal numeral, and nothing around it. -/
def decimal (field text : String) : Except Failure Binary64 :=
  match Numeral.Decimal.ofPlain? text.toList with
  | some d => .ok (.ofDecimal d)
  | none => .error (.declared (.notANumber field text))

/-- Whether a cell says yes, in letters of any case. -/
def saysYes (text : String) : Bool := Text.lower text.toList == "yes".toList

end Cell

namespace Record

def columns : Nat := 12

/-- The record that the texts of a row's cells give. -/
def ofCells : List String → Except Failure Record
  | [name, cpus, memory, storage, network, processor, clockSpeed, avx, avx2, turbo, ebs,
      enhanced] =>
    if name.isEmpty then .error (.declared (.emptyField "Name"))
    else do
      let cpus ← Cell.integer "CPUs" cpus
      let memory ← Cell.decimal "Memory" memory
      let clockSpeed ← Cell.decimal "ClockSpeed" clockSpeed
      return {
        name, cpus, memory, storage, network, processor, clockSpeed
        avx := Cell.saysYes avx
        avx2 := Cell.saysYes avx2
        turbo := Cell.saysYes turbo
        ebsOptimized := Cell.saysYes ebs
        enhancedNetworking := Cell.saysYes enhanced
      }
  | cells => .error (.declared (.columnCount columns cells.length))

end Record

end InstanceCatalog
