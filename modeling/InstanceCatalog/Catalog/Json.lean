import InstanceCatalog.Binary64.Written
import InstanceCatalog.Catalog.Record
import InstanceCatalog.JsonValue

/-! # Records as JSON

The members stand in the order of the columns. -/

namespace InstanceCatalog

/-- A number by its shortest text; an infinity has a name of its own. -/
def Binary64.jsonToken : Binary64 → String
  | .infinite negative => if negative then "-Infinity" else "Infinity"
  | .nan => "NaN"
  | x => x.text

namespace Record

/-- A record, with `number` for its decimal members. -/
def json (number : Binary64 → JsonValue) (r : Record) : JsonValue :=
  .object [("name", .string r.name), ("cpus", .number (Numeral.decimal r.cpus)),
    ("memory", number r.memory), ("storage", .string r.storage),
    ("network_spec", .string r.network), ("processor", .string r.processor),
    ("clock_speed", number r.clockSpeed), ("intel_avx", .bool r.avx), ("intel_avx2", .bool r.avx2),
    ("intel_turbo", .bool r.turbo), ("ebs_opt", .bool r.ebsOptimized),
    ("enhanced_networking", .bool r.enhancedNetworking)]

/-- A record with every number written out. -/
def printedJson (r : Record) : JsonValue := r.json fun x ↦ .number x.jsonToken

/-- A record in which a number that JSON cannot write is missing. -/
def servedJson (r : Record) : JsonValue :=
  r.json fun x ↦ if x.isFinite then .number x.text else .null

end Record

end InstanceCatalog
