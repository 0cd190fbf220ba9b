import InstanceCatalog.Main
import InstanceCatalog.Service.Answer
import InstanceCatalog.Proofs.Catalog.Finite
import InstanceCatalog.Proofs.Catalog.Declared
import InstanceCatalog.Proofs.Document.Neighbours
import InstanceCatalog.Proofs.Document.Readback
import InstanceCatalog.Proofs.Catalog.Invariance
import InstanceCatalog.Proofs.Catalog.Locality
import InstanceCatalog.Proofs.Catalog.Trace
import InstanceCatalog.Proofs.Catalog.Calls
import InstanceCatalog.Proofs.Command.Json
import InstanceCatalog.Proofs.Document.RoundTrip
import InstanceCatalog.Proofs.Service.Answers
import InstanceCatalog.Proofs.Catalog.Decision
import InstanceCatalog.Proofs.Catalog.Section
import InstanceCatalog.Proofs.Command.LivePage
import InstanceCatalog.Proofs.Document.Walks
import InstanceCatalog.Proofs.Catalog.Gates
import InstanceCatalog.Proofs.Catalog.Messages
import InstanceCatalog.Proofs.Command.Table
import InstanceCatalog.Proofs.Document.Matches
import InstanceCatalog.Proofs.Catalog.SharedCells
import InstanceCatalog.Proofs.Catalog.Fetch
