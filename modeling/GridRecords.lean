import GridRecords.Text.Blank
import GridRecords.Text.Lowercase
import GridRecords.Text.Quoted
import GridRecords.Decimal.Fixed
import GridRecords.Decimal.Numeral
import GridRecords.Quantity.Basic
import GridRecords.Geo.Point
import GridRecords.Uuid
import GridRecords.Time.Reader
import GridRecords.Model.Kind
import GridRecords.Model.Measurement
import GridRecords.Model.Plant
import GridRecords.Model.Relation
import GridRecords.Model.Value
import GridRecords.Report.Diagnostics
import GridRecords.Record.Fields
import GridRecords.Leaf.Codec
import GridRecords.Schema.Builtin
import GridRecords.Decode.Registry
import GridRecords.Decode.Entity
import GridRecords.Decode.Reference
import GridRecords.Row.Flatten
import GridRecords.Extraction.Walk
import GridRecords.Extraction.Order
import GridRecords.Config
import GridRecords.Batch
import GridRecords.Workspace
import GridRecords.Proofs.Decode.WriteBack
import GridRecords.Proofs.Decode.Canonical
import GridRecords.Proofs.Decode.KeptReferences
import GridRecords.Proofs.Decode.ReadBack
import GridRecords.Proofs.Decode.Reload
import GridRecords.Proofs.Extraction.Cycles
import GridRecords.Proofs.Extraction.Acyclic
import GridRecords.Proofs.Batch.Independence
import GridRecords.Proofs.Batch.PreparedRows
import GridRecords.Proofs.Decode.Assembly
import GridRecords.Proofs.Decode.Relevance
import GridRecords.Proofs.Decode.Installed
import GridRecords.Proofs.Decode.Supplied
import GridRecords.Proofs.Decode.Referents
import GridRecords.Proofs.Row.Series
import GridRecords.Proofs.Decode.Series
import GridRecords.Proofs.Schema.Unambiguous
import GridRecords.Proofs.Row.References
import GridRecords.Proofs.Row.Failure
import GridRecords.Proofs.Decode.Rules
import GridRecords.Proofs.Quantity.Symbols
import GridRecords.Proofs.Leaf.RoundTrip
import GridRecords.Proofs.Time.Read
import GridRecords.Proofs.Extraction.Branches
import GridRecords.Proofs.Model.Instants
import GridRecords.Proofs.Quantity.Grammar
import GridRecords.Proofs.Quantity.Scan
import GridRecords.Proofs.Quantity.Accepted
import GridRecords.Proofs.Schema.Needs
import GridRecords.Proofs.Decode.Missing
import GridRecords.Proofs.Decode.Policies
import GridRecords.Proofs.Extraction.Reads
