import Lineage.Assoc
import Lineage.Atom.Basic
import Lineage.Atom.Call
import Lineage.Atom.DataFlow
import Lineage.Atom.Output
import Lineage.Atom.Parameter
import Lineage.Binding.Analysis
import Lineage.Binding.Basic
import Lineage.Binding.ReturnUse
import Lineage.Binding.Transform
import Lineage.Command.Basic
import Lineage.Command.Report
import Lineage.Command.Run
import Lineage.Dna.Basic
import Lineage.Dna.Cache
import Lineage.Dna.Consistency
import Lineage.Dna.Duplicates
import Lineage.Dna.Extract
import Lineage.Dna.Fingerprint
import Lineage.Dna.FlowType
import Lineage.Dna.Layer
import Lineage.Edge.Basic
import Lineage.EventLog
import Lineage.Journey.Summary
import Lineage.Journey.Trace
import Lineage.Json.Basic
import Lineage.Json.Printer
import Lineage.Json.Reader
import Lineage.Main
import Lineage.Notice
import Lineage.Number.Basic
import Lineage.Number.Decimal
import Lineage.Number.Double
import Lineage.Number.Numeral
import Lineage.Schema.Checked
import Lineage.Schema.Field
import Lineage.Sha256
import Lineage.Source.Declaration
import Lineage.Source.Identifier
import Lineage.Source.ModulePath
import Lineage.Store.Load
import Lineage.Store.Tree
import Lineage.Text.Basic
import Lineage.Text.Casing
import Lineage.Text.Quoted
import Lineage.Text.Word
import Lineage.Proofs.Assoc
import Lineage.Proofs.Assoc.Groups
import Lineage.Proofs.Atom.Faithful
import Lineage.Proofs.Atom.Given
import Lineage.Proofs.Binding.Analysis
import Lineage.Proofs.Binding.Assignment
import Lineage.Proofs.Binding.Positional
import Lineage.Proofs.Binding.Reading
import Lineage.Proofs.Command.DnaReport
import Lineage.Proofs.Command.Escaping
import Lineage.Proofs.Dna.Acceptance
import Lineage.Proofs.Dna.Accounting
import Lineage.Proofs.Dna.Cache
import Lineage.Proofs.Dna.Clones
import Lineage.Proofs.Dna.Consistency
import Lineage.Proofs.Dna.Duplicability
import Lineage.Proofs.Dna.Duplicates
import Lineage.Proofs.Dna.Fingerprint
import Lineage.Proofs.Dna.Identity
import Lineage.Proofs.Dna.Narrowing
import Lineage.Proofs.Dna.Pattern
import Lineage.Proofs.Dna.Similarity
import Lineage.Proofs.Dna.Snapshot
import Lineage.Proofs.Edge.EdgeMap
import Lineage.Proofs.Edge.Isolation
import Lineage.Proofs.Edge.OrderFree
import Lineage.Proofs.Edge.Resolution
import Lineage.Proofs.EventLog
import Lineage.Proofs.Journey.Chain
import Lineage.Proofs.Journey.DepthLimit
import Lineage.Proofs.Journey.FirstArrival
import Lineage.Proofs.Journey.KnownVariable
import Lineage.Proofs.Journey.Origin
import Lineage.Proofs.Journey.Saturation
import Lineage.Proofs.Journey.Summary
import Lineage.Proofs.Json.Exact
import Lineage.Proofs.Json.Limit
import Lineage.Proofs.Json.Number
import Lineage.Proofs.Json.Printable
import Lineage.Proofs.Json.String
import Lineage.Proofs.Json.Text
import Lineage.Proofs.Number.Order
import Lineage.Proofs.Schema.FaultCount
import Lineage.Proofs.Schema.RecordKind
import Lineage.Proofs.Schema.Respelling
import Lineage.Proofs.Source.Declaration
import Lineage.Proofs.Source.Identifier
import Lineage.Proofs.Source.Mention
import Lineage.Proofs.Source.Normalize
import Lineage.Proofs.Source.OwnImport
import Lineage.Proofs.Source.Segments
import Lineage.Proofs.Source.Spelling
import Lineage.Proofs.Source.Verb
import Lineage.Proofs.Store.Load
import Lineage.Proofs.Text.Join
import Lineage.Proofs.Text.Lines
import Lineage.Proofs.Text.Trim
