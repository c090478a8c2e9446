import ReplayEvidence.Access.Audited
import ReplayEvidence.Access.Policy
import ReplayEvidence.Access.Redaction
import ReplayEvidence.Access.Request
import ReplayEvidence.Audit.Http
import ReplayEvidence.Audit.HttpConfig
import ReplayEvidence.Audit.Journal
import ReplayEvidence.Audit.Sink
import ReplayEvidence.Decimal
import ReplayEvidence.Divergence
import ReplayEvidence.FileTree
import ReplayEvidence.Hash.Blake3
import ReplayEvidence.Json.Basic
import ReplayEvidence.Json.Bounds
import ReplayEvidence.Json.Token
import ReplayEvidence.Json.Tree
import ReplayEvidence.Keyed
import ReplayEvidence.Millis
import ReplayEvidence.Named
import ReplayEvidence.Retention.Artifact
import ReplayEvidence.Retention.Fingerprint
import ReplayEvidence.Retention.Ledger
import ReplayEvidence.Retention.Policy
import ReplayEvidence.Retention.Source
import ReplayEvidence.Run.Comparison
import ReplayEvidence.Run.Evidence
import ReplayEvidence.Run.Replay
import ReplayEvidence.Run.Request
import ReplayEvidence.SortedSet
import ReplayEvidence.Text.Blank
import ReplayEvidence.Text.Cut
import ReplayEvidence.Text.GraphemeExtend
import ReplayEvidence.Text.Printable
import ReplayEvidence.Text.Quoted
import ReplayEvidence.Text.Utf8
import ReplayEvidence.Trace.Cursor
import ReplayEvidence.Trace.Decision
import ReplayEvidence.Trace.Lineage
import ReplayEvidence.Trace.Marker
import ReplayEvidence.Trace.Placed
import ReplayEvidence.Trace.Point
import ReplayEvidence.Validation
import ReplayEvidence.Vocabulary
import ReplayEvidence.Wire.Basic
import ReplayEvidence.Wire.Collections
import ReplayEvidence.Wire.Record
import ReplayEvidence.Proofs.Retention.LostByClass
import ReplayEvidence.Proofs.Retention.Catalog
import ReplayEvidence.Proofs.Retention.Tenants
import ReplayEvidence.Proofs.Retention.Tombstones
import ReplayEvidence.Proofs.Retention.Imprints
import ReplayEvidence.Proofs.Retention.RemovedByClass
import ReplayEvidence.Proofs.Run.Findings
import ReplayEvidence.Proofs.Run.Results
import ReplayEvidence.Proofs.Run.Differences
import ReplayEvidence.Proofs.Run.Resumed
import ReplayEvidence.Proofs.Run.SelfReplay
import ReplayEvidence.Proofs.Access.Decisions
import ReplayEvidence.Proofs.Access.FailClosed
import ReplayEvidence.Proofs.Access.Redactions
import ReplayEvidence.Proofs.Json.Lexing
import ReplayEvidence.Proofs.Json.Trees
import ReplayEvidence.Proofs.Text.Encoded
import ReplayEvidence.Proofs.Wire.Records
import ReplayEvidence.Proofs.Wire.Schemas
import ReplayEvidence.Proofs.Audit.FileTrees
import ReplayEvidence.Proofs.Audit.Journals
import ReplayEvidence.Proofs.Audit.Watching
import ReplayEvidence.Proofs.Audit.Chains
import ReplayEvidence.Proofs.Retention.Tiers
import ReplayEvidence.Proofs.Audit.Deliveries
import ReplayEvidence.Proofs.Retention.Conservation
import ReplayEvidence.Proofs.Run.EndingCursor
import ReplayEvidence.Proofs.Audit.SharedJournals
import ReplayEvidence.Proofs.Retention.Removals
import ReplayEvidence.Proofs.Retention.SourceTrees
import ReplayEvidence.Proofs.Retention.ExactSweeps
import ReplayEvidence.Proofs.Access.OrderedChecks
import ReplayEvidence.Proofs.Retention.PolicyFiles
import ReplayEvidence.Proofs.Run.EvidenceFiles
import ReplayEvidence.Proofs.Access.WiderPolicies
import ReplayEvidence.Proofs.Run.Views
import ReplayEvidence.Proofs.Run.Dimensions
import ReplayEvidence.Proofs.Run.LineageDifferences
import ReplayEvidence.Proofs.Run.SidesAndTolerances
import ReplayEvidence.Proofs.Run.WellFormed
import ReplayEvidence.Proofs.Trace.Placing
import ReplayEvidence.Proofs.Text.Numerals
import ReplayEvidence.Proofs.Audit.Settings
import ReplayEvidence.Proofs.Trace.Markers
