import ClusterGraph.Calendar.Date
import ClusterGraph.Calendar.Reader
import ClusterGraph.Calendar.Timestamp
import ClusterGraph.Deadline
import ClusterGraph.Failure
import ClusterGraph.Journal.Counters
import ClusterGraph.Journal.Record
import ClusterGraph.Json.Basic
import ClusterGraph.Json.Document
import ClusterGraph.Json.Equality
import ClusterGraph.Json.Literal
import ClusterGraph.Json.Order
import ClusterGraph.Json.Reader
import ClusterGraph.Json.Writer
import ClusterGraph.LabelDiff
import ClusterGraph.Lifecycle.Basic
import ClusterGraph.Lifecycle.Intake
import ClusterGraph.Lifecycle.Shutdown
import ClusterGraph.Lifecycle.Startup
import ClusterGraph.Main
import ClusterGraph.Number.Binary64
import ClusterGraph.Number.Layout
import ClusterGraph.Number.Shortest
import ClusterGraph.Path.Basic
import ClusterGraph.Path.Parser
import ClusterGraph.Projection
import ClusterGraph.Proofs.Calendar.DayNumbers
import ClusterGraph.Proofs.Calendar.StampReadBack
import ClusterGraph.Proofs.History.CommitEffect
import ClusterGraph.Proofs.History.CommitFrame
import ClusterGraph.Proofs.History.CommitOutcome
import ClusterGraph.Proofs.History.Consistency
import ClusterGraph.Proofs.History.Determination
import ClusterGraph.Proofs.History.Evolution
import ClusterGraph.Proofs.History.LabelChange
import ClusterGraph.Proofs.History.LabelHistory
import ClusterGraph.Proofs.History.LabelLedger
import ClusterGraph.Proofs.History.LastSaves
import ClusterGraph.Proofs.History.Legibility
import ClusterGraph.Proofs.History.Race
import ClusterGraph.Proofs.History.RacingSyncs
import ClusterGraph.Proofs.History.ReadPaths
import ClusterGraph.Proofs.History.RelationshipTotals
import ClusterGraph.Proofs.History.Run
import ClusterGraph.Proofs.History.SyncTotals
import ClusterGraph.Proofs.Json.KeyOrder
import ClusterGraph.Proofs.Json.ReadBack
import ClusterGraph.Proofs.Json.TextOrder
import ClusterGraph.Proofs.Labels.Difference
import ClusterGraph.Proofs.Labels.Order
import ClusterGraph.Proofs.Labels.Reconciliation
import ClusterGraph.Proofs.Labels.StoredLabels
import ClusterGraph.Proofs.Lifecycle.ConfinedStreams
import ClusterGraph.Proofs.Lifecycle.Cycles
import ClusterGraph.Proofs.Lifecycle.OrderlyStop
import ClusterGraph.Proofs.Lifecycle.StagedStart
import ClusterGraph.Proofs.Lifecycle.WatchLoops
import ClusterGraph.Proofs.Path.Grammar
import ClusterGraph.Proofs.Path.Positions
import ClusterGraph.Proofs.Path.Rendering
import ClusterGraph.Proofs.Path.Spelling
import ClusterGraph.Proofs.Resync.CalmSync
import ClusterGraph.Proofs.Resync.CompleteHistory
import ClusterGraph.Proofs.Resync.Idempotence
import ClusterGraph.Proofs.Resync.NodeSaveAgain
import ClusterGraph.Proofs.Resync.Progress
import ClusterGraph.Proofs.Resync.Redelivery
import ClusterGraph.Proofs.Resync.RelationshipSaveAgain
import ClusterGraph.Proofs.Resync.TwoPasses
import ClusterGraph.Proofs.Rules.ClusterScope
import ClusterGraph.Proofs.Rules.CompiledRules
import ClusterGraph.Proofs.Rules.DerivedDescriptors
import ClusterGraph.Proofs.Rules.DescriptorForm
import ClusterGraph.Proofs.Settings.WatchedKinds
import ClusterGraph.Proofs.Store.AnsweredCalls
import ClusterGraph.Proofs.Store.CallKinds
import ClusterGraph.Proofs.Store.CallTrace
import ClusterGraph.Proofs.Store.Endurance
import ClusterGraph.Proofs.Store.Evaluation
import ClusterGraph.Proofs.Store.GraphNodes
import ClusterGraph.Proofs.Store.Ids
import ClusterGraph.Proofs.Store.NodeProperties
import ClusterGraph.Proofs.Store.NodeReadBack
import ClusterGraph.Proofs.Store.PropertyMerge
import ClusterGraph.Proofs.Store.RaisingFault
import ClusterGraph.Proofs.Store.ReadableNode
import ClusterGraph.Proofs.Store.RelationshipRows
import ClusterGraph.Proofs.Store.SampleTotals
import ClusterGraph.Proofs.Store.SilentStatements
import ClusterGraph.Proofs.Store.Soundness
import ClusterGraph.Proofs.Store.StatementEffect
import ClusterGraph.Proofs.Store.TransactionBracket
import ClusterGraph.Proofs.Store.TransactionCounters
import ClusterGraph.Proofs.Store.TransactionEnding
import ClusterGraph.Proofs.Store.TransactionFrame
import ClusterGraph.Proofs.Sync.DroppedDescriptors
import ClusterGraph.Proofs.Sync.EdgeOrigins
import ClusterGraph.Proofs.Sync.EdgeReadBack
import ClusterGraph.Proofs.Sync.EnduringSync
import ClusterGraph.Proofs.Sync.FirstSync
import ClusterGraph.Proofs.Sync.NamespaceConfinement
import ClusterGraph.Proofs.Sync.NodeSaveEffect
import ClusterGraph.Proofs.Sync.NodeUpsert
import ClusterGraph.Proofs.Sync.OwnType
import ClusterGraph.Proofs.Sync.ReadYourWrites
import ClusterGraph.Proofs.Sync.RelationshipReplacement
import ClusterGraph.Proofs.Sync.RelationshipSaveEffect
import ClusterGraph.Proofs.Sync.RoleBindings
import ClusterGraph.Proofs.Sync.SaveEndings
import ClusterGraph.Proofs.Sync.SyncEndings
import ClusterGraph.Proofs.Sync.Targets
import ClusterGraph.Proofs.Sync.TransactionCalls
import ClusterGraph.Proofs.Sync.UnmadeEdges
import ClusterGraph.Proofs.Text.Decimal
import ClusterGraph.Proofs.Text.Trimming
import ClusterGraph.Proofs.Watch.EnduringStream
import ClusterGraph.Proofs.Watch.HandlerInvariants
import ClusterGraph.Proofs.Watch.Handling
import ClusterGraph.Proofs.Watch.Replay
import ClusterGraph.Proofs.Watch.RestartSchedule
import ClusterGraph.Proofs.Watch.ResumePoint
import ClusterGraph.Resource.Kind
import ClusterGraph.Resource.Node
import ClusterGraph.Rules.Basic
import ClusterGraph.Rules.Builtin
import ClusterGraph.Rules.Derivation
import ClusterGraph.Settings
import ClusterGraph.Sorting
import ClusterGraph.Store.Fault
import ClusterGraph.Store.Graph
import ClusterGraph.Store.Interpreter
import ClusterGraph.Store.Query
import ClusterGraph.Store.Record
import ClusterGraph.Store.Schema
import ClusterGraph.Store.Script
import ClusterGraph.Store.Statement
import ClusterGraph.Store.Transaction
import ClusterGraph.Sync.Lookup
import ClusterGraph.Sync.NodeSave
import ClusterGraph.Sync.Object
import ClusterGraph.Sync.RelationshipSave
import ClusterGraph.System
import ClusterGraph.Text.Blank
import ClusterGraph.Text.CodePoint
import ClusterGraph.Text.Digit
import ClusterGraph.Text.Integer
import ClusterGraph.Text.Printable
import ClusterGraph.Text.Quoted
import ClusterGraph.Version
import ClusterGraph.Watch.Event
import ClusterGraph.Watch.Stream
import ClusterGraph.Watch.Target
