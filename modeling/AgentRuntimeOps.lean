import AgentRuntimeOps.Lib.Table
import AgentRuntimeOps.Lib.Tx
import AgentRuntimeOps.Lib.Program
import AgentRuntimeOps.Lib.Transition
import AgentRuntimeOps.Lib.Bytes
import AgentRuntimeOps.Lib.Json
import AgentRuntimeOps.Lib.JsonSize
import AgentRuntimeOps.Lib.JsonScan
import AgentRuntimeOps.Lib.JsonRoundTrip
import AgentRuntimeOps.Lib.Sha256
import AgentRuntimeOps.Lib.Checks
import AgentRuntimeOps.Lib.Calendar
import AgentRuntimeOps.Lib.CalendarOrder
import AgentRuntimeOps.RootActions.Basic
import AgentRuntimeOps.RootActions.Contracts
import AgentRuntimeOps.RootActions.State
import AgentRuntimeOps.RootActions.Receipts
import AgentRuntimeOps.RootActions.Sealing
import AgentRuntimeOps.RootActions.Protocol
import AgentRuntimeOps.RootActions.Limits
import AgentRuntimeOps.RootActions.Admission
import AgentRuntimeOps.RootActions.Authorization
import AgentRuntimeOps.RootActions.Tables
import AgentRuntimeOps.RootActions.PosixStore
import AgentRuntimeOps.RootActions.PosixStoreAuth
import AgentRuntimeOps.RootActions.StoreSpecs
import AgentRuntimeOps.RootActions.AuthSpecs
import AgentRuntimeOps.RootActions.StoreOps
import AgentRuntimeOps.RootActions.Projection
import AgentRuntimeOps.RootActions.ProjectionSize
import AgentRuntimeOps.RootActions.StoreHistory
import AgentRuntimeOps.RootActions.LedgerReplay
import AgentRuntimeOps.RootActions.ApprovalBinding
import AgentRuntimeOps.RootActions.Enrollment
import AgentRuntimeOps.RootActions.AuthRows
import AgentRuntimeOps.RootActions.Execution
import AgentRuntimeOps.RootActions.Operations
import AgentRuntimeOps.RootActions.Publication
import AgentRuntimeOps.RootActions.Worker
import AgentRuntimeOps.RootActions.Broker
import AgentRuntimeOps.RootActions.AuthService
import AgentRuntimeOps.RootActions.Service
import AgentRuntimeOps.RootActions.Threads
import AgentRuntimeOps.RootActions.AtMostOnce
import AgentRuntimeOps.RootActions.SystemStore
import AgentRuntimeOps.RootActions.SystemReads
import AgentRuntimeOps.RootActions.Reading
import AgentRuntimeOps.RootActions.Settling
import AgentRuntimeOps.RootActions.Running
import AgentRuntimeOps.RootActions.SecondBroker
import AgentRuntimeOps.RootActions.PublicView
import AgentRuntimeOps.RootActions.Reporting
import AgentRuntimeOps.RootActions.ReceiptAgreement
import AgentRuntimeOps.RootActions.SubmissionWindow
import AgentRuntimeOps.RootActions.LineageWindow
import AgentRuntimeOps.Lib.Crash
import AgentRuntimeOps.Runtime.Basic
import AgentRuntimeOps.Runtime.Backup
import AgentRuntimeOps.Runtime.Canary
import AgentRuntimeOps.Runtime.Apply
import AgentRuntimeOps.Runtime.Rules
import AgentRuntimeOps.Runtime.Restore
import AgentRuntimeOps.Runtime.ApplySpecs
import AgentRuntimeOps.Runtime.Sessions
import AgentRuntimeOps.Runtime.Rollout
import AgentRuntimeOps.Activation.Basic
import AgentRuntimeOps.Activation.Begin
import AgentRuntimeOps.Activation.Load
import AgentRuntimeOps.Activation.Loadable
import AgentRuntimeOps.Activation.Publish
import AgentRuntimeOps.Activation.Committed
import AgentRuntimeOps.Activation.Recovery
import AgentRuntimeOps.Usage.Ledger
import AgentRuntimeOps.Usage.Store
import AgentRuntimeOps.Usage.Consistency
import AgentRuntimeOps.Usage.Collect
import AgentRuntimeOps.Usage.Sticky
import AgentRuntimeOps.Lib.Concurrent
import AgentRuntimeOps.Lib.Ascending
import AgentRuntimeOps.Usage.Prefix
import AgentRuntimeOps.Lib.Decimal
import AgentRuntimeOps.Usage.Cost
import AgentRuntimeOps.Usage.CostStore
import AgentRuntimeOps.Runtime.Restorable
import AgentRuntimeOps.Secret.Basic
import AgentRuntimeOps.Secret.Recovery
import AgentRuntimeOps.Runtime.RecoveryReceipt
import AgentRuntimeOps.BackupRoot.Legacy
import AgentRuntimeOps.BackupRoot.Basic
import AgentRuntimeOps.BackupRoot.Publication
import AgentRuntimeOps.BackupRoot.Calls
import AgentRuntimeOps.BackupRoot.Order
import AgentRuntimeOps.Lib.Rewriting
import AgentRuntimeOps.NasView.Basic
import AgentRuntimeOps.NasView.Commands
import AgentRuntimeOps.NasView.Ledger
import AgentRuntimeOps.Lib.Marked
import AgentRuntimeOps.NasView.Exposure
import AgentRuntimeOps.Routing.Basic
import AgentRuntimeOps.Routing.Commands
import AgentRuntimeOps.Routing.PublicHost
import AgentRuntimeOps.Routing.Rewrites
import AgentRuntimeOps.Routing.Switch
import AgentRuntimeOps.RootReview.Card
import AgentRuntimeOps.RootReview.Store
import AgentRuntimeOps.RootReview.Replaced
import AgentRuntimeOps.Lib.JsonEq
import AgentRuntimeOps.Lib.ShellWords
import AgentRuntimeOps.Lib.Decoding
import AgentRuntimeOps.Mounts.Findmnt
import AgentRuntimeOps.Mounts.Unmount
import AgentRuntimeOps.Lib.Base64
import AgentRuntimeOps.RootReview.Handle
import AgentRuntimeOps.Lib.IsoDate
import AgentRuntimeOps.Lib.DecimalValue
import AgentRuntimeOps.Usage.Selection
import AgentRuntimeOps.Usage.Estimate
import AgentRuntimeOps.Usage.Projectable
import AgentRuntimeOps.Usage.Exact
import AgentRuntimeOps.RootActions.Reobservation
import AgentRuntimeOps.RootActions.ReobservationPlan
import AgentRuntimeOps.Runtime.DevSource
import AgentRuntimeOps.Runtime.Dashboard
import AgentRuntimeOps.Runtime.ModelSet
import AgentRuntimeOps.Lib.Words
import AgentRuntimeOps.NasView.Packages
import AgentRuntimeOps.Groupware.Probe
import AgentRuntimeOps.Groupware.Search
import AgentRuntimeOps.Groupware.Orders
import AgentRuntimeOps.Mounts.Mountinfo
import AgentRuntimeOps.Groupware.Observation
import AgentRuntimeOps.Groupware.Facts
import AgentRuntimeOps.Fstab.Basic
import AgentRuntimeOps.Fstab.Editing
import AgentRuntimeOps.Lib.Lines
import AgentRuntimeOps.Lib.Stamps
import AgentRuntimeOps.Nas.Share
import AgentRuntimeOps.Fstab.Basic
import AgentRuntimeOps.Fstab.Rewriting
import AgentRuntimeOps.Fstab.Editing
import AgentRuntimeOps.Fstab.Preserving
import AgentRuntimeOps.Routing.Lookup
import AgentRuntimeOps.Routing.Ports
import AgentRuntimeOps.Routing.Documents
import AgentRuntimeOps.Config.Basic
import AgentRuntimeOps.Config.Diff
import AgentRuntimeOps.Nas.Policy
import AgentRuntimeOps.Nas.Grants
import AgentRuntimeOps.Fstab.Escaping
import AgentRuntimeOps.Routing.McpTargets
import AgentRuntimeOps.Config.VersionNotes
import AgentRuntimeOps.Compose.Volumes
import AgentRuntimeOps.Compose.Syntaxes
import AgentRuntimeOps.Compose.Contract
import AgentRuntimeOps.Compose.Coverage
import AgentRuntimeOps.Fstab.ReadBack
import AgentRuntimeOps.RootActions.Outcomes
import AgentRuntimeOps.RootActions.OrphanRecovery
import AgentRuntimeOps.RootActions.Wire
import AgentRuntimeOps.BackupRoot.Importing
