import Millrace.Text
import Millrace.Action
import Millrace.Contracts.Enums
import Millrace.WorkDocuments.Fields
import Millrace.WorkDocuments.Documents
import Millrace.WorkDocuments.Reading
import Millrace.WorkDocuments.Canonical
import Millrace.WorkDocuments.RoundTrip
import Millrace.Workspace.Files
import Millrace.Workspace.QueueStore
import Millrace.Workspace.QueueInvariant
import Millrace.Workspace.QueueSafety
import Millrace.Workspace.RuntimeLock
import Millrace.Runtime.Plan
import Millrace.Runtime.Standard
import Millrace.Runtime.Router
import Millrace.Runtime.FailureClass
import Millrace.Runtime.Decisions
import Millrace.Runtime.Independence
import Millrace.Runtime.Interference
import Millrace.Runtime.Lifecycle
import Millrace.Runs
import Millrace.Runtime.Pause
import Millrace.Runtime.Lanes
import Millrace.Runtime.Dispatch
import Millrace.Runtime.Ownership
import Millrace.Runtime.LaneMirror
import Millrace.Runtime.Control
import Millrace.Runtime.ControlAgreement
import Millrace.Runtime.Effects
import Millrace.Runtime.ContinueRoute
import Millrace.Runtime.Supervisor
import Millrace.Closure.Lineage
import Millrace.Closure.Targets
import Millrace.Closure.Results
import Millrace.Closure.Actionable
import Millrace.Closure.Drained
import Millrace.Closure.Readiness
import Millrace.Application.Steps
import Millrace.Workspace.TaskClaims
import Millrace.Workspace.Dependencies
import Millrace.Workspace.OperatorInterventions
import Millrace.Blueprints.DraftInvariant
import Millrace.Planning.Order
import Millrace.Blueprints.PreMutation
import Millrace.Workspace.Requeue
import Millrace.Runtime.StaleDetection
import Millrace.Runtime.ClearStale
import Millrace.Runtime.StageOwnership
import Millrace.Closure.Opening
import Millrace.Closure.RepairRuns
import Millrace.Runtime.Activation
import Millrace.Runtime.Claiming
import Millrace.Runtime.AtomicActivation
import Millrace.Words
import Millrace.Governance.Moments
import Millrace.Governance.Rules
import Millrace.Governance.Windows
import Millrace.Governance.Clock
import Millrace.Compiler.Capabilities
import Millrace.Compiler.GrantSoundness
import Millrace.Runtime.Approvals
import Millrace.Runtime.ApprovalExpiry
import Millrace.Governance.CommonResume
import Millrace.Governance.LedgerRuns
import Millrace.Returns
import Millrace.Recovery.StrandedTasks
import Millrace.Application.Counters
import Millrace.Runtime.PollHistory
import Millrace.Recovery.FirstCandidate
import Millrace.Recovery.EveryCandidate
import Millrace.Recovery.RetryBound
import Millrace.Recon.RoundTrip
import Millrace.Workspace.RetargetFrame
import Millrace.Runtime.TraceOrder
import Millrace.Runners.Faithful
import Millrace.Workspace.UpgradeRuns
import Millrace.Intake.IdeaRuns
import Millrace.Application.Handoffs
import Millrace.Recon.InvalidHandoffs
