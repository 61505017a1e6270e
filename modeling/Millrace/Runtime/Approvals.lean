import Millrace.Compiler.Capabilities
import Millrace.Governance.Clock

/-! The storage of execution capability approvals, and the gate that asks for them. -/

set_option autoImplicit false

namespace Millrace.Approvals
open Millrace.Text Millrace.Contracts Millrace.WorkDocuments Millrace.Compiler Millrace.Action

/-! ## Approvals -/

inductive ApprovalStatus where
  | pending | approved | denied | expired | cancelled
  deriving DecidableEq, Repr

inductive ApprovalStorageError where
  | io (path message : String)
  | invalid (message : String)
  | notFound (approvalId : String)
  | time (fieldName message : String)
  deriving DecidableEq, Repr

def ApprovalStorageError.display : ApprovalStorageError → String
  | .io path message => "approval storage filesystem error at " ++ path ++ ": " ++ message
  | .invalid message => message
  | .notFound approvalId => "approval not found: " ++ approvalId
  | .time fieldName message => "approval timestamp " ++ fieldName ++ " failed: " ++ message

def requireValue (fieldName value : String) : Except ApprovalStorageError Unit :=
  if isBlank value then .error (.invalid (fieldName ++ " is required")) else .ok ()

section
variable [Rfc3339]

structure Approval where
  schemaVersion : String
  kind : String
  approvalId : String
  status : ApprovalStatus
  workspaceId : String
  runId : String
  requestId : String
  workItemKind : Option WorkItemKind
  workItemId : Option String
  plane : Plane
  nodeId : String
  stageKindId : String
  grantId : String
  capabilityId : String
  reason : String
  requestedBy : String
  decidedBy : Option String
  createdAt : Timestamp
  decidedAt : Option Timestamp
  expiresAt : Option Timestamp
  decisionReason : Option String
  grant : ExecutionCapabilityGrant
  deriving DecidableEq

/-- What a record says of its decision. -/
def Approval.validateDecision (approval : Approval) : Except ApprovalStorageError Unit :=
  if approval.status ≠ .approved ∧ approval.status ≠ .denied then .ok ()
  else if approval.decidedBy.all isBlank then .error (.invalid "resolved approvals require decided_by")
  else if approval.decidedAt = none then .error (.invalid "resolved approvals require decided_at")
  else if approval.decisionReason.all isBlank then .error (.invalid "resolved approvals require decision_reason")
  else .ok ()

/-- What a record says of everything else. -/
def Approval.validateIdentity (approval : Approval) : Except ApprovalStorageError Unit := do
  requireValue "schema_version" approval.schemaVersion
  requireValue "kind" approval.kind
  if approval.schemaVersion ≠ "1.0" then throw (.invalid "execution capability approval schema_version must be 1.0")
  if approval.kind ≠ "execution_capability_approval" then
    throw (.invalid "execution capability approval kind must be execution_capability_approval")
  requireValue "approval_id" approval.approvalId
  requireValue "workspace_id" approval.workspaceId
  requireValue "run_id" approval.runId
  requireValue "request_id" approval.requestId
  requireValue "node_id" approval.nodeId
  requireValue "stage_kind_id" approval.stageKindId
  requireValue "grant_id" approval.grantId
  requireValue "capability_id" approval.capabilityId
  requireValue "reason" approval.reason
  requireValue "requested_by" approval.requestedBy

def Approval.validateGrant (approval : Approval) : Except ApprovalStorageError Unit := do
  approval.grant.validate.mapError .invalid
  if approval.grantId ≠ approval.grant.grantId ∨ approval.capabilityId ≠ approval.grant.capabilityId then
    throw (.invalid "approval grant identity must match embedded grant")

def Approval.validate (approval : Approval) : Except ApprovalStorageError Unit := do
  approval.validateIdentity
  approval.validateDecision
  approval.validateGrant

/-! ## Storage -/

structure ApprovalPaths where
  workspaceId : String
  pendingDir : String
  resolvedDir : String

/-- The files of the two directories, by their names without the suffix. -/
structure ApprovalStore where
  pending : List (String × Approval)
  resolved : List (String × Approval)

def ApprovalStore.empty : ApprovalStore := { pending := [], resolved := [] }

/-- The operations of one call that may fail, each before it has an effect. -/
inductive StorageOperation where
  | listPending | listResolved | listPendingAgain | listResolvedAgain | read | write | remove
  deriving DecidableEq, Repr

abbrev Faults := StorageOperation → Option String

abbrev StorageM := EStateM ApprovalStorageError ApprovalStore

def attempt (faults : Faults) (operation : StorageOperation) (path : String) : Except ApprovalStorageError Unit :=
  match faults operation with
  | some message => .error (.io path message)
  | none => .ok ()

def approvalPath (dir approvalId : String) : String := dir ++ "/" ++ approvalId ++ ".json"

def putFile (name : String) (approval : Approval) (files : List (String × Approval)) : List (String × Approval) :=
  (name, approval) :: files.filter (·.1 ≠ name)

def removeFile (name : String) (files : List (String × Approval)) : List (String × Approval) := files.filter (·.1 ≠ name)

def findFile (name : String) (files : List (String × Approval)) : Option Approval :=
  (files.find? (·.1 = name)).map (·.2)

def listApprovalsInDir (files : List (String × Approval)) : Except ApprovalStorageError (List Approval) := do
  files.forM fun file => file.2.validate
  return files.map (·.2)

def byApprovalId (a b : Approval) : Bool := decide (a.approvalId ≤ b.approvalId)

/-- The pending approvals before the resolved ones, each in the order of their ids. -/
def listExecutionCapabilityApprovals (paths : ApprovalPaths) (faults : Faults) (first second : StorageOperation)
    (store : ApprovalStore) : Except ApprovalStorageError (List Approval) := do
  attempt faults first paths.pendingDir
  let pending ← listApprovalsInDir store.pending
  attempt faults second paths.resolvedDir
  let resolved ← listApprovalsInDir store.resolved
  return pending.mergeSort byApprovalId ++ resolved.mergeSort byApprovalId

def findApprovalForGrant (paths : ApprovalPaths) (faults : Faults) (first second : StorageOperation) (runId requestId grantId : String)
    (store : ApprovalStore) : Except ApprovalStorageError (Option Approval) := do
  let approvals ← listExecutionCapabilityApprovals paths faults first second store
  return approvals.find? fun approval => approval.runId = runId ∧ approval.requestId = requestId ∧ approval.grantId = grantId

/-! ## Requests -/

/-- What the approval of a grant reads of the stage's request. -/
structure StageRunRequest where
  runId : String
  requestId : String
  plane : Plane
  nodeId : String
  stageKindId : String
  activeWorkItemKind : Option WorkItemKind
  activeWorkItemId : Option String

/-- The first eight digits of the digest of three texts. -/
class ApprovalDigest where
  digits : String → String → String → String

def safeIdPart (value : String) : String :=
  let rendered := (trim value.toList).foldl (fun rendered c =>
    if c.isAlphanum || c == '.' || c == '_' || c == '-' then rendered ++ [c]
    else if rendered.getLast? = some '-' then rendered else rendered ++ ['-']) []
  match rendered with
  | c :: _ => if c.isAlphanum then String.ofList rendered else "grant-" ++ String.ofList rendered
  | [] => "grant-"

variable [ApprovalDigest]

def approvalIdForGrant (runId requestId : String) (grant : ExecutionCapabilityGrant) : String :=
  "approval-" ++ safeIdPart grant.grantId ++ "-" ++ ApprovalDigest.digits runId requestId grant.grantId

variable [Rfc3339Writer]

omit [ApprovalDigest] in
/-- The moment at which an approval of the grant expires; `u64` seconds that do not fit `i64` are an error. -/
def approvalExpiresAt (now : Timestamp) (grant : ExecutionCapabilityGrant) :
    Except ApprovalStorageError (Option Timestamp) :=
  match grant.approvalPolicyRef.bind (·.expirationSeconds) with
  | none => .ok none
  | some seconds =>
    if 2 ^ 63 ≤ seconds then .error (.time "expires_at" "out of range integral type conversion attempted")
    else match now.instant.moment.later (seconds * second) with
      | none => .error (.time "expires_at" "timestamp overflow")
      | some expires =>
        match Rfc3339Writer.format expires with
        | .error message => .error (.time "expires_at" message)
        | .ok rendered =>
          ((Timestamp.parse "expires_at" rendered).mapError fun error => .time "expires_at" error.display).map some

def pendingApproval (paths : ApprovalPaths) (request : StageRunRequest) (grant : ExecutionCapabilityGrant) (now : Timestamp)
    (expiresAt : Option Timestamp) : Approval where
  schemaVersion := "1.0"
  kind := "execution_capability_approval"
  approvalId := approvalIdForGrant request.runId request.requestId grant
  status := .pending
  workspaceId := paths.workspaceId
  runId := request.runId
  requestId := request.requestId
  workItemKind := request.activeWorkItemKind
  workItemId := request.activeWorkItemId
  plane := request.plane
  nodeId := request.nodeId
  stageKindId := request.stageKindId
  grantId := grant.grantId
  capabilityId := grant.capabilityId
  reason := grant.decisionReason
  requestedBy := "runtime"
  decidedBy := none
  createdAt := now
  decidedAt := none
  expiresAt := expiresAt
  decisionReason := none
  grant := grant

def ensureExecutionCapabilityApproval (paths : ApprovalPaths) (faults : Faults) (request : StageRunRequest)
    (grant : ExecutionCapabilityGrant) (now : Timestamp) : StorageM Approval := do
  match ← MonadExcept.ofExcept (findApprovalForGrant paths faults .listPendingAgain .listResolvedAgain request.runId
      request.requestId grant.grantId (← get)) with
  | some existing => return existing
  | none =>
    let expiresAt ← MonadExcept.ofExcept (approvalExpiresAt now grant)
    let approval := pendingApproval paths request grant now expiresAt
    MonadExcept.ofExcept approval.validate
    MonadExcept.ofExcept (attempt faults .write (approvalPath paths.pendingDir approval.approvalId))
    modify fun store => { store with pending := putFile approval.approvalId approval store.pending }
    return approval

/-- The approval that one required grant is held to. -/
def approvalForRequest (paths : ApprovalPaths) (faults : Faults) (request : StageRunRequest) (grant : ExecutionCapabilityGrant)
    (now : Timestamp) : StorageM Approval := do
  match ← MonadExcept.ofExcept (findApprovalForGrant paths faults .listPending .listResolved request.runId request.requestId
      grant.grantId (← get)) with
  | some existing => return existing
  | none => ensureExecutionCapabilityApproval paths faults request grant now

structure BlockedGrant where
  grantId : String
  failureClass : String
  reason : String
  deriving DecidableEq, Repr

/-- The round of the gate on a required grant whose decision is left to an approval: the approval's id, and what blocks. -/
def approvalRequiredBranch (paths : ApprovalPaths) (faults : Faults) (request : StageRunRequest) (grant : ExecutionCapabilityGrant)
    (now : Timestamp) : StorageM (String × Option BlockedGrant) := do
  let approval ← approvalForRequest paths faults request grant now
  if approval.status ≠ .approved then
    return (approval.approvalId, some {
      grantId := grant.grantId
      failureClass := "capability_approval_required"
      reason := "approval is not resolved as approved" })
  else return (approval.approvalId, none)

/-! ## Decisions -/

omit [Rfc3339Writer] [ApprovalDigest] in
def resolvedAs (approval : Approval) (status : ApprovalStatus) (decidedBy reason : String) (now : Timestamp) : Approval :=
  { approval with
    status := status
    decidedBy := some (String.ofList (trim decidedBy.toList))
    decidedAt := some now
    decisionReason := some (String.ofList (trim reason.toList)) }

omit [Rfc3339Writer] [ApprovalDigest] in
def resolveApproval (paths : ApprovalPaths) (faults : Faults) (approvalId : String) (status : ApprovalStatus)
    (decidedBy reason : String) (now : Timestamp) : StorageM Approval := do
  MonadExcept.ofExcept (requireValue "approval_id" approvalId)
  MonadExcept.ofExcept (requireValue "decided_by" decidedBy)
  MonadExcept.ofExcept (requireValue "reason" reason)
  match findFile approvalId (← get).pending with
  | none => throw (.notFound approvalId)
  | some approval =>
    MonadExcept.ofExcept (attempt faults .read (approvalPath paths.pendingDir approvalId))
    MonadExcept.ofExcept approval.validate
    let resolved := resolvedAs approval status decidedBy reason now
    MonadExcept.ofExcept resolved.validate
    MonadExcept.ofExcept (attempt faults .write (approvalPath paths.resolvedDir approvalId))
    modify fun store => { store with resolved := putFile approvalId resolved store.resolved }
    MonadExcept.ofExcept (attempt faults .remove (approvalPath paths.pendingDir approvalId))
    modify fun store => { store with pending := removeFile approvalId store.pending }
    return resolved

/-! ## Histories -/

/-- A gate comes to a grant, or an operator decides. -/
inductive ApprovalEvent where
  | gate (request : StageRunRequest) (grant : ExecutionCapabilityGrant) (now : Timestamp) (faults : Faults)
  | approve (approvalId decidedBy reason : String) (now : Timestamp) (faults : Faults)
  | deny (approvalId decidedBy reason : String) (now : Timestamp) (faults : Faults)

def step (paths : ApprovalPaths) (store : ApprovalStore) (event : ApprovalEvent) : ApprovalStore :=
  match event with
  | .gate request grant now faults => after (approvalRequiredBranch paths faults request grant now) store
  | .approve approvalId decidedBy reason now faults =>
    after (resolveApproval paths faults approvalId .approved decidedBy reason now) store
  | .deny approvalId decidedBy reason now faults =>
    after (resolveApproval paths faults approvalId .denied decidedBy reason now) store

end

end Millrace.Approvals
