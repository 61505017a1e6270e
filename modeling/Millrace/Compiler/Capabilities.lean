import Millrace.Action
import Millrace.Contracts.Enums

/-! The execution capabilities of a compiled stage: its requests, the policies on them, and the grants they resolve to. -/

set_option autoImplicit false

namespace Millrace.Compiler
open Millrace.Text Millrace.Contracts Millrace.Action

/-! ## Contracts -/

inductive CapabilityPolicyDecision where
  | allow | deny | approvalRequired
  deriving DecidableEq, Repr

def CapabilityPolicyDecision.asStr : CapabilityPolicyDecision → String
  | .allow => "allow"
  | .deny => "deny"
  | .approvalRequired => "approval_required"

inductive CapabilityDecisionState where
  | granted | denied | approvalRequired | unsupported
  deriving DecidableEq, Repr

inductive CapabilityEnforcementMode where
  | runnerEnforced | runtimeEnforced | adapterEnforced | externalApiEnforced | advisoryOnly | notApplicable
  deriving DecidableEq, Repr

inductive CapabilityEvidenceStatus where
  | notRequired | pending | satisfied | missing | waived | violated
  deriving DecidableEq, Repr

structure CapabilityScope where
  kind : String
  value : String
  deriving DecidableEq, Repr

structure CapabilityRequest where
  requestId : String
  capabilityId : String
  access : String
  scope : CapabilityScope
  required : Bool
  requiresEnforcement : Bool
  reason : String
  requestedBy : String
  policySource : Option String
  deriving DecidableEq, Repr

structure CapabilityPolicyOverride where
  capabilityId : String
  decision : CapabilityPolicyDecision
  scope : Option CapabilityScope
  reason : String
  requiresEnforcement : Option Bool
  deriving DecidableEq, Repr

structure ApprovalPolicyRef where
  policyId : String
  gateScope : String
  expirationSeconds : Option Nat
  requiredDecision : String
  deriving DecidableEq, Repr

structure ExecutionCapabilityGrant where
  grantId : String
  requestId : String
  capabilityId : String
  access : String
  scope : CapabilityScope
  required : Bool
  decisionState : CapabilityDecisionState
  enforcementMode : CapabilityEnforcementMode
  approvalPolicyRef : Option ApprovalPolicyRef
  evidenceRequirements : List String
  evidenceStatus : CapabilityEvidenceStatus
  decisionReason : String
  resolvedBy : String
  deriving DecidableEq, Repr

def capabilityIds : List String :=
  ["workspace.read", "workspace.write", "artifact.read", "artifact.write", "runner.invoke", "shell.run", "git.read",
    "git.mutate", "package.install", "network.access", "approval.request", "evidence.emit", "runtime.control"]

def scopeKinds : List String :=
  ["workspace", "workspace_path", "artifact_kind", "artifact_ref", "runner", "command_class", "git_action",
    "package_manager", "network_class", "approval_policy_ref", "runtime_action"]

def runtimeActions : List String :=
  ["enqueue", "pause", "resume", "cancel", "retry", "repair", "approve", "deny", "reload_config"]

def accessValues : List String := ["read", "write", "execute", "mutate", "request", "emit"]

def gateScopes : List String := ["stage", "run", "work_item"]

def isBlank (text : String) : Bool := trim text.toList == []

def requireNonEmpty (fieldName value : String) : Except String Unit :=
  if isBlank value then .error (fieldName ++ " is required") else .ok ()

def normalizeCapabilityId (value : String) : String :=
  let normalized := String.ofList (trim value.toList)
  match normalized with
  | "workspace_read" => "workspace.read"
  | "workspace_write" => "workspace.write"
  | "artifact_read" => "artifact.read"
  | "artifact_write" => "artifact.write"
  | "runner_invoke" => "runner.invoke"
  | "shell_run" => "shell.run"
  | "git_read" => "git.read"
  | "git_mutate" => "git.mutate"
  | "package_install" => "package.install"
  | "network_access" => "network.access"
  | "approval_request" => "approval.request"
  | "evidence_emit" => "evidence.emit"
  | "runtime_control" => "runtime.control"
  | _ => normalized

/-- The normalized text has no surrounding white space, which leaves one check before that of the known ids. -/
def validateSafeCapabilityId (value : String) : Except String Unit :=
  match value.toList with
  | [] => .error "capability_id must not include surrounding whitespace and must not be empty"
  | first :: rest =>
    if first.isAlphanum && rest.all (fun c => c.isAlphanum || c == '.' || c == '_' || c == '-') then .ok ()
    else .error ("capability_id must start with an ASCII alphanumeric character and then contain only ASCII " ++
      "alphanumeric characters, '.', '_', or '-'")

def validateCapabilityId (value : String) : Except String String := do
  let normalized := normalizeCapabilityId value
  validateSafeCapabilityId normalized
  if normalized ∉ capabilityIds then throw ("unknown capability_id: " ++ value)
  return normalized

def validateAccess (value : String) : Except String Unit :=
  if value ∈ accessValues then .ok () else .error ("unknown capability access: " ++ value)

def workspacePathScopeStaysInside (value : String) : Bool :=
  value.toList.head? != some '/' && !(value.toList.splitOn '/').contains ['.', '.']

def CapabilityScope.validate (scope : CapabilityScope) : Except String Unit := do
  if scope.kind ∉ scopeKinds then throw ("unknown capability scope kind: " ++ scope.kind)
  if isBlank scope.value then throw "capability scope value is required"
  if scope.kind = "workspace_path" ∧ workspacePathScopeStaysInside scope.value = false then
    throw "workspace_path scope must stay inside workspace"
  if scope.kind = "runtime_action" ∧ scope.value ∉ runtimeActions then
    throw ("unknown runtime_action scope: " ++ scope.value)

def CapabilityRequest.validate (request : CapabilityRequest) : Except String Unit := do
  requireNonEmpty "request_id" request.requestId
  let _ ← validateCapabilityId request.capabilityId
  validateAccess request.access
  request.scope.validate
  requireNonEmpty "requested_by" request.requestedBy

def ApprovalPolicyRef.validate (reference : ApprovalPolicyRef) : Except String Unit := do
  if isBlank reference.policyId then throw "policy_id is required"
  if reference.gateScope ∉ gateScopes then throw ("unknown approval policy gate_scope: " ++ reference.gateScope)
  if reference.expirationSeconds = some 0 then throw "expiration_seconds must be greater than 0"
  if reference.requiredDecision ≠ "approved" then throw "required_decision must be approved"

/-- The fingerprint, a digest of the other fields, always has the format that is asked for. -/
def ExecutionCapabilityGrant.validate (grant : ExecutionCapabilityGrant) : Except String Unit := do
  requireNonEmpty "grant_id" grant.grantId
  requireNonEmpty "request_id" grant.requestId
  let _ ← validateCapabilityId grant.capabilityId
  validateAccess grant.access
  grant.scope.validate
  if grant.decisionState = .approvalRequired ∧ grant.approvalPolicyRef = none then
    throw "approval_required grants require approval_policy_ref"
  if grant.decisionState ≠ .granted ∧ grant.enforcementMode ≠ .notApplicable then
    throw "non-granted capability decisions must use not_applicable enforcement"
  grant.approvalPolicyRef.forM ApprovalPolicyRef.validate
  if grant.evidenceRequirements.any isBlank then throw "evidence_requirements values must not be empty"
  requireNonEmpty "decision_reason" grant.decisionReason
  requireNonEmpty "resolved_by" grant.resolvedBy

/-! ## What a compilation reads -/

structure GraphLoopNodeDefinition where
  nodeId : String
  executionCapabilityRequests : List CapabilityRequest
  executionCapabilityPolicies : List CapabilityPolicyOverride
  executionCapabilityPolicyOverrides : List CapabilityPolicyOverride

structure RegisteredStageKindDefinition where
  executionCapabilityRequests : List CapabilityRequest
  executionCapabilityPolicyOverrides : List CapabilityPolicyOverride

structure ModeDefinition where
  executionCapabilityRequests : List CapabilityRequest
  stageExecutionCapabilityRequests : StageName → List CapabilityRequest
  executionCapabilityPolicies : List CapabilityPolicyOverride
  stageExecutionCapabilityPolicyOverrides : StageName → List CapabilityPolicyOverride

structure ExecutionCapabilitiesConfig where
  enabled : Bool
  defaultUnknownCapability : CapabilityPolicyDecision
  allowAdvisoryGrants : Bool
  failRequiredAdvisory : Bool
  defaults : String → Option CapabilityPolicyDecision

structure CapabilityPolicyCandidate where
  source : String
  policy : CapabilityPolicyOverride
  deriving DecidableEq, Repr

/-! ## Requests -/

def replaceDots (text replacement : String) : String :=
  String.ofList (text.toList.flatMap fun c => if c = '.' then replacement.toList else [c])

def frameworkRequest (node : GraphLoopNodeDefinition) (capabilityId access : String) (scope : CapabilityScope) :
    CapabilityRequest where
  requestId := node.nodeId ++ ".framework." ++ replaceDots capabilityId "_"
  capabilityId := capabilityId
  access := access
  scope := scope
  required := true
  requiresEnforcement := false
  reason := "default framework capability required to dispatch a stage"
  requestedBy := "stage_kind_default"
  policySource := some "stage_kind_default"

def defaultFrameworkCapabilityRequests (node : GraphLoopNodeDefinition) (runnerName : Option String) :
    List CapabilityRequest := [
  frameworkRequest node "runner.invoke" "execute" { kind := "runner", value := runnerName.getD "default" },
  frameworkRequest node "workspace.read" "read" { kind := "workspace", value := "workspace" },
  frameworkRequest node "artifact.write" "write" { kind := "artifact_kind", value := "stage_result" }]

/-- A declared request as its source hands it on. -/
def fromSource (source : String) (request : CapabilityRequest) : CapabilityRequest :=
  { request with
    requestedBy := if request.requestedBy = "stage" then source else request.requestedBy
    policySource := request.policySource.orElse fun _ => some source }

def CapabilityRequest.key (request : CapabilityRequest) : String × String × String × String :=
  (request.capabilityId, request.access, request.scope.kind, request.scope.value)

/-- The first request of a key takes over from a later one what it lacks. -/
def CapabilityRequest.merged (existing request : CapabilityRequest) : CapabilityRequest :=
  { existing with
    required := existing.required || request.required
    requiresEnforcement := existing.requiresEnforcement || request.requiresEnforcement
    reason := if isBlank existing.reason && !isBlank request.reason then request.reason else existing.reason
    policySource := existing.policySource.orElse fun _ => request.policySource }

def mergeInto (request : CapabilityRequest) : List CapabilityRequest → List CapabilityRequest
  | [] => [request]
  | existing :: rest =>
    if existing.key = request.key then existing.merged request :: rest else existing :: mergeInto request rest

def dedupeCapabilityRequests (requests : List CapabilityRequest) : List CapabilityRequest :=
  requests.foldl (fun deduped request => mergeInto request deduped) []

section
variable (node : GraphLoopNodeDefinition) (stageKind : RegisteredStageKindDefinition) (stageName : Option StageName)
  (mode : ModeDefinition) (config : ExecutionCapabilitiesConfig) (runnerName : Option String)

def capabilityRequests : List CapabilityRequest :=
  dedupeCapabilityRequests (defaultFrameworkCapabilityRequests node runnerName ++
    stageKind.executionCapabilityRequests.map (fromSource "stage_kind") ++
    node.executionCapabilityRequests.map (fromSource "graph_node") ++
    mode.executionCapabilityRequests.map (fromSource "mode") ++
    (stageName.elim [] mode.stageExecutionCapabilityRequests).map (fromSource "mode"))

def policyCandidates : List CapabilityPolicyCandidate :=
  stageKind.executionCapabilityPolicyOverrides.map (CapabilityPolicyCandidate.mk "stage_kind") ++
    mode.executionCapabilityPolicies.map (CapabilityPolicyCandidate.mk "mode") ++
    (stageName.elim [] mode.stageExecutionCapabilityPolicyOverrides).map (CapabilityPolicyCandidate.mk "mode") ++
    node.executionCapabilityPolicies.map (CapabilityPolicyCandidate.mk "graph_node") ++
    node.executionCapabilityPolicyOverrides.map (CapabilityPolicyCandidate.mk "graph_node")

end

/-! ## Decisions -/

def scopeOverrideMatchesRequest (policy : CapabilityPolicyOverride) (request : CapabilityRequest) : Bool :=
  policy.scope.all fun scope => scope.kind == request.scope.kind && scope.value == request.scope.value

def candidateOf (policies : List CapabilityPolicyCandidate) (request : CapabilityRequest) (source : String) :
    Option CapabilityPolicyCandidate :=
  policies.reverse.find? fun candidate => candidate.source == source &&
    candidate.policy.capabilityId == request.capabilityId && scopeOverrideMatchesRequest candidate.policy request

/-- The matching override of the highest precedence. -/
def matchingOverride (policies : List CapabilityPolicyCandidate) (request : CapabilityRequest) :
    Option CapabilityPolicyCandidate :=
  ["graph_node", "mode", "stage_kind"].findSome? (candidateOf policies request)

def isDefaultFrameworkRequest (request : CapabilityRequest) : Bool :=
  request.policySource == some "stage_kind_default" &&
    ["runner.invoke", "workspace.read", "artifact.write"].contains request.capabilityId

structure Resolution where
  decision : CapabilityPolicyDecision
  resolvedBy : String
  reason : String
  deriving DecidableEq, Repr

def resolveCapabilityDecision (request : CapabilityRequest) (policies : List CapabilityPolicyCandidate)
    (config : ExecutionCapabilitiesConfig) : Resolution :=
  match config.defaults request.capabilityId with
  | some decision => {
      decision := decision
      resolvedBy := "runtime_config"
      reason := "runtime config default for capability " ++ request.capabilityId ++ " resolved to " ++ decision.asStr }
  | none =>
    match matchingOverride policies request with
    | some candidate => {
        decision := candidate.policy.decision
        resolvedBy := candidate.source
        reason :=
          if isBlank candidate.policy.reason then
            candidate.source ++ " override for capability " ++ request.capabilityId ++ " resolved to " ++
              candidate.policy.decision.asStr
          else candidate.policy.reason }
    | none =>
      if isDefaultFrameworkRequest request then {
        decision := .allow
        resolvedBy := "stage_kind_default"
        reason := "default framework grants are allowed by compiler policy" }
      else {
        decision := config.defaultUnknownCapability
        resolvedBy := "runtime_config"
        reason := "runtime config default_unknown_capability resolved capability " ++ request.capabilityId ++ " to " ++
          config.defaultUnknownCapability.asStr }

/-! ## Grants -/

structure CapabilityGrantError where
  nodeId : String
  message : String
  deriving DecidableEq, Repr

def isRuntimeEnforcedCapability (capabilityId : String) : Bool :=
  ["runner.invoke", "artifact.read", "artifact.write", "evidence.emit", "runtime.control"].contains capabilityId

def evidenceRequirementsForGrant (request : CapabilityRequest) (mode : CapabilityEnforcementMode) : List String :=
  if mode = .notApplicable then []
  else ["runner_invocation", "runner_completion"] ++ if request.requiresEnforcement then ["capability_evidence"] else []

/-- A required grant that the runtime does not enforce. -/
def Advisory (request : CapabilityRequest) (decision : CapabilityPolicyDecision) : Prop :=
  decision = .allow ∧ isRuntimeEnforcedCapability request.capabilityId = false ∧ request.required = true

instance (request : CapabilityRequest) (decision : CapabilityPolicyDecision) : Decidable (Advisory request decision) :=
  inferInstanceAs (Decidable (_ ∧ _ ∧ _))

def CapabilityPolicyDecision.state : CapabilityPolicyDecision → CapabilityDecisionState
  | .allow => .granted
  | .deny => .denied
  | .approvalRequired => .approvalRequired

def enforcementOf (request : CapabilityRequest) (state : CapabilityDecisionState) : CapabilityEnforcementMode :=
  if state ≠ .granted then .notApplicable
  else if isRuntimeEnforcedCapability request.capabilityId then .runtimeEnforced else .advisoryOnly

def operatorApproval (request : CapabilityRequest) : ApprovalPolicyRef where
  policyId := "operator." ++ replaceDots request.capabilityId "_"
  gateScope := "stage"
  expirationSeconds := none
  requiredDecision := "approved"

/-- The grant before its contract is checked. -/
def grantOf (node : GraphLoopNodeDefinition) (request : CapabilityRequest) (resolution : Resolution)
    (state : CapabilityDecisionState) (index : Nat) : ExecutionCapabilityGrant :=
  let mode := enforcementOf request state
  let requirements := evidenceRequirementsForGrant request mode
  { grantId := "grant-" ++ node.nodeId ++ "-" ++ replaceDots request.capabilityId "-" ++ "-" ++ index.repr
    requestId := request.requestId
    capabilityId := request.capabilityId
    access := request.access
    scope := request.scope
    required := request.required
    decisionState := state
    enforcementMode := mode
    approvalPolicyRef := if resolution.decision = .approvalRequired then some (operatorApproval request) else none
    evidenceRequirements := requirements
    evidenceStatus := if state = .granted ∧ requirements ≠ [] then .pending else .notRequired
    decisionReason := resolution.reason
    resolvedBy := resolution.resolvedBy }

def resolveExecutionCapabilityGrant (node : GraphLoopNodeDefinition) (request : CapabilityRequest)
    (policies : List CapabilityPolicyCandidate) (config : ExecutionCapabilitiesConfig) (index : Nat) :
    Except CapabilityGrantError ExecutionCapabilityGrant := do
  let resolution := resolveCapabilityDecision request policies config
  if Advisory request resolution.decision ∧ (request.requiresEnforcement = true ∨ config.failRequiredAdvisory = true) then
    throw { nodeId := node.nodeId, message := "required advisory grant rejected for capability " ++ request.capabilityId ++
      " by requires_enforcement or fail_required_advisory" }
  let state :=
    if Advisory request resolution.decision ∧ config.allowAdvisoryGrants = false then .unsupported else resolution.decision.state
  let grant := grantOf node request resolution state index
  grant.validate.mapError fun message => { nodeId := node.nodeId, message := message }
  return grant

structure CapabilityWarning where
  warningId : String
  capabilityId : String
  severity : String
  message : String
  deriving DecidableEq, Repr

def capabilityWarning (node : GraphLoopNodeDefinition) (capabilityId severity message : String) : CapabilityWarning where
  warningId := node.nodeId ++ "." ++ replaceDots capabilityId "_" ++ "." ++ severity
  capabilityId := capabilityId
  severity := severity
  message := message

def warningsForGrant (node : GraphLoopNodeDefinition) (request : CapabilityRequest) (grant : ExecutionCapabilityGrant) :
    List CapabilityWarning :=
  let warning := capabilityWarning node grant.capabilityId
  let decided :=
    match grant.decisionState with
    | .granted =>
      if grant.enforcementMode = .advisoryOnly then
        [warning "advisory" ("capability " ++ grant.capabilityId ++ " is granted as advisory-only")]
      else []
    | .denied => [warning "denied" ("capability " ++ grant.capabilityId ++ " is denied")]
    | .approvalRequired => [warning "approval_required" ("capability " ++ grant.capabilityId ++ " requires approval")]
    | .unsupported => [warning "unsupported" ("capability " ++ grant.capabilityId ++
        " cannot satisfy required enforcement without advisory grants")]
  decided ++
    if request.required && grant.enforcementMode = .advisoryOnly then
      [warning "required_advisory" ("required capability " ++ grant.capabilityId ++ " resolved to advisory-only")]
    else []

/-- The grants with their warnings; the fingerprint of the policies is left to the digest. -/
structure CompiledCapabilityContext where
  grants : List ExecutionCapabilityGrant
  warnings : List CapabilityWarning
  deriving DecidableEq, Repr

def resolveGrants (node : GraphLoopNodeDefinition) (policies : List CapabilityPolicyCandidate)
    (config : ExecutionCapabilitiesConfig) : Nat → List CapabilityRequest → Except CapabilityGrantError CompiledCapabilityContext
  | _, [] => return { grants := [], warnings := [] }
  | index, request :: rest => do
    let grant ← resolveExecutionCapabilityGrant node request policies config index
    let others ← resolveGrants node policies config (index + 1) rest
    return { grants := grant :: others.grants, warnings := warningsForGrant node request grant ++ others.warnings }

def compileExecutionCapabilityContext (node : GraphLoopNodeDefinition) (stageKind : RegisteredStageKindDefinition)
    (stageName : Option StageName) (mode : ModeDefinition) (config : ExecutionCapabilitiesConfig) (runnerName : Option String) :
    Except CapabilityGrantError CompiledCapabilityContext :=
  if config.enabled = false then .ok { grants := [], warnings := [] }
  else resolveGrants node (policyCandidates node stageKind stageName mode) config 0
    (capabilityRequests node stageKind stageName mode runnerName)

end Millrace.Compiler
