import Millrace.Compiler.Capabilities

/-! When each capability that a compilation grants is one that the configuration, a policy or the compiler itself allows. -/

set_option autoImplicit false

namespace Millrace.Compiler
open Millrace.Text Millrace.Contracts Millrace.Action

/-! ## The contract of a grant -/

theorem not_isBlank_of_solid {text : String} {c : Char} (held : c ∈ text.toList) (solid : isWhitespace c = false) :
    isBlank text = false := by
  unfold isBlank
  by_contra blank
  have every := (trim_eq_nil_iff text.toList).mp (by simpa using blank)
  rw [every c held] at solid
  cases solid

theorem not_isBlank_append_left {text : String} (solid : isBlank text = false) (rest : String) :
    isBlank (text ++ rest) = false := by
  unfold isBlank at *
  by_contra blank
  have every := (trim_eq_nil_iff (text ++ rest).toList).mp (by simpa using blank)
  have nil : trim text.toList = [] := by
    apply (trim_eq_nil_iff _).mpr
    intro c held
    apply every c
    rw [String.toList_append]
    exact List.mem_append_left _ held
  rw [nil] at solid
  cases solid

theorem requireNonEmpty_eq_ok {fieldName value : String} : requireNonEmpty fieldName value = .ok () ↔ isBlank value = false := by
  unfold requireNonEmpty
  cases isBlank value <;> simp

theorem refused_eq_ok {p : Prop} [Decidable p] {message : String} {rest : Except String Unit} :
    (if p then (throw message : Except String PUnit) >>= fun _ => rest else rest) = .ok () ↔ ¬p ∧ rest = .ok () := by
  by_cases refused : p
  · rw [if_pos refused]
    exact iff_of_false (fun ran => by cases ran) fun kept => kept.1 refused
  · rw [if_neg refused]
    exact (and_iff_right refused).symm

theorem validateAccess_eq_ok {value : String} : validateAccess value = .ok () ↔ value ∈ accessValues := by
  unfold validateAccess
  split
  next known => simpa using known
  next unknown => simpa using unknown

theorem candidateOf_source {policies : List CapabilityPolicyCandidate} {request : CapabilityRequest} {source : String}
    {candidate : CapabilityPolicyCandidate} (found : candidateOf policies request source = some candidate) :
    candidate.source = source := by
  have matched := List.find?_some found
  simp only [Bool.and_eq_true, beq_iff_eq] at matched
  exact matched.1.1

theorem matchingOverride_source {policies : List CapabilityPolicyCandidate} {request : CapabilityRequest}
    {candidate : CapabilityPolicyCandidate} (found : matchingOverride policies request = some candidate) :
    candidate.source ∈ ["graph_node", "mode", "stage_kind"] := by
  obtain ⟨source, listed, found⟩ := List.exists_of_findSome?_eq_some found
  rw [candidateOf_source found]
  exact listed

section Resolution
variable {request : CapabilityRequest} {policies : List CapabilityPolicyCandidate} {config : ExecutionCapabilitiesConfig}

theorem resolution_texts : isBlank (resolveCapabilityDecision request policies config).reason = false ∧
    isBlank (resolveCapabilityDecision request policies config).resolvedBy = false := by
  unfold resolveCapabilityDecision
  cases config.defaults request.capabilityId with
  | some decision =>
    dsimp only
    refine ⟨?_, by decide⟩
    rw [String.append_assoc, String.append_assoc]
    exact not_isBlank_append_left (by decide) _
  | none =>
    dsimp only
    cases found : matchingOverride policies request with
    | some candidate =>
      have solid : isBlank candidate.source = false := by
        have listed := matchingOverride_source found
        simp only [List.mem_cons, List.not_mem_nil, or_false] at listed
        rcases listed with same | same | same <;> rw [same] <;> decide
      dsimp only
      refine ⟨?_, solid⟩
      split
      next =>
        rw [String.append_assoc, String.append_assoc, String.append_assoc]
        exact not_isBlank_append_left solid _
      next given => simpa using given
    | none =>
      dsimp only
      split
      next => exact ⟨by decide, by decide⟩
      next =>
        have source : isBlank "runtime_config" = false := by decide
        refine ⟨?_, source⟩
        rw [String.append_assoc, String.append_assoc]
        exact not_isBlank_append_left (by decide) _

/-- What a grant's contract asks of its request. -/
structure Requestable (request : CapabilityRequest) : Prop where
  requestId : isBlank request.requestId = false
  capabilityId : ∃ normalized, validateCapabilityId request.capabilityId = .ok normalized
  access : request.access ∈ accessValues
  scope : request.scope.validate = .ok ()

theorem operatorApproval_validate : (operatorApproval request).validate = .ok () := by
  have policyId : isBlank ("operator." ++ replaceDots request.capabilityId "_") = false :=
    not_isBlank_append_left (by decide) _
  unfold ApprovalPolicyRef.validate operatorApproval
  simp only [refused_eq_ok]
  exact ⟨by simp [policyId], by decide, by decide, rfl⟩

theorem evidence_solid (mode : CapabilityEnforcementMode) :
    (evidenceRequirementsForGrant request mode).any isBlank = false := by
  unfold evidenceRequirementsForGrant
  split
  next => rfl
  next => cases request.requiresEnforcement <;> decide

theorem validate_grantOf_iff {node : GraphLoopNodeDefinition} {resolution : Resolution} {state : CapabilityDecisionState}
    {index : Nat} (reason : isBlank resolution.reason = false) (resolvedBy : isBlank resolution.resolvedBy = false)
    (approval : state = .approvalRequired → resolution.decision = .approvalRequired) :
    (grantOf node request resolution state index).validate = .ok () ↔ Requestable request := by
  have grantId : isBlank ("grant-" ++ node.nodeId ++ "-" ++ replaceDots request.capabilityId "-" ++ "-" ++ index.repr) = false := by
    rw [String.append_assoc, String.append_assoc, String.append_assoc, String.append_assoc]
    exact not_isBlank_append_left (by decide) _
  unfold ExecutionCapabilityGrant.validate grantOf
  simp only [bind_eq_ok, refused_eq_ok]
  constructor
  · rintro ⟨_, -, _, requestId, normalized, capabilityId, _, access, _, scope, -⟩
    exact ⟨requireNonEmpty_eq_ok.mp requestId, ⟨normalized, capabilityId⟩, validateAccess_eq_ok.mp access, scope⟩
  · intro ⟨requestId, ⟨normalized, capabilityId⟩, access, scope⟩
    refine ⟨(), requireNonEmpty_eq_ok.mpr grantId, (), requireNonEmpty_eq_ok.mpr requestId, normalized, capabilityId, (),
      validateAccess_eq_ok.mpr access, (), scope, ?_, ?_, (), optionForM_eq_ok.mpr ?_, ?_, (), requireNonEmpty_eq_ok.mpr reason,
      requireNonEmpty_eq_ok.mpr resolvedBy⟩
    · intro ⟨required, missing⟩
      rw [if_pos (approval required)] at missing
      cases missing
    · intro ⟨refused, enforced⟩
      exact enforced (if_pos refused)
    · intro reference present
      split at present
      next =>
        cases present
        exact operatorApproval_validate
      next => cases present
    · rw [evidence_solid]
      decide

/-- The compilation goes through with the request: its contract holds, and no enforcement is asked for that is missing. -/
structure Acceptable (config : ExecutionCapabilitiesConfig) (policies : List CapabilityPolicyCandidate)
    (request : CapabilityRequest) : Prop where
  enforced : ¬(Advisory request (resolveCapabilityDecision request policies config).decision ∧
    (request.requiresEnforcement = true ∨ config.failRequiredAdvisory = true))
  requestable : Requestable request

/-- What a decision comes to where grants without enforcement may not be allowed. -/
def stateOf (config : ExecutionCapabilitiesConfig) (policies : List CapabilityPolicyCandidate) (request : CapabilityRequest) :
    CapabilityDecisionState :=
  if Advisory request (resolveCapabilityDecision request policies config).decision ∧ config.allowAdvisoryGrants = false then
    .unsupported
  else (resolveCapabilityDecision request policies config).decision.state

theorem stateOf_approval (required : stateOf config policies request = .approvalRequired) :
    (resolveCapabilityDecision request policies config).decision = .approvalRequired := by
  unfold stateOf at required
  split at required
  next => cases required
  next =>
    cases decided : (resolveCapabilityDecision request policies config).decision with
    | approvalRequired => rfl
    | allow =>
      rw [decided] at required
      cases required
    | deny =>
      rw [decided] at required
      cases required

theorem stateOf_granted : stateOf config policies request = .granted ↔
    (resolveCapabilityDecision request policies config).decision = .allow ∧
      ¬(Advisory request .allow ∧ config.allowAdvisoryGrants = false) := by
  unfold stateOf
  cases decided : (resolveCapabilityDecision request policies config).decision with
  | allow => split <;> simp_all [CapabilityPolicyDecision.state]
  | deny => simp [Advisory, CapabilityPolicyDecision.state]
  | approvalRequired => simp [Advisory, CapabilityPolicyDecision.state]

theorem resolveGrant_eq_ok {node : GraphLoopNodeDefinition} {index : Nat} {grant : ExecutionCapabilityGrant} :
    resolveExecutionCapabilityGrant node request policies config index = .ok grant ↔
      Acceptable config policies request ∧
        grant = grantOf node request (resolveCapabilityDecision request policies config) (stateOf config policies request) index := by
  obtain ⟨reason, resolvedBy⟩ := @resolution_texts request policies config
  have contract : (grantOf node request (resolveCapabilityDecision request policies config)
      (stateOf config policies request) index).validate = .ok () ↔ Requestable request :=
    validate_grantOf_iff reason resolvedBy stateOf_approval
  unfold resolveExecutionCapabilityGrant
  dsimp only
  change (if _ then _ else _) = _ ↔ _
  split
  next refused => exact iff_of_false (fun ran => by cases ran) fun kept => kept.1.enforced refused
  next enforced =>
    change ((grantOf node request _ (stateOf config policies request) index).validate.mapError _ >>= fun _ => pure _) = _ ↔ _
    rw [bind_unit_eq_ok, mapError_eq_ok, contract, pure_eq_ok]
    constructor
    · rintro ⟨requestable, rfl⟩
      exact ⟨⟨enforced, requestable⟩, rfl⟩
    · rintro ⟨acceptable, rfl⟩
      exact ⟨acceptable.requestable, rfl⟩

end Resolution

/-! ## The grants of a compilation -/

section Grants
variable {node : GraphLoopNodeDefinition} {policies : List CapabilityPolicyCandidate} {config : ExecutionCapabilitiesConfig}

theorem resolveGrants_eq_ok {index : Nat} {requests : List CapabilityRequest} {context : CompiledCapabilityContext}
    (ran : resolveGrants node policies config index requests = .ok context) :
    (∀ request ∈ requests, Acceptable config policies request) ∧
      ∀ i request grant, requests[i]? = some request → context.grants[i]? = some grant →
        grant = grantOf node request (resolveCapabilityDecision request policies config) (stateOf config policies request)
          (index + i) := by
  induction requests generalizing index context with
  | nil => simp
  | cons request requests ih =>
    obtain ⟨grant, resolved, ran⟩ := bind_eq_ok.mp ran
    obtain ⟨others, rest, ran⟩ := bind_eq_ok.mp ran
    cases ran
    obtain ⟨acceptable, same⟩ := resolveGrant_eq_ok.mp resolved
    obtain ⟨accepted, later⟩ := ih rest
    constructor
    · exact List.forall_mem_cons.mpr ⟨acceptable, accepted⟩
    · intro i request' grant' here there
      cases i with
      | zero =>
        cases here
        cases there
        exact same
      | succ i =>
        have found := later i request' grant' here there
        rwa [Nat.add_assoc, Nat.add_comm 1 i] at found

theorem resolveGrants_length {index : Nat} {requests : List CapabilityRequest} {context : CompiledCapabilityContext}
    (ran : resolveGrants node policies config index requests = .ok context) :
    context.grants.length = requests.length := by
  induction requests generalizing index context with
  | nil =>
    cases ran
    rfl
  | cons request requests ih =>
    obtain ⟨grant, -, ran⟩ := bind_eq_ok.mp ran
    obtain ⟨others, rest, ran⟩ := bind_eq_ok.mp ran
    cases ran
    exact congrArg (· + 1) (ih rest)

variable (node) in
theorem resolveGrants_of_acceptable (index : Nat) {requests : List CapabilityRequest}
    (acceptable : ∀ request ∈ requests, Acceptable config policies request) :
    ∃ context, resolveGrants node policies config index requests = .ok context := by
  induction requests generalizing index with
  | nil => exact ⟨_, rfl⟩
  | cons request requests ih =>
    obtain ⟨first, accepted⟩ := List.forall_mem_cons.mp acceptable
    obtain ⟨others, rest⟩ := ih (index + 1) accepted
    have resolved := (@resolveGrant_eq_ok request policies config node index _).mpr ⟨first, rfl⟩
    exact ⟨_, by rw [resolveGrants, resolved, ok_bind, rest]; rfl⟩

end Grants

/-! ## Soundness -/

/-- The configuration's default, the override that applies, or the default for unknown capabilities says allow. -/
def Permitted (config : ExecutionCapabilitiesConfig) (policies : List CapabilityPolicyCandidate) (request : CapabilityRequest) :
    Prop :=
  config.defaults request.capabilityId = some .allow ∨
    (∃ candidate, matchingOverride policies request = some candidate ∧ candidate.policy.decision = .allow) ∨
      config.defaultUnknownCapability = .allow

/-- The request has the capability, the access and the scope of one that the compiler generates. -/
def Generated (node : GraphLoopNodeDefinition) (runnerName : Option String) (request : CapabilityRequest) : Prop :=
  request.key ∈ (defaultFrameworkCapabilityRequests node runnerName).map CapabilityRequest.key

section Soundness
variable (node : GraphLoopNodeDefinition) (stageKind : RegisteredStageKindDefinition) (stageName : Option StageName)
  (mode : ModeDefinition) (config : ExecutionCapabilitiesConfig) (runnerName : Option String)

/-- Each capability that is granted is permitted or generated, and the framework's allowance is for generated ones. -/
def GrantsSound : Prop :=
  ∀ context, compileExecutionCapabilityContext node stageKind stageName mode config runnerName = .ok context →
    ∀ (i : Nat) (request : CapabilityRequest) (grant : ExecutionCapabilityGrant),
      (capabilityRequests node stageKind stageName mode runnerName)[i]? = some request → context.grants[i]? = some grant → grant.decisionState = .granted →
        (Permitted config (policyCandidates node stageKind stageName mode) request ∨ Generated node runnerName request) ∧
          (grant.resolvedBy = "stage_kind_default" → Generated node runnerName request)

/-- Neither the configuration nor a policy decides on the request, which names the source of the framework's requests. -/
structure FallsToFramework (config : ExecutionCapabilitiesConfig) (policies : List CapabilityPolicyCandidate)
    (request : CapabilityRequest) : Prop where
  undecided : config.defaults request.capabilityId = none
  unmatched : matchingOverride policies request = none
  claims : isDefaultFrameworkRequest request = true

/-- Where the compilation goes through, the requests that fall to the framework are generated, or lack an enforcement that
the configuration insists on. -/
def OnlyGeneratedFall : Prop :=
  config.enabled = true →
    (∀ request ∈ capabilityRequests node stageKind stageName mode runnerName,
      Acceptable config (policyCandidates node stageKind stageName mode) request) →
    ∀ request ∈ capabilityRequests node stageKind stageName mode runnerName,
      FallsToFramework config (policyCandidates node stageKind stageName mode) request →
        Generated node runnerName request ∨ (Advisory request .allow ∧ config.allowAdvisoryGrants = false)

theorem resolvedBy_framework {request : CapabilityRequest} {policies : List CapabilityPolicyCandidate}
    {config : ExecutionCapabilitiesConfig} :
    (resolveCapabilityDecision request policies config).resolvedBy = "stage_kind_default" ↔
      FallsToFramework config policies request := by
  unfold resolveCapabilityDecision
  constructor
  · intro framework
    cases undecided : config.defaults request.capabilityId with
    | some decision =>
      rw [undecided] at framework
      have other : ("runtime_config" : String) = "stage_kind_default" := framework
      exact absurd other (by decide)
    | none =>
      rw [undecided] at framework
      cases unmatched : matchingOverride policies request with
      | some candidate =>
        rw [unmatched] at framework
        have listed := matchingOverride_source unmatched
        change candidate.source = _ at framework
        rw [framework] at listed
        exact absurd listed (by decide)
      | none =>
        rw [unmatched] at framework
        dsimp only at framework
        split at framework
        next claims => exact ⟨undecided, unmatched, claims⟩
        next =>
          have other : ("runtime_config" : String) = "stage_kind_default" := framework
          exact absurd other (by decide)
  · intro ⟨undecided, unmatched, claims⟩
    rw [undecided, unmatched]
    dsimp only
    rw [if_pos claims]

theorem decision_of_falls {request : CapabilityRequest} {policies : List CapabilityPolicyCandidate}
    {config : ExecutionCapabilitiesConfig} (falls : FallsToFramework config policies request) :
    (resolveCapabilityDecision request policies config).decision = .allow := by
  unfold resolveCapabilityDecision
  rw [falls.undecided, falls.unmatched]
  dsimp only
  rw [if_pos falls.claims]

/-- What is allowed is permitted, or falls to the framework. -/
theorem permitted_or_falls {request : CapabilityRequest} {policies : List CapabilityPolicyCandidate}
    {config : ExecutionCapabilitiesConfig} (allowed : (resolveCapabilityDecision request policies config).decision = .allow) :
    Permitted config policies request ∨ FallsToFramework config policies request := by
  unfold resolveCapabilityDecision at allowed
  unfold Permitted
  cases undecided : config.defaults request.capabilityId with
  | some decision =>
    rw [undecided] at allowed
    exact .inl (.inl (congrArg some allowed))
  | none =>
    rw [undecided] at allowed
    cases unmatched : matchingOverride policies request with
    | some candidate =>
      rw [unmatched] at allowed
      exact .inl (.inr (.inl ⟨candidate, rfl, allowed⟩))
    | none =>
      rw [unmatched] at allowed
      dsimp only at allowed
      split at allowed
      next claims => exact .inr ⟨undecided, unmatched, claims⟩
      next => exact .inl (.inr (.inr allowed))

/-- The grants of a compilation are sound just where only generated requests fall to the framework. -/
theorem grantsSound_iff (node : GraphLoopNodeDefinition) (stageKind : RegisteredStageKindDefinition)
    (stageName : Option StageName) (mode : ModeDefinition) (config : ExecutionCapabilitiesConfig) (runnerName : Option String) :
    GrantsSound node stageKind stageName mode config runnerName ↔
      OnlyGeneratedFall node stageKind stageName mode config runnerName := by
  unfold GrantsSound OnlyGeneratedFall compileExecutionCapabilityContext
  cases enabled : config.enabled with
  | false =>
    refine iff_of_true ?_ fun on => by cases on
    intro context ran i request grant _ there
    rw [if_pos rfl] at ran
    cases ran
    simp at there
  | true =>
    simp only [Bool.true_eq_false, if_false, forall_const]
    constructor
    · intro sound acceptable request listed falls
      obtain ⟨context, ran⟩ := resolveGrants_of_acceptable node 0 acceptable
      obtain ⟨i, here⟩ := List.mem_iff_getElem?.mp listed
      have bound : i < context.grants.length := by
        rw [resolveGrants_length ran]
        exact (List.getElem?_eq_some_iff.mp here).1
      have there : context.grants[i]? = some context.grants[i] := List.getElem?_eq_getElem bound
      have same := (resolveGrants_eq_ok ran).2 i request _ here there
      by_cases advisory : Advisory request .allow ∧ config.allowAdvisoryGrants = false
      · exact .inr advisory
      · have granted : context.grants[i].decisionState = .granted := by
          rw [same]
          exact stateOf_granted.mpr ⟨decision_of_falls falls, advisory⟩
        apply Or.inl
        apply (sound context ran i request _ here there granted).2
        rw [same]
        exact resolvedBy_framework.mpr falls
    · intro generated context ran i request grant here there granted
      obtain ⟨acceptable, resolved⟩ := resolveGrants_eq_ok ran
      rw [resolved i request grant here there] at granted ⊢
      obtain ⟨allowed, enforced⟩ := stateOf_granted.mp granted
      have ofFalls : FallsToFramework config (policyCandidates node stageKind stageName mode) request →
          Generated node runnerName request := fun falls =>
        (generated acceptable request (List.mem_of_getElem? here) falls).resolve_right enforced
      exact ⟨(permitted_or_falls allowed).imp_right ofFalls, fun framework => ofFalls (resolvedBy_framework.mp framework)⟩

end Soundness

section Concrete

def builderNode : GraphLoopNodeDefinition where
  nodeId := "builder"
  executionCapabilityRequests := []
  executionCapabilityPolicies := []
  executionCapabilityPolicyOverrides := []

/-- A stage kind's request to change the sources, under the name of the framework's source. -/
def sourcesRequest : CapabilityRequest where
  requestId := "builder.sources"
  capabilityId := "artifact.write"
  access := "mutate"
  scope := { kind := "workspace_path", value := "src" }
  required := true
  requiresEnforcement := false
  reason := ""
  requestedBy := "stage"
  policySource := some "stage_kind_default"

def builderStageKind : RegisteredStageKindDefinition where
  executionCapabilityRequests := [sourcesRequest]
  executionCapabilityPolicyOverrides := []

def plainMode : ModeDefinition where
  executionCapabilityRequests := []
  stageExecutionCapabilityRequests _ := []
  executionCapabilityPolicies := []
  stageExecutionCapabilityPolicyOverrides _ := []

/-- The configuration that is built in. -/
def defaultConfig : ExecutionCapabilitiesConfig where
  enabled := true
  defaultUnknownCapability := .deny
  allowAdvisoryGrants := true
  failRequiredAdvisory := false
  defaults capabilityId :=
    match capabilityId with
    | "network.access" => some .deny
    | "package.install" => some .approvalRequired
    | "git.mutate" => some .approvalRequired
    | "shell.run" => some .allow
    | "workspace.write" => some .allow
    | _ => none

theorem sources_granted :
    (compileExecutionCapabilityContext builderNode builderStageKind none plainMode defaultConfig none).toOption.map
      (fun context => context.grants[3]?.map fun grant => (grant.decisionState, grant.resolvedBy)) =
        some (some (.granted, "stage_kind_default")) := by
  decide +kernel

/-- A valid request that names the framework's source is granted what no one allows. -/
theorem framework_claimed : ¬∀ (node : GraphLoopNodeDefinition) (stageKind : RegisteredStageKindDefinition)
    (stageName : Option StageName) (mode : ModeDefinition) (config : ExecutionCapabilitiesConfig) (runnerName : Option String),
    (∀ request ∈ stageKind.executionCapabilityRequests, request.validate = .ok ()) →
      GrantsSound node stageKind stageName mode config runnerName := by
  intro sound
  have read := sources_granted
  have listed : (capabilityRequests builderNode builderStageKind none plainMode none)[3]? =
      some (fromSource "stage_kind" sourcesRequest) := by
    decide +kernel
  have valid : ∀ request ∈ builderStageKind.executionCapabilityRequests, request.validate = .ok () := by
    decide +kernel
  cases ran : compileExecutionCapabilityContext builderNode builderStageKind none plainMode defaultConfig none with
  | error error =>
    rw [ran] at read
    cases read
  | ok context =>
    rw [ran] at read
    cases there : context.grants[3]? with
    | none => simp [Except.toOption, there] at read
    | some grant =>
      simp only [Except.toOption, there, Option.map_some, Option.some.injEq, Prod.mk.injEq] at read
      have generated := (sound _ _ _ _ _ _ valid context ran 3 _ grant listed there read.1).2 read.2
      revert generated
      unfold Generated
      decide +kernel

end Concrete

end Millrace.Compiler
