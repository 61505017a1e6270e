import Millrace.Recovery.StrandedTasks
import Millrace.Runners.StageRequests

/-! The stage result that one raw runner result is normalised to. -/

set_option autoImplicit false

namespace Millrace.Runners
open Millrace.Text Millrace.Contracts Millrace.WorkDocuments
open Millrace.Recovery (RunnerFailureClass)

/-! ## Failures -/

inductive BlockedOrigin where
  | stageTerminal | runnerFailure | runtimeCapabilityGate
  deriving DecidableEq, Repr

inductive FailureScope where
  | environment | provider | localConfiguration | contract | runtimePolicy | unknown
  deriving DecidableEq, Repr

inductive FailureClassifierCode where
  | exitTimeout | runnerBinaryMissing | authMissingOrInvalid | providerRateLimited | networkUnavailable
  | providerUnavailable | providerDefaultUnavailable | runnerTimeout | missingTerminalResult | illegalTerminalResult
  | conflictingTerminalResults | missingRequiredArtifact | capabilityGrantDenied | capabilityApprovalRequired
  | capabilityGrantUnsupported | capabilityEvidenceMissing | unclassifiedFailure
  deriving DecidableEq, Repr

structure RunnerFailureMetadata where
  failureClass : RunnerFailureClass
  blockedOrigin : BlockedOrigin
  failureScope : FailureScope
  autoRequeueCandidate : Bool
  failureClassifierCode : FailureClassifierCode
  deriving DecidableEq

def classificationForFailureClass (failureClass : RunnerFailureClass) : RunnerFailureMetadata :=
  match failureClass with
  | .runnerTimeout => ⟨failureClass, .runnerFailure, .environment, true, .runnerTimeout⟩
  | .networkUnavailable => ⟨failureClass, .runnerFailure, .environment, true, .networkUnavailable⟩
  | .providerUnavailable => ⟨failureClass, .runnerFailure, .provider, true, .providerUnavailable⟩
  | .providerRateLimited => ⟨failureClass, .runnerFailure, .provider, true, .providerRateLimited⟩
  | .runnerBinaryMissing => ⟨failureClass, .runnerFailure, .localConfiguration, false, .runnerBinaryMissing⟩
  | .authMissingOrInvalid => ⟨failureClass, .runnerFailure, .localConfiguration, false, .authMissingOrInvalid⟩
  | .missingTerminalResult => ⟨failureClass, .stageTerminal, .contract, false, .missingTerminalResult⟩
  | .illegalTerminalResult => ⟨failureClass, .stageTerminal, .contract, false, .illegalTerminalResult⟩
  | .conflictingTerminalResults => ⟨failureClass, .stageTerminal, .contract, false, .conflictingTerminalResults⟩
  | .missingRequiredArtifact => ⟨failureClass, .stageTerminal, .contract, false, .missingRequiredArtifact⟩
  | .capabilityGrantDenied => ⟨failureClass, .runtimeCapabilityGate, .runtimePolicy, false, .capabilityGrantDenied⟩
  | .capabilityApprovalRequired =>
    ⟨failureClass, .runtimeCapabilityGate, .runtimePolicy, false, .capabilityApprovalRequired⟩
  | .capabilityGrantUnsupported =>
    ⟨failureClass, .runtimeCapabilityGate, .runtimePolicy, false, .capabilityGrantUnsupported⟩
  | .capabilityEvidenceMissing =>
    ⟨failureClass, .runtimeCapabilityGate, .runtimePolicy, false, .capabilityEvidenceMissing⟩
  | .runnerTransportFailure => ⟨failureClass, .runnerFailure, .unknown, false, .unclassifiedFailure⟩

def contains (text needle : String) : Bool := text.toList.tails.any needle.toList.isPrefixOf

def containsAny (text : String) (needles : List String) : Bool := needles.any (contains text)

def classifyFailureEvidence (evidence : String) (blockedOrigin : BlockedOrigin) : Option RunnerFailureMetadata :=
  if isBlankText evidence then none
  else if containsAny evidence
      ["runner binary not found", "executable missing", "no such file or directory", "command not found"] then
    some ⟨.runnerBinaryMissing, blockedOrigin, .localConfiguration, false, .runnerBinaryMissing⟩
  else if containsAny evidence ["unauthorized", "authentication", "not authenticated", "login required",
      "invalid api key", "api key", "401"] then
    some ⟨.authMissingOrInvalid, blockedOrigin, .localConfiguration, false, .authMissingOrInvalid⟩
  else if containsAny evidence ["rate limit", "rate_limit", "too many requests", "429"] then
    some ⟨.providerRateLimited, blockedOrigin, .provider, true, .providerRateLimited⟩
  else if containsAny evidence ["could not resolve", "temporary failure in name resolution", "dns",
      "network is unreachable", "connection refused", "connection reset", "no route to host", "offline",
      "internet"] then
    some ⟨.networkUnavailable, blockedOrigin, .environment, true, .networkUnavailable⟩
  else if containsAny evidence ["service unavailable", "temporarily unavailable", "provider unavailable",
      "provider overloaded", "overloaded", "503"] then
    some ⟨.providerUnavailable, blockedOrigin, .provider, true, .providerUnavailable⟩
  else none

def runtimeCapabilityFailureClass : Option String → Option RunnerFailureClass
  | none => none
  | some value =>
    let value := String.ofList (trim value.toList)
    if value = "capability_grant_denied" then some .capabilityGrantDenied
    else if value = "capability_approval_required" then some .capabilityApprovalRequired
    else if value = "capability_grant_unsupported" then some .capabilityGrantUnsupported
    else if value = "capability_evidence_missing" then some .capabilityEvidenceMissing
    else none

/-! ## Raw results -/

inductive RunnerExitKind where
  | completed | timeout | runnerError | providerError | interrupted
  deriving DecidableEq, Repr

def RunnerExitKind.asStr : RunnerExitKind → String
  | .completed => "completed"
  | .timeout => "timeout"
  | .runnerError => "runner_error"
  | .providerError => "provider_error"
  | .interrupted => "interrupted"

inductive RunnerError where
  | invalidRawResult (message : String)
  | invalidRequest (message : String)
  | stageResultEnvelope (message : String)
  deriving DecidableEq, Repr

/-- Why a computation gives no value: an error it returns, or a panic. -/
inductive Stop where
  | failed (error : RunnerError)
  | panicked (message : String)
  deriving DecidableEq, Repr

/-- The payload of a structured result file. -/
structure StructuredTerminalResultPayload where
  stage : Option String
  terminalResult : String
  resultClass : Option ResultClass
  summaryArtifactPaths : List String

inductive StructuredFile where
  | missing
  | unreadable (error : String)
  | invalid (error : String)
  | payload (payload : StructuredTerminalResultPayload)

inductive TextFile where
  | missing
  | unreadable (error : String)
  | holds (text : String)

/-- The files that normalization reads. -/
structure RunFiles where
  structuredResult : String → StructuredFile
  stdout : String → TextFile
  /-- The artifact exists below the run directory. -/
  artifactExists : String → String → Bool
  /-- The end of stderr and stdout in lower case. -/
  failureEvidence : Option String → Option String → String

section
variable [Rfc3339]

structure RunnerRawResult where
  requestId : String
  runId : String
  stage : StageName
  runnerName : String
  exitKind : RunnerExitKind
  exitCode : Option Int
  observedExitKind : Option RunnerExitKind
  observedExitCode : Option Int
  stdoutPath : Option String
  stderrPath : Option String
  terminalResultPath : Option String
  eventLogPath : Option String
  failureCapabilityClass : Option String
  capabilityEvidenceRefs : List String
  missingCapabilityEvidenceRefs : List String
  startedAt : Timestamp
  endedAt : Timestamp

def requireRawNonBlank (fieldName value : String) : Except RunnerError Unit :=
  if isBlankText value then .error (.invalidRawResult (fieldName ++ " is required")) else .ok ()

def validateNonBlankValues (fieldName : String) (values : List String) : Except RunnerError Unit :=
  if values.any isBlankText then .error (.invalidRawResult (fieldName ++ " values must not be blank"))
  else .ok ()

def RunnerRawResult.validate (raw : RunnerRawResult) : Except RunnerError Unit := do
  requireRawNonBlank "request_id" raw.requestId
  requireRawNonBlank "run_id" raw.runId
  requireRawNonBlank "runner_name" raw.runnerName
  if raw.failureCapabilityClass.any isBlankText then
    throw (.invalidRawResult "failure_capability_class must not be blank")
  validateNonBlankValues "capability_evidence_refs" raw.capabilityEvidenceRefs
  validateNonBlankValues "missing_capability_evidence_refs" raw.missingCapabilityEvidenceRefs
  if raw.endedAt.instant.nanoseconds < raw.startedAt.instant.nanoseconds then
    throw (.invalidRawResult "ended_at cannot precede started_at")

/-! ## Terminal results -/

structure TerminalExtraction where
  terminalResult : Option TerminalResult
  resultClass : Option ResultClass
  detectedMarker : Option String
  artifactPaths : List String
  failureClass : Option RunnerFailureClass
  notes : List String

def TerminalExtraction.ok (e : TerminalExtraction) : Bool :=
  e.failureClass.isNone && e.terminalResult.isSome && e.resultClass.isSome

/-- An extraction that failed. -/
def failedExtraction (failureClass : RunnerFailureClass) (note : String) (artifactPaths : List String)
    (detectedMarker : Option String) : TerminalExtraction :=
  ⟨none, none, detectedMarker, artifactPaths, some failureClass, [note]⟩

def terminalResultForRequest (request : StageRunRequest) (token : String) : Option TerminalResult :=
  if request.legalTerminalMarkers.any (· = "### " ++ token) then terminalResultForPlane request.plane token
  else none

def resolveResultClass (request : StageRunRequest) (terminalToken : String) (rawResultClass : Option ResultClass) :
    Option ResultClass :=
  match request.allowedResultClassesByOutcome.lookup terminalToken with
  | none => none
  | some allowed =>
    match rawResultClass with
    | none =>
      if allowed.length = 1 then allowed.head?
      else if terminalToken = "BLOCKED" ∧ .blocked ∈ allowed then some .blocked
      else none
    | some resultClass => if resultClass ∈ allowed then some resultClass else none

def extractFromPayload (files : RunFiles) (request : StageRunRequest) (payload : StructuredTerminalResultPayload) :
    TerminalExtraction :=
  if payload.stage.any (· ≠ asStr request.stage) then
    failedExtraction .illegalTerminalResult "structured terminal result stage does not match run request stage"
      payload.summaryArtifactPaths none
  else
    match terminalResultForRequest request payload.terminalResult with
    | none =>
      failedExtraction .illegalTerminalResult
        ("terminal result " ++ payload.terminalResult.quote ++ " is illegal for request node " ++ request.nodeId)
        payload.summaryArtifactPaths none
    | some terminalResult =>
      match resolveResultClass request payload.terminalResult payload.resultClass with
      | none =>
        failedExtraction .illegalTerminalResult
          "structured terminal result class is incompatible with terminal_result" payload.summaryArtifactPaths none
      | some resultClass =>
        let missing := payload.summaryArtifactPaths.filter fun path => !files.artifactExists request.runDir path
        if missing.isEmpty then
          ⟨some terminalResult, some resultClass, some (marker terminalResult), payload.summaryArtifactPaths, none,
            ["terminal result resolved from structured result file"]⟩
        else
          failedExtraction .missingRequiredArtifact
            ("missing required summary artifacts: " ++ String.intercalate ", " missing)
            payload.summaryArtifactPaths none

def extractFromStructuredResultFile (files : RunFiles) (request : StageRunRequest) (path : String) :
    TerminalExtraction :=
  match files.structuredResult path with
  | .missing =>
    failedExtraction .missingTerminalResult ("structured terminal result file is missing: " ++ path) [] none
  | .unreadable error =>
    failedExtraction .illegalTerminalResult ("failed to parse structured terminal result: " ++ error) [] none
  | .invalid error =>
    failedExtraction .illegalTerminalResult ("structured terminal result payload is invalid: " ++ error) [] none
  | .payload payload => extractFromPayload files request payload

def isAsciiWhitespace (c : Char) : Bool := c == ' ' || c == '\t' || c == '\n' || c == '\r' || c.toNat == 12

def terminalTokenFromLine (line : List Char) : Option String :=
  match trim line with
  | '#' :: '#' :: '#' :: first :: rest =>
    if isAsciiWhitespace first then
      let token := trim (first :: rest)
      if token.isEmpty || token.any isWhitespace || !token.all fun c => isAsciiUpper c || c == '_' then none
      else some (String.ofList token)
    else none
  | _ => none

def terminalTokens (text : String) : List String := (lines text.toList).filterMap terminalTokenFromLine

/-- The last token, if there is one; the first token stands for all if they are the same. -/
def extractFromTokens (request : StageRunRequest) (tokens : List String) : Except Stop TerminalExtraction :=
  match tokens.getLast? with
  | none => .ok (failedExtraction .missingTerminalResult "no terminal token found in stdout" [] none)
  | some finalToken =>
    if tokens.eraseDups.length > 1 then
      .ok (failedExtraction .conflictingTerminalResults "stdout contains conflicting terminal tokens" []
        (some ("### " ++ finalToken)))
    else
      match terminalResultForRequest request finalToken with
      | none =>
        .ok (failedExtraction .illegalTerminalResult
          ("terminal token " ++ finalToken.quote ++ " is illegal for request node " ++ request.nodeId) []
          (some ("### " ++ finalToken)))
      | some terminalResult =>
        match resolveResultClass request finalToken none with
        | none => .error (.panicked "request policy already matched terminal token")
        | some resultClass =>
          .ok ⟨some terminalResult, some resultClass, some ("### " ++ finalToken), [], none,
            ["terminal result resolved from stdout token"]⟩

def extractFromStdoutTokens (files : RunFiles) (request : StageRunRequest) :
    Option String → Except Stop TerminalExtraction
  | none =>
    .ok (failedExtraction .missingTerminalResult
      "stdout path is missing and no structured terminal result was provided" [] none)
  | some stdoutPath =>
    match files.stdout stdoutPath with
    | .missing =>
      .ok (failedExtraction .missingTerminalResult ("stdout file is missing: " ++ stdoutPath) [] none)
    | .unreadable error =>
      .ok (failedExtraction .runnerTransportFailure ("failed reading stdout file: " ++ error) [] none)
    | .holds text => extractFromTokens request (terminalTokens text)

def extractTerminalResult (files : RunFiles) (request : StageRunRequest) (raw : RunnerRawResult) :
    Except Stop TerminalExtraction :=
  match raw.terminalResultPath with
  | some path => .ok (extractFromStructuredResultFile files request path)
  | none => extractFromStdoutTokens files request raw.stdoutPath

/-! ## Envelopes -/

/-- The metadata that normalization itself adds to that of the request. -/
structure NormalizationMetadata where
  normalizationSource : String
  validTerminalResult : Bool
  rawExitKind : RunnerExitKind
  rawExitCode : Option Int
  timeoutReconciled : Bool
  classification : Option RunnerFailureMetadata
  rawDetectedMarker : Option String
  deriving DecidableEq

structure StageResultEnvelope where
  runId : String
  plane : Plane
  stage : StageName
  nodeId : String
  stageKindId : String
  workItemKind : WorkItemKind
  workItemId : String
  terminalResult : TerminalResult
  resultClass : ResultClass
  summaryStatusMarker : String
  success : Bool
  retryable : Bool
  exitCode : Int
  reportArtifact : Option String
  artifactPaths : List String
  detectedMarker : Option String
  stdoutPath : Option String
  stderrPath : Option String
  runnerName : String
  notes : List String
  metadata : NormalizationMetadata
  startedAt : Timestamp
  completedAt : Timestamp

def invalidEnvelope (message : String) : Except Stop Unit := .error (.failed (.stageResultEnvelope message))

def validateDetectedMarker (e : StageResultEnvelope) : Except Stop Unit :=
  match e.detectedMarker with
  | none => .ok ()
  | some detectedMarker =>
    match parseTerminalMarkerForPlane e.plane detectedMarker with
    | none => invalidEnvelope "invalid terminal marker"
    | some detected =>
      if detected = e.terminalResult then .ok ()
      else invalidEnvelope "detected_marker must match terminal_result"

def validateEnvelope (e : StageResultEnvelope) : Except Stop StageResultEnvelope := do
  if stagePlane e.stage ≠ e.plane then invalidEnvelope "stage must belong to plane"
  if e.summaryStatusMarker ≠ marker e.terminalResult then
    invalidEnvelope "summary_status_marker must match terminal_result"
  validateDetectedMarker e
  if e.completedAt.instant.nanoseconds < e.startedAt.instant.nanoseconds then
    invalidEnvelope "completed_at cannot precede started_at"
  if e.resultClass = .success ∧ e.success = false then
    invalidEnvelope "success result_class requires success=true"
  if e.resultClass ≠ .success ∧ e.success = true then
    invalidEnvelope "non-success result_class requires success=false"
  return { e with
    nodeId := if e.nodeId = "" then asStr e.stage else e.nodeId
    stageKindId := if e.stageKindId = "" then asStr e.stage else e.stageKindId }

def requestResultIdentity (request : StageRunRequest) : Except Stop (WorkItemKind × String) :=
  match request.requestKind with
  | .closureTarget =>
    match request.closureTargetRootSpecId with
    | none =>
      .error (.failed (.invalidRequest "closure_target_root_spec_id is required for closure_target requests"))
    | some rootSpecId => .ok (.spec, rootSpecId)
  | .learningRequest =>
    match request.activeWorkItemId with
    | none => .error (.failed (.invalidRequest "active_work_item_id is required for learning_request requests"))
    | some workItemId => .ok (.learningRequest, workItemId)
  | .activeWorkItem =>
    match request.activeWorkItemKind, request.activeWorkItemId with
    | some kind, some id => .ok (kind, id)
    | _, _ =>
      .error (.failed (.invalidRequest
        "active_work_item_kind and active_work_item_id are required to normalize stage results"))

def mergeArtifactPaths (artifactPaths : List String) (additional : List (Option String)) : List String :=
  additional.reduceOption.foldl (fun merged path => if path ∈ merged then merged else merged ++ [path]) artifactPaths

def resolvedReportArtifact (files : RunFiles) (request : StageRunRequest) : Option String :=
  [request.preferredReportPath, request.preferredTroubleshootReportPath].reduceOption.find?
    (files.artifactExists request.runDir)

def timeoutReconciled (raw : RunnerRawResult) : Bool :=
  raw.observedExitKind = some .timeout ∧ raw.exitKind = .completed

def transportReconciliationNotes (raw : RunnerRawResult) : List String :=
  if timeoutReconciled raw then
    ["runner timeout was reconciled after a final terminal marker was captured"]
  else []

def failureDetectedMarker (blockedTerminal : TerminalResult) : Option String → Option String × Option String
  | none => (none, none)
  | some detected => if detected = marker blockedTerminal then (some detected, none) else (none, some detected)

def failureEnvelope (files : RunFiles) (request : StageRunRequest) (raw : RunnerRawResult)
    (failureClass : RunnerFailureClass) (notes : List String) (detectedMarker : Option String)
    (artifactPaths : List String) (classification : Option RunnerFailureMetadata) :
    Except Stop StageResultEnvelope := do
  let blockedTerminal := blockedTerminalForPlane request.plane
  let (detectedMarker, rawDetectedMarker) := failureDetectedMarker blockedTerminal detectedMarker
  let reportArtifact := resolvedReportArtifact files request
  let (workItemKind, workItemId) ← requestResultIdentity request
  validateEnvelope {
    runId := request.runId
    plane := request.plane
    stage := request.stage
    nodeId := request.nodeId
    stageKindId := request.stageKindId
    workItemKind := workItemKind
    workItemId := workItemId
    terminalResult := blockedTerminal
    resultClass := .recoverableFailure
    summaryStatusMarker := "### BLOCKED"
    success := false
    retryable := true
    exitCode := raw.exitCode.getD 1
    reportArtifact := reportArtifact
    artifactPaths := mergeArtifactPaths artifactPaths
      [reportArtifact, raw.eventLogPath, request.contextBundlePath, request.renderedPromptContextPath]
    detectedMarker := detectedMarker
    stdoutPath := raw.stdoutPath
    stderrPath := raw.stderrPath
    runnerName := raw.runnerName
    notes := notes
    metadata := {
      normalizationSource := "failure"
      validTerminalResult := false
      rawExitKind := raw.observedExitKind.getD raw.exitKind
      rawExitCode := raw.observedExitCode.or raw.exitCode
      timeoutReconciled := timeoutReconciled raw
      classification := some (classification.getD (classificationForFailureClass failureClass))
      rawDetectedMarker := rawDetectedMarker }
    startedAt := raw.startedAt
    completedAt := raw.endedAt }

def successEnvelope (files : RunFiles) (request : StageRunRequest) (raw : RunnerRawResult)
    (terminalResult : TerminalResult) (resultClass : ResultClass) (extraction : TerminalExtraction) :
    Except Stop StageResultEnvelope := do
  let reportArtifact := resolvedReportArtifact files request
  let (workItemKind, workItemId) ← requestResultIdentity request
  validateEnvelope {
    runId := request.runId
    plane := request.plane
    stage := request.stage
    nodeId := request.nodeId
    stageKindId := request.stageKindId
    workItemKind := workItemKind
    workItemId := workItemId
    terminalResult := terminalResult
    resultClass := resultClass
    summaryStatusMarker := marker terminalResult
    success := resultClass = .success
    retryable := false
    exitCode := raw.exitCode.getD 0
    reportArtifact := reportArtifact
    artifactPaths := mergeArtifactPaths extraction.artifactPaths
      [reportArtifact, raw.eventLogPath, request.contextBundlePath, request.renderedPromptContextPath]
    detectedMarker := extraction.detectedMarker
    stdoutPath := raw.stdoutPath
    stderrPath := raw.stderrPath
    runnerName := raw.runnerName
    notes := extraction.notes ++ transportReconciliationNotes raw
    metadata := {
      normalizationSource :=
        if raw.terminalResultPath.isSome then "structured_result_file" else "stdout_terminal_token"
      validTerminalResult := true
      rawExitKind := raw.observedExitKind.getD raw.exitKind
      rawExitCode := raw.observedExitCode.or raw.exitCode
      timeoutReconciled := timeoutReconciled raw
      classification := none
      rawDetectedMarker := none }
    startedAt := raw.startedAt
    completedAt := raw.endedAt }

/-! ## Normalization -/

def identityMismatchNotes (request : StageRunRequest) (raw : RunnerRawResult) : List String :=
  (if raw.requestId ≠ request.requestId then ["raw result request_id does not match stage run request"] else []) ++
  (if raw.runId ≠ request.runId then ["raw result run_id does not match stage run request"] else []) ++
  (if raw.stage ≠ request.stage then ["raw result stage does not match stage run request"] else [])

def classifyRawExitFailure (files : RunFiles) (raw : RunnerRawResult) : Option RunnerFailureMetadata :=
  if raw.exitKind = .completed ∧ (raw.exitCode.all fun code => code = 0) then none
  else if raw.exitKind = .timeout then some ⟨.runnerTimeout, .runnerFailure, .environment, true, .exitTimeout⟩
  else
    match runtimeCapabilityFailureClass raw.failureCapabilityClass with
    | some failureClass => some (classificationForFailureClass failureClass)
    | none =>
      match classifyFailureEvidence (files.failureEvidence raw.stderrPath raw.stdoutPath) .runnerFailure with
      | some classification => some classification
      | none =>
        if raw.exitKind = .providerError then
          some ⟨.providerUnavailable, .runnerFailure, .provider, true, .providerDefaultUnavailable⟩
        else some (classificationForFailureClass .runnerTransportFailure)

/-- The result of a run whose exit and evidence are in order. -/
def normalizeCompleted (files : RunFiles) (request : StageRunRequest) (raw : RunnerRawResult) :
    Except Stop StageResultEnvelope := do
  let extraction ← extractTerminalResult files request raw
  if !extraction.ok then
    failureEnvelope files request raw (extraction.failureClass.getD .illegalTerminalResult) extraction.notes
      extraction.detectedMarker extraction.artifactPaths none
  else
    match extraction.terminalResult, extraction.resultClass with
    | some terminalResult, some resultClass =>
      successEnvelope files request raw terminalResult resultClass extraction
    | none, _ => .error (.panicked "ok extraction has terminal_result")
    | _, none => .error (.panicked "ok extraction has result_class")

def normalizeStageResult (files : RunFiles) (request : StageRunRequest) (raw : RunnerRawResult) :
    Except Stop StageResultEnvelope := do
  raw.validate.mapError .failed
  let identityNotes := identityMismatchNotes request raw
  if !identityNotes.isEmpty then
    failureEnvelope files request raw .runnerTransportFailure identityNotes none [] none
  else
    -- A runner that did not complete is classified; without a classification its output is still read.
    match if raw.exitKind ≠ .completed then classifyRawExitFailure files raw else none with
    | some classification =>
      failureEnvelope files request raw classification.failureClass
        ["runner exited with " ++ raw.exitKind.asStr] none [] (some classification)
    | none =>
      if raw.exitKind = .completed ∧ (raw.exitCode.any fun code => code ≠ 0) then
        let classification :=
          (classifyRawExitFailure files raw).getD (classificationForFailureClass .runnerTransportFailure)
        failureEnvelope files request raw classification.failureClass
          ["runner completed with non-zero exit code"] none [] (some classification)
      else if !raw.missingCapabilityEvidenceRefs.isEmpty then
        failureEnvelope files request raw .capabilityEvidenceMissing
          ["missing required capability evidence: " ++ String.intercalate ", " raw.missingCapabilityEvidenceRefs]
          none [] none
      else normalizeCompleted files request raw

end

end Millrace.Runners
