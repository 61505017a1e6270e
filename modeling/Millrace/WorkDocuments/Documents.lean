import Millrace.WorkDocuments.Fields

/-! The five headed-markdown work documents: their contracts, their rendering and their parsing. -/

set_option autoImplicit false

namespace Millrace.WorkDocuments
open Millrace.Text Millrace.Contracts

/-- A point in time as the time library reads it: a local date and time with its offset from UTC. -/
structure OffsetDateTime where
  year : Nat
  month : Nat
  day : Nat
  hour : Nat
  minute : Nat
  second : Nat
  nanosecond : Nat
  offsetSeconds : Int
  deriving DecidableEq, Repr

/-- The RFC 3339 reader of the time library. -/
class Rfc3339 where
  parse : String → Except String OffsetDateTime

/-- The JSON library as the learning request uses it. -/
class SerdeJson where
  Value : Type
  emptyObject : Value
  isObject : Value → Bool
  isEmptyObject : Value → Bool
  toText : Value → Option String
  display : Value → String
  fromText : String → Except String Value

section Timestamp
variable [Rfc3339]

structure Timestamp where
  text : String
  trimmed : trim text.toList = text.toList
  nonempty : text ≠ ""
  parses : (Rfc3339.parse text).isOk = true
  deriving DecidableEq

def Timestamp.instant (t : Timestamp) : OffsetDateTime :=
  match read : Rfc3339.parse t.text with
  | .ok instant => instant
  | .error _ => absurd t.parses (by simp [read, Except.isOk, Except.toBool])

def Timestamp.parse (fieldName value : String) : Except WorkDocumentError Timestamp :=
  if malformed : trim value.toList ≠ value.toList ∨ value = "" then
    .error (.invalidField fieldName value "must be a non-empty RFC 3339 timestamp without surrounding whitespace")
  else match parses : Rfc3339.parse value with
    | .error message => .error (.invalidField fieldName value message)
    | .ok instant => .ok {
        text := value
        trimmed := Classical.not_not.mp fun edge => malformed (.inl edge)
        nonempty := fun none => malformed (.inr none)
        parses := by rw [parses]; rfl }

theorem Timestamp.parse_text (fieldName : String) (t : Timestamp) : Timestamp.parse fieldName t.text = .ok t := by
  unfold Timestamp.parse
  rw [dif_neg (by simp [t.trimmed, t.nonempty])]
  have parses := t.parses
  split
  next message rejected => simp [rejected, Except.isOk, Except.toBool] at parses
  next => rfl

theorem Timestamp.text_of_parse {fieldName value : String} {t : Timestamp}
    (ok : Timestamp.parse fieldName value = .ok t) : t.text = value := by
  unfold Timestamp.parse at ok
  split at ok
  · simp at ok
  · split at ok
    · simp at ok
    · exact Except.ok.inj ok ▸ rfl

end Timestamp

/-! ## Reading fields -/

section Readers
variable (fields : ParsedFields)

def optionalScalar (f : FieldName) : Option String := fields.scalars f

def requiredScalar (f : FieldName) : Except WorkDocumentError String :=
  match fields.scalars f with
  | some value => .ok value
  | none => .error (.missingRequiredField f.fieldName)

def requiredTitle (headingTitle : String) : Except WorkDocumentError String := do
  let title ← requiredScalar fields .title
  if trim title.toList ≠ headingTitle.toList then
    throw (.invalidDocument "markdown H1 title must match the `Title` field")
  return title

def optionalList (f : FieldName) : List String := (fields.lists f).getD []

def requiredList (f : FieldName) : Except WorkDocumentError (List String) :=
  if optionalList fields f = [] then .error (.emptyRequiredList f.fieldName) else .ok (optionalList fields f)

def parsedEnum (α : Type) [StringEnum α] (value : String) : Except WorkDocumentError α :=
  (fromValue value).mapError .contract

def requiredEnum (α : Type) [StringEnum α] (f : FieldName) : Except WorkDocumentError α := do
  parsedEnum α (← requiredScalar fields f)

def transposed {α : Type} (parse : String → Except WorkDocumentError α) :
    Option String → Except WorkDocumentError (Option α)
  | none => .ok none
  | some value => (parse value).map some

def optionalEnum (α : Type) [StringEnum α] (f : FieldName) : Except WorkDocumentError (Option α) :=
  transposed (parsedEnum α) (optionalScalar fields f)

def parsedBool (f : FieldName) (value : String) : Except WorkDocumentError Bool :=
  if value = "true" then .ok true
  else if value = "false" then .ok false
  else .error (.invalidField f.fieldName value "must be `true` or `false`")

def optionalBool (f : FieldName) : Except WorkDocumentError (Option Bool) :=
  transposed (parsedBool f) (optionalScalar fields f)

def requiredTimestamp [Rfc3339] (f : FieldName) : Except WorkDocumentError Timestamp := do
  Timestamp.parse f.fieldName (← requiredScalar fields f)

def optionalTimestamp [Rfc3339] (f : FieldName) : Except WorkDocumentError (Option Timestamp) :=
  transposed (Timestamp.parse f.fieldName) (optionalScalar fields f)

def optionalTriggerMetadata [json : SerdeJson] : Except WorkDocumentError json.Value :=
  match optionalScalar fields .triggerMetadata with
  | none => .ok json.emptyObject
  | some raw =>
    match json.fromText raw with
    | .error message => .error (.invalidField "trigger_metadata" raw message)
    | .ok value =>
      if json.isObject value then .ok value
      else .error (.invalidField "trigger_metadata" raw "must be a JSON object")

end Readers

/-! ## Contracts -/

def validateIdentifier (fieldName value : String) : Except WorkDocumentError Unit :=
  (validateSafeIdentifier value fieldName).mapError .contract

def validateOptionalIdentifier (fieldName : String) : Option String → Except WorkDocumentError Unit
  | none => .ok ()
  | some value => validateIdentifier fieldName value

def validateIdentifiers (fieldName : String) : List String → Except WorkDocumentError Unit
  | [] => .ok ()
  | value :: rest => do
    validateIdentifier fieldName value
    validateIdentifiers fieldName rest

def validateRequiredList (fieldName : String) (values : List String) : Except WorkDocumentError Unit :=
  if values = [] then .error (.emptyRequiredList fieldName) else .ok ()

inductive DocumentModel where
  | task | probe | spec | incident | learningRequest
  deriving DecidableEq, Repr

def modelName : DocumentModel → String
  | .task => asStr WorkItemKind.task
  | .probe => asStr WorkItemKind.probe
  | .spec => asStr WorkItemKind.spec
  | .incident => asStr WorkItemKind.incident
  | .learningRequest => asStr WorkItemKind.learningRequest

def inferModel (fields : ParsedFields) (sourceName : String) : Except WorkDocumentError DocumentModel :=
  if (fields.scalars .taskId).isSome then .ok .task
  else if (fields.scalars .probeId).isSome then .ok .probe
  else if (fields.scalars .learningRequestId).isSome then .ok .learningRequest
  else if (fields.scalars .incidentId).isSome then .ok .incident
  else if (fields.scalars .specId).isSome then .ok .spec
  else .error (.invalidDocument
    ("work document " ++ sourceName ++ " must include one canonical document identifier"))

def ensureModel (fields : ParsedFields) (expected : DocumentModel) (sourceName : String) :
    Except WorkDocumentError Unit := do
  let actual ← inferModel fields sourceName
  if actual = expected then return ()
  else throw (.invalidDocument
    ("work document " ++ sourceName ++ " has kind " ++ modelName actual ++ ", expected " ++ modelName expected))

section Documents
variable [Rfc3339]

/-! ## Tasks -/

structure TaskDocument where
  taskId : String
  title : String
  summary : String
  rootIdeaId : Option String
  rootSpecId : Option String
  rootIntakeKind : Option RootIntakeKind
  rootIntakeId : Option String
  specId : Option String
  parentTaskId : Option String
  incidentId : Option String
  targetPaths : List String
  acceptance : List String
  requiredChecks : List String
  references : List String
  risk : List String
  dependsOn : List String
  blocks : List String
  tags : List String
  statusHint : Option TaskStatusHint
  createdAt : Timestamp
  createdBy : String
  updatedAt : Option Timestamp
  deriving DecidableEq

def TaskDocument.validate (d : TaskDocument) : Except WorkDocumentError Unit := do
  validateIdentifier "task_id" d.taskId
  validateOptionalIdentifier "root_idea_id" d.rootIdeaId
  validateOptionalIdentifier "root_spec_id" d.rootSpecId
  validateOptionalIdentifier "root_intake_id" d.rootIntakeId
  validateOptionalIdentifier "spec_id" d.specId
  validateOptionalIdentifier "parent_task_id" d.parentTaskId
  validateOptionalIdentifier "incident_id" d.incidentId
  validateRequiredList "target_paths" d.targetPaths
  validateRequiredList "acceptance" d.acceptance
  validateRequiredList "required_checks" d.requiredChecks
  validateRequiredList "references" d.references
  validateRequiredList "risk" d.risk

def taskEntries (d : TaskDocument) : List Entry := [
  pushScalar .taskId d.taskId,
  pushScalar .title d.title,
  pushOptionalNonEmptyScalar .summary d.summary,
  pushOptionalScalar .rootIdeaId d.rootIdeaId,
  pushOptionalScalar .rootSpecId d.rootSpecId,
  pushOptionalScalar .rootIntakeKind (d.rootIntakeKind.map asStr),
  pushOptionalScalar .rootIntakeId d.rootIntakeId,
  pushOptionalScalar .specId d.specId,
  pushOptionalScalar .parentTaskId d.parentTaskId,
  pushOptionalScalar .incidentId d.incidentId,
  pushOptionalScalar .statusHint (d.statusHint.map asStr),
  pushScalar .createdAt d.createdAt.text,
  pushScalar .createdBy d.createdBy,
  pushOptionalScalar .updatedAt (d.updatedAt.map Timestamp.text),
  pushList .dependsOn d.dependsOn,
  pushList .blocks d.blocks,
  pushList .tags d.tags,
  pushList .targetPaths d.targetPaths,
  pushList .acceptance d.acceptance,
  pushList .requiredChecks d.requiredChecks,
  pushList .references d.references,
  pushList .risk d.risk].flatten

def renderTaskDocument (d : TaskDocument) : String := renderEntries d.title (taskEntries d)

def parseTaskFromFields (headingTitle : String) (fields : ParsedFields) :
    Except WorkDocumentError TaskDocument := do
  let document : TaskDocument := {
    taskId := ← requiredScalar fields .taskId
    title := ← requiredTitle fields headingTitle
    summary := (optionalScalar fields .summary).getD ""
    rootIdeaId := optionalScalar fields .rootIdeaId
    rootSpecId := optionalScalar fields .rootSpecId
    rootIntakeKind := ← optionalEnum fields RootIntakeKind .rootIntakeKind
    rootIntakeId := optionalScalar fields .rootIntakeId
    specId := optionalScalar fields .specId
    parentTaskId := optionalScalar fields .parentTaskId
    incidentId := optionalScalar fields .incidentId
    targetPaths := ← requiredList fields .targetPaths
    acceptance := ← requiredList fields .acceptance
    requiredChecks := ← requiredList fields .requiredChecks
    references := ← requiredList fields .references
    risk := ← requiredList fields .risk
    dependsOn := optionalList fields .dependsOn
    blocks := optionalList fields .blocks
    tags := optionalList fields .tags
    statusHint := ← optionalEnum fields TaskStatusHint .statusHint
    createdAt := ← requiredTimestamp fields .createdAt
    createdBy := ← requiredScalar fields .createdBy
    updatedAt := ← optionalTimestamp fields .updatedAt }
  document.validate
  return document

def parseTaskDocumentWithSource (raw sourceName : String) : Except WorkDocumentError TaskDocument := do
  let (headingTitle, fields) ← parseMarkdownFields raw sourceName
  ensureModel fields .task sourceName
  parseTaskFromFields headingTitle fields

def parseTaskDocument (raw : String) : Except WorkDocumentError TaskDocument :=
  parseTaskDocumentWithSource raw "<memory>"

/-! ## Probes -/

structure ProbeDocument where
  probeId : String
  title : String
  summary : String
  request : String
  targetPaths : List String
  constraints : List String
  acceptance : List String
  riskNotes : List String
  references : List String
  tags : List String
  statusHint : Option ProbeStatusHint
  createdAt : Timestamp
  createdBy : String
  updatedAt : Option Timestamp
  deriving DecidableEq

def ProbeDocument.validate (d : ProbeDocument) : Except WorkDocumentError Unit := do
  validateIdentifier "probe_id" d.probeId
  if trim d.request.toList = [] then throw (.missingRequiredField "request")

def probeEntries (d : ProbeDocument) : List Entry := [
  pushScalar .probeId d.probeId,
  pushScalar .title d.title,
  pushOptionalNonEmptyScalar .summary d.summary,
  pushScalar .request d.request,
  pushOptionalScalar .statusHint (d.statusHint.map asStr),
  pushScalar .createdAt d.createdAt.text,
  pushScalar .createdBy d.createdBy,
  pushOptionalScalar .updatedAt (d.updatedAt.map Timestamp.text),
  pushList .targetPaths d.targetPaths,
  pushList .constraints d.constraints,
  pushList .acceptance d.acceptance,
  pushList .riskNotes d.riskNotes,
  pushList .references d.references,
  pushList .tags d.tags].flatten

def renderProbeDocument (d : ProbeDocument) : String := renderEntries d.title (probeEntries d)

def parseProbeFromFields (headingTitle : String) (fields : ParsedFields) :
    Except WorkDocumentError ProbeDocument := do
  let document : ProbeDocument := {
    probeId := ← requiredScalar fields .probeId
    title := ← requiredTitle fields headingTitle
    summary := (optionalScalar fields .summary).getD ""
    request := ← requiredScalar fields .request
    targetPaths := optionalList fields .targetPaths
    constraints := optionalList fields .constraints
    acceptance := optionalList fields .acceptance
    riskNotes := optionalList fields .riskNotes
    references := optionalList fields .references
    tags := optionalList fields .tags
    statusHint := ← optionalEnum fields ProbeStatusHint .statusHint
    createdAt := ← requiredTimestamp fields .createdAt
    createdBy := ← requiredScalar fields .createdBy
    updatedAt := ← optionalTimestamp fields .updatedAt }
  document.validate
  return document

def parseProbeDocumentWithSource (raw sourceName : String) : Except WorkDocumentError ProbeDocument := do
  let (headingTitle, fields) ← parseMarkdownFields raw sourceName
  ensureModel fields .probe sourceName
  parseProbeFromFields headingTitle fields

def parseProbeDocument (raw : String) : Except WorkDocumentError ProbeDocument :=
  parseProbeDocumentWithSource raw "<memory>"

/-! ## Specs -/

structure SpecDocument where
  specId : String
  title : String
  summary : String
  sourceType : SpecSourceType
  sourceId : Option String
  parentSpecId : Option String
  rootIdeaId : Option String
  rootSpecId : Option String
  rootIntakeKind : Option RootIntakeKind
  rootIntakeId : Option String
  goals : List String
  nonGoals : List String
  scope : List String
  constraints : List String
  assumptions : List String
  risks : List String
  targetPaths : List String
  entrypoints : List String
  requiredSkills : List String
  decompositionHints : List String
  acceptance : List String
  references : List String
  createdAt : Timestamp
  createdBy : String
  updatedAt : Option Timestamp
  deriving DecidableEq

def SpecDocument.validate (d : SpecDocument) : Except WorkDocumentError Unit := do
  validateIdentifier "spec_id" d.specId
  validateOptionalIdentifier "source_id" d.sourceId
  validateOptionalIdentifier "parent_spec_id" d.parentSpecId
  validateOptionalIdentifier "root_idea_id" d.rootIdeaId
  validateOptionalIdentifier "root_spec_id" d.rootSpecId
  validateOptionalIdentifier "root_intake_id" d.rootIntakeId
  validateRequiredList "goals" d.goals
  validateRequiredList "constraints" d.constraints
  validateRequiredList "acceptance" d.acceptance
  validateRequiredList "references" d.references

def specEntries (d : SpecDocument) : List Entry := [
  pushScalar .specId d.specId,
  pushScalar .title d.title,
  pushScalar .summary d.summary,
  pushScalar .sourceType (asStr d.sourceType),
  pushOptionalScalar .sourceId d.sourceId,
  pushOptionalScalar .parentSpecId d.parentSpecId,
  pushOptionalScalar .rootIdeaId d.rootIdeaId,
  pushOptionalScalar .rootSpecId d.rootSpecId,
  pushOptionalScalar .rootIntakeKind (d.rootIntakeKind.map asStr),
  pushOptionalScalar .rootIntakeId d.rootIntakeId,
  pushScalar .createdAt d.createdAt.text,
  pushScalar .createdBy d.createdBy,
  pushOptionalScalar .updatedAt (d.updatedAt.map Timestamp.text),
  pushList .goals d.goals,
  pushList .nonGoals d.nonGoals,
  pushList .scope d.scope,
  pushList .constraints d.constraints,
  pushList .assumptions d.assumptions,
  pushList .risks d.risks,
  pushList .targetPaths d.targetPaths,
  pushList .entrypoints d.entrypoints,
  pushList .requiredSkills d.requiredSkills,
  pushList .decompositionHints d.decompositionHints,
  pushList .acceptance d.acceptance,
  pushList .references d.references].flatten

def renderSpecDocument (d : SpecDocument) : String := renderEntries d.title (specEntries d)

def parseSpecFromFields (headingTitle : String) (fields : ParsedFields) :
    Except WorkDocumentError SpecDocument := do
  let document : SpecDocument := {
    specId := ← requiredScalar fields .specId
    title := ← requiredTitle fields headingTitle
    summary := ← requiredScalar fields .summary
    sourceType := ← requiredEnum fields SpecSourceType .sourceType
    sourceId := optionalScalar fields .sourceId
    parentSpecId := optionalScalar fields .parentSpecId
    rootIdeaId := optionalScalar fields .rootIdeaId
    rootSpecId := optionalScalar fields .rootSpecId
    rootIntakeKind := ← optionalEnum fields RootIntakeKind .rootIntakeKind
    rootIntakeId := optionalScalar fields .rootIntakeId
    goals := ← requiredList fields .goals
    nonGoals := optionalList fields .nonGoals
    scope := optionalList fields .scope
    constraints := ← requiredList fields .constraints
    assumptions := optionalList fields .assumptions
    risks := optionalList fields .risks
    targetPaths := optionalList fields .targetPaths
    entrypoints := optionalList fields .entrypoints
    requiredSkills := optionalList fields .requiredSkills
    decompositionHints := optionalList fields .decompositionHints
    acceptance := ← requiredList fields .acceptance
    references := ← requiredList fields .references
    createdAt := ← requiredTimestamp fields .createdAt
    createdBy := ← requiredScalar fields .createdBy
    updatedAt := ← optionalTimestamp fields .updatedAt }
  document.validate
  return document

def parseSpecDocumentWithSource (raw sourceName : String) : Except WorkDocumentError SpecDocument := do
  let (headingTitle, fields) ← parseMarkdownFields raw sourceName
  ensureModel fields .spec sourceName
  parseSpecFromFields headingTitle fields

def parseSpecDocument (raw : String) : Except WorkDocumentError SpecDocument :=
  parseSpecDocumentWithSource raw "<memory>"

/-! ## Incidents -/

structure IncidentDocument where
  incidentId : String
  title : String
  summary : String
  rootIdeaId : Option String
  rootSpecId : Option String
  rootIntakeKind : Option RootIntakeKind
  rootIntakeId : Option String
  sourceTaskId : Option String
  sourceSpecId : Option String
  sourceStage : StageName
  sourcePlane : Plane
  failureClass : String
  severity : IncidentSeverity
  needsPlanning : Bool
  triggerReason : String
  observedSymptoms : List String
  failedAttempts : List String
  consultantDecision : IncidentDecision
  evidencePaths : List String
  relatedRunIds : List String
  relatedStageResults : List String
  references : List String
  openedAt : Timestamp
  openedBy : String
  updatedAt : Option Timestamp
  deriving DecidableEq

def IncidentDocument.validate (d : IncidentDocument) : Except WorkDocumentError Unit := do
  validateIdentifier "incident_id" d.incidentId
  validateOptionalIdentifier "root_idea_id" d.rootIdeaId
  validateOptionalIdentifier "root_spec_id" d.rootSpecId
  validateOptionalIdentifier "root_intake_id" d.rootIntakeId
  validateOptionalIdentifier "source_task_id" d.sourceTaskId
  validateOptionalIdentifier "source_spec_id" d.sourceSpecId
  if stagePlane d.sourceStage ≠ d.sourcePlane then
    throw (.invalidDocument "source_stage must belong to source_plane")

def incidentEntries (d : IncidentDocument) : List Entry := [
  pushScalar .incidentId d.incidentId,
  pushScalar .title d.title,
  pushScalar .summary d.summary,
  pushOptionalScalar .rootIdeaId d.rootIdeaId,
  pushOptionalScalar .rootSpecId d.rootSpecId,
  pushOptionalScalar .rootIntakeKind (d.rootIntakeKind.map asStr),
  pushOptionalScalar .rootIntakeId d.rootIntakeId,
  pushOptionalScalar .sourceTaskId d.sourceTaskId,
  pushOptionalScalar .sourceSpecId d.sourceSpecId,
  pushScalar .sourceStage (asStr d.sourceStage),
  pushScalar .sourcePlane (asStr d.sourcePlane),
  pushScalar .failureClass d.failureClass,
  (if d.severity ≠ .medium then pushScalar .severity (asStr d.severity) else []),
  (if !d.needsPlanning then pushScalar .needsPlanning "false" else []),
  pushScalar .triggerReason d.triggerReason,
  pushScalar .consultantDecision (asStr d.consultantDecision),
  pushScalar .openedAt d.openedAt.text,
  pushScalar .openedBy d.openedBy,
  pushOptionalScalar .updatedAt (d.updatedAt.map Timestamp.text),
  pushList .observedSymptoms d.observedSymptoms,
  pushList .failedAttempts d.failedAttempts,
  pushList .evidencePaths d.evidencePaths,
  pushList .relatedRunIds d.relatedRunIds,
  pushList .relatedStageResults d.relatedStageResults,
  pushList .references d.references].flatten

def renderIncidentDocument (d : IncidentDocument) : String := renderEntries d.title (incidentEntries d)

def parseIncidentFromFields (headingTitle : String) (fields : ParsedFields) :
    Except WorkDocumentError IncidentDocument := do
  let document : IncidentDocument := {
    incidentId := ← requiredScalar fields .incidentId
    title := ← requiredTitle fields headingTitle
    summary := ← requiredScalar fields .summary
    rootIdeaId := optionalScalar fields .rootIdeaId
    rootSpecId := optionalScalar fields .rootSpecId
    rootIntakeKind := ← optionalEnum fields RootIntakeKind .rootIntakeKind
    rootIntakeId := optionalScalar fields .rootIntakeId
    sourceTaskId := optionalScalar fields .sourceTaskId
    sourceSpecId := optionalScalar fields .sourceSpecId
    sourceStage := ← requiredEnum fields StageName .sourceStage
    sourcePlane := ← requiredEnum fields Plane .sourcePlane
    failureClass := ← requiredScalar fields .failureClass
    severity := (← optionalEnum fields IncidentSeverity .severity).getD .medium
    needsPlanning := (← optionalBool fields .needsPlanning).getD true
    triggerReason := ← requiredScalar fields .triggerReason
    observedSymptoms := optionalList fields .observedSymptoms
    failedAttempts := optionalList fields .failedAttempts
    consultantDecision := ← requiredEnum fields IncidentDecision .consultantDecision
    evidencePaths := optionalList fields .evidencePaths
    relatedRunIds := optionalList fields .relatedRunIds
    relatedStageResults := optionalList fields .relatedStageResults
    references := optionalList fields .references
    openedAt := ← requiredTimestamp fields .openedAt
    openedBy := ← requiredScalar fields .openedBy
    updatedAt := ← optionalTimestamp fields .updatedAt }
  document.validate
  return document

def parseIncidentDocumentWithSource (raw sourceName : String) :
    Except WorkDocumentError IncidentDocument := do
  let (headingTitle, fields) ← parseMarkdownFields raw sourceName
  ensureModel fields .incident sourceName
  parseIncidentFromFields headingTitle fields

def parseIncidentDocument (raw : String) : Except WorkDocumentError IncidentDocument :=
  parseIncidentDocumentWithSource raw "<memory>"

/-! ## Learning requests -/

section LearningRequest
variable [json : SerdeJson]

structure LearningRequestDocument where
  learningRequestId : String
  title : String
  summary : String
  requestedAction : LearningRequestAction
  targetSkillId : Option String
  targetStage : Option LearningStageName
  sourceRefs : List String
  preferredOutputPaths : List String
  triggerMetadata : json.Value
  originatingRunIds : List String
  artifactPaths : List String
  references : List String
  createdAt : Timestamp
  createdBy : String
  updatedAt : Option Timestamp

def LearningRequestDocument.validate (d : LearningRequestDocument) : Except WorkDocumentError Unit := do
  validateIdentifier "learning_request_id" d.learningRequestId
  validateOptionalIdentifier "target_skill_id" d.targetSkillId
  validateIdentifiers "originating_run_ids" d.originatingRunIds
  if !json.isObject d.triggerMetadata then
    throw (.invalidField "trigger_metadata" (json.display d.triggerMetadata) "must be a JSON object")

def renderJsonScalar (value : json.Value) : String := (json.toText value).getD "null"

def learningRequestEntries (d : LearningRequestDocument) : List Entry := [
  pushScalar .learningRequestId d.learningRequestId,
  pushScalar .title d.title,
  pushOptionalNonEmptyScalar .summary d.summary,
  pushScalar .requestedAction (asStr d.requestedAction),
  pushOptionalScalar .targetSkillId d.targetSkillId,
  pushOptionalScalar .targetStage (d.targetStage.map asStr),
  (if !json.isEmptyObject d.triggerMetadata then
      pushScalar .triggerMetadata (renderJsonScalar d.triggerMetadata) else []),
  pushScalar .createdAt d.createdAt.text,
  pushScalar .createdBy d.createdBy,
  pushOptionalScalar .updatedAt (d.updatedAt.map Timestamp.text),
  pushList .sourceRefs d.sourceRefs,
  pushList .preferredOutputPaths d.preferredOutputPaths,
  pushList .originatingRunIds d.originatingRunIds,
  pushList .artifactPaths d.artifactPaths,
  pushList .references d.references].flatten

def renderLearningRequestDocument (d : LearningRequestDocument) : String :=
  renderEntries d.title (learningRequestEntries d)

def parseLearningRequestFromFields (headingTitle : String) (fields : ParsedFields) :
    Except WorkDocumentError LearningRequestDocument := do
  let document : LearningRequestDocument := {
    learningRequestId := ← requiredScalar fields .learningRequestId
    title := ← requiredTitle fields headingTitle
    summary := (optionalScalar fields .summary).getD ""
    requestedAction := ← requiredEnum fields LearningRequestAction .requestedAction
    targetSkillId := optionalScalar fields .targetSkillId
    targetStage := ← optionalEnum fields LearningStageName .targetStage
    sourceRefs := optionalList fields .sourceRefs
    preferredOutputPaths := optionalList fields .preferredOutputPaths
    triggerMetadata := ← optionalTriggerMetadata fields
    originatingRunIds := optionalList fields .originatingRunIds
    artifactPaths := optionalList fields .artifactPaths
    references := optionalList fields .references
    createdAt := ← requiredTimestamp fields .createdAt
    createdBy := ← requiredScalar fields .createdBy
    updatedAt := ← optionalTimestamp fields .updatedAt }
  document.validate
  return document

def parseLearningRequestDocumentWithSource (raw sourceName : String) :
    Except WorkDocumentError LearningRequestDocument := do
  let (headingTitle, fields) ← parseMarkdownFields raw sourceName
  ensureModel fields .learningRequest sourceName
  parseLearningRequestFromFields headingTitle fields

def parseLearningRequestDocument (raw : String) : Except WorkDocumentError LearningRequestDocument :=
  parseLearningRequestDocumentWithSource raw "<memory>"

end LearningRequest
end Documents

end Millrace.WorkDocuments
