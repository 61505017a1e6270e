import Millrace.WorkDocuments.Canonical

/-! The work documents that survive being written and read back, kind by kind. -/

set_option autoImplicit false

namespace Millrace.WorkDocuments
open Millrace.Text Millrace.Contracts Millrace.Action

section RoundTrip
variable [Rfc3339]

/-! ## Tasks -/

/-- The task contract, field by field. -/
structure TaskDocument.Valid (d : TaskDocument) : Prop where
  taskId : SafeIdentifier d.taskId
  rootIdeaId : OptionalIdentifier d.rootIdeaId
  rootSpecId : OptionalIdentifier d.rootSpecId
  rootIntakeId : OptionalIdentifier d.rootIntakeId
  specId : OptionalIdentifier d.specId
  parentTaskId : OptionalIdentifier d.parentTaskId
  incidentId : OptionalIdentifier d.incidentId
  targetPaths : d.targetPaths ≠ []
  acceptance : d.acceptance ≠ []
  requiredChecks : d.requiredChecks ≠ []
  references : d.references ≠ []
  risk : d.risk ≠ []

theorem TaskDocument.validate_iff (d : TaskDocument) : d.validate = .ok () ↔ d.Valid := by
  simp only [TaskDocument.validate, bind_unit_eq_ok, validateIdentifier_iff, validateOptionalIdentifier_iff,
    validateRequiredList_iff]
  constructor
  · rintro ⟨h₁, h₂, h₃, h₄, h₅, h₆, h₇, h₈, h₉, h₁₀, h₁₁, h₁₂⟩
    exact ⟨h₁, h₂, h₃, h₄, h₅, h₆, h₇, h₈, h₉, h₁₀, h₁₁, h₁₂⟩
  · rintro ⟨h₁, h₂, h₃, h₄, h₅, h₆, h₇, h₈, h₉, h₁₀, h₁₁, h₁₂⟩
    exact ⟨h₁, h₂, h₃, h₄, h₅, h₆, h₇, h₈, h₉, h₁₀, h₁₁, h₁₂⟩

/-- The task values that a document can carry. Identifiers and enumerations always can. -/
structure TaskDocument.Canonical (d : TaskDocument) : Prop where
  title : Inline d.title.toList
  summary : d.summary = "" ∨ Inline d.summary.toList
  createdAt : OneLineTimestamp d.createdAt
  createdBy : Inline d.createdBy.toList
  updatedAt : ∀ t, d.updatedAt = some t → OneLineTimestamp t
  dependsOn : InlineRelationships d.dependsOn
  blocks : InlineRelationships d.blocks
  tags : InlineItems d.tags
  targetPaths : InlineItems d.targetPaths
  acceptance : InlineItems d.acceptance
  requiredChecks : InlineItems d.requiredChecks
  references : InlineItems d.references
  risk : InlineItems d.risk

/-- The fields of a task in the order they are rendered. -/
def taskFieldOrder : List FieldName := [.taskId, .title, .summary, .rootIdeaId, .rootSpecId, .rootIntakeKind,
  .rootIntakeId, .specId, .parentTaskId, .incidentId, .statusHint, .createdAt, .createdBy, .updatedAt,
  .dependsOn, .blocks, .tags, .targetPaths, .acceptance, .requiredChecks, .references, .risk]

theorem taskEntries_writes {d : TaskDocument} (valid : d.Valid) (canonical : d.Canonical) :
    Writes taskFieldOrder (taskEntries d) := by
  exact .cons (.scalar .taskId valid.taskId.inline)
    <| .cons (.scalar .title canonical.title)
    <| .cons (.nonEmptyScalar .summary canonical.summary)
    <| .cons (.optionalScalar .rootIdeaId valid.rootIdeaId.inline)
    <| .cons (.optionalScalar .rootSpecId valid.rootSpecId.inline)
    <| .cons (.optionalScalar .rootIntakeKind (inline_map_asStr d.rootIntakeKind))
    <| .cons (.optionalScalar .rootIntakeId valid.rootIntakeId.inline)
    <| .cons (.optionalScalar .specId valid.specId.inline)
    <| .cons (.optionalScalar .parentTaskId valid.parentTaskId.inline)
    <| .cons (.optionalScalar .incidentId valid.incidentId.inline)
    <| .cons (.optionalScalar .statusHint (inline_map_asStr d.statusHint))
    <| .cons (.scalar .createdAt (Timestamp.inline canonical.createdAt))
    <| .cons (.scalar .createdBy canonical.createdBy)
    <| .cons (.optionalScalar .updatedAt (inline_map_timestamp canonical.updatedAt))
    <| .cons (.relationships .dependsOn canonical.dependsOn)
    <| .cons (.relationships .blocks canonical.blocks)
    <| .cons (.list .tags canonical.tags)
    <| .cons (.list .targetPaths canonical.targetPaths)
    <| .cons (.list .acceptance canonical.acceptance)
    <| .cons (.list .requiredChecks canonical.requiredChecks)
    <| .cons (.list .references canonical.references)
    <| .cons (.list .risk canonical.risk) .nil

theorem parseTaskFromFields_entries {d : TaskDocument} (valid : d.Valid) (canonical : d.Canonical) :
    parseTaskFromFields d.title ((taskEntries d).foldl Entry.apply .empty) = .ok d := by
  have accepted := d.validate_iff.mpr valid
  simp [taskEntries, parseTaskFromFields, requiredScalar, requiredTitle, optionalScalar, optionalEnum,
    requiredList, optionalList, requiredTimestamp, optionalTimestamp, canonical.title.trim,
    Timestamp.parse_text, valid.targetPaths, valid.acceptance, valid.requiredChecks, valid.references,
    valid.risk, accepted]

theorem canonical_of_parseTaskFromFields {headingTitle : String} {fields : ParsedFields} {d : TaskDocument}
    (carried : fields.Carried) (ok : parseTaskFromFields headingTitle fields = .ok d) : d.Canonical := by
  unfold parseTaskFromFields at ok
  simp only [bind_eq_ok, pure_eq_ok] at ok
  obtain ⟨_, -, _, title, _, -, _, targetPaths, _, acceptance, _, requiredChecks, _, references, _, risk, _, -,
    _, createdAt, _, createdBy, _, updatedAt, _, -, rfl⟩ := ok
  exact {
    title := inline_requiredTitle carried title
    summary := inline_getD_optionalScalar carried
    createdAt := oneLine_requiredTimestamp carried createdAt
    createdBy := inline_requiredScalar carried createdBy
    updatedAt := oneLine_optionalTimestamp carried updatedAt
    dependsOn := inline_relationships carried (.inl rfl)
    blocks := inline_relationships carried (.inr rfl)
    tags := inline_optionalList carried
    targetPaths := inline_requiredList carried targetPaths
    acceptance := inline_requiredList carried acceptance
    requiredChecks := inline_requiredList carried requiredChecks
    references := inline_requiredList carried references
    risk := inline_requiredList carried risk }

theorem parseTaskDocument_render {d : TaskDocument} (valid : d.Valid) (canonical : d.Canonical) (sourceName : String) :
    parseTaskDocumentWithSource (renderTaskDocument d) sourceName = .ok d :=
  readDocument_renderEntries (taskEntries_writes valid canonical) (by decide) canonical.title sourceName
    (by simp [taskEntries, inferModel]) (parseTaskFromFields_entries valid canonical)

/-- Dependencies read back without the placeholders among them. -/
theorem parseTaskDocument_renderDependencies {d : TaskDocument} (valid : d.Valid) (canonical : d.Canonical)
    {items : List String} (inline : InlineItems items) (sourceName : String) :
    parseTaskDocumentWithSource (renderTaskDocument { d with dependsOn := items }) sourceName =
      .ok { d with dependsOn := normalizeListItems .dependsOn items } := by
  have written (listed : List String) (carried : InlineRelationships listed) :
      Writes taskFieldOrder (taskEntries { d with dependsOn := listed }) :=
    taskEntries_writes (d := { d with dependsOn := listed }) { valid with } { canonical with dependsOn := carried }
  have legible : ∀ e ∈ taskEntries { d with dependsOn := items }, e.Legible := by
    intro e member
    have parts : e ∈ taskEntries { d with dependsOn := [] } ∨ e ∈ pushList .dependsOn items := by
      simp only [taskEntries, List.flatten_cons, List.mem_append] at member ⊢
      grind
    rcases parts with other | dependency
    · exact ((written [] (by simp [InlineRelationships])).carried e other).legible
    · unfold pushList at dependency
      split at dependency
      · cases dependency
      next nonempty =>
        rw [List.mem_singleton.mp dependency]
        exact ⟨rfl, nonempty, inline⟩
  have distinct : ((taskEntries { d with dependsOn := items }).map Entry.field).Nodup := by
    -- the fields do not depend on the items
    have same : (taskEntries { d with dependsOn := items }).map Entry.field =
        (taskEntries { d with dependsOn := items.map fun _ => "x" }).map Entry.field := by
      simp [taskEntries, map_field_pushList]
    have one : Inline "x".toList ∧ isRelationshipPlaceholder "x" = false := by decide +kernel
    rw [same]
    refine List.Nodup.sublist (written _ fun item member => ?_).fields (by decide)
    obtain ⟨_, -, rfl⟩ := List.mem_map.mp member
    exact one
  have read := parseMarkdownFields_renderLegible sourceName canonical.title legible distinct
  have accepted := TaskDocument.validate_iff { d with dependsOn := normalizeListItems .dependsOn items } |>.mpr { valid with }
  unfold parseTaskDocumentWithSource renderTaskDocument
  rw [read]
  have blocks := normalizeListItems_of_inline (f := .blocks) canonical.blocks
  have known : ensureModel (((taskEntries { d with dependsOn := items }).map Entry.normalized).foldl Entry.apply .empty)
      .task sourceName = .ok () := by
    simp [taskEntries, ensureModel, inferModel, pure, Except.pure]
  simp only [ok_bind, known]
  have dependencies : (if items = [] then none else some (normalizeListItems .dependsOn items)).getD [] =
      normalizeListItems .dependsOn items := by
    split
    next empty => simp [empty, normalizeListItems]
    · rfl
  simp only [taskEntries, parseTaskFromFields, List.flatten_cons, List.flatten_nil, List.map_append, List.map_nil,
    List.foldl_append]
  have plain (f : FieldName) (other : f ≠ .dependsOn ∧ f ≠ .blocks) (listed : List String) :=
    normalizeListItems_other other listed
  simp [requiredScalar, requiredTitle, optionalScalar, optionalEnum,
    requiredList, optionalList, requiredTimestamp, optionalTimestamp, canonical.title.trim,
    Timestamp.parse_text, valid.targetPaths, valid.acceptance, valid.requiredChecks, valid.references,
    valid.risk, blocks, plain, dependencies, accepted]

theorem canonical_of_parseTaskDocument {raw sourceName : String} {d : TaskDocument}
    (ok : parseTaskDocumentWithSource raw sourceName = .ok d) : d.Canonical := by
  obtain ⟨title, fields, carried, parsed⟩ := carried_of_readDocument ok
  exact canonical_of_parseTaskFromFields carried parsed

theorem valid_of_parseTaskDocument {raw sourceName : String} {d : TaskDocument}
    (ok : parseTaskDocumentWithSource raw sourceName = .ok d) : d.Valid := by
  obtain ⟨title, fields, -, parsed⟩ := carried_of_readDocument ok
  unfold parseTaskFromFields at parsed
  simp only [bind_eq_ok, pure_eq_ok] at parsed
  obtain ⟨_, -, _, -, _, -, _, -, _, -, _, -, _, -, _, -, _, -, _, -, _, -, _, -, _, accepted, rfl⟩ := parsed
  exact (TaskDocument.validate_iff _).mp accepted

/-! ## Probes -/

/-- The probe contract, field by field. -/
structure ProbeDocument.Valid (d : ProbeDocument) : Prop where
  probeId : SafeIdentifier d.probeId
  request : trim d.request.toList ≠ []

theorem ProbeDocument.validate_iff (d : ProbeDocument) : d.validate = .ok () ↔ d.Valid := by
  have throws : ∀ (condition : Prop) [Decidable condition] (error : WorkDocumentError),
      (if condition then throw error else pure ()) = (Except.ok () : Except WorkDocumentError Unit) ↔ ¬condition := by
    intro condition _ error
    split <;> simp [*, throw, throwThe, MonadExceptOf.throw, pure, Except.pure]
  simp only [ProbeDocument.validate, bind_unit_eq_ok, validateIdentifier_iff, 
    throws]
  constructor
  · rintro ⟨h₁, h₂⟩
    exact ⟨h₁, h₂⟩
  · rintro ⟨h₁, h₂⟩
    exact ⟨h₁, h₂⟩

/-- The probe values that a document can carry. Identifiers and enumerations always can. -/
structure ProbeDocument.Canonical (d : ProbeDocument) : Prop where
  title : Inline d.title.toList
  summary : d.summary = "" ∨ Inline d.summary.toList
  request : Inline d.request.toList
  createdAt : OneLineTimestamp d.createdAt
  createdBy : Inline d.createdBy.toList
  updatedAt : ∀ t, d.updatedAt = some t → OneLineTimestamp t
  targetPaths : InlineItems d.targetPaths
  constraints : InlineItems d.constraints
  acceptance : InlineItems d.acceptance
  riskNotes : InlineItems d.riskNotes
  references : InlineItems d.references
  tags : InlineItems d.tags

/-- The fields of a probe in the order they are rendered. -/
def probeFieldOrder : List FieldName := [.probeId, .title, .summary, .request, .statusHint, .createdAt,
  .createdBy, .updatedAt, .targetPaths, .constraints, .acceptance, .riskNotes, .references, .tags]

theorem probeEntries_writes {d : ProbeDocument} (valid : d.Valid) (canonical : d.Canonical) :
    Writes probeFieldOrder (probeEntries d) := by
  exact .cons (.scalar .probeId valid.probeId.inline)
    <| .cons (.scalar .title canonical.title)
    <| .cons (.nonEmptyScalar .summary canonical.summary)
    <| .cons (.scalar .request canonical.request)
    <| .cons (.optionalScalar .statusHint (inline_map_asStr d.statusHint))
    <| .cons (.scalar .createdAt (Timestamp.inline canonical.createdAt))
    <| .cons (.scalar .createdBy canonical.createdBy)
    <| .cons (.optionalScalar .updatedAt (inline_map_timestamp canonical.updatedAt))
    <| .cons (.list .targetPaths canonical.targetPaths)
    <| .cons (.list .constraints canonical.constraints)
    <| .cons (.list .acceptance canonical.acceptance)
    <| .cons (.list .riskNotes canonical.riskNotes)
    <| .cons (.list .references canonical.references)
    <| .cons (.list .tags canonical.tags) .nil

theorem parseProbeFromFields_entries {d : ProbeDocument} (valid : d.Valid) (canonical : d.Canonical) :
    parseProbeFromFields d.title ((probeEntries d).foldl Entry.apply .empty) = .ok d := by
  have accepted := d.validate_iff.mpr valid
  simp [probeEntries, parseProbeFromFields, requiredScalar, requiredTitle, optionalScalar, optionalEnum,
    optionalList, requiredTimestamp, optionalTimestamp, canonical.title.trim, Timestamp.parse_text, accepted]

theorem canonical_of_parseProbeFromFields {headingTitle : String} {fields : ParsedFields} {d : ProbeDocument}
    (carried : fields.Carried) (ok : parseProbeFromFields headingTitle fields = .ok d) : d.Canonical := by
  unfold parseProbeFromFields at ok
  simp only [bind_eq_ok, pure_eq_ok] at ok
  obtain ⟨_, -, _, title, _, request, _, -, _, createdAt, _, createdBy, _, updatedAt, _, -, rfl⟩ := ok
  exact {
    title := inline_requiredTitle carried title
    summary := inline_getD_optionalScalar carried
    request := inline_requiredScalar carried request
    createdAt := oneLine_requiredTimestamp carried createdAt
    createdBy := inline_requiredScalar carried createdBy
    updatedAt := oneLine_optionalTimestamp carried updatedAt
    targetPaths := inline_optionalList carried
    constraints := inline_optionalList carried
    acceptance := inline_optionalList carried
    riskNotes := inline_optionalList carried
    references := inline_optionalList carried
    tags := inline_optionalList carried }

theorem parseProbeDocument_render {d : ProbeDocument} (valid : d.Valid) (canonical : d.Canonical) (sourceName : String) :
    parseProbeDocumentWithSource (renderProbeDocument d) sourceName = .ok d :=
  readDocument_renderEntries (probeEntries_writes valid canonical) (by decide) canonical.title sourceName
    (by simp [probeEntries, inferModel]) (parseProbeFromFields_entries valid canonical)

theorem canonical_of_parseProbeDocument {raw sourceName : String} {d : ProbeDocument}
    (ok : parseProbeDocumentWithSource raw sourceName = .ok d) : d.Canonical := by
  obtain ⟨title, fields, carried, parsed⟩ := carried_of_readDocument ok
  exact canonical_of_parseProbeFromFields carried parsed

/-! ## Specs -/

/-- The spec contract, field by field. -/
structure SpecDocument.Valid (d : SpecDocument) : Prop where
  specId : SafeIdentifier d.specId
  sourceId : OptionalIdentifier d.sourceId
  parentSpecId : OptionalIdentifier d.parentSpecId
  rootIdeaId : OptionalIdentifier d.rootIdeaId
  rootSpecId : OptionalIdentifier d.rootSpecId
  rootIntakeId : OptionalIdentifier d.rootIntakeId
  goals : d.goals ≠ []
  constraints : d.constraints ≠ []
  acceptance : d.acceptance ≠ []
  references : d.references ≠ []

theorem SpecDocument.validate_iff (d : SpecDocument) : d.validate = .ok () ↔ d.Valid := by
  simp only [SpecDocument.validate, bind_unit_eq_ok, validateIdentifier_iff, validateOptionalIdentifier_iff,
    validateRequiredList_iff]
  constructor
  · rintro ⟨h₁, h₂, h₃, h₄, h₅, h₆, h₇, h₈, h₉, h₁₀⟩
    exact ⟨h₁, h₂, h₃, h₄, h₅, h₆, h₇, h₈, h₉, h₁₀⟩
  · rintro ⟨h₁, h₂, h₃, h₄, h₅, h₆, h₇, h₈, h₉, h₁₀⟩
    exact ⟨h₁, h₂, h₃, h₄, h₅, h₆, h₇, h₈, h₉, h₁₀⟩

/-- The spec values that a document can carry. Identifiers and enumerations always can. -/
structure SpecDocument.Canonical (d : SpecDocument) : Prop where
  title : Inline d.title.toList
  summary : Inline d.summary.toList
  createdAt : OneLineTimestamp d.createdAt
  createdBy : Inline d.createdBy.toList
  updatedAt : ∀ t, d.updatedAt = some t → OneLineTimestamp t
  goals : InlineItems d.goals
  nonGoals : InlineItems d.nonGoals
  scope : InlineItems d.scope
  constraints : InlineItems d.constraints
  assumptions : InlineItems d.assumptions
  risks : InlineItems d.risks
  targetPaths : InlineItems d.targetPaths
  entrypoints : InlineItems d.entrypoints
  requiredSkills : InlineItems d.requiredSkills
  decompositionHints : InlineItems d.decompositionHints
  acceptance : InlineItems d.acceptance
  references : InlineItems d.references

/-- The fields of a spec in the order they are rendered. -/
def specFieldOrder : List FieldName := [.specId, .title, .summary, .sourceType, .sourceId, .parentSpecId,
  .rootIdeaId, .rootSpecId, .rootIntakeKind, .rootIntakeId, .createdAt, .createdBy, .updatedAt, .goals,
  .nonGoals, .scope, .constraints, .assumptions, .risks, .targetPaths, .entrypoints, .requiredSkills,
  .decompositionHints, .acceptance, .references]

theorem specEntries_writes {d : SpecDocument} (valid : d.Valid) (canonical : d.Canonical) :
    Writes specFieldOrder (specEntries d) := by
  exact .cons (.scalar .specId valid.specId.inline)
    <| .cons (.scalar .title canonical.title)
    <| .cons (.scalar .summary canonical.summary)
    <| .cons (.scalar .sourceType (inline_asStr d.sourceType))
    <| .cons (.optionalScalar .sourceId valid.sourceId.inline)
    <| .cons (.optionalScalar .parentSpecId valid.parentSpecId.inline)
    <| .cons (.optionalScalar .rootIdeaId valid.rootIdeaId.inline)
    <| .cons (.optionalScalar .rootSpecId valid.rootSpecId.inline)
    <| .cons (.optionalScalar .rootIntakeKind (inline_map_asStr d.rootIntakeKind))
    <| .cons (.optionalScalar .rootIntakeId valid.rootIntakeId.inline)
    <| .cons (.scalar .createdAt (Timestamp.inline canonical.createdAt))
    <| .cons (.scalar .createdBy canonical.createdBy)
    <| .cons (.optionalScalar .updatedAt (inline_map_timestamp canonical.updatedAt))
    <| .cons (.list .goals canonical.goals)
    <| .cons (.list .nonGoals canonical.nonGoals)
    <| .cons (.list .scope canonical.scope)
    <| .cons (.list .constraints canonical.constraints)
    <| .cons (.list .assumptions canonical.assumptions)
    <| .cons (.list .risks canonical.risks)
    <| .cons (.list .targetPaths canonical.targetPaths)
    <| .cons (.list .entrypoints canonical.entrypoints)
    <| .cons (.list .requiredSkills canonical.requiredSkills)
    <| .cons (.list .decompositionHints canonical.decompositionHints)
    <| .cons (.list .acceptance canonical.acceptance)
    <| .cons (.list .references canonical.references) .nil

theorem parseSpecFromFields_entries {d : SpecDocument} (valid : d.Valid) (canonical : d.Canonical) :
    parseSpecFromFields d.title ((specEntries d).foldl Entry.apply .empty) = .ok d := by
  have accepted := d.validate_iff.mpr valid
  simp [specEntries, parseSpecFromFields, requiredScalar, requiredTitle, optionalScalar, optionalEnum,
    requiredEnum, requiredList, optionalList, requiredTimestamp, optionalTimestamp, canonical.title.trim,
    Timestamp.parse_text, valid.goals, valid.constraints, valid.acceptance, valid.references, accepted]

theorem canonical_of_parseSpecFromFields {headingTitle : String} {fields : ParsedFields} {d : SpecDocument}
    (carried : fields.Carried) (ok : parseSpecFromFields headingTitle fields = .ok d) : d.Canonical := by
  unfold parseSpecFromFields at ok
  simp only [bind_eq_ok, pure_eq_ok] at ok
  obtain ⟨_, -, _, title, _, summary, _, -, _, -, _, goals, _, constraints, _, acceptance, _, references, _,
    createdAt, _, createdBy, _, updatedAt, _, -, rfl⟩ := ok
  exact {
    title := inline_requiredTitle carried title
    summary := inline_requiredScalar carried summary
    createdAt := oneLine_requiredTimestamp carried createdAt
    createdBy := inline_requiredScalar carried createdBy
    updatedAt := oneLine_optionalTimestamp carried updatedAt
    goals := inline_requiredList carried goals
    nonGoals := inline_optionalList carried
    scope := inline_optionalList carried
    constraints := inline_requiredList carried constraints
    assumptions := inline_optionalList carried
    risks := inline_optionalList carried
    targetPaths := inline_optionalList carried
    entrypoints := inline_optionalList carried
    requiredSkills := inline_optionalList carried
    decompositionHints := inline_optionalList carried
    acceptance := inline_requiredList carried acceptance
    references := inline_requiredList carried references }

theorem parseSpecDocument_render {d : SpecDocument} (valid : d.Valid) (canonical : d.Canonical) (sourceName : String) :
    parseSpecDocumentWithSource (renderSpecDocument d) sourceName = .ok d :=
  readDocument_renderEntries (specEntries_writes valid canonical) (by decide) canonical.title sourceName
    (by simp [specEntries, inferModel]) (parseSpecFromFields_entries valid canonical)

theorem canonical_of_parseSpecDocument {raw sourceName : String} {d : SpecDocument}
    (ok : parseSpecDocumentWithSource raw sourceName = .ok d) : d.Canonical := by
  obtain ⟨title, fields, carried, parsed⟩ := carried_of_readDocument ok
  exact canonical_of_parseSpecFromFields carried parsed

/-! ## Incidents -/

/-- The incident contract, field by field. -/
structure IncidentDocument.Valid (d : IncidentDocument) : Prop where
  incidentId : SafeIdentifier d.incidentId
  rootIdeaId : OptionalIdentifier d.rootIdeaId
  rootSpecId : OptionalIdentifier d.rootSpecId
  rootIntakeId : OptionalIdentifier d.rootIntakeId
  sourceTaskId : OptionalIdentifier d.sourceTaskId
  sourceSpecId : OptionalIdentifier d.sourceSpecId
  sourcePlane : stagePlane d.sourceStage = d.sourcePlane

theorem IncidentDocument.validate_iff (d : IncidentDocument) : d.validate = .ok () ↔ d.Valid := by
  have throws : ∀ (condition : Prop) [Decidable condition] (error : WorkDocumentError),
      (if condition then throw error else pure ()) = (Except.ok () : Except WorkDocumentError Unit) ↔ ¬condition := by
    intro condition _ error
    split <;> simp [*, throw, throwThe, MonadExceptOf.throw, pure, Except.pure]
  simp only [IncidentDocument.validate, bind_unit_eq_ok, validateIdentifier_iff,  validateOptionalIdentifier_iff,
    throws, ne_eq, not_not]
  constructor
  · rintro ⟨h₁, h₂, h₃, h₄, h₅, h₆, h₇⟩
    exact ⟨h₁, h₂, h₃, h₄, h₅, h₆, h₇⟩
  · rintro ⟨h₁, h₂, h₃, h₄, h₅, h₆, h₇⟩
    exact ⟨h₁, h₂, h₃, h₄, h₅, h₆, h₇⟩

/-- The incident values that a document can carry. Identifiers and enumerations always can. -/
structure IncidentDocument.Canonical (d : IncidentDocument) : Prop where
  title : Inline d.title.toList
  summary : Inline d.summary.toList
  failureClass : Inline d.failureClass.toList
  triggerReason : Inline d.triggerReason.toList
  openedAt : OneLineTimestamp d.openedAt
  openedBy : Inline d.openedBy.toList
  updatedAt : ∀ t, d.updatedAt = some t → OneLineTimestamp t
  observedSymptoms : InlineItems d.observedSymptoms
  failedAttempts : InlineItems d.failedAttempts
  evidencePaths : InlineItems d.evidencePaths
  relatedRunIds : InlineItems d.relatedRunIds
  relatedStageResults : InlineItems d.relatedStageResults
  references : InlineItems d.references

/-- The fields of an incident in the order they are rendered. -/
def incidentFieldOrder : List FieldName := [.incidentId, .title, .summary, .rootIdeaId, .rootSpecId,
  .rootIntakeKind, .rootIntakeId, .sourceTaskId, .sourceSpecId, .sourceStage, .sourcePlane, .failureClass,
  .severity, .needsPlanning, .triggerReason, .consultantDecision, .openedAt, .openedBy, .updatedAt,
  .observedSymptoms, .failedAttempts, .evidencePaths, .relatedRunIds, .relatedStageResults, .references]

theorem incidentEntries_writes {d : IncidentDocument} (valid : d.Valid) (canonical : d.Canonical) :
    Writes incidentFieldOrder (incidentEntries d) := by
  exact .cons (.scalar .incidentId valid.incidentId.inline)
    <| .cons (.scalar .title canonical.title)
    <| .cons (.scalar .summary canonical.summary)
    <| .cons (.optionalScalar .rootIdeaId valid.rootIdeaId.inline)
    <| .cons (.optionalScalar .rootSpecId valid.rootSpecId.inline)
    <| .cons (.optionalScalar .rootIntakeKind (inline_map_asStr d.rootIntakeKind))
    <| .cons (.optionalScalar .rootIntakeId valid.rootIntakeId.inline)
    <| .cons (.optionalScalar .sourceTaskId valid.sourceTaskId.inline)
    <| .cons (.optionalScalar .sourceSpecId valid.sourceSpecId.inline)
    <| .cons (.scalar .sourceStage (inline_asStr d.sourceStage))
    <| .cons (.scalar .sourcePlane (inline_asStr d.sourcePlane))
    <| .cons (.scalar .failureClass canonical.failureClass)
    <| .cons (.ite .severity _ fun _ => .scalar .severity (inline_asStr d.severity))
    <| .cons (.ite .needsPlanning _ fun _ => .scalar .needsPlanning (by decide))
    <| .cons (.scalar .triggerReason canonical.triggerReason)
    <| .cons (.scalar .consultantDecision (inline_asStr d.consultantDecision))
    <| .cons (.scalar .openedAt (Timestamp.inline canonical.openedAt))
    <| .cons (.scalar .openedBy canonical.openedBy)
    <| .cons (.optionalScalar .updatedAt (inline_map_timestamp canonical.updatedAt))
    <| .cons (.list .observedSymptoms canonical.observedSymptoms)
    <| .cons (.list .failedAttempts canonical.failedAttempts)
    <| .cons (.list .evidencePaths canonical.evidencePaths)
    <| .cons (.list .relatedRunIds canonical.relatedRunIds)
    <| .cons (.list .relatedStageResults canonical.relatedStageResults)
    <| .cons (.list .references canonical.references) .nil

theorem parseIncidentFromFields_entries {d : IncidentDocument} (valid : d.Valid) (canonical : d.Canonical) :
    parseIncidentFromFields d.title ((incidentEntries d).foldl Entry.apply .empty) = .ok d := by
  have accepted := d.validate_iff.mpr valid
  have severity : transposed (parsedEnum IncidentSeverity)
      (if d.severity = .medium then none else some (asStr d.severity)) =
        .ok (if d.severity = .medium then none else some d.severity) := by
    split <;> simp [transposed, Except.map]
  have needsPlanning : transposed (parsedBool .needsPlanning)
      (if d.needsPlanning = false then some "false" else none) =
        .ok (if d.needsPlanning = false then some false else none) := by
    split <;> rfl
  have default : (if d.needsPlanning = false then some false else none).getD true = d.needsPlanning := by
    cases d.needsPlanning <;> rfl
  simp [incidentEntries, parseIncidentFromFields, requiredScalar, requiredTitle, optionalScalar, optionalEnum,
    requiredEnum, optionalList, requiredTimestamp, optionalTimestamp, canonical.title.trim,
    Timestamp.parse_text, accepted, optionalBool, severity, needsPlanning, default]

theorem canonical_of_parseIncidentFromFields {headingTitle : String} {fields : ParsedFields} {d : IncidentDocument}
    (carried : fields.Carried) (ok : parseIncidentFromFields headingTitle fields = .ok d) : d.Canonical := by
  unfold parseIncidentFromFields at ok
  simp only [bind_eq_ok, pure_eq_ok] at ok
  obtain ⟨_, -, _, title, _, summary, _, -, _, -, _, -, _, failureClass, _, -, _, -, _, triggerReason, _, -, _,
    openedAt, _, openedBy, _, updatedAt, _, -, rfl⟩ := ok
  exact {
    title := inline_requiredTitle carried title
    summary := inline_requiredScalar carried summary
    failureClass := inline_requiredScalar carried failureClass
    triggerReason := inline_requiredScalar carried triggerReason
    openedAt := oneLine_requiredTimestamp carried openedAt
    openedBy := inline_requiredScalar carried openedBy
    updatedAt := oneLine_optionalTimestamp carried updatedAt
    observedSymptoms := inline_optionalList carried
    failedAttempts := inline_optionalList carried
    evidencePaths := inline_optionalList carried
    relatedRunIds := inline_optionalList carried
    relatedStageResults := inline_optionalList carried
    references := inline_optionalList carried }

theorem parseIncidentDocument_render {d : IncidentDocument} (valid : d.Valid) (canonical : d.Canonical) (sourceName : String) :
    parseIncidentDocumentWithSource (renderIncidentDocument d) sourceName = .ok d :=
  readDocument_renderEntries (incidentEntries_writes valid canonical) (by decide) canonical.title sourceName
    (by simp [incidentEntries, inferModel]) (parseIncidentFromFields_entries valid canonical)

theorem canonical_of_parseIncidentDocument {raw sourceName : String} {d : IncidentDocument}
    (ok : parseIncidentDocumentWithSource raw sourceName = .ok d) : d.Canonical := by
  obtain ⟨title, fields, carried, parsed⟩ := carried_of_readDocument ok
  exact canonical_of_parseIncidentFromFields carried parsed

/-! ## Learning requests -/

section LearningRequest
variable [json : SerdeJson]

/-- What the JSON library documents: compact text reads back as the value it was written from. -/
structure SerdeJson.Lawful (json : SerdeJson) : Prop where
  readsBack : ∀ value, json.isObject value = true →
    ∃ text, json.toText value = some text ∧ json.fromText text = .ok value
  compact : ∀ value text, json.toText value = some text → Inline text.toList
  emptyObject : ∀ value, json.isEmptyObject value = true → value = json.emptyObject

/-- The learning request contract, field by field. -/
structure LearningRequestDocument.Valid (d : LearningRequestDocument) : Prop where
  learningRequestId : SafeIdentifier d.learningRequestId
  targetSkillId : OptionalIdentifier d.targetSkillId
  originatingRunIds : ∀ id ∈ d.originatingRunIds, SafeIdentifier id
  triggerMetadata : json.isObject d.triggerMetadata = true

theorem LearningRequestDocument.validate_iff (d : LearningRequestDocument) : d.validate = .ok () ↔ d.Valid := by
  have throws : ∀ (condition : Prop) [Decidable condition] (error : WorkDocumentError),
      (if condition then throw error else pure ()) = (Except.ok () : Except WorkDocumentError Unit) ↔ ¬condition := by
    intro condition _ error
    split <;> simp [*, throw, throwThe, MonadExceptOf.throw, pure, Except.pure]
  simp only [LearningRequestDocument.validate, bind_unit_eq_ok, validateIdentifier_iff,  validateOptionalIdentifier_iff, validateIdentifiers_iff,
    throws, Bool.not_eq_true', Bool.not_eq_false]
  constructor
  · rintro ⟨h₁, h₂, h₃, h₄⟩
    exact ⟨h₁, h₂, h₃, h₄⟩
  · rintro ⟨h₁, h₂, h₃, h₄⟩
    exact ⟨h₁, h₂, h₃, h₄⟩

/-- The learning request values that a document can carry. Identifiers and enumerations always can. -/
structure LearningRequestDocument.Canonical (d : LearningRequestDocument) : Prop where
  title : Inline d.title.toList
  summary : d.summary = "" ∨ Inline d.summary.toList
  createdAt : OneLineTimestamp d.createdAt
  createdBy : Inline d.createdBy.toList
  updatedAt : ∀ t, d.updatedAt = some t → OneLineTimestamp t
  sourceRefs : InlineItems d.sourceRefs
  preferredOutputPaths : InlineItems d.preferredOutputPaths
  artifactPaths : InlineItems d.artifactPaths
  references : InlineItems d.references

/-- The fields of a learning request in the order they are rendered. -/
def learningRequestFieldOrder : List FieldName := [.learningRequestId, .title, .summary, .requestedAction,
  .targetSkillId, .targetStage, .triggerMetadata, .createdAt, .createdBy, .updatedAt, .sourceRefs,
  .preferredOutputPaths, .originatingRunIds, .artifactPaths, .references]

theorem learningRequestEntries_writes {d : LearningRequestDocument} (lawful : json.Lawful) (valid : d.Valid) (canonical : d.Canonical) :
    Writes learningRequestFieldOrder (learningRequestEntries d) := by
  obtain ⟨text, written, -⟩ := lawful.readsBack d.triggerMetadata valid.triggerMetadata
  have metadata : Inline (renderJsonScalar d.triggerMetadata).toList := by
    simpa [renderJsonScalar, written] using lawful.compact d.triggerMetadata text written
  exact .cons (.scalar .learningRequestId valid.learningRequestId.inline)
    <| .cons (.scalar .title canonical.title)
    <| .cons (.nonEmptyScalar .summary canonical.summary)
    <| .cons (.scalar .requestedAction (inline_asStr d.requestedAction))
    <| .cons (.optionalScalar .targetSkillId valid.targetSkillId.inline)
    <| .cons (.optionalScalar .targetStage (inline_map_asStr d.targetStage))
    <| .cons (.ite .triggerMetadata _ fun _ => .scalar .triggerMetadata metadata)
    <| .cons (.scalar .createdAt (Timestamp.inline canonical.createdAt))
    <| .cons (.scalar .createdBy canonical.createdBy)
    <| .cons (.optionalScalar .updatedAt (inline_map_timestamp canonical.updatedAt))
    <| .cons (.list .sourceRefs canonical.sourceRefs)
    <| .cons (.list .preferredOutputPaths canonical.preferredOutputPaths)
    <| .cons (.list .originatingRunIds fun id member => (valid.originatingRunIds id member).inline)
    <| .cons (.list .artifactPaths canonical.artifactPaths)
    <| .cons (.list .references canonical.references) .nil

theorem parseLearningRequestFromFields_entries {d : LearningRequestDocument} (lawful : json.Lawful) (valid : d.Valid) (canonical : d.Canonical) :
    parseLearningRequestFromFields d.title ((learningRequestEntries d).foldl Entry.apply .empty) = .ok d := by
  have accepted := d.validate_iff.mpr valid
  obtain ⟨text, written, readBack⟩ := lawful.readsBack d.triggerMetadata valid.triggerMetadata
  have metadata : ∀ fields : ParsedFields,
      fields.scalars .triggerMetadata =
        (if json.isEmptyObject d.triggerMetadata = false then some (renderJsonScalar d.triggerMetadata) else none) →
      optionalTriggerMetadata fields = .ok d.triggerMetadata := by
    intro fields found
    cases empty : json.isEmptyObject d.triggerMetadata with
    | true =>
      rw [empty] at found
      simp [optionalTriggerMetadata, optionalScalar, found, lawful.emptyObject _ empty]
    | false =>
      rw [empty] at found
      simp [optionalTriggerMetadata, optionalScalar, found, renderJsonScalar, written, readBack,
        valid.triggerMetadata]
  have read : optionalTriggerMetadata ((learningRequestEntries d).foldl Entry.apply .empty) = .ok d.triggerMetadata :=
    metadata _ (by simp [learningRequestEntries])
  revert read
  simp [learningRequestEntries, parseLearningRequestFromFields, requiredScalar, requiredTitle, optionalScalar,
    optionalEnum, requiredEnum, optionalList, requiredTimestamp, optionalTimestamp, canonical.title.trim,
    Timestamp.parse_text]
  intro read
  simp [read, accepted]

theorem canonical_of_parseLearningRequestFromFields {headingTitle : String} {fields : ParsedFields} {d : LearningRequestDocument}
    (carried : fields.Carried) (ok : parseLearningRequestFromFields headingTitle fields = .ok d) : d.Canonical := by
  unfold parseLearningRequestFromFields at ok
  simp only [bind_eq_ok, pure_eq_ok] at ok
  obtain ⟨_, -, _, title, _, -, _, -, _, -, _, createdAt, _, createdBy, _, updatedAt, _, -, rfl⟩ := ok
  exact {
    title := inline_requiredTitle carried title
    summary := inline_getD_optionalScalar carried
    createdAt := oneLine_requiredTimestamp carried createdAt
    createdBy := inline_requiredScalar carried createdBy
    updatedAt := oneLine_optionalTimestamp carried updatedAt
    sourceRefs := inline_optionalList carried
    preferredOutputPaths := inline_optionalList carried
    artifactPaths := inline_optionalList carried
    references := inline_optionalList carried }

theorem parseLearningRequestDocument_render {d : LearningRequestDocument} (lawful : json.Lawful) (valid : d.Valid) (canonical : d.Canonical) (sourceName : String) :
    parseLearningRequestDocumentWithSource (renderLearningRequestDocument d) sourceName = .ok d :=
  readDocument_renderEntries (learningRequestEntries_writes lawful valid canonical) (by decide) canonical.title sourceName
    (by simp [learningRequestEntries, inferModel]) (parseLearningRequestFromFields_entries lawful valid canonical)

theorem canonical_of_parseLearningRequestDocument {raw sourceName : String} {d : LearningRequestDocument}
    (ok : parseLearningRequestDocumentWithSource raw sourceName = .ok d) : d.Canonical := by
  obtain ⟨title, fields, carried, parsed⟩ := carried_of_readDocument ok
  exact canonical_of_parseLearningRequestFromFields carried parsed

end LearningRequest

/-- A document that its contract accepts is read back from its markdown exactly when every free text of it is
one nonempty line without white space at its ends (an optional summary may be empty), no relationship is a
placeholder and no timestamp breaks its line. -/
theorem parse_render_iff_canonical [json : SerdeJson] (lawful : json.Lawful) :
    (∀ d : TaskDocument, d.validate = .ok () →
      (parseTaskDocument (renderTaskDocument d) = .ok d ↔ d.Canonical)) ∧
    (∀ d : ProbeDocument, d.validate = .ok () →
      (parseProbeDocument (renderProbeDocument d) = .ok d ↔ d.Canonical)) ∧
    (∀ d : SpecDocument, d.validate = .ok () →
      (parseSpecDocument (renderSpecDocument d) = .ok d ↔ d.Canonical)) ∧
    (∀ d : IncidentDocument, d.validate = .ok () →
      (parseIncidentDocument (renderIncidentDocument d) = .ok d ↔ d.Canonical)) ∧
    (∀ d : LearningRequestDocument, d.validate = .ok () →
      (parseLearningRequestDocument (renderLearningRequestDocument d) = .ok d ↔ d.Canonical)) := by
  refine ⟨fun d ok => ?task, fun d ok => ?probe, fun d ok => ?spec, fun d ok => ?incident, fun d ok => ?learning⟩
  case task =>
    exact ⟨canonical_of_parseTaskDocument, fun c => parseTaskDocument_render (d.validate_iff.mp ok) c _⟩
  case probe =>
    exact ⟨canonical_of_parseProbeDocument, fun c => parseProbeDocument_render (d.validate_iff.mp ok) c _⟩
  case spec =>
    exact ⟨canonical_of_parseSpecDocument, fun c => parseSpecDocument_render (d.validate_iff.mp ok) c _⟩
  case incident =>
    exact ⟨canonical_of_parseIncidentDocument, fun c => parseIncidentDocument_render (d.validate_iff.mp ok) c _⟩
  case learning =>
    exact ⟨canonical_of_parseLearningRequestDocument,
      fun c => parseLearningRequestDocument_render lawful (d.validate_iff.mp ok) c _⟩

end RoundTrip

/-! ## Concrete documents -/

/-- The shape `YYYY-MM-DDThh:mm:ssZ`, which every RFC 3339 reader accepts for small enough digits. -/
def parseUtcSeconds (value : String) : Except String OffsetDateTime :=
  let shape := value.toList.map fun c => if isAsciiDigit c then 'd' else c
  let number start size := ((value.toList.drop start).take size).foldl (fun n c => n * 10 + (c.toNat - 48)) 0
  if shape = "dddd-dd-ddTdd:dd:ddZ".toList then
    .ok ⟨number 0 4, number 5 2, number 8 2, number 11 2, number 14 2, number 17 2, 0, 0⟩
  else .error "not a UTC timestamp"

/-- JSON with the values `{}` (false) and `{"source":"tests"}` (true). -/
@[reducible] def twoObjects : SerdeJson where
  Value := Bool
  emptyObject := false
  isObject _ := true
  isEmptyObject value := !value
  toText value := some (if value then "\x7b\"source\":\"tests\"\x7d" else "\x7b\x7d")
  display value := if value then "\x7b\"source\":\"tests\"\x7d" else "\x7b\x7d"
  fromText text : Except String Bool :=
    if text = "\x7b\"source\":\"tests\"\x7d" then .ok true
    else if text = "\x7b\x7d" then .ok false
    else .error "expected value"

theorem twoObjects_lawful : twoObjects.Lawful where
  readsBack value _ := by
    cases value with
    | false => exact ⟨"\x7b\x7d", rfl, rfl⟩
    | true => exact ⟨"\x7b\"source\":\"tests\"\x7d", rfl, rfl⟩
  compact value text written := by
    cases value with
    | false => exact Option.some.inj written ▸ by decide +kernel
    | true => exact Option.some.inj written ▸ by decide +kernel
  emptyObject value empty := by
    cases value with
    | false => rfl
    | true => cases empty

section Concrete
local instance : Rfc3339 := ⟨parseUtcSeconds⟩
local instance : SerdeJson := twoObjects

def queuedTask (summary : String) : TaskDocument where
  taskId := "task-001"
  title := "Implement queue contracts"
  summary := summary
  rootIdeaId := some "idea-001"
  rootSpecId := none
  rootIntakeKind := some .idea
  rootIntakeId := none
  specId := none
  parentTaskId := none
  incidentId := none
  targetPaths := ["src/work_documents.rs"]
  acceptance := ["queue behavior is deterministic"]
  requiredChecks := ["cargo test"]
  references := ["docs/testing.md"]
  risk := ["queue drift"]
  dependsOn := ["task-000"]
  blocks := []
  tags := []
  statusHint := some .queued
  createdAt := ⟨"2026-04-15T00:00:00Z", by decide +kernel, by decide +kernel, by decide +kernel⟩
  createdBy := "tests"
  updatedAt := none

theorem parse_render_queuedTask :
    parseTaskDocument (renderTaskDocument (queuedTask "queue test")) = .ok (queuedTask "queue test") := by
  have valid : (queuedTask "queue test").validate = .ok () := by decide +kernel
  have canonical : (queuedTask "queue test").Canonical := {
    title := by decide +kernel
    summary := by decide +kernel
    createdAt := by decide +kernel
    createdBy := by decide +kernel
    updatedAt := fun t none => by cases none
    dependsOn := by decide +kernel
    blocks := by decide +kernel
    tags := by decide +kernel
    targetPaths := by decide +kernel
    acceptance := by decide +kernel
    requiredChecks := by decide +kernel
    references := by decide +kernel
    risk := by decide +kernel }
  exact ((parse_render_iff_canonical twoObjects_lawful).1 _ valid).mpr canonical

/-- The second line of a summary is lost: it is read as no field and no list item. -/
theorem parse_render_twoLineSummary :
    (queuedTask "first line\nsecond line").validate = .ok () ∧
      parseTaskDocument (renderTaskDocument (queuedTask "first line\nsecond line")) = .ok (queuedTask "first line") ∧
      parseTaskDocument (renderTaskDocument (queuedTask "first line\nsecond line")) ≠
        .ok (queuedTask "first line\nsecond line") := by
  have read : parseTaskDocument (renderTaskDocument (queuedTask "first line\nsecond line")) =
      .ok (queuedTask "first line") := by
    unfold parseTaskDocument parseTaskDocumentWithSource parseMarkdownFields renderTaskDocument renderEntries finishLines
    rw [String.toList_ofList]
    decide +kernel
  refine ⟨by decide +kernel, read, ?_⟩
  rw [read]
  decide +kernel

end Concrete

end Millrace.WorkDocuments
