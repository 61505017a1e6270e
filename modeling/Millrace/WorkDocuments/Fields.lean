import Millrace.Contracts.Enums

/-! Headed markdown: one H1 title, then labelled fields that hold an inline value or a bullet list. -/

set_option autoImplicit false

namespace Millrace.WorkDocuments
open Millrace.Text Millrace.Contracts

inductive FieldKind where
  | scalar
  | list
  deriving DecidableEq, Repr

inductive FieldName where
  | taskId | probeId | specId | incidentId | learningRequestId | title | summary | request | rootIdeaId
  | rootSpecId | rootIntakeKind | rootIntakeId | parentTaskId | statusHint | createdAt | createdBy
  | updatedAt | sourceType | sourceId | parentSpecId | sourceTaskId | sourceSpecId | sourceStage
  | sourcePlane | failureClass | severity | needsPlanning | triggerReason | consultantDecision | openedAt
  | openedBy | requestedAction | targetSkillId | targetStage | triggerMetadata | dependsOn | blocks | tags
  | targetPaths | acceptance | requiredChecks | references | risk | goals | nonGoals | scope | constraints
  | assumptions | risks | riskNotes | entrypoints | requiredSkills | decompositionHints | observedSymptoms
  | failedAttempts | evidencePaths | relatedRunIds | relatedStageResults | sourceRefs
  | preferredOutputPaths | originatingRunIds | artifactPaths
  deriving DecidableEq, Repr

namespace FieldName

def all : List FieldName := [
  .taskId, .probeId, .specId, .incidentId, .learningRequestId, .title, .summary, .request, .rootIdeaId,
  .rootSpecId, .rootIntakeKind, .rootIntakeId, .parentTaskId, .statusHint, .createdAt, .createdBy,
  .updatedAt, .sourceType, .sourceId, .parentSpecId, .sourceTaskId, .sourceSpecId, .sourceStage,
  .sourcePlane, .failureClass, .severity, .needsPlanning, .triggerReason, .consultantDecision, .openedAt,
  .openedBy, .requestedAction, .targetSkillId, .targetStage, .triggerMetadata, .dependsOn, .blocks, .tags,
  .targetPaths, .acceptance, .requiredChecks, .references, .risk, .goals, .nonGoals, .scope, .constraints,
  .assumptions, .risks, .riskNotes, .entrypoints, .requiredSkills, .decompositionHints, .observedSymptoms,
  .failedAttempts, .evidencePaths, .relatedRunIds, .relatedStageResults, .sourceRefs,
  .preferredOutputPaths, .originatingRunIds, .artifactPaths]

/-- The label that heads the field in a document. -/
def label : FieldName → String
  | .taskId => "Task-ID"
  | .probeId => "Probe-ID"
  | .specId => "Spec-ID"
  | .incidentId => "Incident-ID"
  | .learningRequestId => "Learning-Request-ID"
  | .title => "Title"
  | .summary => "Summary"
  | .request => "Request"
  | .rootIdeaId => "Root-Idea-ID"
  | .rootSpecId => "Root-Spec-ID"
  | .rootIntakeKind => "Root-Intake-Kind"
  | .rootIntakeId => "Root-Intake-ID"
  | .parentTaskId => "Parent-Task-ID"
  | .statusHint => "Status-Hint"
  | .createdAt => "Created-At"
  | .createdBy => "Created-By"
  | .updatedAt => "Updated-At"
  | .sourceType => "Source-Type"
  | .sourceId => "Source-ID"
  | .parentSpecId => "Parent-Spec-ID"
  | .sourceTaskId => "Source-Task-ID"
  | .sourceSpecId => "Source-Spec-ID"
  | .sourceStage => "Source-Stage"
  | .sourcePlane => "Source-Plane"
  | .failureClass => "Failure-Class"
  | .severity => "Severity"
  | .needsPlanning => "Needs-Planning"
  | .triggerReason => "Trigger-Reason"
  | .consultantDecision => "Consultant-Decision"
  | .openedAt => "Opened-At"
  | .openedBy => "Opened-By"
  | .requestedAction => "Requested-Action"
  | .targetSkillId => "Target-Skill-ID"
  | .targetStage => "Target-Stage"
  | .triggerMetadata => "Trigger-Metadata"
  | .dependsOn => "Depends-On"
  | .blocks => "Blocks"
  | .tags => "Tags"
  | .targetPaths => "Target-Paths"
  | .acceptance => "Acceptance"
  | .requiredChecks => "Required-Checks"
  | .references => "References"
  | .risk => "Risk"
  | .goals => "Goals"
  | .nonGoals => "Non-Goals"
  | .scope => "Scope"
  | .constraints => "Constraints"
  | .assumptions => "Assumptions"
  | .risks => "Risks"
  | .riskNotes => "Risk-Notes"
  | .entrypoints => "Entrypoints"
  | .requiredSkills => "Required-Skills"
  | .decompositionHints => "Decomposition-Hints"
  | .observedSymptoms => "Observed-Symptoms"
  | .failedAttempts => "Failed-Attempts"
  | .evidencePaths => "Evidence-Paths"
  | .relatedRunIds => "Related-Run-IDs"
  | .relatedStageResults => "Related-Stage-Results"
  | .sourceRefs => "Source-Refs"
  | .preferredOutputPaths => "Preferred-Output-Paths"
  | .originatingRunIds => "Originating-Run-IDs"
  | .artifactPaths => "Artifact-Paths"

/-- The canonical name that errors report. -/
def fieldName : FieldName → String
  | .taskId => "task_id"
  | .probeId => "probe_id"
  | .specId => "spec_id"
  | .incidentId => "incident_id"
  | .learningRequestId => "learning_request_id"
  | .title => "title"
  | .summary => "summary"
  | .request => "request"
  | .rootIdeaId => "root_idea_id"
  | .rootSpecId => "root_spec_id"
  | .rootIntakeKind => "root_intake_kind"
  | .rootIntakeId => "root_intake_id"
  | .parentTaskId => "parent_task_id"
  | .statusHint => "status_hint"
  | .createdAt => "created_at"
  | .createdBy => "created_by"
  | .updatedAt => "updated_at"
  | .sourceType => "source_type"
  | .sourceId => "source_id"
  | .parentSpecId => "parent_spec_id"
  | .sourceTaskId => "source_task_id"
  | .sourceSpecId => "source_spec_id"
  | .sourceStage => "source_stage"
  | .sourcePlane => "source_plane"
  | .failureClass => "failure_class"
  | .severity => "severity"
  | .needsPlanning => "needs_planning"
  | .triggerReason => "trigger_reason"
  | .consultantDecision => "consultant_decision"
  | .openedAt => "opened_at"
  | .openedBy => "opened_by"
  | .requestedAction => "requested_action"
  | .targetSkillId => "target_skill_id"
  | .targetStage => "target_stage"
  | .triggerMetadata => "trigger_metadata"
  | .dependsOn => "depends_on"
  | .blocks => "blocks"
  | .tags => "tags"
  | .targetPaths => "target_paths"
  | .acceptance => "acceptance"
  | .requiredChecks => "required_checks"
  | .references => "references"
  | .risk => "risk"
  | .goals => "goals"
  | .nonGoals => "non_goals"
  | .scope => "scope"
  | .constraints => "constraints"
  | .assumptions => "assumptions"
  | .risks => "risks"
  | .riskNotes => "risk_notes"
  | .entrypoints => "entrypoints"
  | .requiredSkills => "required_skills"
  | .decompositionHints => "decomposition_hints"
  | .observedSymptoms => "observed_symptoms"
  | .failedAttempts => "failed_attempts"
  | .evidencePaths => "evidence_paths"
  | .relatedRunIds => "related_run_ids"
  | .relatedStageResults => "related_stage_results"
  | .sourceRefs => "source_refs"
  | .preferredOutputPaths => "preferred_output_paths"
  | .originatingRunIds => "originating_run_ids"
  | .artifactPaths => "artifact_paths"

def kind : FieldName → FieldKind
  | .dependsOn | .blocks | .tags | .targetPaths | .acceptance | .requiredChecks | .references | .risk
  | .goals | .nonGoals | .scope | .constraints | .assumptions | .risks | .riskNotes | .entrypoints
  | .requiredSkills | .decompositionHints | .observedSymptoms | .failedAttempts | .evidencePaths
  | .relatedRunIds | .relatedStageResults | .sourceRefs | .preferredOutputPaths | .originatingRunIds
  | .artifactPaths => .list
  | _ => .scalar

end FieldName

inductive WorkDocumentError where
  | contract (error : ContractError)
  | missingRequiredField (fieldName : String)
  | emptyRequiredList (fieldName : String)
  | invalidField (fieldName value message : String)
  | invalidDocument (message : String)
  deriving DecidableEq, Repr

def WorkDocumentError.display : WorkDocumentError → String
  | .contract error => error.display
  | .missingRequiredField fieldName => fieldName ++ " is required"
  | .emptyRequiredList fieldName => fieldName ++ " must include at least one item"
  | .invalidField fieldName value message => fieldName ++ " has invalid value `" ++ value ++ "`: " ++ message
  | .invalidDocument message => message

/-- The fields of one document. A field is absent or holds one value of its kind. -/
structure ParsedFields where
  scalars : FieldName → Option String
  lists : FieldName → Option (List String)

namespace ParsedFields

def empty : ParsedFields := ⟨fun _ => none, fun _ => none⟩

def contains (fields : ParsedFields) (f : FieldName) : Bool := (fields.scalars f).isSome || (fields.lists f).isSome

def insertScalar (fields : ParsedFields) (f : FieldName) (value : String) : ParsedFields :=
  { fields with scalars := fun g => if g = f then some value else fields.scalars g }

def insertList (fields : ParsedFields) (f : FieldName) (items : List String) : ParsedFields :=
  { fields with lists := fun g => if g = f then some items else fields.lists g }

end ParsedFields

/-! ## Reading -/

def fieldSpecByLabel (label : List Char) : Option FieldName := FieldName.all.find? (·.label == String.ofList label)

def parseH1Title (line : List Char) : Option (List Char) :=
  match trim line with
  | '#' :: first :: rest => if isWhitespace first then some (trim rest) else none
  | _ => none

def isFieldLabel : List Char → Bool
  | [] => false
  | first :: rest => isAsciiAlphabetic first && rest.all (fun c => isAsciiAlphanumeric c || c == '-')

def parseFieldLine (line : List Char) : Option (List Char × List Char) :=
  match splitOnce ':' line with
  | none => none
  | some (label, value) => if isFieldLabel label then some (label, trim value) else none

def parseListItem : List Char → Option (List Char)
  | '-' :: ' ' :: rest => if trim rest = [] then none else some (trim rest)
  | _ => none

def isRelationshipPlaceholder (item : String) : Bool :=
  let word := (trim item.toList).map toAsciiLower
  word == "none".toList || word == "n/a".toList || word == "-".toList

def normalizeListItems (f : FieldName) (items : List String) : List String :=
  if f = .dependsOn ∨ f = .blocks then items.filter (!isRelationshipPlaceholder ·) else items

def skipBlankScalarBlock (sourceName label : String) :
    List (List Char) → Except WorkDocumentError (List (List Char))
  | [] => .ok []
  | line :: rest =>
    let candidate := trim line
    if candidate = [] then skipBlankScalarBlock sourceName label rest
    else if (parseFieldLine candidate).isSome then .ok (line :: rest)
    else if (parseListItem candidate).isSome then
      .error (.invalidDocument ("work document " ++ sourceName ++ " has list item under scalar field `" ++ label ++ "`"))
    else .ok (line :: rest)

def skipUnknownFieldBlock : List (List Char) → List (List Char)
  | [] => []
  | line :: rest =>
    let candidate := trim line
    if candidate = [] then skipUnknownFieldBlock rest
    else if (parseFieldLine candidate).isSome then line :: rest
    else skipUnknownFieldBlock rest

/-- The bullets under a list label, with the lines left after them. A blank line ends a list that has items. -/
def collectListItems (sourceName label : String) (items : List String) :
    List (List Char) → Except WorkDocumentError (List String × List (List Char))
  | [] => .ok (items, [])
  | line :: rest =>
    let nextLine := trim line
    if nextLine = [] then
      if items ≠ [] then .ok (items, rest) else collectListItems sourceName label items rest
    else if (parseFieldLine nextLine).isSome then .ok (items, line :: rest)
    else match parseListItem nextLine with
      | none =>
        .error (.invalidDocument ("work document " ++ sourceName ++ " has invalid list item under `" ++ label ++ "`"))
      | some item => collectListItems sourceName label (items ++ [String.ofList item]) rest

theorem skipBlankScalarBlock_suffix {sourceName label : String} {ls rest : List (List Char)}
    (ok : skipBlankScalarBlock sourceName label ls = .ok rest) : rest <:+ ls := by
  induction ls with
  | nil =>
    cases ok
    exact List.suffix_rfl
  | cons line tail ih =>
    simp only [skipBlankScalarBlock] at ok
    split at ok
    · exact (ih ok).trans (List.suffix_cons ..)
    · split at ok
      · exact Except.ok.inj ok ▸ List.suffix_rfl
      · split at ok
        · simp at ok
        · exact Except.ok.inj ok ▸ List.suffix_rfl

theorem skipUnknownFieldBlock_suffix (ls : List (List Char)) : skipUnknownFieldBlock ls <:+ ls := by
  induction ls with
  | nil => exact List.suffix_rfl
  | cons line tail ih =>
    simp only [skipUnknownFieldBlock]
    split
    · exact ih.trans (List.suffix_cons ..)
    · split
      · exact List.suffix_rfl
      · exact ih.trans (List.suffix_cons ..)

theorem collectListItems_suffix {sourceName label : String} {items found : List String}
    {ls rest : List (List Char)} (ok : collectListItems sourceName label items ls = .ok (found, rest)) :
    rest <:+ ls := by
  induction ls generalizing items with
  | nil =>
    simp only [collectListItems, Except.ok.injEq, Prod.mk.injEq] at ok
    exact ok.2 ▸ List.suffix_rfl
  | cons line tail ih =>
    simp only [collectListItems] at ok
    split at ok
    · split at ok
      · simp only [Except.ok.injEq, Prod.mk.injEq] at ok
        exact ok.2 ▸ List.suffix_cons ..
      · exact (ih ok).trans (List.suffix_cons ..)
    · split at ok
      · simp only [Except.ok.injEq, Prod.mk.injEq] at ok
        exact ok.2 ▸ List.suffix_rfl
      · split at ok
        · simp at ok
        · exact (ih ok).trans (List.suffix_cons ..)

/-- The field loop: each turn reads one line, and for a field without an inline value the block under it. -/
def parseFieldLines (sourceName : String) (ls : List (List Char)) (fields : ParsedFields) :
    Except WorkDocumentError ParsedFields :=
  match ls with
  | [] => .ok fields
  | line :: rest =>
    let stripped := trim line
    if stripped = [] then parseFieldLines sourceName rest fields
    else match parseFieldLine stripped with
      | none => parseFieldLines sourceName rest fields
      | some (label, inlineValue) =>
        match fieldSpecByLabel label with
        | none => parseFieldLines sourceName (skipUnknownFieldBlock rest) fields
        | some f =>
          if fields.contains f then
            .error (.invalidDocument ("work document " ++ sourceName ++ " repeats field `" ++ String.ofList label ++ "`"))
          else if inlineValue ≠ [] then
            if f.kind = .list then
              parseFieldLines sourceName rest
                (fields.insertList f (normalizeListItems f [String.ofList inlineValue]))
            else parseFieldLines sourceName rest (fields.insertScalar f (String.ofList inlineValue))
          else if f.kind = .scalar then
            match _skipped : skipBlankScalarBlock sourceName (String.ofList label) rest with
            | .error error => .error error
            | .ok remaining => parseFieldLines sourceName remaining fields
          else
            match _collected : collectListItems sourceName (String.ofList label) [] rest with
            | .error error => .error error
            | .ok (items, remaining) =>
              parseFieldLines sourceName remaining (fields.insertList f (normalizeListItems f items))
termination_by ls.length
decreasing_by
  all_goals simp only [List.length_cons]
  · omega
  · omega
  · have := (skipUnknownFieldBlock_suffix rest).length_le
    omega
  · omega
  · omega
  · have := (skipBlankScalarBlock_suffix _skipped).length_le
    omega
  · have := (collectListItems_suffix _collected).length_le
    omega

def parseMarkdownLines (sourceName : String) :
    List (List Char) → Except WorkDocumentError (String × ParsedFields)
  | [] => .error (.invalidDocument ("work document " ++ sourceName ++ " is empty"))
  | first :: rest =>
    if trim first = "---".toList then
      .error (.invalidDocument ("work document " ++ sourceName ++ " must not use JSON frontmatter"))
    else match parseH1Title first with
      | none =>
        .error (.invalidDocument ("work document " ++ sourceName ++ " must start with a markdown H1 title"))
      | some [] => .error (.invalidDocument ("work document " ++ sourceName ++ " has an empty H1 title"))
      | some headingTitle =>
        match parseFieldLines sourceName rest .empty with
        | .error error => .error error
        | .ok fields => .ok (String.ofList headingTitle, fields)

def parseMarkdownFields (raw sourceName : String) : Except WorkDocumentError (String × ParsedFields) :=
  parseMarkdownLines sourceName (lines raw.toList)

/-! ## Writing -/

/-- What a renderer pushes for one field. -/
inductive Entry where
  | scalar (field : FieldName) (value : String)
  | list (field : FieldName) (items : List String)
  deriving DecidableEq, Repr

namespace Entry

def field : Entry → FieldName
  | .scalar f _ => f
  | .list f _ => f

def lines : Entry → List (List Char)
  | .scalar f value => [f.label.toList ++ ':' :: ' ' :: value.toList]
  | .list f items => [] :: (f.label.toList ++ [':']) :: items.map fun item => '-' :: ' ' :: item.toList

end Entry

def headingLines (title : String) : List (List Char) := ['#' :: ' ' :: title.toList, []]

def pushScalar (f : FieldName) (value : String) : List Entry := [.scalar f value]

def pushOptionalScalar (f : FieldName) : Option String → List Entry
  | none => []
  | some value => pushScalar f value

def pushOptionalNonEmptyScalar (f : FieldName) (value : String) : List Entry :=
  if value = "" then [] else pushScalar f value

def pushList (f : FieldName) (values : List String) : List Entry :=
  if values = [] then [] else [.list f values]

def finishLines (ls : List (List Char)) : String := String.ofList (unlines ls)

def renderEntries (title : String) (entries : List Entry) : String :=
  finishLines (headingLines title ++ entries.flatMap Entry.lines)

end Millrace.WorkDocuments
