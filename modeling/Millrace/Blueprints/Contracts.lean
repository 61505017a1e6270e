import Millrace.Action
import Millrace.WorkDocuments.Documents

/-! The documents of the Blueprint loop, and what their contracts accept. -/

set_option autoImplicit false

namespace Millrace.Blueprints
open Millrace.Text Millrace.Contracts Millrace.WorkDocuments Millrace.Action

/-! ## Checks -/

inductive RuntimeJsonError where
  | contract (error : ContractError)
  | invalidLiteral (fieldName expected actual : String)
  | invalidField (fieldName message : String)
  | invalidDocument (message : String)
  deriving DecidableEq, Repr

def RuntimeJsonError.display : RuntimeJsonError → String
  | .contract error => error.display
  | .invalidLiteral fieldName expected actual =>
    fieldName ++ " must be literal `" ++ expected ++ "`, got `" ++ actual ++ "`"
  | .invalidField fieldName message => fieldName ++ " is invalid: " ++ message
  | .invalidDocument message => message

def validateLiteral (fieldName actual expected : String) : Except RuntimeJsonError Unit :=
  if actual = expected then .ok () else .error (.invalidLiteral fieldName expected actual)

def validateId (fieldName value : String) : Except RuntimeJsonError Unit :=
  (validateSafeIdentifier value fieldName).mapError .contract

def validateIds (values : List (String × String)) : Except RuntimeJsonError Unit :=
  values.forM fun (fieldName, value) => validateId fieldName value

def validateOptionalId (fieldName : String) (value : Option String) : Except RuntimeJsonError Unit :=
  value.forM (validateId fieldName)

def validateDistinctIds (fieldName : String) : List String → List String → Except RuntimeJsonError Unit
  | _, [] => .ok ()
  | seen, value :: rest => do
    validateId fieldName value
    if value ∈ seen then throw (.invalidField fieldName "must not contain duplicates")
    validateDistinctIds fieldName (value :: seen) rest

def validateIdList (fieldName : String) (values : List String) (requireNonEmpty : Bool) :
    Except RuntimeJsonError Unit := do
  if requireNonEmpty && values.isEmpty then throw (.invalidField fieldName "must not be empty")
  validateDistinctIds fieldName [] values

def requireNonBlank (fieldName value : String) : Except RuntimeJsonError Unit :=
  if trim value.toList = [] then .error (.invalidField fieldName "must not be empty") else .ok ()

def validateNonEmptyEntries (fieldName : String) (values : List String) : Except RuntimeJsonError Unit :=
  values.forM (requireNonBlank fieldName)

def requireNonEmptyTexts (fieldName : String) (values : List String) : Except RuntimeJsonError Unit := do
  if values.isEmpty then throw (.invalidField fieldName "must not be empty")
  validateNonEmptyEntries fieldName values

def ensureEqual (fieldName actual expected : String) : Except RuntimeJsonError Unit :=
  if actual = expected then .ok () else .error (.invalidField fieldName "mismatch")

def requireThat (condition : Prop) [Decidable condition] (message : String) : Except RuntimeJsonError Unit :=
  if condition then .ok () else .error (.invalidDocument message)

theorem ensureEqual_eq_ok {fieldName actual expected : String} :
    ensureEqual fieldName actual expected = .ok () ↔ actual = expected := by
  unfold ensureEqual
  by_cases same : actual = expected <;> simp [same]

theorem requireThat_eq_ok {condition : Prop} [Decidable condition] {message : String} :
    requireThat condition message = .ok () ↔ condition := by
  unfold requireThat
  by_cases holds : condition <;> simp [holds]

/-! ## Drafts -/

inductive BlueprintDraftStatus where
  | queued | active | candidateReady | rejected | approved | canceled | blocked | superseded
  deriving DecidableEq, Repr

section
variable [Rfc3339]

structure BlueprintDraftDocument where
  schemaVersion : String
  kind : String
  draftId : String
  manifestId : String
  rootSpecId : String
  rootIdeaId : String
  sourceSpecId : String
  draftIndex : Nat
  dependsOnDraftIds : List String
  title : String
  summary : String
  scope : List String
  nonGoals : List String
  targetPaths : List String
  acceptanceIntent : List String
  verificationIntent : List String
  dependencyNotes : List String
  integrationBoundaryNotes : List String
  contextExcerpt : String
  currentRevision : Nat
  latestBlueprintId : Option String
  latestCritiqueId : Option String
  status : BlueprintDraftStatus
  references : List String
  createdAt : Timestamp
  createdBy : String
  updatedAt : Option Timestamp
  deriving DecidableEq

def BlueprintDraftDocument.validateContract (draft : BlueprintDraftDocument) : Except RuntimeJsonError Unit := do
  validateLiteral "schema_version" draft.schemaVersion "1.0"
  validateLiteral "kind" draft.kind "blueprint_draft"
  validateIds [("draft_id", draft.draftId), ("manifest_id", draft.manifestId), ("root_spec_id", draft.rootSpecId),
    ("root_idea_id", draft.rootIdeaId), ("source_spec_id", draft.sourceSpecId)]
  validateOptionalId "latest_blueprint_id" draft.latestBlueprintId
  validateOptionalId "latest_critique_id" draft.latestCritiqueId
  validateIdList "depends_on_draft_ids" draft.dependsOnDraftIds false
  requireThat (draft.draftId ∉ draft.dependsOnDraftIds) "depends_on_draft_ids cannot include draft_id"
  requireNonBlank "title" draft.title
  requireNonBlank "summary" draft.summary
  requireNonBlank "context_excerpt" draft.contextExcerpt
  requireNonEmptyTexts "target_paths" draft.targetPaths
  requireNonEmptyTexts "acceptance_intent" draft.acceptanceIntent

/-! ## Manifests -/

inductive BlueprintSourceWorkItemKind where
  | spec | incident
  deriving DecidableEq, Repr

structure BlueprintManifestDocument where
  schemaVersion : String
  kind : String
  manifestId : String
  rootSpecId : String
  rootIdeaId : String
  sourceWorkItemKind : BlueprintSourceWorkItemKind
  sourceWorkItemId : String
  sourceSpecId : String
  draftIds : List String
  draftCount : Nat
  strictSequence : Bool
  specSummary : String
  decompositionStrategy : String
  globalAcceptanceIntent : List String
  integrationBoundaryNotes : List String
  riskNotes : List String
  references : List String
  createdAt : Timestamp
  createdBy : String
  deriving DecidableEq

def BlueprintManifestDocument.validateContract (manifest : BlueprintManifestDocument) :
    Except RuntimeJsonError Unit := do
  validateLiteral "schema_version" manifest.schemaVersion "1.0"
  validateLiteral "kind" manifest.kind "blueprint_manifest"
  validateIds [("manifest_id", manifest.manifestId), ("root_spec_id", manifest.rootSpecId),
    ("root_idea_id", manifest.rootIdeaId), ("source_work_item_id", manifest.sourceWorkItemId),
    ("source_spec_id", manifest.sourceSpecId)]
  validateIdList "draft_ids" manifest.draftIds true
  requireThat (manifest.draftCount = manifest.draftIds.length) "draft_count must equal draft_ids length"
  requireThat (manifest.strictSequence = true) "strict_sequence must be true"
  requireNonBlank "spec_summary" manifest.specSummary
  requireNonBlank "decomposition_strategy" manifest.decompositionStrategy
  requireNonEmptyTexts "global_acceptance_intent" manifest.globalAcceptanceIntent

/-! ## What the contracts leave open -/

/-- The status is not validated, and may be set freely. -/
theorem validateContract_status (draft : BlueprintDraftDocument) (status : BlueprintDraftStatus) :
    { draft with status := status }.validateContract = draft.validateContract := rfl

end

end Millrace.Blueprints
