import Mathlib.Data.List.Infix
import Millrace.Blueprints.Contracts

/-! The packets of a Blueprint draft, and the critiques, evaluations and promotions that follow them. -/

set_option autoImplicit false

namespace Millrace.Blueprints
open Millrace.Text Millrace.Contracts Millrace.WorkDocuments Millrace.Action

inductive BlueprintEvaluationDecision where
  | approved | rejected | blocked
  deriving DecidableEq, Repr

section
variable [Rfc3339]

/-! ## Packets -/

structure BlueprintPacketDocument where
  schemaVersion : String
  kind : String
  blueprintId : String
  draftId : String
  manifestId : String
  rootSpecId : String
  rootIdeaId : String
  revision : Nat
  title : String
  implementationScope : List String
  intendedFiles : List String
  designDecisions : List String
  nonGoals : List String
  dependencyAssumptions : List String
  verificationPlan : List String
  taskAcceptance : List String
  requiredChecks : List String
  riskNotes : List String
  openQuestions : List String
  references : List String
  createdAt : Timestamp
  createdBy : String
  deriving DecidableEq

def BlueprintPacketDocument.validateContract (packet : BlueprintPacketDocument) : Except RuntimeJsonError Unit := do
  validateLiteral "schema_version" packet.schemaVersion "1.0"
  validateLiteral "kind" packet.kind "blueprint_packet"
  validateIds [("blueprint_id", packet.blueprintId), ("draft_id", packet.draftId), ("manifest_id", packet.manifestId),
    ("root_spec_id", packet.rootSpecId), ("root_idea_id", packet.rootIdeaId)]
  if packet.revision = 0 then throw (.invalidField "revision" "must be >= 1")
  requireNonBlank "title" packet.title
  requireNonEmptyTexts "implementation_scope" packet.implementationScope
  requireNonEmptyTexts "intended_files" packet.intendedFiles
  requireNonEmptyTexts "design_decisions" packet.designDecisions
  requireNonEmptyTexts "verification_plan" packet.verificationPlan
  requireNonEmptyTexts "task_acceptance" packet.taskAcceptance
  requireNonEmptyTexts "required_checks" packet.requiredChecks
  requireNonEmptyTexts "risk_notes" packet.riskNotes

def BlueprintPacketDocument.ensureMatchesDraft (packet : BlueprintPacketDocument) (draft : BlueprintDraftDocument) :
    Except RuntimeJsonError Unit := do
  ensureEqual "draft_id" packet.draftId draft.draftId
  ensureEqual "manifest_id" packet.manifestId draft.manifestId
  ensureEqual "root_spec_id" packet.rootSpecId draft.rootSpecId
  ensureEqual "root_idea_id" packet.rootIdeaId draft.rootIdeaId
  requireThat (packet.revision = draft.currentRevision + 1) "revision must equal draft current_revision + 1"

/-! ## Critiques -/

structure BlueprintCritiqueDocument where
  schemaVersion : String
  kind : String
  critiqueId : String
  evaluationId : String
  blueprintId : String
  draftId : String
  manifestId : String
  rootSpecId : String
  rootIdeaId : String
  revision : Nat
  requiredChanges : List String
  scopeIssues : List String
  dependencyIssues : List String
  verificationIssues : List String
  acceptanceIssues : List String
  riskIssues : List String
  blockingReason : String
  resolvedByBlueprintId : Option String
  resolvedAt : Option Timestamp
  references : List String
  createdAt : Timestamp
  createdBy : String
  deriving DecidableEq

def BlueprintCritiqueDocument.issueLists (critique : BlueprintCritiqueDocument) : List (String × List String) := [
  ("required_changes", critique.requiredChanges), ("scope_issues", critique.scopeIssues),
  ("dependency_issues", critique.dependencyIssues), ("verification_issues", critique.verificationIssues),
  ("acceptance_issues", critique.acceptanceIssues), ("risk_issues", critique.riskIssues)]

def BlueprintCritiqueDocument.validateContract (critique : BlueprintCritiqueDocument) :
    Except RuntimeJsonError Unit := do
  validateLiteral "schema_version" critique.schemaVersion "1.0"
  validateLiteral "kind" critique.kind "blueprint_critique"
  validateIds [("critique_id", critique.critiqueId), ("evaluation_id", critique.evaluationId),
    ("blueprint_id", critique.blueprintId), ("draft_id", critique.draftId), ("manifest_id", critique.manifestId),
    ("root_spec_id", critique.rootSpecId), ("root_idea_id", critique.rootIdeaId)]
  if critique.revision = 0 then throw (.invalidField "revision" "must be >= 1")
  validateOptionalId "resolved_by_blueprint_id" critique.resolvedByBlueprintId
  requireThat (critique.issueLists.any fun (_, values) => !values.isEmpty) "at least one issue list is required"
  critique.issueLists.forM fun (fieldName, values) => validateNonEmptyEntries fieldName values
  requireNonBlank "blocking_reason" critique.blockingReason
  requireThat (critique.resolvedByBlueprintId.isSome = critique.resolvedAt.isSome)
    "resolved_by_blueprint_id and resolved_at must be set together"

def BlueprintCritiqueDocument.ensureMatchesPacket (critique : BlueprintCritiqueDocument)
    (packet : BlueprintPacketDocument) : Except RuntimeJsonError Unit := do
  ensureEqual "blueprint_id" critique.blueprintId packet.blueprintId
  ensureEqual "draft_id" critique.draftId packet.draftId
  ensureEqual "manifest_id" critique.manifestId packet.manifestId
  ensureEqual "root_spec_id" critique.rootSpecId packet.rootSpecId
  ensureEqual "root_idea_id" critique.rootIdeaId packet.rootIdeaId
  requireThat (critique.revision = packet.revision) "revision mismatch"

/-! ## Evaluations -/

structure BlueprintEvaluationDocument where
  schemaVersion : String
  kind : String
  evaluationId : String
  blueprintId : String
  draftId : String
  manifestId : String
  rootSpecId : String
  rootIdeaId : String
  decision : BlueprintEvaluationDecision
  rubricFindings : List String
  lineageConsistencyFindings : List String
  dependencyFindings : List String
  verificationFindings : List String
  overlapFindings : List String
  requiredTaskFields : List String
  critiqueId : Option String
  references : List String
  createdAt : Timestamp
  createdBy : String
  deriving DecidableEq

def BlueprintEvaluationDocument.validateContract (evaluation : BlueprintEvaluationDocument) :
    Except RuntimeJsonError Unit := do
  validateLiteral "schema_version" evaluation.schemaVersion "1.0"
  validateLiteral "kind" evaluation.kind "blueprint_evaluation"
  validateIds [("evaluation_id", evaluation.evaluationId), ("blueprint_id", evaluation.blueprintId),
    ("draft_id", evaluation.draftId), ("manifest_id", evaluation.manifestId),
    ("root_spec_id", evaluation.rootSpecId), ("root_idea_id", evaluation.rootIdeaId)]
  validateOptionalId "critique_id" evaluation.critiqueId
  requireNonEmptyTexts "rubric_findings" evaluation.rubricFindings
  if evaluation.decision = .approved then requireNonEmptyTexts "required_task_fields" evaluation.requiredTaskFields
  requireThat (evaluation.decision = .rejected → evaluation.critiqueId.isSome) "rejected evaluations require critique_id"

def BlueprintEvaluationDocument.ensureMatchesPacket (evaluation : BlueprintEvaluationDocument)
    (packet : BlueprintPacketDocument) : Except RuntimeJsonError Unit := do
  ensureEqual "blueprint_id" evaluation.blueprintId packet.blueprintId
  ensureEqual "draft_id" evaluation.draftId packet.draftId
  ensureEqual "manifest_id" evaluation.manifestId packet.manifestId
  ensureEqual "root_spec_id" evaluation.rootSpecId packet.rootSpecId
  ensureEqual "root_idea_id" evaluation.rootIdeaId packet.rootIdeaId

/-! ## Promotions -/

structure BlueprintPromotionRecord where
  schemaVersion : String
  kind : String
  promotionId : String
  blueprintId : String
  evaluationId : String
  draftId : String
  manifestId : String
  rootSpecId : String
  rootIdeaId : String
  generatedTaskId : String
  generatedTaskPath : String
  approvedBlueprintPath : String
  evaluationPath : String
  promotedAt : Timestamp
  promotedBy : String
  deriving DecidableEq

def containsText (text part : String) : Bool := decide (part.toList <:+: text.toList)

def requirePathContains (fieldName value expected : String) : Except RuntimeJsonError Unit := do
  requireNonBlank fieldName value
  let comparable := "/" ++ String.ofList (value.toList.dropWhile (· == '/'))
  if containsText comparable expected then return ()
  else throw (.invalidField fieldName "does not contain expected path segment")

def BlueprintPromotionRecord.validateContract (promotion : BlueprintPromotionRecord) :
    Except RuntimeJsonError Unit := do
  validateLiteral "schema_version" promotion.schemaVersion "1.0"
  validateLiteral "kind" promotion.kind "blueprint_promotion"
  validateIds [("promotion_id", promotion.promotionId), ("blueprint_id", promotion.blueprintId),
    ("evaluation_id", promotion.evaluationId), ("draft_id", promotion.draftId), ("manifest_id", promotion.manifestId),
    ("root_spec_id", promotion.rootSpecId), ("root_idea_id", promotion.rootIdeaId),
    ("generated_task_id", promotion.generatedTaskId)]
  requirePathContains "generated_task_path" promotion.generatedTaskPath "/tasks/queue/"
  requirePathContains "approved_blueprint_path" promotion.approvedBlueprintPath "/blueprints/packets/approved/"
  requirePathContains "evaluation_path" promotion.evaluationPath "/blueprints/evaluations/"
  requireThat (containsText promotion.generatedTaskPath promotion.generatedTaskId)
    "generated_task_path must reference generated_task_id"
  requireThat (containsText promotion.approvedBlueprintPath promotion.blueprintId)
    "approved_blueprint_path must reference blueprint_id"
  requireThat (containsText promotion.evaluationPath promotion.evaluationId)
    "evaluation_path must reference evaluation_id"

/-! ## What the contracts entail -/

theorem BlueprintPacketDocument.ensureMatchesDraft_eq_ok {packet : BlueprintPacketDocument}
    {draft : BlueprintDraftDocument} : packet.ensureMatchesDraft draft = .ok () ↔
      packet.draftId = draft.draftId ∧ packet.manifestId = draft.manifestId ∧ packet.rootSpecId = draft.rootSpecId ∧
        packet.rootIdeaId = draft.rootIdeaId ∧ packet.revision = draft.currentRevision + 1 := by
  unfold BlueprintPacketDocument.ensureMatchesDraft
  simp only [bind_unit_eq_ok, ensureEqual_eq_ok, requireThat_eq_ok]

theorem BlueprintEvaluationDocument.ensureMatchesPacket_eq_ok {evaluation : BlueprintEvaluationDocument}
    {packet : BlueprintPacketDocument} : evaluation.ensureMatchesPacket packet = .ok () ↔
      evaluation.blueprintId = packet.blueprintId ∧ evaluation.draftId = packet.draftId ∧
        evaluation.manifestId = packet.manifestId ∧ evaluation.rootSpecId = packet.rootSpecId ∧
          evaluation.rootIdeaId = packet.rootIdeaId := by
  unfold BlueprintEvaluationDocument.ensureMatchesPacket
  simp only [bind_unit_eq_ok, ensureEqual_eq_ok]

end
end Millrace.Blueprints
