import Millrace.Text

/-! The enumerations of the contract layer and the strings that name them. -/

set_option autoImplicit false

namespace Millrace.Contracts
open Millrace.Text

inductive IdentifierErrorReason where
  | surroundingWhitespace
  | empty
  | invalidCharacters
  deriving DecidableEq, Repr

inductive ContractError where
  | unknownEnumValue (enumName value : String)
  | unsafeIdentifier (fieldName value : String) (reason : IdentifierErrorReason)
  | unknownStageValue (value : String)
  | stagePlaneMismatch (plane stage : String)
  deriving DecidableEq, Repr

def IdentifierErrorReason.display : IdentifierErrorReason → String
  | .surroundingWhitespace => "must not include surrounding whitespace"
  | .empty => "is required"
  | .invalidCharacters =>
    "must start with an ASCII alphanumeric character and then contain only ASCII alphanumeric characters, " ++
      "'.', '_', or '-'"

def ContractError.display : ContractError → String
  | .unknownEnumValue enumName value => "unknown " ++ enumName ++ " value: " ++ value
  | .unsafeIdentifier fieldName _ reason => fieldName ++ " " ++ reason.display
  | .unknownStageValue value => "unknown stage value: " ++ value
  | .stagePlaneMismatch plane stage => "stage " ++ stage ++ " does not belong to plane " ++ plane

/-- An enumeration whose values are named by distinct strings without white space. -/
class StringEnum (α : Type) where
  enumName : String
  all : List α
  asStr : α → String
  find_asStr : ∀ a, all.find? (fun b => asStr b == asStr a) = some a
  solid : ∀ a, (asStr a).toList ≠ [] ∧ (asStr a).toList.all (fun c => !isWhitespace c) = true

section StringEnum
variable {α : Type} [StringEnum α]

def asStr (a : α) : String := StringEnum.asStr a

def fromValue (value : String) : Except ContractError α :=
  match (StringEnum.all (α := α)).find? (fun a => StringEnum.asStr a == value) with
  | some a => .ok a
  | none => .error (.unknownEnumValue (StringEnum.enumName α) value)

@[simp] theorem fromValue_asStr (a : α) : fromValue (asStr a) = .ok a := by
  simp [fromValue, asStr, StringEnum.find_asStr]

theorem asStr_of_fromValue {value : String} {a : α} (ok : fromValue value = .ok a) : asStr a = value := by
  unfold fromValue at ok
  split at ok
  next b found =>
    cases ok
    simpa [asStr] using List.find?_some found
  next => simp at ok

theorem asStr_injective {a b : α} (same : asStr a = asStr b) : a = b := by
  have left := fromValue_asStr a
  rw [same, fromValue_asStr] at left
  exact (Except.ok.inj left).symm

theorem inline_asStr (a : α) : Inline (asStr a).toList := by
  obtain ⟨nonempty, solid⟩ := StringEnum.solid a
  refine inline_of_solid nonempty fun c member => ?_
  simpa using List.all_eq_true.mp solid c member

end StringEnum

inductive Plane where
  | execution | planning | learning
  deriving DecidableEq, Repr

instance : StringEnum Plane where
  enumName := "Plane"
  all := [.execution, .planning, .learning]
  asStr
    | .execution => "execution"
    | .planning => "planning"
    | .learning => "learning"
  find_asStr a := by cases a <;> decide +kernel
  solid a := by cases a <;> decide +kernel

inductive LearningStageName where
  | analyst | professor | curator | librarian
  deriving DecidableEq, Repr

instance : StringEnum LearningStageName where
  enumName := "LearningStageName"
  all := [.analyst, .professor, .curator, .librarian]
  asStr
    | .analyst => "analyst"
    | .professor => "professor"
    | .curator => "curator"
    | .librarian => "librarian"
  find_asStr a := by cases a <;> decide +kernel
  solid a := by cases a <;> decide +kernel

inductive StageName where
  | builder | integrator | checker | fixer | doublechecker | updater | troubleshooter | consultant
  | recon | planner | manager | managerBlueprint | contractorBlueprint | evaluatorBlueprint
  | mechanic | mechanicBlueprint | auditor | arbiter
  | analyst | professor | curator | librarian
  deriving DecidableEq, Repr

instance : StringEnum StageName where
  enumName := "StageName"
  all := [.builder, .integrator, .checker, .fixer, .doublechecker, .updater, .troubleshooter, .consultant,
    .recon, .planner, .manager, .managerBlueprint, .contractorBlueprint, .evaluatorBlueprint,
    .mechanic, .mechanicBlueprint, .auditor, .arbiter, .analyst, .professor, .curator, .librarian]
  asStr
    | .builder => "builder"
    | .integrator => "integrator"
    | .checker => "checker"
    | .fixer => "fixer"
    | .doublechecker => "doublechecker"
    | .updater => "updater"
    | .troubleshooter => "troubleshooter"
    | .consultant => "consultant"
    | .recon => "recon"
    | .planner => "planner"
    | .manager => "manager"
    | .managerBlueprint => "manager_blueprint"
    | .contractorBlueprint => "contractor_blueprint"
    | .evaluatorBlueprint => "evaluator_blueprint"
    | .mechanic => "mechanic"
    | .mechanicBlueprint => "mechanic_blueprint"
    | .auditor => "auditor"
    | .arbiter => "arbiter"
    | .analyst => "analyst"
    | .professor => "professor"
    | .curator => "curator"
    | .librarian => "librarian"
  find_asStr a := by cases a <;> decide +kernel
  solid a := by cases a <;> decide +kernel

def StageName.plane : StageName → Plane
  | .builder | .integrator | .checker | .fixer | .doublechecker | .updater | .troubleshooter
  | .consultant => .execution
  | .recon | .planner | .manager | .managerBlueprint | .contractorBlueprint | .evaluatorBlueprint
  | .mechanic | .mechanicBlueprint | .auditor | .arbiter => .planning
  | .analyst | .professor | .curator | .librarian => .learning

def stagePlane (stage : StageName) : Plane := stage.plane

inductive WorkItemKind where
  | task | probe | spec | incident | learningRequest | blueprintDraft
  deriving DecidableEq, Repr

instance : StringEnum WorkItemKind where
  enumName := "WorkItemKind"
  all := [.task, .probe, .spec, .incident, .learningRequest, .blueprintDraft]
  asStr
    | .task => "task"
    | .probe => "probe"
    | .spec => "spec"
    | .incident => "incident"
    | .learningRequest => "learning_request"
    | .blueprintDraft => "blueprint_draft"
  find_asStr a := by cases a <;> decide +kernel
  solid a := by cases a <;> decide +kernel

inductive SpecSourceType where
  | idea | incident | manual | derivedSpec | probe
  deriving DecidableEq, Repr

instance : StringEnum SpecSourceType where
  enumName := "SpecSourceType"
  all := [.idea, .incident, .manual, .derivedSpec, .probe]
  asStr
    | .idea => "idea"
    | .incident => "incident"
    | .manual => "manual"
    | .derivedSpec => "derived_spec"
    | .probe => "probe"
  find_asStr a := by cases a <;> decide +kernel
  solid a := by cases a <;> decide +kernel

inductive LearningRequestAction where
  | create | improve | promote | «export» | install
  deriving DecidableEq, Repr

instance : StringEnum LearningRequestAction where
  enumName := "LearningRequestAction"
  all := [.create, .improve, .promote, .export, .install]
  asStr
    | .create => "create"
    | .improve => "improve"
    | .promote => "promote"
    | .export => "export"
    | .install => "install"
  find_asStr a := by cases a <;> decide +kernel
  solid a := by cases a <;> decide +kernel

inductive TaskStatusHint where
  | queued | active | blocked | done
  deriving DecidableEq, Repr

instance : StringEnum TaskStatusHint where
  enumName := "TaskStatusHint"
  all := [.queued, .active, .blocked, .done]
  asStr
    | .queued => "queued"
    | .active => "active"
    | .blocked => "blocked"
    | .done => "done"
  find_asStr a := by cases a <;> decide +kernel
  solid a := by cases a <;> decide +kernel

inductive ProbeStatusHint where
  | queued | active | blocked | done
  deriving DecidableEq, Repr

instance : StringEnum ProbeStatusHint where
  enumName := "ProbeStatusHint"
  all := [.queued, .active, .blocked, .done]
  asStr
    | .queued => "queued"
    | .active => "active"
    | .blocked => "blocked"
    | .done => "done"
  find_asStr a := by cases a <;> decide +kernel
  solid a := by cases a <;> decide +kernel

inductive RootIntakeKind where
  | idea | probe | manual | incident | derivedSpec
  deriving DecidableEq, Repr

instance : StringEnum RootIntakeKind where
  enumName := "RootIntakeKind"
  all := [.idea, .probe, .manual, .incident, .derivedSpec]
  asStr
    | .idea => "idea"
    | .probe => "probe"
    | .manual => "manual"
    | .incident => "incident"
    | .derivedSpec => "derived_spec"
  find_asStr a := by cases a <;> decide +kernel
  solid a := by cases a <;> decide +kernel

inductive IncidentSeverity where
  | low | medium | high | critical
  deriving DecidableEq, Repr

instance : StringEnum IncidentSeverity where
  enumName := "IncidentSeverity"
  all := [.low, .medium, .high, .critical]
  asStr
    | .low => "low"
    | .medium => "medium"
    | .high => "high"
    | .critical => "critical"
  find_asStr a := by cases a <;> decide +kernel
  solid a := by cases a <;> decide +kernel

inductive IncidentDecision where
  | needsPlanning | blocked
  deriving DecidableEq, Repr

instance : StringEnum IncidentDecision where
  enumName := "IncidentDecision"
  all := [.needsPlanning, .blocked]
  asStr
    | .needsPlanning => "needs_planning"
    | .blocked => "blocked"
  find_asStr a := by cases a <;> decide +kernel
  solid a := by cases a <;> decide +kernel

inductive ExecutionTerminalResult where
  | builderComplete | integrationComplete | checkerPass | fixNeeded | fixerComplete | doublecheckPass
  | updateComplete | troubleshootComplete | consultComplete | needsPlanning | blocked
  deriving DecidableEq, Repr

def ExecutionTerminalResult.asStr : ExecutionTerminalResult → String
  | .builderComplete => "BUILDER_COMPLETE"
  | .integrationComplete => "INTEGRATION_COMPLETE"
  | .checkerPass => "CHECKER_PASS"
  | .fixNeeded => "FIX_NEEDED"
  | .fixerComplete => "FIXER_COMPLETE"
  | .doublecheckPass => "DOUBLECHECK_PASS"
  | .updateComplete => "UPDATE_COMPLETE"
  | .troubleshootComplete => "TROUBLESHOOT_COMPLETE"
  | .consultComplete => "CONSULT_COMPLETE"
  | .needsPlanning => "NEEDS_PLANNING"
  | .blocked => "BLOCKED"

inductive PlanningTerminalResult where
  | reconToExecution | reconToPlanning | reconBlocked | reconNoop | plannerComplete | managerComplete
  | managerBlueprintComplete | blueprintCandidateReady | blueprintApproved | blueprintRejected | mechanicComplete
  | mechanicBlueprintComplete | auditorComplete | arbiterComplete | remediationNeeded | blocked
  deriving DecidableEq, Repr

def PlanningTerminalResult.asStr : PlanningTerminalResult → String
  | .reconToExecution => "RECON_TO_EXECUTION"
  | .reconToPlanning => "RECON_TO_PLANNING"
  | .reconBlocked => "RECON_BLOCKED"
  | .reconNoop => "RECON_NOOP"
  | .plannerComplete => "PLANNER_COMPLETE"
  | .managerComplete => "MANAGER_COMPLETE"
  | .managerBlueprintComplete => "MANAGER_BLUEPRINT_COMPLETE"
  | .blueprintCandidateReady => "BLUEPRINT_CANDIDATE_READY"
  | .blueprintApproved => "BLUEPRINT_APPROVED"
  | .blueprintRejected => "BLUEPRINT_REJECTED"
  | .mechanicComplete => "MECHANIC_COMPLETE"
  | .mechanicBlueprintComplete => "MECHANIC_BLUEPRINT_COMPLETE"
  | .auditorComplete => "AUDITOR_COMPLETE"
  | .arbiterComplete => "ARBITER_COMPLETE"
  | .remediationNeeded => "REMEDIATION_NEEDED"
  | .blocked => "BLOCKED"

inductive LearningTerminalResult where
  | analystComplete | analystNoop | professorComplete | professorNoop | curatorComplete | curatorNoop
  | librarianComplete | librarianNoop | blocked
  deriving DecidableEq, Repr

def LearningTerminalResult.asStr : LearningTerminalResult → String
  | .analystComplete => "ANALYST_COMPLETE"
  | .analystNoop => "ANALYST_NOOP"
  | .professorComplete => "PROFESSOR_COMPLETE"
  | .professorNoop => "PROFESSOR_NOOP"
  | .curatorComplete => "CURATOR_COMPLETE"
  | .curatorNoop => "CURATOR_NOOP"
  | .librarianComplete => "LIBRARIAN_COMPLETE"
  | .librarianNoop => "LIBRARIAN_NOOP"
  | .blocked => "BLOCKED"

inductive TerminalResult where
  | execution (result : ExecutionTerminalResult)
  | planning (result : PlanningTerminalResult)
  | learning (result : LearningTerminalResult)
  deriving DecidableEq, Repr

def TerminalResult.plane : TerminalResult → Plane
  | .execution _ => .execution
  | .planning _ => .planning
  | .learning _ => .learning

def TerminalResult.asStr : TerminalResult → String
  | .execution result => result.asStr
  | .planning result => result.asStr
  | .learning result => result.asStr

inductive ResultClass where
  | success | noOp | followupNeeded | recoverableFailure | escalatePlanning | blocked
  deriving DecidableEq, Repr

instance : StringEnum ResultClass where
  enumName := "ResultClass"
  all := [.success, .noOp, .followupNeeded, .recoverableFailure, .escalatePlanning, .blocked]
  asStr
    | .success => "success"
    | .noOp => "no_op"
    | .followupNeeded => "followup_needed"
    | .recoverableFailure => "recoverable_failure"
    | .escalatePlanning => "escalate_planning"
    | .blocked => "blocked"
  find_asStr a := by cases a <;> rfl
  solid a := by cases a <;> decide

def stageNameForValue (value : String) : Except ContractError StageName :=
  match (StringEnum.all (α := StageName)).find? (fun stage => StringEnum.asStr stage == value) with
  | some stage => .ok stage
  | none => .error (.unknownStageValue value)

def stageNameForPlane (plane : Plane) (value : String) : Except ContractError StageName := do
  let stage ← stageNameForValue value
  if stage.plane = plane then return stage else throw (.stagePlaneMismatch (asStr plane) (asStr stage))

/-! ## Safe identifiers -/

def isIdentifierTail (c : Char) : Bool := isAsciiAlphanumeric c || c == '.' || c == '_' || c == '-'

def validateSafeIdentifier (value fieldName : String) : Except ContractError Unit :=
  if trim value.toList ≠ value.toList then
    .error (.unsafeIdentifier fieldName value .surroundingWhitespace)
  else match value.toList with
  | [] => .error (.unsafeIdentifier fieldName value .empty)
  | first :: rest =>
    if isAsciiAlphanumeric first && rest.all isIdentifierTail then .ok ()
    else .error (.unsafeIdentifier fieldName value .invalidCharacters)

/-- The strings `validateSafeIdentifier` accepts, whatever field they come from. -/
def SafeIdentifier (value : String) : Prop :=
  ∃ first rest, value.toList = first :: rest ∧ isAsciiAlphanumeric first = true ∧
    rest.all isIdentifierTail = true

theorem isWhitespace_of_identifierTail {c : Char} (member : isIdentifierTail c = true) :
    isWhitespace c = false := by
  simp only [isIdentifierTail, Bool.or_eq_true, beq_iff_eq] at member
  rcases member with ((letter | rfl) | rfl) | rfl
  · exact isWhitespace_of_alphanumeric c letter
  all_goals decide

theorem SafeIdentifier.solid {value : String} (safe : SafeIdentifier value) :
    ∀ c ∈ value.toList, isIdentifierTail c = true := by
  obtain ⟨first, rest, same, opening, tail⟩ := safe
  intro c member
  rw [same] at member
  rcases List.mem_cons.mp member with rfl | later
  · simp [isIdentifierTail, opening]
  · exact List.all_eq_true.mp tail c later

theorem SafeIdentifier.inline {value : String} (safe : SafeIdentifier value) : Inline value.toList := by
  refine inline_of_solid ?_ fun c member => isWhitespace_of_identifierTail (safe.solid c member)
  obtain ⟨first, rest, same, -⟩ := safe
  simp [same]

theorem validateSafeIdentifier_iff (value fieldName : String) :
    validateSafeIdentifier value fieldName = .ok () ↔ SafeIdentifier value := by
  constructor
  · intro ok
    unfold validateSafeIdentifier at ok
    split at ok
    next => simp at ok
    next =>
      split at ok
      next => simp at ok
      next first rest same =>
        split at ok
        next accepted =>
          simp only [Bool.and_eq_true] at accepted
          exact ⟨first, rest, same, accepted⟩
        next => simp at ok
  · intro safe
    have trimmed := safe.inline.trim
    obtain ⟨first, rest, same, opening, tail⟩ := safe
    rw [same] at trimmed
    simp [validateSafeIdentifier, same, trimmed, opening, tail]

instance (value : String) : Decidable (SafeIdentifier value) :=
  decidable_of_iff _ (validateSafeIdentifier_iff value "")

end Millrace.Contracts
