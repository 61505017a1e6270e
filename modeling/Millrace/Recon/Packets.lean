import Millrace.WorkDocuments.Documents

/-! Recon packets: their contract, their markdown and its reader. -/

set_option autoImplicit false

namespace Millrace.Recon
open Millrace.Text Millrace.Contracts Millrace.WorkDocuments

/-! ## Values -/

inductive ReconDecision where
  | toExecution | toPlanning | blocked | noop
  deriving DecidableEq, Repr

instance : StringEnum ReconDecision where
  enumName := "ReconDecision"
  all := [.toExecution, .toPlanning, .blocked, .noop]
  asStr
    | .toExecution => "to_execution"
    | .toPlanning => "to_planning"
    | .blocked => "blocked"
    | .noop => "noop"
  find_asStr a := by cases a <;> rfl
  solid a := by cases a <;> decide

inductive ReconConfidence where
  | low | medium | high
  deriving DecidableEq, Repr

instance : StringEnum ReconConfidence where
  enumName := "ReconConfidence"
  all := [.low, .medium, .high]
  asStr
    | .low => "low"
    | .medium => "medium"
    | .high => "high"
  find_asStr a := by cases a <;> rfl
  solid a := by cases a <;> decide

inductive ReconRiskLevel where
  | low | medium | high
  deriving DecidableEq, Repr

instance : StringEnum ReconRiskLevel where
  enumName := "ReconRiskLevel"
  all := [.low, .medium, .high]
  asStr
    | .low => "low"
    | .medium => "medium"
    | .high => "high"
  find_asStr a := by cases a <;> rfl
  solid a := by cases a <;> decide

inductive ReconHandoffTarget where
  | execution | planning | blocked | noop
  deriving DecidableEq, Repr

instance : StringEnum ReconHandoffTarget where
  enumName := "ReconHandoffTarget"
  all := [.execution, .planning, .blocked, .noop]
  asStr
    | .execution => "execution"
    | .planning => "planning"
    | .blocked => "blocked"
    | .noop => "noop"
  find_asStr a := by cases a <;> rfl
  solid a := by cases a <;> decide

/-- The required handoff target for a decision. -/
def ReconDecision.handoffTarget : ReconDecision → ReconHandoffTarget
  | .toExecution => .execution
  | .toPlanning => .planning
  | .blocked => .blocked
  | .noop => .noop

inductive ReconPacketError where
  | contract (error : ContractError)
  | unknownValue (fieldName value : String)
  | missingRequiredField (fieldName : String)
  | emptyRequiredList (fieldName : String)
  | invalidField (fieldName value message : String)
  | invalidDocument (message : String)
  deriving DecidableEq, Repr

def reconFromValue (α : Type) [StringEnum α] (value : String) : Except ReconPacketError α :=
  match fromValue value with
  | .ok a => .ok a
  | .error _ => .error (.unknownValue (StringEnum.enumName α) value)

/-! ## The contract -/

def isBlank (value : String) : Bool := trim value.toList = []

def requireNonBlank (fieldName value : String) : Except ReconPacketError Unit :=
  if isBlank value then .error (.missingRequiredField fieldName) else .ok ()

def requireRequiredList {α : Type} (fieldName : String) (values : List α) : Except ReconPacketError Unit :=
  if values.isEmpty then .error (.emptyRequiredList fieldName) else .ok ()

def validateLiteral (fieldName value expected : String) : Except ReconPacketError Unit :=
  if value = expected then .ok ()
  else .error (.invalidField fieldName value ("must be literal `" ++ expected ++ "`"))

def validateIdentifier (value fieldName : String) : Except ReconPacketError Unit :=
  (validateSafeIdentifier value fieldName).mapError .contract

/-- One path or test finding in a Recon packet. -/
structure ReconPathFinding where
  path : String
  reason : String
  deriving DecidableEq, Repr

def ReconPathFinding.validate (finding : ReconPathFinding) : Except ReconPacketError Unit := do
  requireNonBlank "path" finding.path
  requireNonBlank "reason" finding.reason

structure ReconVerificationPlan where
  requiredCommands : List String
  focusedChecks : List String
  fallbackChecks : List String
  deriving DecidableEq, Repr

section Packet
variable [Rfc3339]

/-- Complete Recon packet document. -/
structure ReconPacketDocument where
  schemaVersion : String
  kind : String
  reconPacketId : String
  probeId : String
  decision : ReconDecision
  confidence : ReconConfidence
  riskLevel : ReconRiskLevel
  requestSummary : String
  interpretedGoal : String
  relevantPaths : List ReconPathFinding
  relevantSymbols : List String
  relevantTests : List ReconPathFinding
  semanticInvariants : List String
  edgeCasesToPreserve : List String
  verificationPlan : ReconVerificationPlan
  openQuestions : List String
  handoffTarget : ReconHandoffTarget
  emittedTaskId : Option String
  emittedSpecId : Option String
  createdAt : Timestamp
  createdBy : String
  deriving DecidableEq

/-- Which of the two emitted documents a decision names. -/
def validateEmitted (p : ReconPacketDocument) : Except ReconPacketError Unit :=
  match p.decision with
  | .toExecution =>
    if p.emittedTaskId.isNone then .error (.invalidDocument "to_execution decisions require Emitted-Task-ID")
    else if p.emittedSpecId.isSome then
      .error (.invalidDocument ("to_execution decisions require Emitted-Task-ID; " ++
        "Emitted-Spec-ID is only valid for to_planning decisions"))
    else .ok ()
  | .toPlanning =>
    if p.emittedTaskId.isSome then
      .error (.invalidDocument ("to_planning decisions require Emitted-Spec-ID; " ++
        "Emitted-Task-ID is only valid for to_execution decisions"))
    else if p.emittedSpecId.isNone then .error (.invalidDocument "to_planning decisions require Emitted-Spec-ID")
    else .ok ()
  | .blocked | .noop =>
    if p.emittedTaskId.isSome then
      .error (.invalidDocument "Emitted-Task-ID is only valid for to_execution decisions")
    else if p.emittedSpecId.isSome then
      .error (.invalidDocument "Emitted-Spec-ID is only valid for to_planning decisions")
    else .ok ()

/-- Validates identifier shape, required fields, and handoff invariants. -/
def ReconPacketDocument.validate (p : ReconPacketDocument) : Except ReconPacketError Unit := do
  validateLiteral "schema_version" p.schemaVersion "1.0"
  validateLiteral "kind" p.kind "recon_packet"
  validateIdentifier p.reconPacketId "recon_packet_id"
  validateIdentifier p.probeId "probe_id"
  p.emittedTaskId.forM fun emitted => validateIdentifier emitted "emitted_task_id"
  p.emittedSpecId.forM fun emitted => validateIdentifier emitted "emitted_spec_id"
  requireNonBlank "request_summary" p.requestSummary
  requireNonBlank "interpreted_goal" p.interpretedGoal
  validateLiteral "created_by" p.createdBy "recon"
  requireRequiredList "relevant_paths" p.relevantPaths
  requireRequiredList "semantic_invariants" p.semanticInvariants
  p.relevantPaths.forM ReconPathFinding.validate
  p.relevantTests.forM ReconPathFinding.validate
  p.semanticInvariants.forM (requireNonBlank "semantic_invariants")
  if p.handoffTarget ≠ p.decision.handoffTarget then
    .error (.invalidDocument "handoff_target must match decision")
  else validateEmitted p

end Packet

/-! ## Fields -/

inductive ReconField where
  | reconPacketId | probeId | decision | confidence | riskLevel | requestSummary | interpretedGoal | handoffTarget
  | emittedTaskId | emittedSpecId | createdAt | createdBy | relevantPaths | relevantSymbols | relevantTests
  | semanticInvariants | edgeCasesToPreserve | requiredCommands | focusedChecks | fallbackChecks | openQuestions
  deriving DecidableEq, Repr

namespace ReconField

def all : List ReconField := [
  .reconPacketId, .probeId, .decision, .confidence, .riskLevel, .requestSummary, .interpretedGoal, .handoffTarget,
  .emittedTaskId, .emittedSpecId, .createdAt, .createdBy, .relevantPaths, .relevantSymbols, .relevantTests,
  .semanticInvariants, .edgeCasesToPreserve, .requiredCommands, .focusedChecks, .fallbackChecks, .openQuestions]

def label : ReconField → String
  | .reconPacketId => "Recon-Packet-ID"
  | .probeId => "Probe-ID"
  | .decision => "Decision"
  | .confidence => "Confidence"
  | .riskLevel => "Risk-Level"
  | .requestSummary => "Request-Summary"
  | .interpretedGoal => "Interpreted-Goal"
  | .handoffTarget => "Handoff-Target"
  | .emittedTaskId => "Emitted-Task-ID"
  | .emittedSpecId => "Emitted-Spec-ID"
  | .createdAt => "Created-At"
  | .createdBy => "Created-By"
  | .relevantPaths => "Relevant-Paths"
  | .relevantSymbols => "Relevant-Symbols"
  | .relevantTests => "Relevant-Tests"
  | .semanticInvariants => "Semantic-Invariants"
  | .edgeCasesToPreserve => "Edge-Cases-To-Preserve"
  | .requiredCommands => "Required-Commands"
  | .focusedChecks => "Focused-Checks"
  | .fallbackChecks => "Fallback-Checks"
  | .openQuestions => "Open-Questions"

def fieldName : ReconField → String
  | .reconPacketId => "recon_packet_id"
  | .probeId => "probe_id"
  | .decision => "decision"
  | .confidence => "confidence"
  | .riskLevel => "risk_level"
  | .requestSummary => "request_summary"
  | .interpretedGoal => "interpreted_goal"
  | .handoffTarget => "handoff_target"
  | .emittedTaskId => "emitted_task_id"
  | .emittedSpecId => "emitted_spec_id"
  | .createdAt => "created_at"
  | .createdBy => "created_by"
  | .relevantPaths => "relevant_paths"
  | .relevantSymbols => "relevant_symbols"
  | .relevantTests => "relevant_tests"
  | .semanticInvariants => "semantic_invariants"
  | .edgeCasesToPreserve => "edge_cases_to_preserve"
  | .requiredCommands => "required_commands"
  | .focusedChecks => "focused_checks"
  | .fallbackChecks => "fallback_checks"
  | .openQuestions => "open_questions"

def kind : ReconField → FieldKind
  | .relevantPaths | .relevantSymbols | .relevantTests | .semanticInvariants | .edgeCasesToPreserve
  | .requiredCommands | .focusedChecks | .fallbackChecks | .openQuestions => .list
  | _ => .scalar

end ReconField

structure ParsedReconFields where
  scalars : ReconField → Option String
  lists : ReconField → Option (List String)

namespace ParsedReconFields

def empty : ParsedReconFields := ⟨fun _ => none, fun _ => none⟩

def contains (fields : ParsedReconFields) (f : ReconField) : Bool :=
  (fields.scalars f).isSome || (fields.lists f).isSome

def insertScalar (fields : ParsedReconFields) (f : ReconField) (value : String) : ParsedReconFields :=
  { fields with scalars := fun g => if g = f then some value else fields.scalars g }

def insertList (fields : ParsedReconFields) (f : ReconField) (items : List String) : ParsedReconFields :=
  { fields with lists := fun g => if g = f then some items else fields.lists g }

end ParsedReconFields

/-! ## Reading -/

def fieldSpecByLabel (label : List Char) : Option ReconField := ReconField.all.find? (·.label == String.ofList label)

/-- The items under a list label, with the lines left after them. A blank line ends a list that has items. -/
def collectItems (sourceName label : String) (items : List String) :
    List (List Char) → Except ReconPacketError (List String × List (List Char))
  | [] => .ok (items, [])
  | line :: rest =>
    let nextLine := trim line
    if nextLine = [] then
      if items ≠ [] then .ok (items, rest) else collectItems sourceName label items rest
    else if (parseFieldLine nextLine).isSome then .ok (items, line :: rest)
    else match parseListItem nextLine with
      | none =>
        .error (.invalidDocument ("recon packet " ++ sourceName ++ " has invalid list item under `" ++ label ++ "`"))
      | some item => collectItems sourceName label (items ++ [String.ofList item]) rest

theorem collectItems_suffix {sourceName label : String} {items found : List String} {ls rest : List (List Char)}
    (ok : collectItems sourceName label items ls = .ok (found, rest)) : rest <:+ ls := by
  induction ls generalizing items with
  | nil =>
    simp only [collectItems, Except.ok.injEq, Prod.mk.injEq] at ok
    exact ok.2 ▸ List.suffix_rfl
  | cons line tail ih =>
    simp only [collectItems] at ok
    split at ok
    · split at ok
      · simp only [Except.ok.injEq, Prod.mk.injEq] at ok
        exact ok.2 ▸ List.suffix_cons ..
      · exact (ih ok).trans (List.suffix_cons ..)
    · split at ok
      · simp only [Except.ok.injEq, Prod.mk.injEq] at ok
        exact ok.2 ▸ List.suffix_rfl
      · split at ok
        · cases ok
        · exact (ih ok).trans (List.suffix_cons ..)

/-- The field loop: each turn reads one line, and for a list the items under it. -/
def parseFieldLines (sourceName : String) (ls : List (List Char)) (fields : ParsedReconFields) :
    Except ReconPacketError ParsedReconFields :=
  match ls with
  | [] => .ok fields
  | line :: rest =>
    let stripped := trim line
    if stripped = [] then parseFieldLines sourceName rest fields
    else match parseFieldLine stripped with
      | none => parseFieldLines sourceName rest fields
      | some (label, inlineValue) =>
        match fieldSpecByLabel label with
        | none => parseFieldLines sourceName (skipUnknownFieldBlock rest) fields
        | some f =>
          if fields.contains f then
            .error (.invalidDocument ("recon packet " ++ sourceName ++ " repeats field `" ++ String.ofList label ++ "`"))
          else if f.kind = .scalar then
            if inlineValue = [] then
              .error (.invalidDocument
                ("recon packet " ++ sourceName ++ " has empty scalar `" ++ String.ofList label ++ "`"))
            else parseFieldLines sourceName rest (fields.insertScalar f (String.ofList inlineValue))
          else
            let items := if inlineValue = [] then [] else [String.ofList inlineValue]
            match _collected : collectItems sourceName (String.ofList label) items rest with
            | .error error => .error error
            | .ok (items, remaining) => parseFieldLines sourceName remaining (fields.insertList f items)
termination_by ls.length
decreasing_by
  all_goals simp only [List.length_cons]
  · omega
  · omega
  · have := (skipUnknownFieldBlock_suffix rest).length_le
    omega
  · omega
  · have := (collectItems_suffix _collected).length_le
    omega

def parseMarkdownFields (raw sourceName : String) : Except ReconPacketError ParsedReconFields :=
  match lines raw.toList with
  | [] => .error (.invalidDocument ("recon packet " ++ sourceName ++ " is empty"))
  | first :: rest =>
    match parseH1Title first with
    | none | some [] =>
      .error (.invalidDocument ("recon packet " ++ sourceName ++ " must start with a markdown H1 title"))
    | some _ => parseFieldLines sourceName rest .empty

section Readers
variable (fields : ParsedReconFields)

def optionalScalar (f : ReconField) : Option String := fields.scalars f

def requiredScalar (f : ReconField) : Except ReconPacketError String :=
  match fields.scalars f with
  | some value => .ok value
  | none => .error (.missingRequiredField f.fieldName)

def optionalList (f : ReconField) : List String := (fields.lists f).getD []

def requiredList (f : ReconField) : Except ReconPacketError (List String) :=
  if optionalList fields f = [] then .error (.emptyRequiredList f.fieldName) else .ok (optionalList fields f)

def parsePathFinding (value : String) : Except ReconPacketError ReconPathFinding :=
  match splitOnce '|' value.toList with
  | none => .error (.invalidField "path_finding" value "must use `path | reason`")
  | some (path, reason) => do
    let finding : ReconPathFinding := ⟨String.ofList (trim path), String.ofList (trim reason)⟩
    finding.validate
    return finding

def optionalPathFindings (f : ReconField) : Except ReconPacketError (List ReconPathFinding) :=
  (optionalList fields f).mapM parsePathFinding

def requiredPathFindings (f : ReconField) : Except ReconPacketError (List ReconPathFinding) := do
  let values ← optionalPathFindings fields f
  if values = [] then throw (.emptyRequiredList f.fieldName)
  return values

def requiredEnum (α : Type) [StringEnum α] (f : ReconField) : Except ReconPacketError α := do
  reconFromValue α (← requiredScalar fields f)

def requiredTimestamp [Rfc3339] (f : ReconField) : Except ReconPacketError Timestamp := do
  (Timestamp.parse f.fieldName (← requiredScalar fields f)).mapError fun error =>
    .invalidField f.fieldName error.display "must be an RFC 3339 timestamp"

end Readers

section Codec
variable [Rfc3339]

def packetFromFields (fields : ParsedReconFields) : Except ReconPacketError ReconPacketDocument := do
  let packet : ReconPacketDocument := {
    schemaVersion := "1.0"
    kind := "recon_packet"
    reconPacketId := ← requiredScalar fields .reconPacketId
    probeId := ← requiredScalar fields .probeId
    decision := ← requiredEnum fields ReconDecision .decision
    confidence := ← requiredEnum fields ReconConfidence .confidence
    riskLevel := ← requiredEnum fields ReconRiskLevel .riskLevel
    requestSummary := ← requiredScalar fields .requestSummary
    interpretedGoal := ← requiredScalar fields .interpretedGoal
    relevantPaths := ← requiredPathFindings fields .relevantPaths
    relevantSymbols := optionalList fields .relevantSymbols
    relevantTests := ← optionalPathFindings fields .relevantTests
    semanticInvariants := ← requiredList fields .semanticInvariants
    edgeCasesToPreserve := optionalList fields .edgeCasesToPreserve
    verificationPlan := ⟨optionalList fields .requiredCommands, optionalList fields .focusedChecks,
      optionalList fields .fallbackChecks⟩
    openQuestions := optionalList fields .openQuestions
    handoffTarget := ← requiredEnum fields ReconHandoffTarget .handoffTarget
    emittedTaskId := optionalScalar fields .emittedTaskId
    emittedSpecId := optionalScalar fields .emittedSpecId
    createdAt := ← requiredTimestamp fields .createdAt
    createdBy := (optionalScalar fields .createdBy).getD "recon" }
  packet.validate
  return packet

def parseReconPacketWithSource (raw sourceName : String) : Except ReconPacketError ReconPacketDocument := do
  packetFromFields (← parseMarkdownFields raw sourceName)

/-- Parse one canonical Recon packet markdown artifact. -/
def parseReconPacket (raw : String) : Except ReconPacketError ReconPacketDocument :=
  parseReconPacketWithSource raw "<memory>"

/-! ## Writing -/

/-- What a renderer pushes for one field. -/
inductive Entry where
  | scalar (field : ReconField) (value : String)
  | list (field : ReconField) (items : List String)
  deriving DecidableEq, Repr

namespace Entry

def field : Entry → ReconField
  | .scalar f _ => f
  | .list f _ => f

def lines : Entry → List (List Char)
  | .scalar f value => [f.label.toList ++ ':' :: ' ' :: value.toList]
  | .list f items => [] :: (f.label.toList ++ [':']) :: items.map fun item => '-' :: ' ' :: item.toList

end Entry

def pushScalar (f : ReconField) (value : String) : List Entry := [.scalar f value]

def pushOptionalScalar (f : ReconField) : Option String → List Entry
  | none => []
  | some value => pushScalar f value

def pushList (f : ReconField) (values : List String) : List Entry :=
  if values = [] then [] else [.list f values]

def pushPathFindings (f : ReconField) (values : List ReconPathFinding) : List Entry :=
  pushList f (values.map fun finding => finding.path ++ " | " ++ finding.reason)

def packetEntries (p : ReconPacketDocument) : List Entry := [
  pushScalar .reconPacketId p.reconPacketId,
  pushScalar .probeId p.probeId,
  pushScalar .decision (asStr p.decision),
  pushScalar .confidence (asStr p.confidence),
  pushScalar .riskLevel (asStr p.riskLevel),
  pushScalar .requestSummary p.requestSummary,
  pushScalar .interpretedGoal p.interpretedGoal,
  pushScalar .handoffTarget (asStr p.handoffTarget),
  pushOptionalScalar .emittedTaskId p.emittedTaskId,
  pushOptionalScalar .emittedSpecId p.emittedSpecId,
  pushScalar .createdAt p.createdAt.text,
  pushScalar .createdBy p.createdBy,
  pushPathFindings .relevantPaths p.relevantPaths,
  pushList .relevantSymbols p.relevantSymbols,
  pushPathFindings .relevantTests p.relevantTests,
  pushList .semanticInvariants p.semanticInvariants,
  pushList .edgeCasesToPreserve p.edgeCasesToPreserve,
  pushList .requiredCommands p.verificationPlan.requiredCommands,
  pushList .focusedChecks p.verificationPlan.focusedChecks,
  pushList .fallbackChecks p.verificationPlan.fallbackChecks,
  pushList .openQuestions p.openQuestions].flatten

/-- Render a canonical operator-facing Recon packet. -/
def renderReconPacket (p : ReconPacketDocument) : String :=
  finishLines (headingLines ("Recon Packet " ++ p.reconPacketId) ++ (packetEntries p).flatMap Entry.lines)

end Codec

end Millrace.Recon
