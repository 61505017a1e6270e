import Millrace.Contracts.Enums

/-! The outcomes a stage may report, with the result classes each of them may carry. -/

set_option autoImplicit false

namespace Millrace.Runners
open Millrace.Text Millrace.Contracts

def marker (result : TerminalResult) : String := "### " ++ result.asStr

/-- The value after `### `, if the text starts so. -/
def stripMarker (text : String) : Option String :=
  if "### ".toList.isPrefixOf text.toList then some (String.ofList (text.toList.drop 4)) else none

def executionTerminalResults : List ExecutionTerminalResult :=
  [.builderComplete, .integrationComplete, .checkerPass, .fixNeeded, .fixerComplete, .doublecheckPass,
    .updateComplete, .troubleshootComplete, .consultComplete, .needsPlanning, .blocked]

def planningTerminalResults : List PlanningTerminalResult :=
  [.reconToExecution, .reconToPlanning, .reconBlocked, .reconNoop, .plannerComplete, .managerComplete,
    .managerBlueprintComplete, .blueprintCandidateReady, .blueprintApproved, .blueprintRejected, .mechanicComplete,
    .mechanicBlueprintComplete, .auditorComplete, .arbiterComplete, .remediationNeeded, .blocked]

def learningTerminalResults : List LearningTerminalResult :=
  [.analystComplete, .analystNoop, .professorComplete, .professorNoop, .curatorComplete, .curatorNoop,
    .librarianComplete, .librarianNoop, .blocked]

def terminalResultForPlane (plane : Plane) (token : String) : Option TerminalResult :=
  match plane with
  | .execution => (executionTerminalResults.find? (·.asStr = token)).map .execution
  | .planning => (planningTerminalResults.find? (·.asStr = token)).map .planning
  | .learning => (learningTerminalResults.find? (·.asStr = token)).map .learning

def blockedTerminalForPlane : Plane → TerminalResult
  | .execution => .execution .blocked
  | .planning => .planning .blocked
  | .learning => .learning .blocked

def parseTerminalMarkerForPlane (plane : Plane) (text : String) : Option TerminalResult :=
  match stripMarker text with
  | none => none
  | some token =>
    if token = "" ∨ trim token.toList ≠ token.toList ∨ ' ' ∈ token.toList then none
    else terminalResultForPlane plane token

def successClasses : List ResultClass := [.success]
def noOpClasses : List ResultClass := [.noOp]
def followupClasses : List ResultClass := [.followupNeeded]
def escalatePlanningClasses : List ResultClass := [.escalatePlanning]
def onlyBlockedClasses : List ResultClass := [.blocked]
def blockedClasses : List ResultClass := [.blocked, .recoverableFailure]

def legalTerminalResults : StageName → List TerminalResult
  | .builder => [.execution .builderComplete, .execution .blocked]
  | .integrator => [.execution .integrationComplete, .execution .blocked]
  | .checker => [.execution .checkerPass, .execution .fixNeeded, .execution .blocked]
  | .fixer => [.execution .fixerComplete, .execution .blocked]
  | .doublechecker => [.execution .doublecheckPass, .execution .fixNeeded, .execution .blocked]
  | .updater => [.execution .updateComplete, .execution .blocked]
  | .troubleshooter => [.execution .troubleshootComplete, .execution .blocked]
  | .consultant => [.execution .consultComplete, .execution .needsPlanning, .execution .blocked]
  | .recon => [.planning .reconToExecution, .planning .reconToPlanning, .planning .reconNoop,
      .planning .reconBlocked, .planning .blocked]
  | .planner => [.planning .plannerComplete, .planning .blocked]
  | .manager => [.planning .managerComplete, .planning .blocked]
  | .managerBlueprint => [.planning .managerBlueprintComplete, .planning .blocked]
  | .contractorBlueprint => [.planning .blueprintCandidateReady, .planning .blocked]
  | .evaluatorBlueprint => [.planning .blueprintApproved, .planning .blueprintRejected, .planning .blocked]
  | .mechanic => [.planning .mechanicComplete, .planning .blocked]
  | .mechanicBlueprint => [.planning .mechanicBlueprintComplete, .planning .blocked]
  | .auditor => [.planning .auditorComplete, .planning .blocked]
  | .arbiter => [.planning .arbiterComplete, .planning .remediationNeeded, .planning .blocked]
  | .analyst => [.learning .analystComplete, .learning .analystNoop, .learning .blocked]
  | .professor => [.learning .professorComplete, .learning .professorNoop, .learning .blocked]
  | .curator => [.learning .curatorComplete, .learning .curatorNoop, .learning .blocked]
  | .librarian => [.learning .librarianComplete, .learning .librarianNoop, .learning .blocked]

def allowedResultClassesByOutcome : StageName → List (TerminalResult × List ResultClass)
  | .builder => [(.execution .builderComplete, successClasses), (.execution .blocked, blockedClasses)]
  | .integrator => [(.execution .integrationComplete, successClasses), (.execution .blocked, blockedClasses)]
  | .checker => [(.execution .checkerPass, successClasses), (.execution .fixNeeded, followupClasses),
      (.execution .blocked, blockedClasses)]
  | .fixer => [(.execution .fixerComplete, successClasses), (.execution .blocked, blockedClasses)]
  | .doublechecker => [(.execution .doublecheckPass, successClasses), (.execution .fixNeeded, followupClasses),
      (.execution .blocked, blockedClasses)]
  | .updater => [(.execution .updateComplete, successClasses), (.execution .blocked, blockedClasses)]
  | .troubleshooter => [(.execution .troubleshootComplete, successClasses), (.execution .blocked, blockedClasses)]
  | .consultant => [(.execution .consultComplete, successClasses),
      (.execution .needsPlanning, escalatePlanningClasses), (.execution .blocked, blockedClasses)]
  | .recon => [(.planning .reconToExecution, successClasses), (.planning .reconToPlanning, successClasses),
      (.planning .reconNoop, noOpClasses), (.planning .reconBlocked, onlyBlockedClasses),
      (.planning .blocked, blockedClasses)]
  | .planner => [(.planning .plannerComplete, successClasses), (.planning .blocked, blockedClasses)]
  | .manager => [(.planning .managerComplete, successClasses), (.planning .blocked, blockedClasses)]
  | .managerBlueprint =>
    [(.planning .managerBlueprintComplete, successClasses), (.planning .blocked, blockedClasses)]
  | .contractorBlueprint =>
    [(.planning .blueprintCandidateReady, successClasses), (.planning .blocked, blockedClasses)]
  | .evaluatorBlueprint => [(.planning .blueprintApproved, successClasses),
      (.planning .blueprintRejected, followupClasses), (.planning .blocked, blockedClasses)]
  | .mechanic => [(.planning .mechanicComplete, successClasses), (.planning .blocked, blockedClasses)]
  | .mechanicBlueprint =>
    [(.planning .mechanicBlueprintComplete, successClasses), (.planning .blocked, blockedClasses)]
  | .auditor => [(.planning .auditorComplete, successClasses), (.planning .blocked, blockedClasses)]
  | .arbiter => [(.planning .arbiterComplete, successClasses), (.planning .remediationNeeded, followupClasses),
      (.planning .blocked, blockedClasses)]
  | .analyst => [(.learning .analystComplete, successClasses), (.learning .analystNoop, noOpClasses),
      (.learning .blocked, blockedClasses)]
  | .professor => [(.learning .professorComplete, successClasses), (.learning .professorNoop, noOpClasses),
      (.learning .blocked, blockedClasses)]
  | .curator => [(.learning .curatorComplete, successClasses), (.learning .curatorNoop, noOpClasses),
      (.learning .blocked, blockedClasses)]
  | .librarian => [(.learning .librarianComplete, successClasses), (.learning .librarianNoop, noOpClasses),
      (.learning .blocked, blockedClasses)]

def legalTerminalMarkers (stage : StageName) : List String := (legalTerminalResults stage).map marker

/-- The two tables of a stage list the same outcomes. -/
theorem allowed_outcomes (stage : StageName) :
    (allowedResultClassesByOutcome stage).map (·.1) = legalTerminalResults stage := by
  cases stage <;> rfl

theorem blocked_legal (stage : StageName) : blockedTerminalForPlane stage.plane ∈ legalTerminalResults stage := by
  cases stage <;> decide

theorem legal_of_plane (stage : StageName) : ∀ result ∈ legalTerminalResults stage, result.plane = stage.plane := by
  cases stage <;> decide

theorem stripMarker_marker (result : TerminalResult) : stripMarker (marker result) = some result.asStr := by
  simp [stripMarker, marker, String.toList_append]

theorem terminalResultForPlane_asStr (result : TerminalResult) :
    terminalResultForPlane result.plane result.asStr = some result := by
  cases result with
  | execution result => cases result <;> rfl
  | planning result => cases result <;> rfl
  | learning result => cases result <;> rfl

theorem terminalResultForPlane_eq_some {plane : Plane} {token : String} {result : TerminalResult}
    (found : terminalResultForPlane plane token = some result) : result.plane = plane ∧ result.asStr = token := by
  cases plane with
  | execution =>
    obtain ⟨known, listed, rfl⟩ := Option.map_eq_some_iff.1 found
    exact ⟨rfl, by simpa [TerminalResult.asStr] using List.find?_some listed⟩
  | planning =>
    obtain ⟨known, listed, rfl⟩ := Option.map_eq_some_iff.1 found
    exact ⟨rfl, by simpa [TerminalResult.asStr] using List.find?_some listed⟩
  | learning =>
    obtain ⟨known, listed, rfl⟩ := Option.map_eq_some_iff.1 found
    exact ⟨rfl, by simpa [TerminalResult.asStr] using List.find?_some listed⟩

end Millrace.Runners
