import Millrace.Runtime.Plan

/-! The plan that the shipped standard mode compiles to. -/

set_option autoImplicit false

namespace Millrace.Runtime
open Millrace.Contracts

/-! ## Graphs -/

def standardExecutionEdges : List GraphLoopEdgeDefinition := [
  ⟨"builder", some "checker", none, ["BUILDER_COMPLETE"], 100⟩,
  ⟨"builder", some "troubleshooter", none, ["BLOCKED"], 100⟩,
  ⟨"checker", some "updater", none, ["CHECKER_PASS"], 100⟩,
  ⟨"checker", some "fixer", none, ["FIX_NEEDED"], 100⟩,
  ⟨"checker", some "troubleshooter", none, ["BLOCKED"], 100⟩,
  ⟨"fixer", some "doublechecker", none, ["FIXER_COMPLETE"], 100⟩,
  ⟨"fixer", some "troubleshooter", none, ["BLOCKED"], 100⟩,
  ⟨"doublechecker", some "updater", none, ["DOUBLECHECK_PASS"], 100⟩,
  ⟨"doublechecker", some "fixer", none, ["FIX_NEEDED"], 100⟩,
  ⟨"doublechecker", some "troubleshooter", none, ["BLOCKED"], 100⟩,
  ⟨"updater", none, some "update_complete", ["UPDATE_COMPLETE"], 100⟩,
  ⟨"updater", some "troubleshooter", none, ["BLOCKED"], 100⟩,
  ⟨"troubleshooter", some "builder", none, ["TROUBLESHOOT_COMPLETE"], 100⟩,
  ⟨"troubleshooter", some "troubleshooter", none, ["BLOCKED"], 100⟩,
  ⟨"consultant", some "troubleshooter", none, ["CONSULT_COMPLETE"], 100⟩,
  ⟨"consultant", none, some "needs_planning", ["NEEDS_PLANNING"], 100⟩,
  ⟨"consultant", none, some "blocked", ["BLOCKED"], 100⟩]

def standardExecutionGraph : FrozenGraphPlanePlan where
  plane := .execution
  nodes := [
    ⟨"builder", "builder", []⟩,
    ⟨"checker", "checker", []⟩,
    ⟨"fixer", "fixer", []⟩,
    ⟨"doublechecker", "doublechecker", []⟩,
    ⟨"updater", "updater", [("UPDATE_COMPLETE", "complete_work_item")]⟩,
    ⟨"troubleshooter", "troubleshooter", []⟩,
    ⟨"consultant", "consultant", [("BLOCKED", "block_work_item"), ("NEEDS_PLANNING", "escalate_to_planning")]⟩]
  compiledTransitions := compileGraphTransitions standardExecutionEdges
  compiledResumePolicies := [
    ⟨"troubleshooter", "TROUBLESHOOT_COMPLETE", "builder", ["resume_stage"], ["consultant"]⟩,
    ⟨"consultant", "CONSULT_COMPLETE", "troubleshooter", ["target_stage", "resume_stage"], ["consultant"]⟩]
  compiledThresholdPolicies := [
    ⟨["checker", "doublechecker"], "FIX_NEEDED", .fixCycleCount, 2, some "troubleshooter", none, by decide, by decide⟩,
    ⟨["builder", "checker", "fixer", "doublechecker", "updater", "troubleshooter"], "BLOCKED",
      .troubleshootAttemptCount, 2, some "consultant", none, by decide, by decide⟩]
  terminalStates := [
    ⟨"update_complete", .success⟩,
    ⟨"needs_planning", .escalatePlanning⟩,
    ⟨"blocked", .blocked⟩]
  knownSources := by decide
  knownPolicySources := by decide

def standardPlanningEdges : List GraphLoopEdgeDefinition := [
  ⟨"planner", some "manager", none, ["PLANNER_COMPLETE"], 100⟩,
  ⟨"recon", none, some "recon_to_execution", ["RECON_TO_EXECUTION"], 100⟩,
  ⟨"recon", none, some "recon_to_planning", ["RECON_TO_PLANNING"], 100⟩,
  ⟨"recon", none, some "recon_noop", ["RECON_NOOP"], 100⟩,
  ⟨"recon", none, some "recon_blocked", ["RECON_BLOCKED"], 100⟩,
  ⟨"recon", none, some "recon_blocked", ["BLOCKED"], 100⟩,
  ⟨"planner", some "mechanic", none, ["BLOCKED"], 100⟩,
  ⟨"manager", none, some "manager_complete", ["MANAGER_COMPLETE"], 100⟩,
  ⟨"manager", some "mechanic", none, ["BLOCKED"], 100⟩,
  ⟨"mechanic", some "planner", none, ["MECHANIC_COMPLETE"], 100⟩,
  ⟨"mechanic", some "mechanic", none, ["BLOCKED"], 100⟩,
  ⟨"auditor", some "planner", none, ["AUDITOR_COMPLETE"], 100⟩,
  ⟨"auditor", some "mechanic", none, ["BLOCKED"], 100⟩,
  ⟨"arbiter", none, some "arbiter_complete", ["ARBITER_COMPLETE"], 100⟩,
  ⟨"arbiter", none, some "remediation_needed", ["REMEDIATION_NEEDED"], 100⟩,
  ⟨"arbiter", none, some "blocked", ["BLOCKED"], 100⟩]

def standardPlanningGraph : FrozenGraphPlanePlan where
  plane := .planning
  nodes := [
    ⟨"recon", "recon", [("BLOCKED", "block_work_item"), ("RECON_BLOCKED", "block_work_item"),
      ("RECON_NOOP", "no_op_complete_work_item"), ("RECON_TO_PLANNING", "complete_work_item"),
      ("RECON_TO_EXECUTION", "complete_work_item")]⟩,
    ⟨"planner", "planner", [("PLANNER_COMPLETE", "complete_source_after_effect"),
      ("BLOCKED", "block_source_after_effect")]⟩,
    ⟨"manager", "manager", [("MANAGER_COMPLETE", "complete_work_item")]⟩,
    ⟨"mechanic", "mechanic", []⟩,
    ⟨"auditor", "auditor", []⟩,
    ⟨"arbiter", "arbiter", [("BLOCKED", "block_work_item"), ("REMEDIATION_NEEDED", "requeue_work_item"),
      ("ARBITER_COMPLETE", "complete_work_item")]⟩]
  compiledTransitions := compileGraphTransitions standardPlanningEdges
  compiledResumePolicies := [
    ⟨"mechanic", "MECHANIC_COMPLETE", "planner", ["resume_stage"], ["mechanic"]⟩]
  compiledThresholdPolicies := [
    ⟨["planner", "manager", "auditor", "mechanic"], "BLOCKED", .mechanicAttemptCount, 2, none, some "blocked",
      by decide, by decide⟩]
  terminalStates := [
    ⟨"recon_to_execution", .success⟩,
    ⟨"recon_to_planning", .success⟩,
    ⟨"recon_noop", .noOp⟩,
    ⟨"recon_blocked", .blocked⟩,
    ⟨"manager_complete", .success⟩,
    ⟨"arbiter_complete", .success⟩,
    ⟨"remediation_needed", .followupNeeded⟩,
    ⟨"blocked", .blocked⟩]
  knownSources := by decide
  knownPolicySources := by decide

/-! ## Workflow primitives -/

def defaultTerminalActions : List TerminalActionDefinition := [
  ⟨"complete_work_item", "success", some "complete_work_item", false⟩,
  ⟨"no_op_complete_work_item", "no_op", some "complete_work_item", false⟩,
  ⟨"block_work_item", "blocked", some "block_work_item", false⟩,
  ⟨"requeue_work_item", "followup_needed", some "requeue_work_item", false⟩,
  ⟨"complete_source_after_effect", "success", some "complete_source_after_effect", false⟩,
  ⟨"block_source_after_effect", "blocked", some "block_source_after_effect", false⟩,
  ⟨"complete_spec_source_after_blueprint_effect", "success", some "complete_spec_source_after_blueprint_effect", false⟩,
  ⟨"approve_blueprint_draft_after_effect", "success", some "approve_blueprint_draft_after_effect", false⟩,
  ⟨"closure_pass", "success", some "complete_work_item", false⟩,
  ⟨"closure_gap", "followup_needed", some "complete_work_item", false⟩,
  ⟨"closure_blocked", "blocked", some "block_work_item", false⟩,
  ⟨"escalate_to_planning", "escalate_planning", some "block_work_item", false⟩,
  ⟨"idle_plane", "no_op", none, true⟩]

def defaultLifecycleMutationPlans : List LifecycleMutationPlanDefinition := [
  ⟨"complete_work_item", some "complete"⟩,
  ⟨"block_work_item", some "block"⟩,
  ⟨"requeue_work_item", some "requeue"⟩,
  ⟨"complete_source_after_effect", some "complete"⟩,
  ⟨"block_source_after_effect", some "block"⟩,
  ⟨"complete_spec_source_after_blueprint_effect", some "complete"⟩,
  ⟨"block_spec_source_after_blueprint_effect", some "block"⟩,
  ⟨"complete_incident_source_after_blueprint_effect", some "complete"⟩,
  ⟨"block_incident_source_after_blueprint_effect", some "block"⟩,
  ⟨"approve_blueprint_draft_after_effect", some "complete"⟩,
  ⟨"block_blueprint_draft_after_effect", some "block"⟩]

/-- The effect rules of the planner are the only ones whose nodes the standard graphs have. -/
def standardPrimitives : CompiledWorkflowPrimitiveBundle where
  terminalActions := defaultTerminalActions
  lifecycleMutationPlans := defaultLifecycleMutationPlans
  runtimeEffectRules := [
    ⟨"planner_disposition_on_complete", "planner", ["PLANNER_COMPLETE"], some "complete_source_after_effect"⟩,
    ⟨"planner_disposition_on_blocked", "planner", ["BLOCKED"], some "block_source_after_effect"⟩]

def standardPlan : CompiledRunPlan where
  executionGraph := standardExecutionGraph
  planningGraph := standardPlanningGraph
  learningGraph := none
  workflowPrimitives := standardPrimitives
  mapped := by decide +kernel

end Millrace.Runtime
