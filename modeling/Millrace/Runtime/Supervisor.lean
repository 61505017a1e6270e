import Millrace.Runtime.Dispatch
import Millrace.Runtime.LaneMirror

/-! # The daemon supervisor: worker outcomes between the end of a worker and their application -/

set_option autoImplicit false

namespace Millrace.Runtime

open Millrace.Text Millrace.Contracts Millrace.Action

/-- A finished worker's payload, with the active run it was started for. -/
structure StageWorkerOutcome where
  activeRun : ScheduledRun
deriving DecidableEq, Repr

structure SupervisorState where
  snapshot : LaneSnapshot
  completedWorkers : Plane → Option StageWorkerOutcome

/-- How a worker start ends once the ownership guard has passed. -/
inductive WorkerStart where
  /-- The request cannot be built, or the runner's outcome fails its validation. -/
  | failed
  /-- The capability gate answers in place of the runner. -/
  | gateBlocked
  | finished (runningStatusMarker : String)
deriving DecidableEq, Repr

/-- What the application of a stage result makes of the plane's own run. -/
inductive ResultApplication where
  | failed
  | nextStage (stage : StageName) (nodeId stageKindId now : String)
  | ended (now : String)
  | recovered (result : StageResultEnvelope) (stage : StageName) (nodeId stageKindId now : String)

def markStageRunning (s : LaneSnapshot) (run : ScheduledRun) (plane : Plane) (marker : String) : LaneSnapshot :=
  { s with activeRunsByPlane :=
      Function.update s.activeRunsByPlane plane (some { run with runningStatusMarker := some marker }) }

/-- `start_worker`: no second worker beside a pending outcome, then the guard, the gate and the run itself. -/
def startWorker (plane : Plane) (worker : WorkerStart) (s : SupervisorState) : SupervisorState :=
  if (s.completedWorkers plane).isSome then s
  else if (ownershipViolation s.snapshot plane).isSome then { s with snapshot := resetRuntimeToIdle s.snapshot }
  else match s.snapshot.activeRunsByPlane plane, worker with
    | none, _ => s
    | some _, .failed => s
    | some run, .gateBlocked =>
      { s with completedWorkers := Function.update s.completedWorkers plane (some ⟨run⟩) }
    | some run, .finished marker =>
      { snapshot := markStageRunning s.snapshot run plane marker
        completedWorkers := Function.update s.completedWorkers plane
          (some ⟨{ run with runningStatusMarker := some marker }⟩) }

/-- Why `apply_stage_worker_outcome` refuses an outcome. -/
def workerMismatch (s : LaneSnapshot) (plane : Plane) (outcome : StageWorkerOutcome) : Option String :=
  match s.activeRunsByPlane plane with
  | none => some "stage worker completion has no active run for plane"
  | some run =>
    if run ≠ outcome.activeRun then some "stage worker completion no longer matches active run state" else none

/-- The application touches the plane of the result only. -/
def applyResult (plane : Plane) (s : LaneSnapshot) : ResultApplication → LaneSnapshot
  | .failed => s
  | .nextStage stage nodeId stageKindId now =>
    match setNextStageForPlane plane stage nodeId stageKindId now s with
    | .ok s' => s'
    | .error _ => s
  | .ended now => clearActivePlane plane now s
  | .recovered result stage nodeId stageKindId now =>
    if result.plane = plane then setRecoveryStageForPlane result stage nodeId stageKindId now s else s

/-- `drain_completed` for one plane: the outcome leaves the map before it is applied. -/
def drainPlane (plane : Plane) (application : ResultApplication) (s : SupervisorState) : SupervisorState :=
  match s.completedWorkers plane with
  | none => s
  | some outcome =>
    let s := { s with completedWorkers := Function.update s.completedWorkers plane none }
    match workerMismatch s.snapshot plane outcome with
    | some _ => s
    | none => { s with snapshot := applyResult plane s.snapshot application }

/-- A cycle drains the planes, ingests its inputs, starts a worker for every active plane and claims new work. -/
inductive SupervisorEvent where
  | drain (plane : Plane) (application : ResultApplication)
  /-- Mailbox commands, a reload or the closure stage give the next saved snapshot. -/
  | ingest (next : LaneSnapshot)
  | start (plane : Plane) (worker : WorkerStart)
  | claim (policies : DispatchPolicies) (run : ScheduledRun)

def SupervisorEvent.apply (s : SupervisorState) : SupervisorEvent → SupervisorState
  | .drain plane application => drainPlane plane application s
  | .ingest next =>
    -- Inputs are ingested, and the closure stage is activated, only with no outcome pending.
    if (dispatchOrder.all fun plane => (s.completedWorkers plane).isNone) && next.validate.isOk then
      { s with snapshot := next }
    else s
  | .start plane worker => startWorker plane worker s
  | .claim policies run =>
    if admits policies s.snapshot run.plane then
      match activateRun policies.lanes run s.snapshot with
      | .ok snapshot => { s with snapshot }
      | .error _ => s
    else s

/-- The starts of a cycle, in dispatch order. -/
def dispatchStarts (workers : Plane → WorkerStart) : List SupervisorEvent :=
  dispatchOrder.map fun plane => .start plane (workers plane)

/-! ## Pending outcomes -/

/-- Every pending outcome is that of its plane's active run, so that it is not refused. -/
def SupervisorState.OutcomesHeld (s : SupervisorState) : Prop :=
  ∀ plane outcome, s.completedWorkers plane = some outcome →
    s.snapshot.activeRunsByPlane plane = some outcome.activeRun ∧ workerMismatch s.snapshot plane outcome = none

/-- The start does not run into the ownership guard while another plane's outcome is pending. -/
def SupervisorEvent.Undisturbing (s : SupervisorState) : SupervisorEvent → Prop
  | .start plane _ => s.completedWorkers plane = none → ownershipViolation s.snapshot plane ≠ none →
      ∀ other, s.completedWorkers other = none
  | .drain .. | .ingest .. | .claim .. => True

def SupervisorState.Keyed (s : SupervisorState) : Prop :=
  ∀ plane run, s.snapshot.activeRunsByPlane plane = some run → run.plane = plane

theorem outcomesHeld_iff (s : SupervisorState) : s.OutcomesHeld ↔
    ∀ plane outcome, s.completedWorkers plane = some outcome →
      s.snapshot.activeRunsByPlane plane = some outcome.activeRun := by
  refine forall₃_congr fun plane outcome _ => ⟨And.left, fun active => ⟨active, ?_⟩⟩
  simp [workerMismatch, active]

/-- What the events leave alone: an event that works on one plane keeps the pending outcomes of the others. -/
theorem OutcomesHeld.of_plane {s s' : SupervisorState} (held : s.OutcomesHeld) (plane : Plane)
    (runs : ∀ other, other ≠ plane → s'.snapshot.activeRunsByPlane other = s.snapshot.activeRunsByPlane other)
    (workers : ∀ other, other ≠ plane → s'.completedWorkers other = s.completedWorkers other)
    (here : ∀ outcome, s'.completedWorkers plane = some outcome →
      s'.snapshot.activeRunsByPlane plane = some outcome.activeRun) : s'.OutcomesHeld := by
  rw [outcomesHeld_iff] at held ⊢
  intro other outcome pending
  by_cases same : other = plane
  · subst same
    exact here outcome pending
  · rw [runs other same]
    exact held other outcome (workers other same ▸ pending)

section Events
variable {s : SupervisorState}

theorem setNextStageForPlane_runs {plane : Plane} {stage : StageName} {nodeId stageKindId now : String}
    {x x' : LaneSnapshot} (ok : setNextStageForPlane plane stage nodeId stageKindId now x = .ok x') :
    ∃ run next, x.activeRunsByPlane plane = some run ∧ next.plane = run.plane ∧
      x'.activeRunsByPlane = Function.update x.activeRunsByPlane plane (some next) := by
  unfold setNextStageForPlane at ok
  cases active : x.activeRunsByPlane plane with
  | none => simp [active] at ok
  | some run =>
    simp only [active, saved_eq_ok] at ok
    obtain ⟨-, rfl⟩ := ok
    exact ⟨run, { run with stage, nodeId, stageKindId, activeSince := now, runningStatusMarker := none }, rfl, rfl, rfl⟩

/-- The application changes the run of its own plane, and keeps it on the plane. -/
theorem applyResult_runs (keyed : s.Keyed) (plane : Plane) (application : ResultApplication) :
    ∃ run, (applyResult plane s.snapshot application).activeRunsByPlane =
      Function.update s.snapshot.activeRunsByPlane plane run ∧ ∀ r, run = some r → r.plane = plane := by
  have unchanged : ∃ run, s.snapshot.activeRunsByPlane = Function.update s.snapshot.activeRunsByPlane plane run ∧
      ∀ r, run = some r → r.plane = plane := ⟨_, (Function.update_eq_self _ _).symm, keyed plane⟩
  cases application with
  | failed => exact unchanged
  | nextStage stage nodeId stageKindId now =>
    simp only [applyResult]
    cases next : setNextStageForPlane plane stage nodeId stageKindId now s.snapshot with
    | error e => exact unchanged
    | ok x =>
      obtain ⟨run, new, active, same, runs⟩ := setNextStageForPlane_runs next
      exact ⟨_, runs, fun r is => by rw [← Option.some.inj is, same, keyed plane run active]⟩
  | ended now => exact ⟨none, clearActivePlane_runs plane now s.snapshot, fun _ is => by cases is⟩
  | recovered result stage nodeId stageKindId now =>
    simp only [applyResult]
    split
    next same =>
      have of : ((s.snapshot.activeRunsByPlane result.plane).getD (runOfStageResult result now)).plane = plane := by
        cases active : s.snapshot.activeRunsByPlane result.plane with
        | none => exact same
        | some run => exact (keyed _ _ active).trans same
      let run : ScheduledRun :=
        { (s.snapshot.activeRunsByPlane result.plane).getD (runOfStageResult result now) with
          stage, nodeId, stageKindId, activeSince := now, runningStatusMarker := none }
      refine ⟨some run, ?_, fun r is => ?_⟩
      · simp only [setRecoveryStageForPlane, snapshotWithActiveRun, snapshotWithLaneActiveRun, of, run]
      · rw [← Option.some.inj is]
        exact of
    next => exact unchanged

theorem drainPlane_held (keyed : s.Keyed) (held : s.OutcomesHeld) (plane : Plane) (application : ResultApplication) :
    (drainPlane plane application s).OutcomesHeld := by
  unfold drainPlane
  cases pending : s.completedWorkers plane with
  | none => exact held
  | some outcome =>
    obtain ⟨active, accepted⟩ := held plane outcome pending
    obtain ⟨run, runs, -⟩ := applyResult_runs keyed plane application
    simp only [accepted]
    refine OutcomesHeld.of_plane held plane (fun other apart => ?_) (fun other apart => ?_) (fun _ gone => ?_)
    · rw [runs, Function.update_of_ne apart]
    · exact Function.update_of_ne apart _ _
    · simp at gone

theorem drainPlane_keyed (keyed : s.Keyed) (plane : Plane) (application : ResultApplication) :
    (drainPlane plane application s).Keyed := by
  unfold drainPlane
  split
  next => exact keyed
  next outcome pending =>
    simp only
    split
    next => exact keyed
    next =>
      obtain ⟨run, runs, on⟩ := applyResult_runs keyed plane application
      intro other r active
      simp only [runs] at active
      by_cases here : other = plane
      · subst here
        rw [Function.update_self] at active
        exact on r active
      · rw [Function.update_of_ne here] at active
        exact keyed other r active

theorem ingest_held (held : s.OutcomesHeld) (next : LaneSnapshot) :
    (SupervisorEvent.apply s (.ingest next)).OutcomesHeld := by
  simp only [SupervisorEvent.apply]
  split
  next ready =>
    intro plane outcome pending
    have none := List.all_eq_true.mp (Bool.and_eq_true_iff.mp ready).1 plane (mem_dispatchOrder plane)
    rw [show s.completedWorkers plane = some outcome from pending] at none
    cases none
  next => exact held

theorem ingest_keyed (keyed : s.Keyed) (next : LaneSnapshot) : (SupervisorEvent.apply s (.ingest next)).Keyed := by
  simp only [SupervisorEvent.apply]
  split
  next ready =>
    have valid : next.validate = .ok () := by
      cases checked : next.validate with
      | error e => simp [checked, Except.isOk, Except.toBool] at ready
      | ok => rfl
    exact fun plane run active => plane_of_valid valid active
  next => exact keyed

theorem claim_runs (policies : DispatchPolicies) (run : ScheduledRun) :
    (SupervisorEvent.apply s (.claim policies run)) = s ∨
      ((SupervisorEvent.apply s (.claim policies run)).completedWorkers = s.completedWorkers ∧
        s.snapshot.activeRunsByPlane run.plane = none ∧
        (SupervisorEvent.apply s (.claim policies run)).snapshot.activeRunsByPlane =
          Function.update s.snapshot.activeRunsByPlane run.plane
            (some { run with laneId := laneIdForPlane policies.lanes run.plane })) := by
  simp only [SupervisorEvent.apply]
  split
  next =>
    cases activated : activateRun policies.lanes run s.snapshot with
    | error e => exact .inl rfl
    | ok snapshot =>
      cases idle : s.snapshot.activeRunsByPlane run.plane with
      | none => exact .inr ⟨rfl, rfl, activateRun_runs activated idle⟩
      | some other =>
        rw [activateRun, idle] at activated
        rw [← Except.ok.inj activated]
        exact .inl rfl
  next => exact .inl rfl

theorem claim_held (held : s.OutcomesHeld) (policies : DispatchPolicies) (run : ScheduledRun) :
    (SupervisorEvent.apply s (.claim policies run)).OutcomesHeld := by
  obtain same | ⟨workers, idle, runs⟩ := claim_runs (s := s) policies run
  · rw [same]
    exact held
  · refine OutcomesHeld.of_plane held run.plane (fun other apart => ?_) (fun other _ => ?_) (fun outcome pending => ?_)
    · rw [runs, Function.update_of_ne apart]
    · rw [workers]
    · rw [workers] at pending
      rw [(held run.plane outcome pending).1] at idle
      cases idle

theorem claim_keyed (keyed : s.Keyed) (policies : DispatchPolicies) (run : ScheduledRun) :
    (SupervisorEvent.apply s (.claim policies run)).Keyed := by
  obtain same | ⟨_, _, runs⟩ := claim_runs (s := s) policies run
  · rw [same]
    exact keyed
  · intro other r active
    rw [runs] at active
    by_cases here : other = run.plane
    · subst here
      rw [Function.update_self] at active
      rw [← Option.some.inj active]
    · rw [Function.update_of_ne here] at active
      exact keyed other r active

theorem startWorker_keyed (keyed : s.Keyed) (plane : Plane) (worker : WorkerStart) :
    (startWorker plane worker s).Keyed := by
  unfold startWorker
  split
  next => exact keyed
  next =>
    split
    next => exact fun _ _ active => by cases active
    next =>
      split
      next => exact keyed
      next => exact keyed
      next => exact keyed
      next run marker active =>
        intro other r found
        simp only [markStageRunning] at found
        by_cases here : other = plane
        · subst here
          rw [Function.update_self] at found
          rw [← Option.some.inj found]
          exact keyed other run active
        · rw [Function.update_of_ne here] at found
          exact keyed other r found

/-- A start that passes the guard leaves the other planes alone; one that does not clears them all. -/
theorem startWorker_held_iff (held : s.OutcomesHeld) (plane : Plane) (worker : WorkerStart) :
    (startWorker plane worker s).OutcomesHeld ↔ SupervisorEvent.Undisturbing s (.start plane worker) := by
  unfold startWorker SupervisorEvent.Undisturbing
  cases pending : s.completedWorkers plane with
  | some outcome => exact iff_of_true held (fun idle => absurd (pending.symm.trans idle) nofun)
  | none =>
    cases violated : ownershipViolation s.snapshot plane with
    | some violation =>
      simp only [Option.isSome_none, Option.isSome_some, if_true, Bool.false_eq_true, if_false]
      constructor
      · intro kept _ _ other
        cases waiting : s.completedWorkers other with
        | none => rfl
        | some outcome =>
          have active := (kept other outcome waiting).1
          cases active
      · intro alone other outcome waiting
        rw [alone pending (by simp [violated]) other] at waiting
        cases waiting
    | none =>
      refine iff_of_true ?_ (fun _ violates => absurd violated violates)
      simp only [Option.isSome_none, Bool.false_eq_true, if_false]
      split
      next => exact held
      next => exact held
      next run active =>
        refine OutcomesHeld.of_plane held plane (fun _ _ => rfl) (fun other apart => ?_) (fun outcome done => ?_)
        · exact Function.update_of_ne apart _ _
        · simp only [Function.update_self] at done
          rw [← Option.some.inj done]
          exact active
      next run marker active =>
        refine OutcomesHeld.of_plane held plane (fun other apart => ?_) (fun other apart => ?_) (fun outcome done => ?_)
        · exact Function.update_of_ne apart _ _
        · exact Function.update_of_ne apart _ _
        · simp only [Function.update_self] at done
          rw [← Option.some.inj done]
          exact Function.update_self _ _ _

theorem apply_held_iff (keyed : s.Keyed) (held : s.OutcomesHeld) (event : SupervisorEvent) :
    (event.apply s).OutcomesHeld ↔ event.Undisturbing s := by
  cases event with
  | drain plane application => exact iff_of_true (drainPlane_held keyed held plane application) trivial
  | ingest next => exact iff_of_true (ingest_held held next) trivial
  | start plane worker => exact startWorker_held_iff held plane worker
  | claim policies run => exact iff_of_true (claim_held held policies run) trivial

theorem apply_keyed (keyed : s.Keyed) (event : SupervisorEvent) : (event.apply s).Keyed := by
  cases event with
  | drain plane application => exact drainPlane_keyed keyed plane application
  | ingest next => exact ingest_keyed keyed next
  | start plane worker => exact startWorker_keyed keyed plane worker
  | claim policies run => exact claim_keyed keyed policies run

end Events

/-- From a saved snapshot with no worker pending, the pending outcomes match the active runs throughout a run of the
supervisor exactly when no start runs into the ownership guard while another plane's outcome is pending. -/
theorem outcomes_held_iff (snapshot : LaneSnapshot) (valid : snapshot.validate = .ok ()) (events : List SupervisorEvent) :
    Runs.Throughout SupervisorEvent.apply SupervisorState.OutcomesHeld ⟨snapshot, fun _ => none⟩ events ↔
      Runs.Along SupervisorEvent.apply SupervisorEvent.Undisturbing ⟨snapshot, fun _ => none⟩ events :=
  Runs.throughout_iff_along (fun _ event keyed => apply_keyed keyed event)
    (fun _ event keyed held => apply_held_iff keyed held event) (fun _ _ active => plane_of_valid valid active)
    (fun _ _ pending => by cases pending)

/-! ## A learning run that the guard refuses behind a finished builder -/

/-- Its request kind and its item are those of a task, which no learning stage may work on. -/
def misownedRun : ScheduledRun :=
  { scheduledBuilder with
    plane := .learning, stage := .curator, nodeId := "curator", stageKindId := "curator", runId := "run-2"
    workItemId := some "task-2" }

def builderBesideMisowned : LaneSnapshot :=
  { activeRunsByPlane
      | .execution => some scheduledBuilder
      | .learning => some misownedRun
      | .planning => none
    lanesById := ∅ }

theorem outcomes_held_builder :
    Runs.Throughout SupervisorEvent.apply SupervisorState.OutcomesHeld ⟨builderBesideMisowned, fun _ => none⟩
        [.start .execution (.finished "BUILDER_RUNNING"), .drain .execution (.ended "t")] ↔
      Runs.Along SupervisorEvent.apply SupervisorEvent.Undisturbing ⟨builderBesideMisowned, fun _ => none⟩
        [.start .execution (.finished "BUILDER_RUNNING"), .drain .execution (.ended "t")] :=
  outcomes_held_iff builderBesideMisowned (by decide) _

/-- The starts of one cycle: the builder finishes, the guard stops the learning run and clears the builder's run too. -/
theorem builder_outcome_refused :
    builderBesideMisowned.validate = .ok () ∧
      ¬ Runs.Throughout SupervisorEvent.apply SupervisorState.OutcomesHeld ⟨builderBesideMisowned, fun _ => none⟩
        (dispatchStarts fun _ => .finished "RUNNING") := by
  refine ⟨by decide, fun throughout => ?_⟩
  have pending : (Runs.after SupervisorEvent.apply ⟨builderBesideMisowned, fun _ => none⟩
      (dispatchStarts fun _ => .finished "RUNNING")).completedWorkers .execution =
        some ⟨{ scheduledBuilder with runningStatusMarker := some "RUNNING" }⟩ := by decide
  have refused := (throughout.last .execution _ pending).2
  revert refused
  decide

end Millrace.Runtime
