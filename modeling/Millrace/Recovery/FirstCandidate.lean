import Millrace.Recovery.StrandedTasks
import Millrace.Returns

/-! An idle daemon looks at one stranded task only: when this finds every task that may be retried. -/

set_option autoImplicit false

namespace Millrace.Recovery
open Millrace.Text Millrace.Contracts Millrace.WorkDocuments Millrace.Action Millrace.Queue
open Millrace.Blueprints (RuntimeJsonError validateLiteral validateId requireNonBlank)

/-! ## Checks -/

theorem requireNonBlank_eq_ok {fieldName value : String} :
    requireNonBlank fieldName value = .ok () ↔ isBlank value = false := by
  unfold requireNonBlank isBlank
  by_cases blank : trim value.toList = [] <;> simp [blank]

theorem requireOptionalNonBlank_eq_ok {fieldName : String} {value : Option String} :
    requireOptionalNonBlank fieldName value = .ok () ↔ ∀ text, value = some text → isBlank text = false := by
  unfold requireOptionalNonBlank
  rw [optionForM_eq_ok]
  simp only [requireNonBlank_eq_ok]

theorem validateId_eq_ok {fieldName value : String} : validateId fieldName value = .ok () ↔ SafeIdentifier value :=
  mapError_eq_ok.trans (validateSafeIdentifier_iff value fieldName)

theorem validateLiteral_eq_ok {fieldName actual expected : String} :
    validateLiteral fieldName actual expected = .ok () ↔ actual = expected := by
  unfold validateLiteral
  by_cases same : actual = expected <;> simp [same]

theorem isBlank_append (a : String) {b : String} (solid : isBlank b = false) : isBlank (a ++ b) = false := by
  simp only [isBlank, beq_eq_false_iff_ne, ne_eq, trim_eq_nil_iff, not_forall] at solid ⊢
  obtain ⟨c, member, shown⟩ := solid
  exact ⟨c, by simp [member], shown⟩

theorem validateDependents_eq_ok (ids : List String) : ∀ seen : List String, validateDependents seen ids = .ok () ↔
    (∀ id ∈ ids, SafeIdentifier id) ∧ ids.Nodup ∧ ∀ id ∈ ids, id ∉ seen := by
  induction ids with
  | nil => simp [validateDependents]
  | cons id rest ih =>
    intro seen
    unfold validateDependents
    rw [bind_unit_eq_ok, validateId_eq_ok]
    by_cases before : id ∈ seen
    · rw [if_pos before]
      apply iff_of_false
      · rintro ⟨-, impossible⟩
        cases impossible
      · exact fun ⟨_, _, apart⟩ => apart id List.mem_cons_self before
    · rw [if_neg before, ih, List.forall_mem_cons, List.forall_mem_cons, List.nodup_cons]
      simp only [List.mem_cons, not_or, before, not_false_eq_true, true_and]
      constructor
      · rintro ⟨safe, others, nodup, apart⟩
        exact ⟨⟨safe, others⟩, ⟨fun again => (apart id again).1 rfl, nodup⟩, fun other member => (apart other member).2⟩
      · rintro ⟨⟨safe, others⟩, ⟨once, nodup⟩, apart⟩
        exact ⟨safe, others, nodup, fun other member => ⟨fun same => once (same ▸ member), apart other member⟩⟩

theorem BlockedTaskRequeueResult.valid {result : BlockedTaskRequeueResult} (task : SafeIdentifier result.taskId)
    (source : isBlank result.sourcePath = false) (destination : isBlank result.destinationPath = false)
    (sourceState : result.sourceState = "blocked") (destinationState : result.destinationState = "queue")
    (actor : isBlank result.actor = false) (reason : isBlank result.reason = false)
    (failureClass : ∀ text, result.failureClass = some text → isBlank text = false)
    (diagnosticsPath : ∀ text, result.diagnosticsPath = some text → isBlank text = false)
    (attempt : result.attemptNumber ≠ 0) : result.validateContract = .ok () := by
  unfold BlockedTaskRequeueResult.validateContract
  simp only [validateId_eq_ok.mpr task, requireNonBlank_eq_ok.mpr source, requireNonBlank_eq_ok.mpr destination,
    validateLiteral_eq_ok.mpr sourceState, validateLiteral_eq_ok.mpr destinationState, requireNonBlank_eq_ok.mpr actor,
    requireNonBlank_eq_ok.mpr reason, requireOptionalNonBlank_eq_ok.mpr failureClass,
    requireOptionalNonBlank_eq_ok.mpr diagnosticsPath, ok_bind, if_neg attempt]
  rfl

section
variable [Rfc3339]

/-- What the contract of a stranded task asks for besides the id of the task. -/
structure StrandedBlockedDependency.Described (dependency : StrandedBlockedDependency) : Prop where
  waiting : dependency.queuedDependentIds ≠ []
  dependents : ∀ id ∈ dependency.queuedDependentIds, SafeIdentifier id
  distinct : dependency.queuedDependentIds.Nodup
  root : ∀ root, dependency.rootSpecId = some root → isBlank root = false
  metadata : ∀ metadata, dependency.metadata = some metadata → metadata.validateContract = .ok ()

theorem StrandedBlockedDependency.Described.validateContract {dependency : StrandedBlockedDependency}
    (described : dependency.Described) :
    dependency.validateContract = .ok () ↔ SafeIdentifier dependency.blockedTaskId := by
  unfold StrandedBlockedDependency.validateContract
  rw [bind_unit_eq_ok, validateId_eq_ok]
  have dependents := (validateDependents_eq_ok dependency.queuedDependentIds []).mpr
    ⟨described.dependents, described.distinct, fun _ _ => List.not_mem_nil⟩
  have root : requireOptionalNonBlank "root_spec_id" dependency.rootSpecId = .ok () :=
    requireOptionalNonBlank_eq_ok.mpr described.root
  have metadata := optionForM_eq_ok.mpr described.metadata
  simp [described.waiting, dependents, root, metadata]

theorem diagnostic_valid {dependency : StrandedBlockedDependency} (described : dependency.Described)
    (safe : SafeIdentifier dependency.blockedTaskId) (now : Timestamp) {decision reason : String} {attempt : Nat}
    {snapshot : RecoverySnapshot} (decided : isBlank decision = false) (given : isBlank reason = false)
    (counted : attempt ≠ 0) (idle : snapshot.activeRunsByPlane = []) :
    (autoRecoveryDiagnostic snapshot now dependency decision reason attempt).validateContract = .ok () := by
  unfold BlockedDependencyAutoRecoveryDiagnostic.validateContract autoRecoveryDiagnostic
  have dependents := (validateDependents_eq_ok dependency.queuedDependentIds []).mpr
    ⟨described.dependents, described.distinct, fun _ _ => List.not_mem_nil⟩
  have root : requireOptionalNonBlank "root_spec_id" dependency.rootSpecId = .ok () :=
    requireOptionalNonBlank_eq_ok.mpr described.root
  have metadata := optionForM_eq_ok.mpr described.metadata
  simp only [validateLiteral_eq_ok.mpr, requireNonBlank_eq_ok.mpr decided, requireNonBlank_eq_ok.mpr given,
    validateId_eq_ok.mpr safe, List.isEmpty_iff, described.waiting, dependents, root, counted, metadata, idle, ok_bind,
    if_false, List.map_nil]
  rfl

/-! ## What the operations return -/

section Store
variable {env : Environment} {t : World}

theorem returns_fileOperation {relative : String} {Q : Unit → World → Prop} :
    Returns t (fileOperation env relative) Q ↔ Passes env t 0 ∧ Q () t.tick := by
  have ran := fileOperation_run env t relative
  show _ ↔ (env.reading t.step).fault = none ∧ _
  cases fault : (env.reading t.step).fault with
  | none =>
    rw [fault] at ran
    rw [returns_of_ok ran]
    simp
  | some message =>
    rw [fault] at ran
    rw [returns_of_error ran]
    simp

theorem returns_reading {Q : Reading → World → Prop} : Returns t (reading env) Q ↔ Q (env.reading t.step) t.tick :=
  returns_of_ok rfl

theorem returns_currentTimestamp {Q : Timestamp → World → Prop} :
    Returns t (currentTimestamp env) Q ↔ Q (env.reading t.step).now t.tick := returns_of_ok rfl

theorem returns_listMarkdownFiles {d : Directory} {Q : List DocumentPath → World → Prop} :
    Returns t (listMarkdownFiles env d) Q ↔ Passes env t 0 ∧ Q (t.workspace.markdownFiles d) t.tick := by
  unfold listMarkdownFiles
  rw [returns_bind, returns_fileOperation]
  exact and_congr_right fun _ => returns_of_ok rfl

theorem returns_appendLine {relative : String} {line : LogLine} {Q : Unit → World → Prop} :
    Returns t (appendLine env relative line) Q ↔
      Passes env t 0 ∧ Q () ⟨{ t.workspace with log := t.workspace.log ++ [(relative, line)] }, t.step + 1⟩ := by
  unfold appendLine
  rw [returns_bind, returns_fileOperation]
  exact and_congr_right fun _ => returns_of_ok rfl

theorem returns_moveItemFromState {kind : WorkItemKind} {source destination : ItemState} {itemId sourceState raw : String}
    {Q : DocumentPath → World → Prop} (there : t.workspace.file (itemPath kind source itemId) = some raw)
    (free : t.workspace.file (itemPath kind destination itemId) = none) :
    Returns t (moveItemFromState env kind source destination itemId sourceState) Q ↔
      Passes env t 0 ∧ Passes env t 1 ∧ Q (itemPath kind destination itemId)
        ⟨(t.workspace.erase (itemPath kind source itemId)).insert (itemPath kind destination itemId) raw, t.step + 2⟩ := by
  have ran := moveItemFromState_run env t kind source destination itemId sourceState
  simp only [there, free, Option.isSome_none, Bool.false_eq_true, if_false] at ran
  show _ ↔ (env.reading t.step).fault = none ∧ (env.reading (t.step + 1)).fault = none ∧ _
  cases first : (env.reading t.step).fault with
  | some message =>
    rw [first] at ran
    rw [returns_of_error ran]
    simp
  | none =>
    cases second : (env.reading (t.step + 1)).fault with
    | some message =>
      rw [first, second] at ran
      rw [returns_of_error ran]
      simp
    | none =>
      rw [first, second] at ran
      rw [returns_of_ok ran]
      simp

end Store

section Runs
variable {env : Environment} {s : RecoveryWorld} {α : Type}

theorem returns_onQueues {x : StoreM α} {Q : α → RecoveryWorld → Prop} :
    Returns s (onQueues x) Q ↔ Returns s.queue x fun a queue => Q a { s with queue := queue } := returns_onPart

/-- The same world so many operations later. -/
def RecoveryWorld.advance (s : RecoveryWorld) (n : Nat) : RecoveryWorld :=
  { s with queue := ⟨s.queue.workspace, s.queue.step + n⟩ }

@[simp] theorem advance_workspace (n : Nat) : (s.advance n).workspace = s.workspace := rfl

@[simp] theorem advance_step (n : Nat) : (s.advance n).queue.step = s.queue.step + n := rfl

@[simp] theorem advance_metadata (n : Nat) : (s.advance n).metadata = s.metadata := rfl

@[simp] theorem advance_snapshot (n : Nat) : (s.advance n).snapshot = s.snapshot := rfl

/-- The attempts that the log tells of when it is read at this step. -/
def counted (env : Environment) (s : RecoveryWorld) (taskId : String) : Nat :=
  if (env.reading s.queue.step).fault = none then autoRequeues s.workspace taskId else 0

theorem counted_le (taskId : String) : counted env s taskId ≤ autoRequeues s.workspace taskId := by
  unfold counted
  split <;> omega

theorem returns_countAutoRequeues {taskId : String} {Q : Nat → RecoveryWorld → Prop} :
    Returns s (countAutoRequeues env taskId) Q ↔ Q (counted env s taskId) (s.advance 1) := by
  unfold countAutoRequeues counted
  rw [returns_bind, returns_onQueues, returns_reading]
  cases (env.reading s.queue.step).fault with
  | none =>
    rw [if_pos rfl]
    exact returns_of_ok rfl
  | some message =>
    rw [if_neg (by simp)]
    exact returns_pure

theorem returns_requireContract {checked : Except RuntimeJsonError Unit} {Q : Unit → RecoveryWorld → Prop} :
    Returns s (requireContract checked) Q ↔ checked = .ok () ∧ Q () s := by
  cases checked with
  | ok _ => exact (returns_of_ok rfl).trans (by simp)
  | error error => exact (returns_of_error rfl).trans (by simp)

theorem returns_refuse {condition : Prop} [Decidable condition] {message : String} {Q : Unit → RecoveryWorld → Prop} :
    Returns s (refuse condition message) Q ↔ ¬condition ∧ Q () s := by
  unfold refuse
  rw [returns_ite, returns_throw, returns_pure]
  by_cases holds : condition <;> simp [holds]

theorem returns_writeRuntimeEvent {event : RecoveryEvent} {Q : Unit → RecoveryWorld → Prop} :
    Returns s (writeRuntimeEvent env event) Q ↔ Passes env s.queue 0 ∧ Passes env s.queue 1 ∧
      Q () { s.advance 2 with events := s.events ++ [event] } := by
  unfold writeRuntimeEvent
  simp only [returns_bind, returns_onQueues, returns_fileOperation, returns_modify]
  rfl

/-- The world after the depths on disk were brought up to date where this was possible. -/
def refreshedOnDisk (env : Environment) (s : RecoveryWorld) : RecoveryWorld :=
  { s.advance 1 with
    saved := if (env.reading s.queue.step).fault = none then s.saved.map fun saved => saved.refreshed s.workspace
      else s.saved }

theorem returns_refreshSnapshotQueueDepths {Q : Unit → RecoveryWorld → Prop} :
    Returns s (refreshSnapshotQueueDepths env) Q ↔ Q () (refreshedOnDisk env s) := by
  unfold refreshSnapshotQueueDepths refreshedOnDisk
  rw [returns_bind, returns_onQueues, returns_reading]
  cases (env.reading s.queue.step).fault with
  | none =>
    show Returns _ (modify _) _ ↔ _
    rw [returns_modify]
    rfl
  | some message => exact returns_pure

/-- The task lies in its queue and nowhere else has anything changed. -/
def MovedBack (w v : Workspace) (taskId : String) : Prop :=
  ∃ raw, w.file (taskPath .blocked taskId) = some raw ∧ ∀ path, v.file path =
    if path = taskPath .queue taskId then some raw else if path = taskPath .blocked taskId then none else w.file path

/-- The world after a requeue. -/
def requeued (s : RecoveryWorld) (taskId raw : String) (line : LogLine) : RecoveryWorld :=
  let w := (s.workspace.erase (taskPath .blocked taskId)).insert (taskPath .queue taskId) raw
  { s with queue := ⟨{ w with log := w.log ++ [(requeueLogOf taskId, line)] }, s.queue.step + 5⟩ }

theorem movedBack_requeued {taskId raw : String} {line : LogLine}
    (blocked : s.workspace.file (taskPath .blocked taskId) = some raw) :
    MovedBack s.workspace (requeued s taskId raw line).workspace taskId := by
  refine ⟨raw, blocked, fun path => ?_⟩
  show ((s.workspace.erase _).insert _ raw).file path = _
  rw [Workspace.file_insert, Workspace.file_erase]

/-- Where the store cannot write, or the document cannot move. -/
theorem returns_requeueTask {taskId reason actor : String} {auto : Bool} {failureClass : Option String} {attempt : Nat}
    {raw : String} {Q : Unit → RecoveryWorld → Prop} (blocked : s.workspace.file (taskPath .blocked taskId) = some raw)
    (free : s.workspace.file (taskPath .queue taskId) = none) (safe : SafeIdentifier taskId)
    (given : AuditFieldsGiven reason actor (some attempt)) :
    Returns s (requeueTask env taskId reason actor auto failureClass attempt) Q ↔
      Passes env s.queue 0 ∧ Passes env s.queue 1 ∧ Passes env s.queue 2 ∧ Passes env s.queue 4 ∧
        Q () (requeued s taskId raw (.blockedRequeue (env.reading (s.queue.step + 3)).now (trimmed actor) auto
          (trimmed reason) ((failureClass.filter fun value => !isBlank value).map trimmed) (some attempt))) := by
  unfold requeueTask
  have blocked' : s.queue.workspace.file (itemPath .task .blocked taskId) = some raw := blocked
  rw [dif_pos safe, returns_bind]
  simp only [returns_pure]
  unfold requeueBlockedTask appendBlockedRequeueAudit createDirAll
  simp only [returns_onQueues, returns_bind, returns_of_ok (validateBlockedRequeueAudit_run given _),
    returns_moveItemFromState blocked' free, returns_fileOperation, returns_currentTimestamp, returns_appendLine,
    returns_pure]
  rfl

/-! ## The requeue of the candidate -/

theorem isBlank_path (path : DocumentPath) : isBlank (absolute env path.relative) = false := by
  unfold absolute DocumentPath.relative
  exact isBlank_append _ (isBlank_append _ (by decide))

variable {metadata : BlockedItemMetadata}

theorem loaded_valid {taskId : String} (loaded : loadBlockedTaskMetadata s taskId = some metadata) :
    metadata.validateContract = .ok () := by
  have valid := (Option.filter_eq_some_iff.mp loaded).2
  cases checked : metadata.validateContract with
  | ok _ => rfl
  | error error => simp [checked, Except.isOk, Except.toBool] at valid

theorem failureClass_given (valid : metadata.validateContract = .ok ()) : isBlank metadata.failureClass = false := by
  unfold BlockedItemMetadata.validateContract at valid
  obtain ⟨-, rest⟩ := bind_unit_eq_ok.mp valid
  exact requireNonBlank_eq_ok.mp (bind_unit_eq_ok.mp rest).1

/-- The retry that the daemon asks for. -/
def autoRequest (taskId : String) (rootSpecId : Option String) (diagnosticsPath : String) (limit : Nat) :
    RetryBlockedTaskRequest where
  taskId := taskId
  reason := autoRecoveryReason
  actor := autoRecoveryActor
  auto := true
  force := false
  rootSpecId := rootSpecId
  diagnosticsPath := some diagnosticsPath
  maxAutoRequeuesPerWorkItem := some limit

/-- No task of this id lies in the queue, runs, or is done. -/
structure OnlyBlocked (w : Workspace) (taskId : String) : Prop where
  queued : w.file (taskPath .queue taskId) = none
  active : w.file (taskPath .active taskId) = none
  done : w.file (taskPath .done taskId) = none

theorem returns_validateBlockedTaskLocations {taskId raw : String} {Q : Unit → RecoveryWorld → Prop}
    (blocked : s.workspace.file (taskPath .blocked taskId) = some raw) :
    Returns s (validateBlockedTaskLocations taskId) Q ↔ OnlyBlocked s.workspace taskId ∧ Q () s := by
  unfold validateBlockedTaskLocations
  simp only [returns_bind, returns_get, returns_refuse, blocked, Option.isNone_some, Bool.false_eq_true,
    not_false_eq_true, true_and, Option.not_isSome_iff_eq_none]
  constructor
  · exact fun ⟨queued, active, done, rest⟩ => ⟨⟨queued, active, done⟩, rest⟩
  · exact fun ⟨⟨queued, active, done⟩, rest⟩ => ⟨queued, active, done, rest⟩

/-- The file operations of an automatic retry, all of which must go through. -/
def retryOperations : List Nat := [1, 2, 3, 5, 7, 8]

theorem returns_retryBlockedTask {taskId moving diagnosticsPath : String} {limit : Nat} {task : TaskDocument}
    {P : Nat → Prop} (read : readTaskDocument env s.workspace (taskPath .blocked taskId) = .ok task)
    (loaded : loadBlockedTaskMetadata s taskId = some metadata) (allows : metadata.allowsAutoRequeue = true)
    (safe : SafeIdentifier taskId) (shown : isBlank diagnosticsPath = false) :
    Returns s (retryBlockedTask env (autoRequest taskId (effectiveRootSpecTask task) diagnosticsPath limit))
        (fun result t => result.taskId = moving ∧ MovedBack s.workspace t.workspace moving ∧ P t.queue.step) ↔
      OnlyBlocked s.workspace taskId ∧ counted env s taskId < limit ∧ taskId = moving ∧
        (∀ n ∈ retryOperations, Passes env s.queue n) ∧ P (s.queue.step + 9) := by
  obtain ⟨raw, blocked⟩ : ∃ raw, s.workspace.file (taskPath .blocked taskId) = some raw := by
    unfold readTaskDocument at read
    cases file : s.workspace.file (taskPath .blocked taskId) with
    | none =>
      rw [file] at read
      cases read
    | some raw => exact ⟨raw, rfl⟩
  unfold retryBlockedTask autoRequest
  rw [returns_bind, returns_refuse]
  dsimp only
  rw [returns_bind, returns_validateBlockedTaskLocations blocked, returns_bind, returns_get, read]
  dsimp only
  simp only [returns_bind, returns_refuse, returns_get, loaded, returns_countAutoRequeues]
  have passed : (some metadata).any BlockedItemMetadata.allowsAutoRequeue = true := allows
  have reason : isBlank (trimmed autoRecoveryReason) = false := by decide
  have actor : isBlank (trimmed autoRecoveryActor) = false := by decide
  simp only [show isBlank autoRecoveryReason = false by decide, passed, Option.getD_some, ne_eq, not_true_eq_false,
    and_false, not_false_eq_true, true_and, Bool.false_eq_true, ge_iff_le, not_le]
  refine and_congr_right fun only => and_congr_right fun within => ?_
  rw [returns_requeueTask (s := s.advance 1) blocked only.queued safe ⟨reason, by decide, by simp⟩,
    returns_refreshSnapshotQueueDepths, returns_requireContract, returns_writeRuntimeEvent, returns_pure]
  have valid : BlockedTaskRequeueResult.validateContract
      ⟨taskId, absolute env (taskPath .blocked taskId).relative, absolute env (taskPath .queue taskId).relative, "blocked",
        "queue", trimmed autoRecoveryActor, true, trimmed autoRecoveryReason, some metadata.failureClass,
        counted env s taskId + 1, some diagnosticsPath⟩ = .ok () := by
    refine BlockedTaskRequeueResult.valid safe (isBlank_path _) (isBlank_path _) rfl rfl actor reason ?_ ?_
      (Nat.succ_ne_zero _)
    · rintro _ ⟨⟩
      exact failureClass_given (loaded_valid loaded)
    · rintro _ ⟨⟩
      exact shown
  have moved {line : LogLine} : MovedBack s.workspace (requeued (s.advance 1) taskId raw line).workspace taskId :=
    movedBack_requeued (s := s.advance 1) blocked
  have later (n : Nat) (line : LogLine) : Passes env (refreshedOnDisk env (requeued (s.advance 1) taskId raw line)).queue n ↔
      Passes env s.queue (n + 7) := by
    show (env.reading (s.queue.step + 1 + 5 + 1 + n)).fault = none ↔ (env.reading (s.queue.step + (n + 7))).fault = none
    rw [show s.queue.step + 1 + 5 + 1 + n = s.queue.step + (n + 7) by omega]
  have sooner (n : Nat) : Passes env (s.advance 1).queue n ↔ Passes env s.queue (n + 1) := by
    show (env.reading (s.queue.step + 1 + n)).fault = none ↔ (env.reading (s.queue.step + (n + 1))).fault = none
    rw [show s.queue.step + 1 + n = s.queue.step + (n + 1) by omega]
  simp only [retryOperations, List.forall_mem_cons, later, sooner]
  constructor
  · rintro ⟨first, second, third, fourth, -, fifth, sixth, same, -, holds⟩
    exact ⟨same, ⟨first, second, third, fourth, fifth, sixth, nofun⟩, holds⟩
  · rintro ⟨rfl, ⟨first, second, third, fourth, fifth, sixth, -⟩, holds⟩
    exact ⟨first, second, third, fourth, valid, fifth, sixth, rfl, moved, holds⟩

/-- The world after a diagnostic is written. -/
def diagnosed (env : Environment) (s : RecoveryWorld) (now : Timestamp) (dependency : StrandedBlockedDependency)
    (decision reason : String) (attempt : Nat) : RecoveryWorld :=
  { s.advance 1 with
    diagnostics := s.diagnostics ++ [(autoRecoveryDiagnosticsPath env now dependency.blockedTaskId,
      autoRecoveryDiagnostic s.snapshot now dependency decision reason attempt)] }

theorem returns_writeAutoRecoveryDiagnostics {dependency : StrandedBlockedDependency} (described : dependency.Described)
    (safe : SafeIdentifier dependency.blockedTaskId) (idle : s.snapshot.activeRunsByPlane = []) {now : Timestamp}
    {decision reason : String} {attempt : Nat} (decided : isBlank decision = false) (given : isBlank reason = false)
    (counted : attempt ≠ 0) {Q : String → RecoveryWorld → Prop} :
    Returns s (writeAutoRecoveryDiagnostics env now dependency decision reason attempt) Q ↔ Passes env s.queue 0 ∧
      Q (autoRecoveryDiagnosticsPath env now dependency.blockedTaskId)
        (diagnosed env s now dependency decision reason attempt) := by
  have valid := diagnostic_valid described safe now decided given counted idle
  unfold writeAutoRecoveryDiagnostics
  simp only [returns_bind, returns_get, returns_requireContract, valid, true_and, returns_onQueues, returns_fileOperation,
    returns_modify, returns_pure]
  rfl

theorem isBlank_diagnosticsPath (now : Timestamp) (taskId : String) :
    isBlank (autoRecoveryDiagnosticsPath env now taskId) = false := by
  unfold autoRecoveryDiagnosticsPath absolute
  exact isBlank_append _ (isBlank_append _ (by decide))

/-- A skip hands no task back. -/
theorem returns_skip {now : Timestamp} {dependency : StrandedBlockedDependency} {reason : String} {attempt : Nat}
    {Q : BlockedTaskRequeueResult → RecoveryWorld → Prop} :
    ¬ Returns s (do
        writeAutoRecoverySkip env now dependency reason attempt
        return none : RecoveryM (Option BlockedTaskRequeueResult)) fun found t => ∃ result, found = some result ∧ Q result t := by
  rw [returns_bind]
  rintro ⟨_, t, -, skipped⟩
  obtain ⟨_, ⟨⟩, _⟩ := returns_pure.mp skipped

/-- The snapshot and the event after a retry, whose three file operations must go through. -/
theorem returns_report {result : BlockedTaskRequeueResult} {event : RecoveryEvent} {moving : String} {w : Workspace} :
    Returns s (do
        refreshSnapshotQueueDepthsInPlace env
        writeRuntimeEvent env event
        return some result : RecoveryM (Option BlockedTaskRequeueResult))
        (fun found t => ∃ result, found = some result ∧ result.taskId = moving ∧ MovedBack w t.workspace moving) ↔
      result.taskId = moving ∧ MovedBack w s.workspace moving ∧
        (fun step => ∀ n ∈ [0, 1, 2], (env.reading (step + n)).fault = none) s.queue.step := by
  unfold refreshSnapshotQueueDepthsInPlace
  simp only [returns_bind, returns_modify, returns_onQueues, returns_fileOperation, returns_writeRuntimeEvent, returns_pure,
    List.forall_mem_cons]
  constructor
  · rintro ⟨first, second, third, _, ⟨⟩, named, moved⟩
    exact ⟨named, moved, first, second, third, nofun⟩
  · rintro ⟨named, moved, first, second, third, -⟩
    exact ⟨first, second, third, _, rfl, named, moved⟩

/-- The file operations of a cycle after the candidate is found, all of which must go through. -/
def recoverOperations : List Nat := [1, 3, 4, 5, 7, 9, 10, 11, 12, 13]

theorem returns_recoverCandidate {config : AutoRecoveryConfig} {now : Timestamp} {candidate : AutoRecoveryCandidate}
    {moving : String} {task : TaskDocument} (compatible : candidate.lineageCompatible = true)
    (described : candidate.dependency.Described) (safe : SafeIdentifier candidate.dependency.blockedTaskId)
    (idle : s.snapshot.activeRunsByPlane = [])
    (read : readTaskDocument env s.workspace (taskPath .blocked candidate.dependency.blockedTaskId) = .ok task)
    (rooted : candidate.blockedRootSpecId = effectiveRootSpecTask task)
    (loads : candidate.dependency.metadata = loadBlockedTaskMetadata s candidate.dependency.blockedTaskId) :
    Returns s (recoverCandidate env config now candidate)
        (fun found t => ∃ result, found = some result ∧ result.taskId = moving ∧ MovedBack s.workspace t.workspace moving) ↔
      candidate.dependency.blockedTaskId = moving ∧ ∃ metadata, loadBlockedTaskMetadata s moving = some metadata ∧
        metadata.allowsAutoRequeue = true ∧ counted env s moving < config.maxAutoRequeuesPerWorkItem ∧
        autoRecoveryCooldownActive config metadata (counted env s moving) now = false ∧
        counted env (s.advance 2) moving < config.maxAutoRequeuesPerWorkItem ∧ OnlyBlocked s.workspace moving ∧
        ∀ n ∈ recoverOperations, Passes env s.queue n := by
  unfold recoverCandidate
  simp only [compatible, not_true_eq_false, if_false]
  cases given : candidate.dependency.metadata with
  | none =>
    apply iff_of_false returns_skip
    rintro ⟨rfl, metadata, loaded, -⟩
    rw [← loads, given] at loaded
    cases loaded
  | some metadata =>
    have loaded := loads.symm.trans given
    have unique {metadata' : BlockedItemMetadata} (same : candidate.dependency.blockedTaskId = moving)
        (loaded' : loadBlockedTaskMetadata s moving = some metadata') : metadata' = metadata := by
      rw [← same, loaded] at loaded'
      exact (Option.some.inj loaded').symm
    dsimp only
    by_cases allows : metadata.allowsAutoRequeue = true
    case neg =>
      rw [if_pos allows]
      apply iff_of_false returns_skip
      rintro ⟨same, metadata', loaded', allowed, -⟩
      exact allows (unique same loaded' ▸ allowed)
    rw [if_neg (by simp [allows]), returns_bind, returns_countAutoRequeues]
    by_cases within : counted env s candidate.dependency.blockedTaskId < config.maxAutoRequeuesPerWorkItem
    case neg =>
      rw [if_pos (by omega)]
      apply iff_of_false returns_skip
      rintro ⟨rfl, _, _, _, within', -⟩
      exact within within'
    rw [if_neg (by omega)]
    by_cases cooling : autoRecoveryCooldownActive config metadata (counted env s candidate.dependency.blockedTaskId) now
    case pos =>
      rw [if_pos cooling]
      apply iff_of_false returns_skip
      rintro ⟨rfl, metadata', loaded', _, _, cooled, -⟩
      rw [unique rfl loaded', cooling] at cooled
      cases cooled
    rw [if_neg cooling, returns_bind, returns_writeAutoRecoveryDiagnostics (s := s.advance 1) described safe idle (by decide)
      (by decide) (Nat.succ_ne_zero _), returns_bind, rooted]
    simp only [returns_report]
    refine (and_congr_right fun _ => returns_retryBlockedTask (s := diagnosed env (s.advance 1) now _ _ _ _)
      (P := fun step => ∀ n ∈ [0, 1, 2], (env.reading (step + n)).fault = none) read loaded allows safe
      (isBlank_diagnosticsPath _ _)).trans ?_
    have later (n : Nat) : Passes env (diagnosed env (s.advance 1) now candidate.dependency "requeue"
        "transient blocked dependency" (counted env s candidate.dependency.blockedTaskId).succ).queue n ↔
        Passes env s.queue (n + 2) := by
      show (env.reading (s.queue.step + 1 + 1 + n)).fault = none ↔ (env.reading (s.queue.step + (n + 2))).fault = none
      rw [show s.queue.step + 1 + 1 + n = s.queue.step + (n + 2) by omega]
    have last (n : Nat) : (env.reading (s.queue.step + 1 + 1 + 9 + n)).fault = none ↔ Passes env s.queue (n + 11) := by
      show _ ↔ (env.reading (s.queue.step + (n + 11))).fault = none
      rw [show s.queue.step + 1 + 1 + 9 + n = s.queue.step + (n + 11) by omega]
    have cooled : autoRecoveryCooldownActive config metadata (counted env s candidate.dependency.blockedTaskId) now =
        false := by simpa using cooling
    simp only [retryOperations, recoverOperations, List.forall_mem_cons, later]
    constructor
    · rintro ⟨written, only, within', rfl, ⟨first, second, third, fourth, fifth, sixth, -⟩, seventh, eighth, ninth, -⟩
      exact ⟨rfl, metadata, loaded, allows, within, cooled, within', only, written, first, second, third, fourth, fifth,
        sixth, (last 0).mp seventh, (last 1).mp eighth, (last 2).mp ninth, nofun⟩
    · rintro ⟨rfl, -, -, -, -, -, within', only, written, first, second, third, fourth, fifth, sixth, seventh, eighth, ninth,
        -⟩
      exact ⟨written, only, within', rfl, ⟨first, second, third, fourth, fifth, sixth, nofun⟩, (last 0).mpr seventh,
        (last 1).mpr eighth, (last 2).mpr ninth, nofun⟩

end Runs

/-! ## The candidates -/

section Candidates
variable {env : Environment} {w : Workspace}

/-- What the search knows of a blocked task that it found. -/
structure Known (env : Environment) (w : Workspace) (id : String) (parts : CandidateParts) : Prop where
  blocked : ∃ task, readTaskDocumentOrNone env w (taskPath .blocked id) = some task ∧
    parts.blockedRootSpecId = effectiveRootSpecTask task
  waiting : parts.queuedDependentIds ≠ []
  dependents : ∀ dependent ∈ parts.queuedDependentIds, SafeIdentifier dependent
  distinct : parts.queuedDependentIds.Nodup
  root : ∀ root, parts.rootSpecId = some root → isBlank root = false

def AllKnown (env : Environment) (w : Workspace) (candidates : Candidates) : Prop :=
  ∀ candidate ∈ candidates, Known env w candidate.1 candidate.2

theorem AllKnown.noteDependent {candidates : Candidates} {blockedId dependentId : String} {parts : CandidateParts}
    (known : AllKnown env w candidates) (safe : SafeIdentifier dependentId)
    (new : Known env w blockedId { parts with queuedDependentIds := [dependentId] }) :
    AllKnown env w (noteDependent blockedId dependentId parts candidates) := by
  induction candidates with
  | nil =>
    rintro _ (_ | ⟨_, ⟨⟩⟩)
    exact new
  | cons first rest ih =>
    obtain ⟨id, held⟩ := first
    obtain ⟨known, later⟩ := List.forall_mem_cons.mp known
    unfold Recovery.noteDependent
    split
    · refine List.forall_mem_cons.mpr ⟨⟨known.blocked, ?_, ?_, ?_, known.root⟩, later⟩
      · exact List.ne_nil_of_mem List.mem_insert_self
      · intro dependent member
        rcases List.mem_insert_iff.mp member with rfl | before
        · exact safe
        · exact known.dependents dependent before
      · exact known.distinct.insert
    · exact List.forall_mem_cons.mpr ⟨known, ih later⟩

omit [Rfc3339] in
theorem mem_noteDependent {candidates : Candidates} {blockedId dependentId id : String} {parts : CandidateParts} :
    id ∈ (noteDependent blockedId dependentId parts candidates).map Prod.fst ↔
      id = blockedId ∨ id ∈ candidates.map Prod.fst := by
  induction candidates with
  | nil => simp [Recovery.noteDependent]
  | cons first rest ih =>
    obtain ⟨other, held⟩ := first
    unfold Recovery.noteDependent
    split
    next same => simp [same]
    next =>
      rw [List.map_cons, List.mem_cons, ih, List.map_cons, List.mem_cons]
      tauto

/-- The blocked task can be read, and its root is not known to be another one than that of its dependent. -/
def WaitsFor (env : Environment) (w : Workspace) (queued : TaskDocument) (id : String) : Prop :=
  ∃ blocked, readTaskDocumentOrNone env w (taskPath .blocked id) = some blocked ∧ rootMismatch queued blocked = false

theorem readTask_valid {path : DocumentPath} {d : TaskDocument} (read : readTaskDocumentOrNone env w path = some d) :
    d.Valid := by
  have read' := toOption_eq_some.mp read
  unfold readTaskDocument at read'
  split at read'
  next => cases read'
  next raw file => exact valid_of_parseTaskDocument (mapError_eq_ok.mp read')

omit [Rfc3339] in
theorem isBlank_of_safe {value : String} (safe : SafeIdentifier value) : isBlank value = false := by
  have inline := safe.inline
  unfold isBlank
  rw [inline.trim]
  simpa using inline.nonempty

theorem effectiveRoot_given {d : TaskDocument} (valid : d.Valid) {root : String}
    (effective : effectiveRootSpecTask d = some root) : isBlank root = false := by
  unfold effectiveRootSpecTask at effective
  cases own : d.rootSpecId with
  | some value =>
    rw [own] at effective
    obtain rfl := Option.some.inj effective
    exact isBlank_of_safe (valid.rootSpecId _ own)
  | none =>
    rw [own] at effective
    exact isBlank_of_safe (valid.specId _ effective)

end Candidates

end

end Millrace.Recovery
