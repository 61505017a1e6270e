import Millrace.Recovery.RetryRuns

/-! Automatic retries keep to their limits where the log and the metadata are written, and when this is so. -/

set_option autoImplicit false

namespace Millrace.Recovery
open Millrace.Text Millrace.Contracts Millrace.WorkDocuments Millrace.Action Millrace.Queue

section
variable [Rfc3339] {α : Type} {env : Environment} {config : AutoRecoveryConfig} {now : Timestamp}

/-! ## What changes no file -/

/-- The part of the world that decides of later retries: the queues with their logs, and the metadata. -/
def stored (s : RecoveryWorld) : Workspace × (String → Option BlockedItemMetadata) := (s.workspace, s.metadata)

theorem onQueues_stored {x : StoreM α} (reads : Reads x) : Frames stored (onQueues x) := by
  intro v s same
  have kept := reads s.queue.workspace s.queue rfl
  unfold onQueues
  rw [onPart_run]
  cases ran : x s.queue with
  | ok a queue =>
    rw [ran] at kept
    exact (Prod.ext kept rfl : stored { s with queue := queue } = stored s).trans same
  | error e queue =>
    rw [ran] at kept
    exact (Prod.ext kept rfl : stored { s with queue := queue } = stored s).trans same

theorem modify_stored {f : RecoveryWorld → RecoveryWorld} (same : ∀ s, stored (f s) = stored s) :
    Frames stored (modify f : RecoveryM PUnit) := fun _ s start => (same s).trans start

theorem get_stored : Frames stored (get : RecoveryM RecoveryWorld) := fun _ _ same => same

theorem refuse_stored (condition : Prop) [Decidable condition] (message : String) :
    Frames stored (refuse condition message) := .ite (.throw _) (.pure _)

theorem requireContract_stored (checked : Except Blueprints.RuntimeJsonError Unit) :
    Frames stored (requireContract checked) := by
  cases checked with
  | ok _ => exact .pure _
  | error error => exact .throw _

theorem fileOperation_stored (relative : String) : Frames stored (onQueues (fileOperation env relative)) :=
  onQueues_stored (fileOperation_reads env relative)

theorem countAutoRequeues_stored (taskId : String) : Frames stored (countAutoRequeues env taskId) := by
  refine .bind (onQueues_stored (reading_reads env)) fun answer => ?_
  cases answer.fault with
  | none => exact .bind get_stored fun _ => .pure _
  | some message => exact .pure _

theorem writeRuntimeEvent_stored (event : RecoveryEvent) : Frames stored (writeRuntimeEvent env event) :=
  .bind (fileOperation_stored _) fun _ => .bind (fileOperation_stored _) fun _ => modify_stored fun _ => rfl

theorem refreshSnapshotQueueDepths_stored : Frames stored (refreshSnapshotQueueDepths env) := by
  refine .bind (onQueues_stored (reading_reads env)) fun answer => ?_
  cases answer.fault with
  | none => exact modify_stored fun _ => rfl
  | some message => exact .pure _

theorem refreshSnapshotQueueDepthsInPlace_stored : Frames stored (refreshSnapshotQueueDepthsInPlace env) :=
  .bind (modify_stored fun _ => rfl) fun _ => .bind (fileOperation_stored _) fun _ => modify_stored fun _ => rfl

theorem writeAutoRecoveryDiagnostics_stored (candidate : StrandedBlockedDependency) (decision reason : String)
    (attempt : Nat) : Frames stored (writeAutoRecoveryDiagnostics env now candidate decision reason attempt) :=
  .bind get_stored fun _ => .bind (requireContract_stored _) fun _ => .bind (fileOperation_stored _) fun _ =>
    .bind (modify_stored fun _ => rfl) fun _ => .pure _

theorem writeAutoRecoverySkip_stored (candidate : StrandedBlockedDependency) (reason : String) (attempt : Nat) :
    Frames stored (writeAutoRecoverySkip env now candidate reason attempt) :=
  .bind (writeAutoRecoveryDiagnostics_stored _ _ _ _) fun _ => .bind (writeRuntimeEvent_stored _) fun _ =>
    writeRuntimeEvent_stored _

theorem validateBlockedTaskLocations_stored (taskId : String) : Frames stored (validateBlockedTaskLocations taskId) :=
  .bind get_stored fun _ => .bind (refuse_stored _ _) fun _ => .bind (refuse_stored _ _) fun _ =>
    .bind (refuse_stored _ _) fun _ => refuse_stored _ _

theorem buildAutoRecoveryCandidate_stored (candidates : Candidates) (lineageCompatible : Bool) :
    Frames stored (buildAutoRecoveryCandidate candidates lineageCompatible) := by
  unfold buildAutoRecoveryCandidate
  split
  · exact .pure _
  · exact .bind get_stored fun _ => .bind (requireContract_stored _) fun _ => .pure _

theorem findAutoRecoveryCandidate_stored : Frames stored (findAutoRecoveryCandidate env) := by
  refine .bind (onQueues_stored (listMarkdownFiles_reads env _)) fun _ => ?_
  refine .bind (onQueues_stored (listMarkdownFiles_reads env _)) fun _ => .bind get_stored fun _ => ?_
  refine .bind (buildAutoRecoveryCandidate_stored _ _) fun found => ?_
  cases found with
  | none => exact buildAutoRecoveryCandidate_stored _ _
  | some candidate => exact .pure _

/-- A step that changes no file ends in a state like its first one, and where it succeeds it ran as it did. -/
theorem ensues_of_stored {x : RecoveryM α} (frames : Frames stored x) (s : RecoveryWorld) :
    Ensues s x (fun a t => x s = .ok a t ∧ stored t = stored s) fun _ t => stored t = stored s := by
  rintro s rfl
  have kept := frames (stored s) s rfl
  cases ran : x s with
  | ok a t =>
    rw [ran] at kept
    exact ⟨rfl, kept⟩
  | error e t =>
    rw [ran] at kept
    exact kept

/-! ## What a retry changes -/

/-- The task moved back to its queue in the operations from this one on, and the line on it is written unless one of the
next operations failed. -/
structure TakenBack (env : Environment) (step : Nat) (auto : Bool) (taskId : String) (w w' : Workspace) : Prop where
  moved : MovedBack w w' taskId
  passed : (env.reading step).fault = none ∧ (env.reading (step + 1)).fault = none
  logged : (∃ line, LogLine.isAutoRequeue line = auto ∧ w'.log = w.log ++ [(requeueLogOf taskId, line)]) ∨
    (w'.log = w.log ∧ ¬((env.reading (step + 2)).fault = none ∧ (env.reading (step + 4)).fault = none))

theorem movedBack_move {w : Workspace} {taskId raw : String} (log : List (String × LogLine))
    (blocked : w.file (taskPath .blocked taskId) = some raw) :
    MovedBack w { (w.erase (taskPath .blocked taskId)).insert (taskPath .queue taskId) raw with log := log } taskId := by
  refine ⟨raw, blocked, fun path => ?_⟩
  show ((w.erase _).insert _ raw).file path = _
  rw [Workspace.file_insert, Workspace.file_erase]

theorem currentTimestamp_run (t : World) : currentTimestamp env t = .ok (env.reading t.step).now t.tick := rfl

theorem requeueBlockedTask_ends (taskId : TaskId) {reason actor : String} {auto : Bool} {failureClass : Option String}
    {attemptNumber : Option Nat} (given : AuditFieldsGiven reason actor attemptNumber) (q : World) :
    let ends := fun t : World => t.workspace = q.workspace ∨ TakenBack env q.step auto taskId q.workspace t.workspace
    Ensues q (requeueBlockedTask env taskId reason actor auto failureClass attemptNumber) (fun _ => ends) fun _ => ends := by
  rintro ends q rfl
  unfold requeueBlockedTask appendBlockedRequeueAudit
  simp only [bind_run, validateBlockedRequeueAudit_run given, moveItemFromState_run, createDirAll, fileOperation_run,
    appendLine_run]
  cases blocked : q.workspace.file (itemPath .task .blocked taskId) with
  | none => exact Or.inl rfl
  | some raw =>
    cases first : (env.reading q.step).fault with
    | some message => exact Or.inl rfl
    | none =>
      by_cases taken : (q.workspace.file (itemPath .task .queue taskId)).isSome
      · simp only [taken, if_true]
        exact Or.inl rfl
      · simp only [taken, Bool.false_eq_true, if_false]
        cases second : (env.reading (q.step + 1)).fault with
        | some message => exact Or.inl rfl
        | none =>
          -- from here on the document has moved
          have moved (log : List (String × LogLine)) := movedBack_move log blocked
          dsimp only
          cases third : (env.reading (q.step + 2)).fault with
          | some message => exact Or.inr ⟨moved _, ⟨first, second⟩, Or.inr ⟨rfl, by simp [third]⟩⟩
          | none =>
            dsimp only
            rw [currentTimestamp_run]
            simp only [World.tick_step, Nat.add_assoc, Nat.reduceAdd]
            cases fifth : (env.reading (q.step + 4)).fault with
            | some message => exact Or.inr ⟨moved _, ⟨first, second⟩, Or.inr ⟨rfl, by simp [fifth]⟩⟩
            | none => exact Or.inr ⟨moved _, ⟨first, second⟩, Or.inl ⟨_, rfl, rfl⟩⟩

/-- A retry that starts to move the task at this step leaves everything as it was or takes the task back. -/
def RetryEnds (env : Environment) (step : Nat) (auto : Bool) (taskId : String) (s t : RecoveryWorld) : Prop :=
  stored t = stored s ∨ (TakenBack env step auto taskId s.workspace t.workspace ∧ t.metadata = s.metadata)

/-- What comes before changes nothing, nor does what comes after. -/
theorem RetryEnds.between {step : Nat} {auto : Bool} {taskId : String} {s s' t t' : RecoveryWorld}
    (ends : RetryEnds env step auto taskId s' t) (before : stored s' = stored s) (later : stored t' = stored t) :
    RetryEnds env step auto taskId s t' := by
  have queues : s'.workspace = s.workspace := congrArg Prod.fst before
  have metadata : s'.metadata = s.metadata := congrArg Prod.snd before
  have queuesLater : t'.workspace = t.workspace := congrArg Prod.fst later
  have metadataLater : t'.metadata = t.metadata := congrArg Prod.snd later
  rcases ends with same | ⟨taken, kept⟩
  · exact Or.inl (later.trans (same.trans before))
  · rw [queues, ← queuesLater] at taken
    exact Or.inr ⟨taken, metadataLater.trans (kept.trans metadata)⟩

theorem requeueTask_ends {taskId reason actor : String} {auto : Bool} {failureClass : Option String} {attempt : Nat}
    (given : AuditFieldsGiven reason actor (some attempt)) (s : RecoveryWorld) :
    Ensues s (requeueTask env taskId reason actor auto failureClass attempt)
      (fun _ => RetryEnds env s.queue.step auto taskId s) fun _ => RetryEnds env s.queue.step auto taskId s := by
  unfold Recovery.requeueTask
  split
  next safe =>
    have lift (t : World) (ends : t.workspace = s.queue.workspace ∨
        TakenBack env s.queue.step auto taskId s.queue.workspace t.workspace) :
        RetryEnds env s.queue.step auto taskId s { s with queue := t } :=
      ends.imp (fun same => Prod.ext same rfl) fun taken => ⟨taken, rfl⟩
    refine .bind (onPart_ensues (requeueBlockedTask_ends ⟨taskId, safe⟩ given s.queue) (fun _ => lift) fun _ => lift) ?_
    exact fun _ t ends => .pure ends
  next => exact (ensues_of_stored (requireContract_stored _) s).weaken (fun _ _ ends => Or.inl ends.2) fun _ _ => Or.inl

section Order
variable {β : Type} {s : RecoveryWorld} {R : RecoveryWorld → Prop}

/-- What changes no file may come first. -/
theorem Ensues.first {x : RecoveryM β} {f : β → RecoveryM α} (frames : Frames stored x)
    (unchanged : ∀ t, stored t = stored s → R t)
    (rest : ∀ b t, x s = .ok b t → stored t = stored s → Ensues t (f b) (fun _ => R) fun _ => R) :
    Ensues s (x >>= f) (fun _ => R) fun _ => R :=
  .bind ((ensues_of_stored frames s).weaken (fun _ _ ends => ends) fun _ t => unchanged t) fun b t ends =>
    rest b t ends.1 ends.2

/-- What changes no file may come last. -/
theorem Ensues.last {x : RecoveryM β} {f : β → RecoveryM α} (ends : Ensues s x (fun _ => R) fun _ => R)
    (frames : ∀ b, Frames stored (f b)) (later : ∀ t t', R t → stored t' = stored t → R t') :
    Ensues s (x >>= f) (fun _ => R) fun _ => R :=
  .bind ends fun b t reached => (ensues_of_stored (frames b) t).weaken (fun _ t' kept => later t t' reached kept.2)
    fun _ t' => later t t' reached

theorem Ensues.afterRefuse {condition : Prop} [Decidable condition] {message : String} {f : Unit → RecoveryM α}
    (unchanged : R s) (rest : ¬condition → Ensues s (f ()) (fun _ => R) fun _ => R) :
    Ensues s (refuse condition message >>= f) (fun _ => R) fun _ => R := by
  unfold refuse
  split
  next => exact .bind (.throw unchanged) fun _ _ impossible => absurd impossible id
  next passes => exact .bind (.pure (Q := fun _ t => t = s) rfl) fun _ t same => same ▸ rest passes

end Order

theorem ran_of_returns {x : RecoveryM α} {s t t' : RecoveryWorld} {a a' : α} (ran : x s = .ok a t)
    (returns : ∀ Q, Returns s x Q ↔ Q a' t') : a = a' ∧ t = t' := by
  have found := (returns fun b u => a = b ∧ t = u).mp ⟨a, t, ran, rfl, rfl⟩
  exact found

theorem validateBlockedTaskLocations_same {taskId : String} {s t : RecoveryWorld} {a : Unit}
    (ran : validateBlockedTaskLocations taskId s = .ok a t) : s = t := by
  have found : Returns s (validateBlockedTaskLocations taskId) fun _ u => u = t := ⟨a, t, ran, rfl⟩
  unfold validateBlockedTaskLocations at found
  simp only [returns_bind, returns_get, returns_refuse] at found
  exact found.2.2.2.2

theorem retryBlockedTask_ends (request : RetryBlockedTaskRequest) (actor : isBlank request.actor = false)
    (s : RecoveryWorld) :
    Ensues s (retryBlockedTask env request) (fun _ => RetryEnds env (s.queue.step + 1) request.auto request.taskId s)
      fun _ => RetryEnds env (s.queue.step + 1) request.auto request.taskId s := by
  have still (t : RecoveryWorld) (same : stored t = stored s) :
      RetryEnds env (s.queue.step + 1) request.auto request.taskId s t := Or.inl same
  unfold retryBlockedTask
  refine Ensues.afterRefuse (still s rfl) fun reasonGiven => ?_
  refine Ensues.first (validateBlockedTaskLocations_stored _) still fun _ t ran _ => ?_
  obtain rfl := validateBlockedTaskLocations_same ran
  refine .get ?_
  split
  next => exact .throw (still s rfl)
  next task read =>
    refine Ensues.afterRefuse (still s rfl) fun _ => .get (Ensues.afterRefuse (still s rfl) fun _ => ?_)
    refine Ensues.first (countAutoRequeues_stored _) still fun attempts u ran _ => ?_
    obtain ⟨-, rfl⟩ := ran_of_returns ran fun _ => returns_countAutoRequeues
    refine Ensues.afterRefuse (still _ rfl) fun _ => ?_
    refine Ensues.last ?_ (fun _ => .bind refreshSnapshotQueueDepths_stored fun _ =>
      .bind (requireContract_stored _) fun _ => .bind (writeRuntimeEvent_stored _) fun _ => .pure _)
      fun _ _ ends same => ends.between rfl same
    have given : AuditFieldsGiven (trimmed request.reason) request.actor (some (attempts + 1)) :=
      ⟨(isBlank_trimmed _).trans (by simpa using reasonGiven), actor, by simp⟩
    exact (requeueTask_ends given (s.advance 1)).weaken (fun _ _ ends => ends.between rfl rfl) fun _ _ ends =>
      ends.between rfl rfl

/-! ## What a cycle changes -/

/-- The cycle takes this task back, and what it has checked before. -/
structure AutoRequeue (env : Environment) (config : AutoRecoveryConfig) (now : Timestamp) (s : RecoveryWorld)
    (taskId : String) (t : RecoveryWorld) : Prop where
  idle : mayRecover config s.snapshot = true
  holdsUp : HoldsUp env s.workspace taskId
  metadata : ∃ metadata, loadBlockedTaskMetadata s taskId = some metadata ∧ metadata.allowsAutoRequeue = true ∧
    autoRecoveryCooldownActive config metadata (counted env (s.advance 2) taskId) now = false
  within : counted env (s.advance 2) taskId < config.maxAutoRequeuesPerWorkItem
  taken : TakenBack env (s.queue.step + 5) true taskId s.workspace t.workspace
  kept : t.metadata = s.metadata

def CycleEnds (env : Environment) (config : AutoRecoveryConfig) (now : Timestamp) (s t : RecoveryWorld) : Prop :=
  stored t = stored s ∨ ∃ taskId, AutoRequeue env config now s taskId t

theorem findAutoRecoveryCandidate_ran {s t : RecoveryWorld} {found : Option AutoRecoveryCandidate}
    (ran : findAutoRecoveryCandidate env s = .ok found t) : t = s.advance 2 ∧
      ∀ candidate, found = some candidate → candidate.lineageCompatible = true →
        ∃ id parts, candidate = candidateOf (s.advance 2) id parts true ∧ HoldsUp env s.workspace id := by
  have known : AllKnown env s.workspace (stranded env s.workspace).compatible := stranded_spec.1
  have others : AllKnown env s.workspace (stranded env s.workspace).incompatible := stranded_spec.2.1
  have returned : Returns s (findAutoRecoveryCandidate env) fun b u => b = found ∧ u = t := ⟨found, t, ran, rfl, rfl⟩
  rw [returns_findAutoRecoveryCandidate, returns_bind, returns_buildAutoRecoveryCandidate (s := s.advance 2) known]
    at returned
  obtain ⟨-, -, ⟨-, rest⟩ | ⟨id, parts, head, -, rest⟩⟩ := returned
  · dsimp only at rest
    rw [returns_buildAutoRecoveryCandidate (s := s.advance 2) others] at rest
    obtain ⟨-, rfl, rfl⟩ | ⟨id, parts, -, -, rfl, rfl⟩ := rest
    · exact ⟨rfl, fun _ none => by cases none⟩
    · refine ⟨rfl, fun _ named compatible => ?_⟩
      obtain rfl := Option.some.inj named
      cases compatible
  · obtain ⟨rfl, rfl⟩ := returns_pure.mp rest
    refine ⟨rfl, fun _ named _ => ⟨id, parts, (Option.some.inj named).symm, ?_⟩⟩
    exact (first_stranded head).1.1

theorem CycleEnds.later {s t t' : RecoveryWorld} (ends : CycleEnds env config now s t) (same : stored t' = stored t) :
    CycleEnds env config now s t' := by
  rcases ends with unchanged | ⟨taskId, requeue⟩
  · exact Or.inl (same.trans unchanged)
  · have queues : t'.workspace = t.workspace := congrArg Prod.fst same
    have metadata : t'.metadata = t.metadata := congrArg Prod.snd same
    exact Or.inr ⟨taskId, { requeue with taken := queues ▸ requeue.taken, kept := metadata.trans requeue.kept }⟩

theorem writeAutoRecoveryDiagnostics_step {candidate : StrandedBlockedDependency} {decision reason path : String}
    {attempt : Nat} {s t : RecoveryWorld}
    (ran : writeAutoRecoveryDiagnostics env now candidate decision reason attempt s = .ok path t) :
    t.queue.step = s.queue.step + 1 := by
  have returned : Returns s (writeAutoRecoveryDiagnostics env now candidate decision reason attempt)
      fun _ u => u.queue.step = t.queue.step := ⟨path, t, ran, rfl⟩
  unfold writeAutoRecoveryDiagnostics at returned
  simp only [returns_bind, returns_get, returns_requireContract, returns_onQueues, returns_fileOperation, returns_modify,
    returns_pure] at returned
  exact returned.2.2.symm

theorem cycle_ends (s : RecoveryWorld) :
    Ensues s (attemptStrandedDependencyAutoRecovery env config now) (fun _ => CycleEnds env config now s)
      fun _ => CycleEnds env config now s := by
  have still (t : RecoveryWorld) (same : stored t = stored s) : CycleEnds env config now s t := Or.inl same
  unfold attemptStrandedDependencyAutoRecovery
  refine .get (.ite (fun _ => .pure (still s rfl)) fun idle => .ite (fun _ => .pure (still s rfl)) fun _ => ?_)
  refine Ensues.first findAutoRecoveryCandidate_stored still fun found t ran _ => ?_
  obtain ⟨rfl, candidates⟩ := findAutoRecoveryCandidate_ran ran
  cases found with
  | none => exact .pure (still _ rfl)
  | some candidate =>
    have skipped (u : RecoveryWorld) (same : stored u = stored s) (reason : String) (attempt : Nat) :
        Ensues u (do
          writeAutoRecoverySkip env now candidate.dependency reason attempt
          return none : RecoveryM (Option BlockedTaskRequeueResult)) (fun _ => CycleEnds env config now s)
          fun _ => CycleEnds env config now s := by
      refine (ensues_of_stored (.bind (writeAutoRecoverySkip_stored _ _ _) fun _ => .pure _) u).weaken ?_ ?_
      · exact fun _ v ends => still v (ends.2.trans same)
      · exact fun _ v ends => still v (ends.trans same)
    dsimp only
    unfold recoverCandidate
    dsimp only
    refine .ite (fun _ => skipped (s.advance 2) rfl _ _) fun compatible => ?_
    obtain ⟨id, parts, rfl, holdsUp⟩ := candidates candidate rfl (by simpa using compatible)
    split
    next => exact skipped (s.advance 2) rfl _ _
    next metadata loaded =>
      refine .ite (fun _ => skipped (s.advance 2) rfl _ _) fun allows => ?_
      refine Ensues.first (countAutoRequeues_stored _) still fun attempts u ran _ => ?_
      obtain ⟨rfl, rfl⟩ := ran_of_returns ran fun _ => returns_countAutoRequeues
      refine .ite (fun _ => skipped ((s.advance 2).advance 1) rfl _ _) fun within => ?_
      refine .ite (fun _ => skipped ((s.advance 2).advance 1) rfl _ _) fun cooled => ?_
      refine Ensues.first (writeAutoRecoveryDiagnostics_stored _ _ _ _) still fun path v ran same => ?_
      have later : v.queue.step = s.queue.step + 4 := writeAutoRecoveryDiagnostics_step ran
      refine Ensues.last (R := CycleEnds env config now s) ?_ (fun _ => .bind refreshSnapshotQueueDepthsInPlace_stored
        fun _ => .bind (writeRuntimeEvent_stored _) fun _ => .pure _) fun w w' ends kept => ?_
      · have guarded (w : RecoveryWorld) (ends : RetryEnds env (v.queue.step + 1) true id v w) :
            CycleEnds env config now s w := by
          rcases ends.between same rfl with same' | ⟨taken, kept⟩
          · exact still w same'
          · rw [later] at taken
            exact Or.inr ⟨id, {
              idle := by simpa using idle
              holdsUp := holdsUp
              metadata := ⟨metadata, loaded, by simpa using allows, Bool.eq_false_of_not_eq_true cooled⟩
              within := not_le.mp within
              taken := taken
              kept := kept }⟩
        have actor : isBlank autoRecoveryActor = false := by decide
        refine Ensues.weaken (retryBlockedTask_ends _ ?_ v) (fun _ => guarded) fun _ => guarded
        exact actor
      · exact ends.later kept

theorem apply_idleCycle {s t : RecoveryWorld} {found : Option BlockedTaskRequeueResult}
    (ran : attemptStrandedDependencyAutoRecovery env config now s = .ok found t) :
    RecoveryStep.apply env config s (.idleCycle now) = t := by
  show after (attemptStrandedDependencyAutoRecovery env config now) s = t
  unfold after
  rw [ran]

/-! ## What a blocked stage changes -/

theorem blockedWorkItemLineage_given (w : Workspace) (stage : BlockedStage) :
    (∀ root, (blockedWorkItemLineage env w stage).1 = some root → isBlank root = false) ∧
      ∀ root, (blockedWorkItemLineage env w stage).2 = some root → isBlank root = false := by
  unfold blockedWorkItemLineage
  dsimp only
  split
  next task found =>
    obtain ⟨path, -, read⟩ := List.exists_of_findSome?_eq_some found
    have valid := readTask_valid read
    exact ⟨fun root given => isBlank_of_safe (valid.rootIdeaId root given), fun root given =>
      effectiveRoot_given valid given⟩
  next =>
    constructor
    · rintro _ ⟨⟩
    · rintro _ ⟨⟩

theorem BlockedStage.Given.valid {stage : BlockedStage} (given : stage.Given) (w : Workspace) :
    (buildBlockedItemMetadata env w stage).validateContract = .ok () := by
  have idea : ∀ root, (blockedWorkItemLineage env w stage).1 = some root → isBlank root = false :=
    (blockedWorkItemLineage_given w stage).1
  have spec : ∀ root, (blockedWorkItemLineage env w stage).2 = some root → isBlank root = false :=
    (blockedWorkItemLineage_given w stage).2
  have plane : isBlank (asStr stage.plane) = false := by
    cases stage.plane <;> decide
  have present {value : String} (solid : isBlank value = false) (fieldName : String) :
      requireOptionalNonBlank fieldName (some value) = .ok () :=
    requireOptionalNonBlank_eq_ok.mpr fun _ same => Option.some.inj same ▸ solid
  unfold BlockedItemMetadata.validateContract buildBlockedItemMetadata
  simp only [validateId_eq_ok.mpr stage.workItemId.property, requireNonBlank_eq_ok.mpr given.failureClass,
    requireOptionalNonBlank_eq_ok.mpr spec, requireOptionalNonBlank_eq_ok.mpr idea, present given.runId, present plane,
    present given.named, present given.terminalResult, present given.stageResultPath,
    requireOptionalNonBlank_eq_ok.mpr given.stdoutPath, requireOptionalNonBlank_eq_ok.mpr given.stderrPath, ok_bind]

theorem markTaskBlocked_ends (taskId : TaskId) (q : World) :
    Ensues q (markTaskBlocked env taskId) (fun _ t => ∃ raw, q.workspace.file (taskPath .active taskId) = some raw ∧
        q.workspace.file (taskPath .blocked taskId) = none ∧ Passes env q 0 ∧ Passes env q 1 ∧
        t = ⟨(q.workspace.erase (taskPath .active taskId)).insert (taskPath .blocked taskId) raw, q.step + 2⟩)
      fun _ t => t.workspace = q.workspace := by
  rintro q rfl
  unfold markTaskBlocked moveItem
  rw [moveItemFromState_run]
  cases active : q.workspace.file (itemPath .task .active taskId) with
  | none => rfl
  | some raw =>
    cases first : (env.reading q.step).fault with
    | some message => rfl
    | none =>
      by_cases taken : (q.workspace.file (itemPath .task .blocked taskId)).isSome
      · simp only [taken, if_true]
        rfl
      · simp only [taken, Bool.false_eq_true, if_false]
        cases second : (env.reading (q.step + 1)).fault with
        | some message => rfl
        | none => exact ⟨raw, active, Option.not_isSome_iff_eq_none.mp taken, first, second, rfl⟩

theorem onQueues_ends {x : StoreM α} {s : RecoveryWorld} {Q : α → World → Prop} {E : QueueStoreError → World → Prop}
    (ends : Ensues s.queue x Q E) : Ensues s (onQueues x) (fun a t => ∃ q, Q a q ∧ t = { s with queue := q })
      fun e t => ∃ q, E e q ∧ t = { s with queue := q } :=
  onPart_ensues ends (fun _ q reached => ⟨q, reached, rfl⟩) fun _ q reached => ⟨q, reached, rfl⟩

theorem requireContract_ends (checked : Except Blueprints.RuntimeJsonError Unit) (s : RecoveryWorld) :
    Ensues s (requireContract checked) (fun _ t => t = s) fun _ t => t = s ∧ checked ≠ .ok () := by
  cases checked with
  | ok _ => exact .pure rfl
  | error error => exact .throw ⟨rfl, by simp⟩

theorem fileOperation_ends (relative : String) (s : RecoveryWorld) :
    Ensues s (onQueues (fileOperation env relative)) (fun _ t => t = s.advance 1)
      fun _ t => stored t = stored s ∧ ¬ Passes env s.queue 0 := by
  rintro s rfl
  unfold onQueues
  rw [onPart_run, fileOperation_run]
  cases fault : (env.reading s.queue.step).fault with
  | none => rfl
  | some message => exact ⟨rfl, by simp [Passes, fault]⟩

theorem markTaskBlocked_run {taskId : TaskId} {q : World} {raw : String}
    (active : q.workspace.file (taskPath .active taskId) = some raw)
    (free : q.workspace.file (taskPath .blocked taskId) = none) (passes : Passes env q 0 ∧ Passes env q 1) :
    markTaskBlocked env taskId q = .ok (taskPath .blocked taskId)
      ⟨(q.workspace.erase (taskPath .active taskId)).insert (taskPath .blocked taskId) raw, q.step + 2⟩ := by
  have first : (env.reading q.step).fault = none := passes.1
  have second : (env.reading (q.step + 1)).fault = none := passes.2
  unfold markTaskBlocked moveItem
  rw [moveItemFromState_run]
  simp only [show itemPath .task .active taskId = taskPath .active taskId from rfl,
    show itemPath .task .blocked taskId = taskPath .blocked taskId from rfl, active, free, first, second,
    Option.isSome_none, Bool.false_eq_true, if_false]

/-- The files between are written one by one. -/
theorem forM_fileOperation_ends (between : List String) (s : RecoveryWorld) :
    Ensues s (between.forM fun relative => onQueues (fileOperation env relative))
      (fun _ t => t = s.advance between.length)
      fun _ t => stored t = stored s ∧ ∃ n < between.length, ¬ Passes env s.queue n := by
  induction between generalizing s with
  | nil => exact .pure rfl
  | cons relative rest ih =>
    have one : Ensues s (onQueues (fileOperation env relative)) (fun _ t => t = s.advance 1)
        fun _ t => stored t = stored s ∧ ¬ Passes env s.queue 0 := fileOperation_ends relative s
    refine .bind (one.weaken (fun _ _ ends => ends) fun _ t ends => ⟨ends.1, 0, Nat.succ_pos _, ends.2⟩) ?_
    rintro _ _ rfl
    have shift (n : Nat) : Passes env (s.advance 1).queue n ↔ Passes env s.queue (n + 1) := by
      unfold Passes
      rw [advance_step, Nat.add_assoc, Nat.add_comm 1 n]
    refine (ih (s.advance 1)).weaken ?_ ?_
    · rintro _ t rfl
      simp only [RecoveryWorld.advance, Nat.add_assoc, List.length_cons, Nat.add_comm 1 rest.length]
    · rintro _ t ⟨same, n, before, fails⟩
      exact ⟨same, n + 1, Nat.succ_lt_succ before, fun passes => fails ((shift n).mpr passes)⟩

/-- The task is blocked, and its metadata is the new one unless something is missing or an operation fails. -/
structure StageBlocks (env : Environment) (between : List String) (stage : BlockedStage) (s t : RecoveryWorld) : Prop where
  active : (s.workspace.file (taskPath .active stage.workItemId)).isSome
  free : s.workspace.file (taskPath .blocked stage.workItemId) = none
  passed : Passes env s.queue 0 ∧ Passes env s.queue 1
  moved : ∃ raw, t.workspace =
    (s.workspace.erase (taskPath .active stage.workItemId)).insert (taskPath .blocked stage.workItemId) raw
  recorded : t.metadata = Function.update s.metadata stage.workItemId
      (some (buildBlockedItemMetadata env t.workspace stage)) ∨
    (t.metadata = s.metadata ∧ ¬ (stage.Given ∧ ∀ n ≤ between.length, Passes env s.queue (n + 2)))

theorem blockActiveTask_ends (between : List String) (stage : BlockedStage) (s : RecoveryWorld) :
    let ends := fun t => stored t = stored s ∨ StageBlocks env between stage s t
    Ensues s (blockActiveTask env between stage) (fun _ => ends) fun _ => ends := by
  intro ends
  unfold blockActiveTask persistBlockedItemMetadata
  refine .bind ((onQueues_ends (markTaskBlocked_ends stage.workItemId s.queue)).weaken (fun _ _ reached => reached) ?_) ?_
  · rintro _ _ ⟨q, same, rfl⟩
    exact Or.inl (Prod.ext same rfl)
  rintro _ _ ⟨_, ⟨raw, active, free, first, second, rfl⟩, rfl⟩
  -- the task has moved; what is left is the metadata
  let moved : RecoveryWorld := { s with queue := ⟨(s.queue.workspace.erase (taskPath .active stage.workItemId)).insert
    (taskPath .blocked stage.workItemId) raw, s.queue.step + 2⟩ }
  have blocks {t : RecoveryWorld} (queues : t.workspace = moved.workspace) (recorded : t.metadata = Function.update
      s.metadata stage.workItemId (some (buildBlockedItemMetadata env t.workspace stage)) ∨ (t.metadata = s.metadata ∧
        ¬ (stage.Given ∧ ∀ n ≤ between.length, Passes env s.queue (n + 2)))) : ends t :=
    Or.inr ⟨Option.isSome_iff_exists.mpr ⟨raw, active⟩, free, ⟨first, second⟩, ⟨raw, queues⟩, recorded⟩
  have shift (n : Nat) : Passes env moved.queue n ↔ Passes env s.queue (n + 2) := by
    show (env.reading (s.queue.step + 2 + n)).fault = none ↔ _
    rw [Nat.add_assoc, Nat.add_comm 2 n]
    rfl
  have unrecorded {t : RecoveryWorld} (same : stored t = stored moved) {n : Nat} (within : n ≤ between.length)
      (fails : ¬ Passes env moved.queue n) : ends t :=
    blocks (congrArg Prod.fst same) (Or.inr ⟨congrArg Prod.snd same, fun both => fails ((shift n).mpr (both.2 n within))⟩)
  refine .bind ((forM_fileOperation_ends between moved).weaken (fun _ _ reached => reached) ?_) ?_
  · rintro _ t ⟨same, n, before, fails⟩
    exact unrecorded same before.le fails
  rintro _ _ rfl
  refine .get ?_
  refine .bind ((requireContract_ends _ _).weaken (fun _ _ reached => reached) ?_) ?_
  · rintro _ _ ⟨rfl, refused⟩
    exact blocks rfl (Or.inr ⟨rfl, fun both => refused (both.1.valid _)⟩)
  rintro _ _ rfl
  refine .bind ((fileOperation_ends _ _).weaken (fun _ _ reached => reached) ?_) ?_
  · rintro _ t ⟨same, fails⟩
    refine unrecorded same le_rfl fun passes => fails ?_
    unfold Passes at passes ⊢
    rwa [advance_step, Nat.add_zero]
  · rintro _ _ rfl
    exact (Ensues.modify _).weaken (fun _ t reached => by rw [reached]; exact blocks rfl (Or.inl rfl)) fun _ _ e => e

theorem blockActiveTask_unwritten {stage : BlockedStage} {s : RecoveryWorld} {raw : String} (given : stage.Given)
    (active : s.queue.workspace.file (taskPath .active stage.workItemId) = some raw)
    (free : s.queue.workspace.file (taskPath .blocked stage.workItemId) = none)
    (passes : Passes env s.queue 0 ∧ Passes env s.queue 1) (fails : ¬ Passes env s.queue 2) :
    after (blockActiveTask env [] stage) s = { s with queue := ⟨(s.queue.workspace.erase (taskPath .active
      stage.workItemId)).insert (taskPath .blocked stage.workItemId) raw, s.queue.step + 3⟩ } := by
  unfold after blockActiveTask onQueues
  simp only [bind_run, onPart_run, markTaskBlocked_run active free passes]
  unfold persistBlockedItemMetadata
  simp only [bind_run, get_run, given.valid]
  obtain ⟨message, fault⟩ := Option.ne_none_iff_exists'.mp fails
  simp only [List.forM_eq_forM, List.forM_nil, pure_run, requireContract, onQueues, onPart_run, fileOperation_run, fault]
  rfl

/-! ## What a step keeps -/

section Steps
variable {h : RetryHistory}

theorem Unblocking.of_stored {s t : RecoveryWorld} (same : stored t = stored s) : Unblocking s.workspace t.workspace := by
  have queues : t.workspace = s.workspace := congrArg Prod.fst same
  rw [queues]
  exact .refl _

theorem Unblocking.of_takenBack {w w' : Workspace} {step : Nat} {taskId : String}
    (taken : TakenBack env step false taskId w w') : Unblocking w w' where
  blocked other there := by
    obtain ⟨raw, -, files⟩ := taken.moved
    rw [files] at there
    split at there
    next same => cases (taskPath_inj.mp same).1
    next =>
      split at there
      · cases there
      · exact there
  automatic other := by
    rcases taken.logged with ⟨line, manual, logged⟩ | ⟨logged, -⟩
    · simp [autoRequeues, logged, manual]
    · simp only [autoRequeues, logged]

/-- Where no task is newly blocked and the logs and the metadata stay, the records still agree. -/
theorem Recorded.quiet {h' : RetryHistory} (recorded : Recorded config h)
    (unblocking : Unblocking h.world.workspace h'.world.workspace) (metadata : h'.world.metadata = h.world.metadata)
    (autoRequeued : ∀ taskId, h'.autoRequeued taskId = h.autoRequeued taskId)
    (blockedAt : ∀ taskId, h'.blockedAt taskId = h.blockedAt taskId) : Recorded config h' where
  counted taskId := by rw [autoRequeued, unblocking.automatic, recorded.counted]
  bounded taskId := by
    rw [autoRequeued]
    exact recorded.bounded taskId
  dated taskId found blocked loaded := by
    have loadedBefore : loadBlockedTaskMetadata h.world taskId = some found := by
      rwa [loadBlockedTaskMetadata, metadata] at loaded
    rw [blockedAt]
    exact recorded.dated taskId found (unblocking.blocked taskId blocked) loadedBefore

theorem Recorded.next_retry (recorded : Recorded config h) (taskId : TaskId) (reason : String)
    (rootSpecId : Option String) (force : Bool) :
    Recorded config (h.next env config (.retry taskId reason rootSpecId force)) := by
  have actor : isBlank "operator" = false := by decide
  have ends : RetryEnds env (h.world.queue.step + 1) false taskId h.world
      (after (runQueueRetryBlocked env taskId reason rootSpecId force) h.world) := by
    refine Ensues.after (retryBlockedTask_ends _ ?_ h.world)
    exact actor
  rcases ends with same | ⟨taken, kept⟩
  · exact recorded.quiet (.of_stored same) (congrArg Prod.snd same) (fun _ => rfl) fun _ => rfl
  · exact recorded.quiet (.of_takenBack taken) kept (fun _ => rfl) fun _ => rfl

theorem Recorded.next_queues (recorded : Recorded config h) {operation : TaskOperation}
    (leaves : LeavesBlocking operation) : Recorded config (h.next env config (.queues operation leaves)) :=
  recorded.quiet (apply_unblocking env h.world.queue leaves) rfl (fun _ => rfl) fun _ => rfl

theorem unblocking_rewritten (w : Workspace) (path : DocumentPath) (raw : String) : Unblocking w (rewritten w path raw) := by
  unfold rewritten
  split
  next there =>
    refine ⟨fun taskId blocked => ?_, fun _ => rfl⟩
    rw [Workspace.file_insert] at blocked
    split at blocked
    next same => rwa [same]
    next => exact blocked
  next => exact .refl w

omit [Rfc3339] in
theorem requeueLogOf_inj {a b : String} : requeueLogOf a = requeueLogOf b ↔ a = b := by
  simp [requeueLogOf, requeueLog, ← String.toList_inj]

/-- The logs after an automatic requeue whose line is written. -/
theorem autoRequeues_append {w w' : Workspace} {taskId : String} {line : LogLine} (auto : LogLine.isAutoRequeue line = true)
    (logged : w'.log = w.log ++ [(requeueLogOf taskId, line)]) (other : String) :
    autoRequeues w' other = autoRequeues w other + if other = taskId then 1 else 0 := by
  unfold autoRequeues
  rw [logged, List.countP_append]
  by_cases same : other = taskId
  · simp [same, auto]
  · have elsewhere : requeueLogOf taskId ≠ requeueLogOf other := fun equal => same (requeueLogOf_inj.mp equal).symm
    simp [same, elsewhere]

/-- The document of the task alone leaves the blocked ones. -/
theorem MovedBack.isBlocked {s t : RecoveryWorld} {taskId : String} (moved : MovedBack s.workspace t.workspace taskId)
    (other : String) : isBlocked t other = (isBlocked s other && other != taskId) := by
  obtain ⟨raw, -, files⟩ := moved
  unfold Recovery.isBlocked
  rw [files]
  by_cases same : other = taskId <;> simp [same]

theorem MovedBack.wasBlocked {s t : RecoveryWorld} {taskId : String} (moved : MovedBack s.workspace t.workspace taskId) :
    Recovery.isBlocked s taskId = true := by
  obtain ⟨raw, blocked, -⟩ := moved
  unfold Recovery.isBlocked
  rw [blocked]
  rfl

/-- The attempts that a sound cycle counts are those that were made. -/
theorem counted_eq {s : RecoveryWorld} {taskId : String}
    (readable : Passes env s.queue 2 ∨ autoRequeues s.workspace taskId = 0) :
    counted env (s.advance 2) taskId = autoRequeues s.workspace taskId := by
  unfold counted
  split
  next => rfl
  next unreadable => exact (readable.resolve_left unreadable).symm

omit [Rfc3339] in
theorem toInt64_toInt {n : UInt64} (small : n.toNat < 2 ^ 63) : n.toInt64.toInt = n.toNat := by
  show n.toBitVec.toInt = n.toBitVec.toNat
  rw [BitVec.toInt_eq_toNat_cond, if_pos]
  have bound : n.toBitVec.toNat < 2 ^ 63 := small
  omega

/-- A cycle that requeues a task does so within the limits, and its line is written. -/
theorem AutoRequeue.guarded {t : RecoveryWorld} {taskId : String} (recorded : Recorded config h)
    (sound : Sound env config h.world (.idleCycle now)) (requeue : AutoRequeue env config now h.world taskId t) :
    Guarded env config h now taskId ∧ h.autoRequeued taskId < config.maxAutoRequeuesPerWorkItem ∧
      ∃ line, LogLine.isAutoRequeue line = true ∧
        t.workspace.log = h.world.workspace.log ++ [(requeueLogOf taskId, line)] := by
  obtain ⟨readable, small, written⟩ := sound taskId requeue.holdsUp
  obtain ⟨metadata, loaded, allowed, cooled⟩ := requeue.metadata
  have within := requeue.within
  rw [counted_eq readable, ← recorded.counted] at within cooled
  refine ⟨⟨requeue.idle, requeue.holdsUp, ⟨metadata, loaded, allowed⟩, metadata.blockedAt, ?_, ?_⟩, within, ?_⟩
  · exact recorded.dated taskId metadata requeue.taken.moved.wasBlocked loaded
  · rw [← recorded.counted] at small
    rw [autoRecoveryCooldownActive, decide_eq_false_iff_not, toInt64_toInt small] at cooled
    omega
  · obtain ⟨first, second⟩ := requeue.taken.passed
    obtain ⟨third, fifth⟩ := written first second
    rcases requeue.taken.logged with logged | ⟨-, fails⟩
    · exact logged
    · exact absurd ⟨third, fifth⟩ fails

theorem Recorded.next_idleCycle (recorded : Recorded config h) (sound : Sound env config h.world (.idleCycle now)) :
    Recorded config (h.next env config (.idleCycle now)) ∧ GuardedStep env config h (.idleCycle now) := by
  have ends : CycleEnds env config now h.world
      (after (attemptStrandedDependencyAutoRecovery env config now) h.world) := (cycle_ends h.world).after
  rcases ends with same | ⟨taskId, requeue⟩
  · have unblocking := Unblocking.of_stored same
    have frees (other : String) : ¬ Frees env config h.world (.idleCycle now) other := by
      rintro ⟨before, later⟩
      have queues : (after (attemptStrandedDependencyAutoRecovery env config now) h.world).workspace =
        h.world.workspace := congrArg Prod.fst same
      exact later (by simpa [isBlocked, RecoveryStep.apply, queues] using before)
    refine ⟨recorded.quiet unblocking (congrArg Prod.snd same) (fun other => ?_) fun _ => rfl, fun other freed =>
      absurd freed (frees other)⟩
    simp [RetryHistory.next, frees other]
  · obtain ⟨guarded, within, line, auto, logged⟩ := requeue.guarded recorded sound
    have frees (other : String) : Frees env config h.world (.idleCycle now) other ↔ other = taskId := by
      unfold Frees
      rw [RecoveryStep.apply, requeue.taken.moved.isBlocked]
      constructor
      · rintro ⟨before, later⟩
        simpa [before] using later
      · rintro rfl
        exact ⟨requeue.taken.moved.wasBlocked, by simp⟩
    have more (other : String) : (h.next env config (.idleCycle now)).autoRequeued other =
        h.autoRequeued other + if other = taskId then 1 else 0 := by simp only [RetryHistory.next, frees]
    refine ⟨{ counted := fun other => ?_, bounded := fun other => ?_, dated := fun other metadata blocked loaded => ?_ },
      fun other freed => (frees other).mp freed ▸ guarded⟩
    · rw [more, recorded.counted]
      exact (autoRequeues_append auto logged other).symm
    · rw [more]
      split
      next same =>
        rw [same]
        exact within
      next => exact recorded.bounded other
    · have blocked' : isBlocked (after (attemptStrandedDependencyAutoRecovery env config now) h.world) other := blocked
      rw [requeue.taken.moved.isBlocked, Bool.and_eq_true] at blocked'
      have loadedBefore : loadBlockedTaskMetadata h.world other = some metadata := by
        have kept : (h.next env config (.idleCycle now)).world.metadata = h.world.metadata := requeue.kept
        rwa [loadBlockedTaskMetadata, kept] at loaded
      exact recorded.dated other metadata blocked'.1 loadedBefore

theorem Recorded.next_stageBlocked (recorded : Recorded config h) {between : List String} {stage : BlockedStage}
    (sound : Sound env config h.world (.stageBlocked between stage)) :
    Recorded config (h.next env config (.stageBlocked between stage)) := by
  have ends : stored (after (blockActiveTask env between stage) h.world) = stored h.world ∨
      StageBlocks env between stage h.world (after (blockActiveTask env between stage) h.world) :=
    (blockActiveTask_ends between stage h.world).after
  let t := after (blockActiveTask env between stage) h.world
  rcases ends with same | blocks
  · refine recorded.quiet (.of_stored same) (congrArg Prod.snd same) (fun _ => rfl) fun other => ?_
    have queues : t.workspace = h.world.workspace := congrArg Prod.fst same
    have idle : ¬ Blocks env config h.world (.stageBlocked between stage) other := by
      rintro ⟨before, later⟩
      have blocked : isBlocked t other = true := later
      rw [isBlocked, queues] at blocked
      exact before blocked
    simp only [RetryHistory.next, if_neg idle]
  · obtain ⟨raw, moved⟩ := blocks.moved
    have blocked (other : String) : isBlocked t other = (other == stage.workItemId || isBlocked h.world other) := by
      unfold isBlocked
      rw [show t.workspace = _ from moved, Workspace.file_insert, Workspace.file_erase]
      by_cases same : other = stage.workItemId <;> simp [same]
    have notBefore : ¬ isBlocked h.world stage.workItemId := by simp [isBlocked, blocks.free]
    obtain ⟨given, passes⟩ := sound blocks.active notBefore blocks.passed.1 blocks.passed.2
    have written := blocks.recorded.resolve_right fun kept => kept.2 ⟨given, passes⟩
    have starts (other : String) : Blocks env config h.world (.stageBlocked between stage) other ↔
        other = stage.workItemId := by
      unfold Blocks
      rw [show isBlocked (RecoveryStep.apply env config h.world (.stageBlocked between stage)) other = _ from blocked other]
      constructor
      · rintro ⟨before, later⟩
        simpa [before] using later
      · rintro rfl
        exact ⟨notBefore, by simp⟩
    have logs (other : String) : autoRequeues t.workspace other = autoRequeues h.world.workspace other := by
      rw [show t.workspace = _ from moved]
      rfl
    refine { counted := fun other => (recorded.counted other).trans (logs other).symm, bounded := recorded.bounded
             dated := fun other metadata there loaded => ?_ }
    simp only [RetryHistory.next, starts]
    by_cases same : other = stage.workItemId
    · -- the metadata of the task is that of the stage
      have stored : t.metadata other = some (buildBlockedItemMetadata env t.workspace stage) := by
        rw [show t.metadata = _ from written, same, Function.update_self]
      have found : (t.metadata other).filter (fun metadata => metadata.validateContract.isOk) = some metadata := loaded
      rw [stored, Option.filter_eq_some_iff] at found
      obtain rfl := Option.some.inj found.1
      rw [if_pos same]
      rfl
    · have kept : t.metadata other = h.world.metadata other := by
        rw [show t.metadata = _ from written, Function.update_of_ne same]
      have before : isBlocked h.world other = true := by
        have there' : isBlocked t other = true := there
        rw [blocked] at there'
        simpa [same] using there'
      have loadedBefore : loadBlockedTaskMetadata h.world other = some metadata := by
        rw [loadBlockedTaskMetadata, ← kept]
        exact loaded
      rw [if_neg same]
      exact recorded.dated other metadata before loadedBefore

theorem Recorded.next {step : RecoveryStep} (recorded : Recorded config h) (sound : Sound env config h.world step) :
    Recorded config (h.next env config step) ∧ GuardedStep env config h step := by
  cases step with
  | idleCycle now => exact recorded.next_idleCycle sound
  | stageBlocked between stage => exact ⟨recorded.next_stageBlocked sound, trivial⟩
  | retry taskId reason rootSpecId force => exact ⟨recorded.next_retry taskId reason rootSpecId force, trivial⟩
  | queues operation leaves => exact ⟨recorded.next_queues leaves, trivial⟩
  | rewrite path raw =>
    exact ⟨recorded.quiet (unblocking_rewritten _ path raw) rfl (fun _ => rfl) fun _ => rfl, trivial⟩
  | control snapshot => exact ⟨recorded.quiet (.refl _) rfl (fun _ => rfl) fun _ => rfl, trivial⟩

end Steps

/-! ## Runs -/

/-- In a run from records that agree with what has happened, no task is requeued too often, and no cycle requeues a task
that it must leave. -/
def KeepsToLimits (env : Environment) (config : AutoRecoveryConfig) (h : RetryHistory) (steps : List RecoveryStep) : Prop :=
  Runs.Throughout (RetryHistory.next env config) (WithinBudget config) h steps ∧
    Runs.Along (RetryHistory.next env config) (GuardedStep env config) h steps

/-- In an empty workspace there is nothing to record. -/
theorem recorded_empty (metadata : String → Option BlockedItemMetadata) (snapshot : RecoverySnapshot)
    (saved : Option RecoverySnapshot) :
    Recorded config ⟨⟨⟨.empty, 0⟩, metadata, snapshot, saved, [], []⟩, fun _ => 0, fun _ => none⟩ where
  counted _ := rfl
  bounded _ := Nat.zero_le _
  dated taskId _ blocked _ := by
    have free : Workspace.empty.file (taskPath .blocked taskId) = none := Workspace.file_empty _
    simp [isBlocked, RecoveryWorld.workspace, free] at blocked

theorem automatic_requeues_keep_to_limits (steps : List RecoveryStep) (h : RetryHistory) (recorded : Recorded config h)
    (sound : Runs.Along (RetryHistory.next env config) (fun h step => Sound env config h.world step) h steps) :
    KeepsToLimits env config h steps := by
  induction steps generalizing h with
  | nil => exact ⟨recorded.bounded, trivial⟩
  | cons step steps ih =>
    obtain ⟨next, guarded⟩ := recorded.next sound.1
    obtain ⟨bounded, guards⟩ := ih _ next sound.2
    exact ⟨⟨recorded.bounded, bounded⟩, guarded, guards⟩

end

/-! ## A task that is blocked again -/

section Concrete

local instance zonesOfRetries : Rfc3339 := twoZones

/-- A task runs again after its first retry, and another one waits for it. -/
def runningAgain : Workspace :=
  (Workspace.empty.insert (taskPath .active "b") (renderTaskDocument (plainTask "b" [] inAthens))).insert
    (taskPath .queue "c") (renderTaskDocument (plainTask "c" ["b"] inAthens))

theorem runningAgain_file (state : ItemState) (taskId : String) : runningAgain.file (taskPath state taskId) =
    if state = .queue ∧ taskId = "c" then some (renderTaskDocument (plainTask "c" ["b"] inAthens))
    else if state = .active ∧ taskId = "b" then some (renderTaskDocument (plainTask "b" [] inAthens))
    else none := by
  unfold runningAgain
  rw [Workspace.file_insert_task, Workspace.file_insert_task, Workspace.file_empty]

/-- The metadata on disk are those of the first time. -/
def retriedOnce : RetryHistory where
  world := {
    queue := ⟨runningAgain, 0⟩
    metadata := fun taskId => if taskId = "b" then some networkFailure else none
    snapshot := ⟨false, false, [.execution], 1, 0, 0⟩
    saved := none
    diagnostics := []
    events := [] }
  autoRequeued _ := 0
  blockedAt _ := none

theorem retriedOnce_recorded : Recorded .standard retriedOnce where
  counted _ := rfl
  bounded _ := Nat.zero_le _
  dated taskId _ blocked _ := by
    have free : runningAgain.file (taskPath .blocked taskId) = none := by simp [runningAgain_file]
    have there : (runningAgain.file (taskPath .blocked taskId)).isSome = true := blocked
    rw [free] at there
    cases there

/-- The builder is blocked in London an hour later. -/
def blockedAgain : BlockedStage where
  workItemId := ⟨"b", by decide⟩
  completedAt := inLondon
  metadataFailureClass := some "network_unavailable"
  decisionFailureClass := none
  autoRequeueCandidate := true
  activeWorkItemPath := none
  runId := "run-2"
  plane := .execution
  stage := "builder"
  terminalResult := "BLOCKED"
  stageResultPath := "runs/run-2/result.json"
  stdoutPath := none
  stderrPath := none

/-- The daemon has cleared the run. -/
def cleared : RecoverySnapshot := ⟨false, false, [], 1, 0, 0⟩

def blockedThenIdle : List RecoveryStep := [.stageBlocked [] blockedAgain, .control cleared, .idleCycle inLondon]

theorem cooldownFor_standard (attempts : Nat) : (cooldownFor .standard attempts).toNat < 2 ^ 63 := by
  rcases attempts with _ | _ | _ | attempts
  · decide
  · decide
  · decide
  · simp [cooldownFor, AutoRecoveryConfig.standard]

theorem blockedAgain_given : blockedAgain.Given := by
  refine ⟨by decide, by decide, by decide, by decide, by decide, ?_, ?_⟩
  · rintro _ ⟨⟩
  · rintro _ ⟨⟩

theorem retriedOnce_keeps_to_limits : KeepsToLimits calmEnvironment .standard retriedOnce blockedThenIdle := by
  refine automatic_requeues_keep_to_limits blockedThenIdle retriedOnce retriedOnce_recorded ⟨?_, trivial, ?_, trivial⟩
  · rintro - - - -
    exact ⟨blockedAgain_given, fun _ _ => rfl⟩
  · exact fun taskId _ => ⟨Or.inl rfl, cooldownFor_standard _, fun _ _ => ⟨rfl, rfl⟩⟩

/-- The disk is full when the metadata of the second time are written. -/
def fullDisk : Environment where
  root := "/workspace"
  reading n := { now := inLondon, suffix := 0, fault := if n = 2 then some "No space left on device" else none }

/-- The queues when the task is blocked for the second time. -/
def blockedTwice : Workspace :=
  (runningAgain.erase (taskPath .active "b")).insert (taskPath .blocked "b") (renderTaskDocument (plainTask "b" [] inAthens))

theorem blockedTwice_file (state : ItemState) (taskId : String) : blockedTwice.file (taskPath state taskId) =
    if state = .blocked ∧ taskId = "b" then some (renderTaskDocument (plainTask "b" [] inAthens))
    else if state = .queue ∧ taskId = "c" then some (renderTaskDocument (plainTask "c" ["b"] inAthens))
    else none := by
  unfold blockedTwice
  rw [Workspace.file_insert_task, Workspace.file_erase_task, runningAgain_file]
  cases state <;> simp

theorem blockActiveTask_fullDisk : after (blockActiveTask fullDisk [] blockedAgain) retriedOnce.world =
    { retriedOnce.world with queue := ⟨blockedTwice, 3⟩ } :=
  blockActiveTask_unwritten blockedAgain_given ((runningAgain_file .active "b").trans rfl)
    ((runningAgain_file .blocked "b").trans rfl) ⟨rfl, rfl⟩ (by unfold Passes; decide)

/-- The world that the idle cycle finds. -/
def stale : RecoveryWorld := { retriedOnce.world with queue := ⟨blockedTwice, 3⟩, snapshot := cleared }

theorem stale_waiting : readTaskDocumentOrNone fullDisk blockedTwice (taskPath .queue "c") =
    some (plainTask "c" ["b"] inAthens) :=
  readTask_plain ((blockedTwice_file .queue "c").trans rfl) (by decide) (by decide)

theorem stale_blocked : readTaskDocumentOrNone fullDisk blockedTwice (taskPath .blocked "b") =
    some (plainTask "b" [] inAthens) :=
  readTask_plain ((blockedTwice_file .blocked "b").trans rfl) (by decide) (by decide)

theorem stale_holdsUp : HoldsUp fullDisk stale.workspace "b" := by
  refine ⟨taskPath .queue "c", ?_, _, stale_waiting, by decide, _, stale_blocked, rfl⟩
  have there : (blockedTwice.file (taskPath .queue "c")).isSome := by simp [blockedTwice_file]
  exact (Workspace.mem_markdownFiles _ _ _).mpr ⟨rfl, there⟩

/-- No other task holds up a queued one. -/
theorem stale_only {taskId : String} (holdsUp : HoldsUp fullDisk stale.workspace taskId) : taskId = "b" := by
  obtain ⟨⟨directory, stem⟩, listed, queued, read, depends, -⟩ := holdsUp
  obtain ⟨rfl, there⟩ := (Workspace.mem_markdownFiles _ _ _).mp listed
  have named : stem = "c" := by
    have there' : (blockedTwice.file (taskPath .queue stem)).isSome = true := there
    by_contra other
    simp [blockedTwice_file, other] at there'
  rw [named] at read
  have same : queued = plainTask "c" ["b"] inAthens := Option.some.inj (read.symm.trans stale_waiting)
  rw [same] at depends
  exact List.mem_singleton.mp depends

theorem stale_served : FirstServed fullDisk .standard inLondon stale "b" where
  eligible := by
    refine ⟨stale_holdsUp, networkFailure, by decide, by decide, by decide, ?_⟩
    unfold CooldownPassed
    decide
  unfinished done := by
    obtain ⟨⟨directory, stem⟩, listed, rfl⟩ := List.mem_map.mp done
    obtain ⟨rfl, there⟩ := (Workspace.mem_markdownFiles _ _ _).mp listed
    have there' : (blockedTwice.file (taskPath .done "b")).isSome = true := there
    simp [blockedTwice_file] at there'
  first other holdsUp _ := (stale_only holdsUp).ge
  safe := by decide
  only := ⟨(blockedTwice_file .queue "b").trans rfl, (blockedTwice_file .active "b").trans rfl,
    (blockedTwice_file .done "b").trans rfl⟩
  counting := Or.inl rfl
  passes := by
    unfold Passes
    decide

theorem stale_frees : Frees fullDisk .standard stale (.idleCycle inLondon) "b" := by
  have requeued : ¬ isBlocked (RecoveryStep.apply fullDisk .standard stale (.idleCycle inLondon)) "b" := by
    obtain ⟨_, t, ran, _, -, -, moved⟩ := stale_served.handsBack (by decide)
    rw [apply_idleCycle ran, moved.isBlocked]
    simp
  have blocked : isBlocked stale "b" := by
    have there : (blockedTwice.file (taskPath .blocked "b")).isSome := by simp [blockedTwice_file]
    exact there
  exact ⟨blocked, requeued⟩

/-- The task goes back to its queue in the moment in which it was blocked, and not five minutes later. -/
theorem stale_metadata_requeued :
    ¬ ∀ (env : Environment) (config : AutoRecoveryConfig) (h : RetryHistory) (steps : List RecoveryStep),
      Recorded config h → KeepsToLimits env config h steps := by
  intro kept
  obtain ⟨-, -, -, guarded, -⟩ := kept fullDisk .standard retriedOnce blockedThenIdle retriedOnce_recorded
  have world : (RetryHistory.next fullDisk .standard (RetryHistory.next fullDisk .standard retriedOnce
      (.stageBlocked [] blockedAgain)) (.control cleared)).world = stale := by
    show { after (blockActiveTask fullDisk [] blockedAgain) retriedOnce.world with snapshot := cleared } = stale
    rw [blockActiveTask_fullDisk]
    rfl
  have frees := stale_frees
  rw [← world] at frees
  obtain ⟨blockedAt, dated, waited⟩ := (guarded "b" frees).cooled
  have since : blockedAt = inLondon := by
    simp only [RetryHistory.next] at dated
    split at dated
    next => exact (Option.some.inj dated).symm
    next => cases dated
  rw [since] at waited
  revert waited
  show ¬ ((cooldownFor .standard 0).toNat : Int) ≤ secondsSince inLondon inLondon
  decide

end Concrete

end Millrace.Recovery
