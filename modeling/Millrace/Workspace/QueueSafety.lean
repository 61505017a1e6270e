import Millrace.WorkDocuments.RoundTrip
import Millrace.Workspace.QueueInvariant

/-! Every operation of the queue store on tasks, run to its end or stopped by an error, keeps the task directories
consistent. -/

set_option autoImplicit false

namespace Millrace.Queue
open Millrace.Text Millrace.Contracts Millrace.WorkDocuments Millrace.Action

section
variable [Rfc3339] {α β : Type}

/-- From a workspace in `P`, the operation ends in `Q`, or fails with consistent task directories. -/
def Within (P : Workspace → Prop) (x : StoreM α) (Q : α → Workspace → Prop) : Prop :=
  Holds (fun s => P s.workspace) x (fun a s => Q a s.workspace) (fun _ s => Consistent s.workspace)

def Keeping (x : StoreM α) : Prop := Keeps (fun s => Consistent s.workspace) x

/-- The operation changes no file. -/
def Reads (x : StoreM α) : Prop := Frames World.workspace x

theorem Reads.within {P : Workspace → Prop} {x : StoreM α} (reads : Reads x)
    (entails : ∀ w, P w → Consistent w) : Within P x (fun _ => P) :=
  reads.holds fun _ s => entails s.workspace

theorem Reads.keeping {x : StoreM α} (reads : Reads x) : Keeping x := reads.keeps (P := Consistent)

theorem Within.bind {P : Workspace → Prop} {Q : α → Workspace → Prop} {R : β → Workspace → Prop} {x : StoreM α}
    {f : α → StoreM β} (first : Within P x Q) (rest : ∀ a, Within (Q a) (f a) R) : Within P (x >>= f) R :=
  Holds.bind first rest

theorem Within.weaken {P P' : Workspace → Prop} {Q Q' : α → Workspace → Prop} {x : StoreM α}
    (within : Within P' x Q') (pre : ∀ w, P w → P' w) (post : ∀ a w, Q' a w → Q a w) : Within P x Q :=
  Holds.weaken within (fun s => pre s.workspace) (fun a s => post a s.workspace) fun _ _ holds => holds

theorem Within.assume {P : Workspace → Prop} {Q : α → Workspace → Prop} {x : StoreM α} {fact : Prop}
    (given : ∀ w, P w → fact) (within : fact → Within P x Q) : Within P x Q :=
  Holds.assume (fun s => given s.workspace) within

theorem Within.ite {P : Workspace → Prop} {Q : α → Workspace → Prop} {condition : Prop} [Decidable condition]
    {x y : StoreM α} (yes : condition → Within P x Q) (no : ¬condition → Within P y Q) :
    Within P (if condition then x else y) Q := Holds.ite yes no

theorem Keeping.within {x : StoreM α} (keeping : Keeping x) : Within Consistent x fun _ => Consistent := keeping

theorem Within.keeping {x : StoreM α} (within : Within Consistent x fun _ => Consistent) : Keeping x := within

/-! ## Primitive operations -/

variable (env : Environment)

theorem reading_reads : Reads (reading env) := fun _ _ same => same

theorem currentTimestamp_reads : Reads (currentTimestamp env) := .bind (reading_reads env) fun _ => .pure _

theorem currentWorkspace_reads : Reads currentWorkspace := fun _ _ same => same

theorem fileOperation_reads (relative : String) : Reads (fileOperation env relative) := by
  refine .bind (reading_reads env) fun answer => ?_
  cases answer.fault with
  | none => exact .pure _
  | some message => exact .throw _

theorem refuseIf_reads (condition : Prop) [Decidable condition] (error : QueueStoreError) :
    Reads (refuseIf condition error) := .ite (.throw _) (.pure _)

theorem isFile_reads (path : DocumentPath) : Reads (isFile path) :=
  .bind currentWorkspace_reads fun _ => .pure _

theorem listMarkdownFiles_reads (d : Directory) : Reads (listMarkdownFiles env d) :=
  .bind (fileOperation_reads env _) fun _ => .bind currentWorkspace_reads fun _ => .pure _

theorem readIfPresent_reads (path : DocumentPath) : Reads (readIfPresent env path) :=
  .bind (fileOperation_reads env _) fun _ => .bind currentWorkspace_reads fun _ => .pure _

theorem readOrSkip_reads (path : DocumentPath) : Reads (readOrSkip env path) := by
  refine .bind (reading_reads env) fun answer => ?_
  cases answer.fault with
  | none => exact .bind currentWorkspace_reads fun _ => .pure _
  | some message => exact .pure _

section Facts
variable {P : Workspace → Prop}

theorem currentWorkspace_within : Within P currentWorkspace fun w w' => w = w' ∧ P w' :=
  fun _ holds => ⟨rfl, holds⟩

theorem isFile_within (path : DocumentPath) :
    Within P (isFile path) fun there w => there = (w.file path).isSome ∧ P w := fun _ holds => ⟨rfl, holds⟩

theorem refuseIf_within (entails : ∀ w, P w → Consistent w) (condition : Prop) [Decidable condition]
    (error : QueueStoreError) : Within P (refuseIf condition error) fun _ w => ¬condition ∧ P w :=
  .ite (fun _ => .throw fun s holds => entails s.workspace holds)
    fun passes => .pure fun _ holds => ⟨passes, holds⟩

theorem modifyWorkspace_within {Q : Workspace → Prop} {f : Workspace → Workspace} (step : ∀ w, P w → Q (f w)) :
    Within P (modifyWorkspace f) fun _ => Q := fun s holds => step s.workspace holds

theorem listMarkdownFiles_within (entails : ∀ w, P w → Consistent w) (d : Directory) :
    Within P (listMarkdownFiles env d) fun paths w => paths = w.markdownFiles d ∧ P w :=
  .bind ((fileOperation_reads env _).within entails) fun _ =>
    .bind currentWorkspace_within fun _ => .pure fun _ holds =>
      ⟨congrArg (Workspace.markdownFiles · d) holds.1, holds.2⟩

theorem readIfPresent_within (entails : ∀ w, P w → Consistent w) (path : DocumentPath) :
    Within P (readIfPresent env path) fun raw w => raw = w.file path ∧ P w :=
  .bind ((fileOperation_reads env _).within entails) fun _ =>
    .bind currentWorkspace_within fun _ => .pure fun _ holds => ⟨congrArg (Workspace.file · path) holds.1, holds.2⟩

theorem readToString_within (entails : ∀ w, P w → Consistent w) (path : DocumentPath) :
    Within P (readToString env path) fun raw w => w.file path = some raw ∧ P w := by
  refine .bind (readIfPresent_within env entails path) fun found => ?_
  cases found with
  | none => exact .throw fun s holds => entails s.workspace holds.2
  | some raw => exact .pure fun s holds => ⟨holds.1.symm, holds.2⟩

end Facts

theorem appendLine_keeping (relative : String) (line : LogLine) : Keeping (appendLine env relative line) :=
  .bind (fileOperation_reads env _).keeping fun _ =>
    modifyWorkspace_within fun _ consistent => consistent.congr fun _ _ => rfl

/-- A rename keeps what its two changes of the workspace keep. -/
theorem rename_within {P Q : Workspace → Prop} {source destination : DocumentPath}
    (entails : ∀ w, P w → Consistent w)
    (step : ∀ w raw, P w → w.file source = some raw → Q ((w.erase source).insert destination raw)) :
    Within P (rename env source destination) fun _ => Q := by
  refine .bind ((fileOperation_reads env _).within entails) fun _ => .bind currentWorkspace_within fun w => ?_
  cases found : w.file source with
  | none => exact .throw fun s holds => entails s.workspace holds.2
  | some raw =>
    refine modifyWorkspace_within fun w' holds => step w' raw holds.2 ?_
    rw [← holds.1, found]

theorem writeDocument_within {P Q : Workspace → Prop} {destination : DocumentPath} {raw : String}
    (entails : ∀ w, P w → Consistent w) (step : ∀ w, P w → Q (w.insert destination raw)) :
    Within P (writeDocument env destination raw) fun _ => Q :=
  .bind ((fileOperation_reads env _).within entails) fun _ =>
    .bind ((fileOperation_reads env _).within entails) fun _ => modifyWorkspace_within step

theorem rename_archive_keeping (source : DocumentPath) {destination : DocumentPath}
    (archived : destination.directory.archive.isSome) : Keeping (rename env source destination) :=
  rename_within env (fun _ holds => holds) fun _ raw consistent _ =>
    (consistent.erase source).insert_archive raw archived

/-! ## Selecting a task -/

/-- What survives when the selection puts files aside. -/
structure Stable (P : Workspace → Prop) : Prop where
  consistent : ∀ w, P w → Consistent w
  setAside : ∀ w path quarantined, P w → P { w.erase path with quarantined := quarantined }
  logged : ∀ w log, P w → P { w with log := log }

theorem stable_consistent : Stable Consistent where
  consistent _ holds := holds
  setAside _ path _ holds := (holds.erase path).congr fun _ _ => rfl
  logged _ _ holds := holds.congr fun _ _ => rfl

theorem stable_noActive : Stable fun w => Consistent w ∧ NoActive w where
  consistent _ holds := holds.1
  setAside w path quarantined holds := by
    refine ⟨stable_consistent.setAside w path quarantined holds.1, fun taskId => ?_⟩
    show (w.erase path).file _ = none
    rw [Workspace.file_erase, holds.2 taskId, ite_self]
  logged w log holds := ⟨stable_consistent.logged w log holds.1, holds.2⟩

section Selection
variable {P : Workspace → Prop} (stable : Stable P)
include stable

theorem quarantineInvalidArtifact_within (path : DocumentPath) (error : String) :
    Within P (quarantineInvalidArtifact env path error) fun _ => P := by
  refine .bind ((fileOperation_reads env _).within stable.consistent) fun _ => .bind currentWorkspace_within fun w => ?_
  cases w.file path with
  | none => exact .pure fun _ holds => holds.2
  | some raw =>
    refine .bind (modifyWorkspace_within (Q := P) fun w' holds => stable.setAside w' path _ holds.2) fun _ => ?_
    refine .bind ((currentTimestamp_reads env).within stable.consistent) fun _ => ?_
    exact .bind ((fileOperation_reads env _).within stable.consistent) fun _ =>
      modifyWorkspace_within fun w' holds => stable.logged w' _ holds

theorem candidateAt_within (completed : List String) (rootSpecId : Option String) (path : DocumentPath) :
    Within P (candidateAt env completed rootSpecId path) fun candidate w => (∀ c ∈ candidate, c.path = path) ∧ P w := by
  have aside : ∀ error, Within P (quarantineInvalidArtifact env path error >>= fun _ => pure none)
      fun (candidate : Option Candidate) w => (∀ c ∈ candidate, c.path = path) ∧ P w := fun error =>
    .bind (quarantineInvalidArtifact_within env stable path error) fun _ => .pure fun _ holds => ⟨by simp, holds⟩
  refine .bind ((readIfPresent_reads env path).within stable.consistent) fun found => ?_
  cases found with
  | none => exact .pure fun _ holds => ⟨by simp, holds⟩
  | some raw =>
    dsimp only
    split
    · exact aside _
    · exact .ite (fun _ => aside _) fun _ => .ite (fun _ => .pure fun _ holds => ⟨by simp, holds⟩)
        fun _ => .pure fun _ holds => ⟨by simp, holds⟩

theorem collectCandidates_within (completed : List String) (rootSpecId : Option String) (paths : List DocumentPath) :
    Within P (collectCandidates env completed rootSpecId paths) fun candidates w =>
      (∀ c ∈ candidates, c.path ∈ paths) ∧ P w := by
  induction paths with
  | nil => exact .pure fun _ holds => ⟨by simp, holds⟩
  | cons path rest ih =>
    refine .bind (candidateAt_within env stable completed rootSpecId path) fun candidate => ?_
    refine .assume (fun _ holds => holds.1) fun first => ?_
    refine .bind (ih.weaken (fun _ holds => holds.2) fun _ _ holds => holds) fun others => ?_
    refine .pure fun s holds => ⟨fun c member => ?_, holds.2⟩
    rcases List.mem_append.mp member with member | member
    · simp [first c (Option.mem_toList.mp member)]
    · exact List.mem_cons_of_mem _ (holds.1 c member)

theorem selectOldestEligibleTask_within (rootSpecId : Option String) :
    Within P (selectOldestEligibleTask env rootSpecId) fun candidate w =>
      (∀ c ∈ candidate, c.path = taskPath .queue c.path.stem) ∧ P w := by
  refine .bind ((listMarkdownFiles_reads env _).within stable.consistent) fun completed => ?_
  refine .bind (listMarkdownFiles_within env stable.consistent _) fun queued => ?_
  have listed : ∀ w, queued = w.markdownFiles ⟨.task, .queue, none⟩ ∧ P w →
      ∀ path ∈ queued, path.directory = ⟨.task, .queue, none⟩ := by
    intro w holds path member
    rw [holds.1] at member
    exact ((Workspace.mem_markdownFiles _ _ _).mp member).1
  refine .assume listed fun inQueue => ?_
  refine .bind ((collectCandidates_within env stable _ rootSpecId queued).weaken (fun _ holds => holds.2)
    fun _ _ holds => holds) fun candidates => ?_
  refine .pure fun s holds => ⟨fun c member => ?_, holds.2⟩
  have listed : c ∈ candidates := List.mem_mergeSort.mp (List.mem_of_mem_head? member)
  have directory := inQueue _ (holds.1 c listed)
  cases same : c.path with
  | mk d stem =>
    rw [same] at directory
    simp [taskPath, ← directory]

end Selection

/-! ## Moving a task -/

theorem readTaskDocumentOrNone_reads (path : DocumentPath) : Reads (readTaskDocumentOrNone env path) := by
  refine .bind (readOrSkip_reads env path) fun found => ?_
  cases found with
  | none => exact .pure _
  | some raw =>
    dsimp only
    split
    · exact .pure _
    · exact .pure _

theorem supersededTaskPath_within (taskId timestamp : String) (tries : Nat) :
    Within Consistent (supersededTaskPath env taskId timestamp tries) fun path w =>
      path.directory.archive.isSome ∧ Consistent w := by
  induction tries with
  | zero =>
    exact .bind ((reading_reads env).within fun _ holds => holds) fun _ => .pure fun _ holds => ⟨rfl, holds⟩
  | succ tries ih =>
    refine .bind ((reading_reads env).within fun _ holds => holds) fun _ => ?_
    refine .bind ((isFile_reads _).within fun _ holds => holds) fun _ => ?_
    exact .ite (fun _ => ih) fun _ => .pure fun _ holds => ⟨rfl, holds⟩

theorem moveItemFromState_keeping (source destination : ItemState) (inactive : destination ≠ .active)
    (taskId sourceState : String) : Keeping (moveItemFromState env .task source destination taskId sourceState) := by
  refine .bind (isFile_reads _).keeping fun _ => .bind (refuseIf_reads _ _).keeping fun _ => ?_
  refine .bind (fileOperation_reads env _).keeping fun _ => ?_
  refine .bind (isFile_reads _).keeping fun _ => .bind (refuseIf_reads _ _).keeping fun _ => ?_
  refine .bind (rename_within env (fun _ holds => holds) fun w raw consistent found => ?_) fun _ => .pure _
  exact consistent.move found fun active => absurd active inactive

/-- Each check writes nothing, so what the earlier ones found free is still free after the last. -/
theorem ensureUniqueId_within {P : Workspace → Prop} (entails : ∀ w, P w → Consistent w) (taskId : String)
    (states : List ItemState) : Within P (ensureUniqueId .task taskId states) fun _ w =>
      (∀ state ∈ states, w.file (taskPath state taskId) = none) ∧ P w := by
  induction states generalizing P with
  | nil => exact .pure fun _ holds => ⟨by simp, holds⟩
  | cons state rest ih =>
    refine .bind (isFile_within _) fun there => ?_
    refine .bind (refuseIf_within (fun w holds => entails w holds.2) _ _) fun _ => ?_
    have later := ih (P := fun w => w.file (taskPath state taskId) = none ∧ P w) fun w holds => entails w holds.2
    refine later.weaken (fun w holds => ⟨?_, holds.2.2⟩) fun _ w holds => ⟨?_, holds.2.2⟩
    · have absent := holds.1
      rw [holds.2.1] at absent
      simpa [taskPath] using absent
    · simpa using ⟨holds.2.1, holds.1⟩

theorem enqueueTask_keeping (document : TaskDocument) : Keeping (enqueueTask env document) := by
  unfold enqueueTask
  cases valid : document.validate with
  | error source => exact .throw _
  | ok _ =>
    have safe := (document.validate_iff.mp valid).taskId
    have holding : Holding document.taskId (renderTaskDocument document) := .render safe rfl
    refine Within.keeping (.bind (ensureUniqueId_within (fun _ holds => holds) document.taskId _) fun _ => ?_)
    refine .bind (writeDocument_within (Q := Consistent) env (fun _ holds => holds.2) fun w holds => ?_) fun _ =>
      .pure fun _ holds => holds
    exact holds.2.insert_new holding (fun state => holds.1 state (by cases state <;> simp)) (by simp)

theorem noActive_of_markdownFiles {w : Workspace} (idle : w.markdownFiles ⟨.task, .active, none⟩ = []) :
    NoActive w := by
  intro taskId
  have absent : taskPath .active taskId ∉ w.markdownFiles ⟨.task, .active, none⟩ := by simp [idle]
  simpa [Workspace.mem_markdownFiles, taskPath] using absent

theorem claimNextExecutionTask_keeping (rootSpecId : Option String) :
    Keeping (claimNextExecutionTask env rootSpecId) := by
  refine Within.keeping (.bind (listMarkdownFiles_within env (fun _ holds => holds) _) fun active => ?_)
  refine .bind (refuseIf_within (fun _ holds => holds.2) _ _) fun _ => ?_
  refine .ite (fun _ => .pure fun _ holds => holds.2.2) fun idle => ?_
  -- nothing is active yet, and the selection only takes files away
  have start : ∀ w, active = w.markdownFiles ⟨.task, .active, none⟩ → NoActive w := fun w listed =>
    noActive_of_markdownFiles (listed ▸ Classical.not_not.mp idle)
  have selects := selectOldestEligibleTask_within env stable_noActive rootSpecId
  refine .bind (selects.weaken (fun w holds => ⟨holds.2.2, start w holds.2.1⟩) fun _ _ holds => holds) fun found => ?_
  cases found with
  | none => exact .pure fun _ holds => holds.2.1
  | some candidate =>
    refine .assume (fun w holds => holds.1 candidate rfl) fun queued => ?_
    refine .bind (rename_within (Q := Consistent) env (fun _ holds => holds.2.1) fun w raw holds there => ?_) fun _ =>
      .pure fun _ holds => holds
    rw [queued] at there ⊢
    exact holds.2.1.move there fun _ => holds.2.2

theorem retireStaleBlockedTaskDuplicateAfterDone_keeping (taskId : String) :
    Keeping (retireStaleBlockedTaskDuplicateAfterDone env taskId) := by
  refine .bind (isFile_reads _).keeping fun _ => .bind (isFile_reads _).keeping fun _ => ?_
  refine .ite (fun _ => .pure _) fun _ => .bind (readTaskDocumentOrNone_reads env _).keeping fun blocked => ?_
  cases blocked with
  | none => exact .pure _
  | some blockedDocument =>
    refine .bind (readTaskDocumentOrNone_reads env _).keeping fun done => ?_
    cases done with
    | none => exact .pure _
    | some doneDocument =>
      dsimp only
      split
      · exact .pure _
      · refine .ite (fun _ => .pure _) fun _ => .bind (fileOperation_reads env _).keeping fun _ => ?_
        refine .bind (currentTimestamp_reads env).keeping fun archivedAt => ?_
        refine Within.keeping (.bind (supersededTaskPath_within env _ _ _) fun archivePath => ?_)
        refine .assume (fun _ holds => holds.1) fun archived => ?_
        refine .bind ((rename_archive_keeping env _ archived).within.weaken (fun _ holds => holds.2)
          fun _ _ holds => holds) fun _ => ?_
        exact .bind (appendLine_keeping env _ _).within fun _ => .pure fun _ holds => holds

theorem appendRequeueReason_keeping (d : Directory) (taskId : String) (kind : WorkItemKind) (reason : String) :
    Keeping (appendRequeueReason env d taskId kind reason) :=
  .bind (refuseIf_reads _ _).keeping fun _ => .bind (fileOperation_reads env _).keeping fun _ =>
    .bind (currentTimestamp_reads env).keeping fun _ => appendLine_keeping env _ _

theorem validateBlockedRequeueAudit_reads (reason actor : String) (attemptNumber : Option Nat) :
    Reads (validateBlockedRequeueAudit reason actor attemptNumber) :=
  .bind (refuseIf_reads _ _) fun _ => .bind (refuseIf_reads _ _) fun _ => refuseIf_reads _ _

theorem appendBlockedRequeueAudit_keeping (d : Directory) (taskId reason actor : String) (auto : Bool)
    (failureClass : Option String) (attemptNumber : Option Nat) :
    Keeping (appendBlockedRequeueAudit env d taskId reason actor auto failureClass attemptNumber) :=
  .bind (validateBlockedRequeueAudit_reads _ _ _).keeping fun _ => .bind (fileOperation_reads env _).keeping fun _ =>
    .bind (currentTimestamp_reads env).keeping fun _ => appendLine_keeping env _ _

/-! ## Interventions of an operator -/

theorem cleanReason_reads (reason : String) : Reads (cleanReason reason) :=
  .bind (refuseIf_reads _ _) fun _ => .pure _

theorem cleanActor_reads (actor : String) : Reads (cleanActor actor) :=
  .bind (refuseIf_reads _ _) fun _ => .pure _

theorem interventionTimes_reads (context : OperatorInterventionContext) : Reads (interventionTimes env context) :=
  .bind (currentTimestamp_reads env) fun _ => .pure _

theorem requireIdentifier_reads (value fieldName : String) : Reads (requireIdentifier value fieldName) := by
  unfold requireIdentifier
  split
  · exact .pure _
  · exact .throw _

theorem requireReplacementTask_reads (taskId : String) : Reads (requireReplacementTask taskId) :=
  .bind currentWorkspace_reads fun _ => refuseIf_reads _ _

theorem locateExactTask_reads (taskId : String) (states : List ItemState) : Reads (locateExactTask taskId states) := by
  refine .bind currentWorkspace_reads fun w => ?_
  dsimp only
  split
  · exact .throw _
  · exact .pure _
  · exact .throw _

theorem locateCancelableWorkItem_reads (workItemId : String) (kind : Option WorkItemKind) :
    Reads (locateCancelableWorkItem workItemId kind) := by
  refine .bind currentWorkspace_reads fun w => ?_
  dsimp only
  split
  · exact .throw _
  · exact .pure _
  · exact .throw _

theorem dependentsAmong_reads (oldTaskId : String) (paths : List DocumentPath) :
    Reads (dependentsAmong env oldTaskId paths) := by
  induction paths with
  | nil => exact .pure _
  | cons path rest ih => exact .bind (readTaskDocumentOrNone_reads env path) fun _ => .bind ih fun _ => .pure _

theorem queuedDependents_reads (oldTaskId : String) : Reads (queuedDependents env oldTaskId) :=
  .bind (listMarkdownFiles_reads env _) fun queued => dependentsAmong_reads env oldTaskId queued

theorem buildInterventionRecord_reads (action : OperatorInterventionAction) (kind : WorkItemKind)
    (workItemId sourceState destinationState : String) (sourcePath destinationPath : DocumentPath) (reason : String)
    (context : OperatorInterventionContext) (issuedAt appliedAt : Timestamp) (replacementWorkItemId : Option String)
    (affectedDependents : List String) :
    Reads (buildInterventionRecord action kind workItemId sourceState destinationState sourcePath destinationPath
      reason context issuedAt appliedAt replacementWorkItemId affectedDependents) :=
  .bind (cleanActor_reads _) fun _ => .pure _

theorem appendInterventionRecord_keeping (d : Directory) (record : OperatorInterventionRecord) :
    Keeping (appendInterventionRecord env d record) :=
  .bind (fileOperation_reads env _).keeping fun _ => appendLine_keeping env _ _

theorem writeOperatorRuntimeEvent_keeping (eventType : String) (record : OperatorInterventionRecord) :
    Keeping (writeOperatorRuntimeEvent env eventType record) :=
  .bind (fileOperation_reads env _).keeping fun _ => appendLine_keeping env _ _

theorem archiveLocatedItem_keeping (located : LocatedInterventionItem) (options : ArchiveLocatedOptions) :
    Keeping (archiveLocatedItem env located options) := by
  refine .bind (cleanReason_reads _).keeping fun reason => .bind (interventionTimes_reads env _).keeping fun times => ?_
  refine .bind (fileOperation_reads env _).keeping fun _ => .bind (reading_reads env).keeping fun _ => ?_
  refine .bind (isFile_reads _).keeping fun _ => .bind (refuseIf_reads _ _).keeping fun _ => ?_
  refine .bind (rename_archive_keeping env _ rfl) fun _ => ?_
  refine .bind (buildInterventionRecord_reads _ _ _ _ _ _ _ _ _ _ _ _ _).keeping fun record => ?_
  refine .bind (appendInterventionRecord_keeping env _ record) fun _ => ?_
  exact .bind (writeOperatorRuntimeEvent_keeping env _ record) fun _ => .pure _

/-! ## The operations -/

theorem markTaskDone_keeping (taskId : TaskId) : Keeping (markTaskDone env taskId) :=
  .bind (moveItemFromState_keeping env .active .done (by decide) _ _) fun _ =>
    .bind (retireStaleBlockedTaskDuplicateAfterDone_keeping env _) fun _ => .pure _

theorem requeueTask_keeping (taskId : TaskId) (reason : String) : Keeping (requeueTask env taskId reason) :=
  .bind (moveItemFromState_keeping env .active .queue (by decide) _ _) fun _ =>
    .bind (appendRequeueReason_keeping env _ _ _ _) fun _ => .pure _

theorem requeueBlockedTask_keeping (taskId : TaskId) (reason actor : String) (auto : Bool)
    (failureClass : Option String) (attemptNumber : Option Nat) :
    Keeping (requeueBlockedTask env taskId reason actor auto failureClass attemptNumber) :=
  .bind (validateBlockedRequeueAudit_reads _ _ _).keeping fun _ =>
    .bind (moveItemFromState_keeping env .blocked .queue (by decide) _ _) fun _ =>
      .bind (appendBlockedRequeueAudit_keeping env _ _ _ _ _ _ _) fun _ => .pure _

theorem cancelWorkItem_keeping (workItemId : String) (kind : Option WorkItemKind) (reason : String)
    (context : OperatorInterventionContext) : Keeping (cancelWorkItem env workItemId kind reason context) :=
  .bind (requireIdentifier_reads _ _).keeping fun _ => .bind (locateCancelableWorkItem_reads _ _).keeping fun _ =>
    archiveLocatedItem_keeping env _ _

theorem archiveBlockedTask_keeping (taskId reason : String) (context : OperatorInterventionContext) :
    Keeping (archiveBlockedTask env taskId reason context) :=
  .bind (requireIdentifier_reads _ _).keeping fun _ => .bind (locateExactTask_reads _ _).keeping fun _ =>
    archiveLocatedItem_keeping env _ _

/-- The rewritten document keeps its id: it was read from the file whose stem it is. -/
theorem retargetQueuedTaskDependency_keeping (taskId oldDependencyId newDependencyId reason : String)
    (context : OperatorInterventionContext) :
    Keeping (retargetQueuedTaskDependency env taskId oldDependencyId newDependencyId reason context) := by
  refine .bind (requireIdentifier_reads _ _).keeping fun _ => .bind (requireIdentifier_reads _ _).keeping fun _ => ?_
  refine .bind (requireIdentifier_reads _ _).keeping fun _ => .bind (cleanReason_reads _).keeping fun _ => ?_
  refine .bind (interventionTimes_reads env _).keeping fun times => .bind (isFile_reads _).keeping fun _ => ?_
  refine .bind (refuseIf_reads _ _).keeping fun _ => .bind (requireReplacementTask_reads _).keeping fun _ => ?_
  refine Within.keeping (.bind (readToString_within env (fun _ holds => holds) _) fun raw => ?_)
  dsimp only
  split
  · exact .throw fun s holds => holds.2
  next task parsed =>
  refine .bind ((refuseIf_reads _ _).within fun _ holds => holds.2) fun _ => ?_
  refine .bind ((refuseIf_reads _ _).within fun _ holds => holds.2) fun _ => ?_
  refine .bind (writeDocument_within (Q := Consistent) env (fun _ holds => holds.2) fun w holds => ?_) fun _ => ?_
  · have before := holds.2.holding _ _ _ holds.1
    have named : task.taskId = taskId := before.reads parsed
    exact holds.2.overwrite (.render before.1 named) (by simp [holds.1])
  refine Keeping.within (.bind (buildInterventionRecord_reads _ _ _ _ _ _ _ _ _ _ _ _ _).keeping fun record => ?_)
  refine .bind (appendInterventionRecord_keeping env _ record) fun _ => ?_
  exact .bind (writeOperatorRuntimeEvent_keeping env _ record) fun _ => .pure _

theorem cascadeTo_keeping (oldTaskId replacementTaskId reason : String) (cascade : MailboxSupersedeCascade)
    (context : OperatorInterventionContext) (dependent : String) :
    Keeping (cascadeTo env oldTaskId replacementTaskId reason cascade context dependent) := by
  cases cascade with
  | none => exact .pure _
  | retarget => exact .bind (retargetQueuedTaskDependency_keeping env _ _ _ _ _) fun _ => .pure _
  | cancel => exact .bind (cancelWorkItem_keeping env _ _ _ _) fun _ => .pure _

theorem supersedeTask_keeping (oldTaskId replacementTaskId reason : String) (cascade : MailboxSupersedeCascade)
    (context : OperatorInterventionContext) :
    Keeping (supersedeTask env oldTaskId replacementTaskId reason cascade context) := by
  refine .bind (requireIdentifier_reads _ _).keeping fun _ => .bind (requireIdentifier_reads _ _).keeping fun _ => ?_
  refine .bind (refuseIf_reads _ _).keeping fun _ => .bind (locateExactTask_reads _ _).keeping fun located => ?_
  refine .bind (requireReplacementTask_reads _).keeping fun _ => .bind (queuedDependents_reads env _).keeping fun _ => ?_
  refine .bind (archiveLocatedItem_keeping env located _) fun _ => ?_
  exact .bind (.forM _ fun dependent _ => cascadeTo_keeping env _ _ _ _ _ dependent) fun _ => .pure _

/-! ## Runs -/

inductive TaskOperation where
  | enqueueTask (document : TaskDocument)
  | claimNextExecutionTask (rootSpecId : Option String)
  | markTaskDone (taskId : TaskId)
  | markTaskBlocked (taskId : TaskId)
  | requeueTask (taskId : TaskId) (reason : String)
  | requeueBlockedTask (taskId : TaskId) (reason actor : String) (auto : Bool) (failureClass : Option String)
    (attemptNumber : Option Nat)
  | cancelWorkItem (workItemId : String) (kind : Option WorkItemKind) (reason : String)
    (context : OperatorInterventionContext)
  | archiveBlockedTask (taskId reason : String) (context : OperatorInterventionContext)
  | supersedeTask (oldTaskId replacementTaskId reason : String) (cascade : MailboxSupersedeCascade)
    (context : OperatorInterventionContext)
  | retargetQueuedTaskDependency (taskId oldDependencyId newDependencyId reason : String)
    (context : OperatorInterventionContext)

/-- The world after an operation, whether it succeeded or failed. -/
def TaskOperation.apply (world : World) : TaskOperation → World
  | .enqueueTask document => after (Queue.enqueueTask env document) world
  | .claimNextExecutionTask rootSpecId => after (Queue.claimNextExecutionTask env rootSpecId) world
  | .markTaskDone taskId => after (Queue.markTaskDone env taskId) world
  | .markTaskBlocked taskId => after (Queue.markTaskBlocked env taskId) world
  | .requeueTask taskId reason => after (Queue.requeueTask env taskId reason) world
  | .requeueBlockedTask taskId reason actor auto failureClass attemptNumber =>
    after (Queue.requeueBlockedTask env taskId reason actor auto failureClass attemptNumber) world
  | .cancelWorkItem workItemId kind reason context =>
    after (Queue.cancelWorkItem env workItemId kind reason context) world
  | .archiveBlockedTask taskId reason context => after (Queue.archiveBlockedTask env taskId reason context) world
  | .supersedeTask oldTaskId replacementTaskId reason cascade context =>
    after (Queue.supersedeTask env oldTaskId replacementTaskId reason cascade context) world
  | .retargetQueuedTaskDependency taskId oldDependencyId newDependencyId reason context =>
    after (Queue.retargetQueuedTaskDependency env taskId oldDependencyId newDependencyId reason context) world

theorem TaskOperation.apply_consistent (world : World) (operation : TaskOperation)
    (consistent : Consistent world.workspace) : Consistent (operation.apply env world).workspace := by
  cases operation with
  | enqueueTask document => exact (enqueueTask_keeping env document).after consistent
  | claimNextExecutionTask rootSpecId => exact (claimNextExecutionTask_keeping env rootSpecId).after consistent
  | markTaskDone taskId => exact (markTaskDone_keeping env taskId).after consistent
  | markTaskBlocked taskId =>
    exact (moveItemFromState_keeping env .active .blocked (by decide) taskId "active").after consistent
  | requeueTask taskId reason => exact (requeueTask_keeping env taskId reason).after consistent
  | requeueBlockedTask => exact (requeueBlockedTask_keeping env _ _ _ _ _ _).after consistent
  | cancelWorkItem => exact (cancelWorkItem_keeping env _ _ _ _).after consistent
  | archiveBlockedTask => exact (archiveBlockedTask_keeping env _ _ _).after consistent
  | supersedeTask => exact (supersedeTask_keeping env _ _ _ _ _).after consistent
  | retargetQueuedTaskDependency => exact (retargetQueuedTaskDependency_keeping env _ _ _ _ _).after consistent

/-- The world after a run of operations on an empty workspace. -/
def runTaskOperations (operations : List TaskOperation) : World :=
  operations.foldl (TaskOperation.apply env) ⟨.empty, 0⟩

theorem consistent_of_run (operations : List TaskOperation) :
    Consistent (runTaskOperations env operations).workspace :=
  foldl_keeps (I := fun world : World => Consistent world.workspace) (TaskOperation.apply_consistent env)
    operations .empty

/-- The id of a file: what its document says, or the stem where the document does not read. -/
def taskIdForPath (w : Workspace) (path : DocumentPath) : String :=
  match w.file path with
  | none => path.stem
  | some raw =>
    match parseTaskDocumentWithSource raw (absolute env path.relative) with
    | .ok document => document.taskId
    | .error _ => path.stem

def taskLifecycleFiles (w : Workspace) : List DocumentPath :=
  [ItemState.queue, .active, .done, .blocked].flatMap fun state => w.markdownFiles ⟨.task, state, none⟩

theorem mem_taskLifecycleFiles {w : Workspace} {path : DocumentPath} (member : path ∈ taskLifecycleFiles w) :
    ∃ state raw, path = taskPath state path.stem ∧ w.file path = some raw := by
  obtain ⟨state, -, listed⟩ := List.mem_flatMap.mp member
  obtain ⟨directory, there⟩ := (Workspace.mem_markdownFiles _ _ _).mp listed
  obtain ⟨raw, found⟩ := Option.isSome_iff_exists.mp there
  cases path with
  | mk d stem => exact ⟨state, raw, by simp [taskPath, ← directory], found⟩

theorem Consistent.taskIdForPath {w : Workspace} (consistent : Consistent w) {path : DocumentPath}
    (member : path ∈ taskLifecycleFiles w) : taskIdForPath env w path = path.stem := by
  obtain ⟨state, raw, place, found⟩ := mem_taskLifecycleFiles member
  have holding := consistent.holding state path.stem raw (place ▸ found)
  simp only [Queue.taskIdForPath, found]
  split
  next document parsed => exact holding.reads parsed
  next => rfl

end
end Millrace.Queue
