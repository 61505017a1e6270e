import Millrace.Recovery.StrandedTasks
import Millrace.Workspace.QueueSafety

/-! Of the operations of the queue store, which block no task and note no automatic requeue. -/

set_option autoImplicit false

namespace Millrace.Recovery
open Millrace.Text Millrace.Contracts Millrace.WorkDocuments Millrace.Action Millrace.Queue

section
variable [Rfc3339] {α : Type}

/-- No task is newly blocked, and the logs tell of the same automatic requeues. -/
structure Unblocking (w w' : Workspace) : Prop where
  blocked : ∀ taskId, (w'.file (taskPath .blocked taskId)).isSome → (w.file (taskPath .blocked taskId)).isSome
  automatic : ∀ taskId, autoRequeues w' taskId = autoRequeues w taskId

namespace Unblocking
variable {w w' w'' : Workspace}

theorem refl (w : Workspace) : Unblocking w w := ⟨fun _ there => there, fun _ => rfl⟩

theorem trans (first : Unblocking w w') (second : Unblocking w' w'') : Unblocking w w'' where
  blocked taskId there := first.blocked taskId (second.blocked taskId there)
  automatic taskId := (second.automatic taskId).trans (first.automatic taskId)

theorem erase (path : DocumentPath) : Unblocking w (w.erase path) where
  blocked taskId there := by
    rw [Workspace.file_erase] at there
    split at there
    · cases there
    · exact there
  automatic _ := rfl

theorem insert {path : DocumentPath} (raw : String) (elsewhere : path.directory ≠ ⟨.task, .blocked, none⟩) :
    Unblocking w (w.insert path raw) where
  blocked taskId there := by
    rw [Workspace.file_insert, if_neg] at there
    · exact there
    · rintro rfl
      exact elsewhere rfl
  automatic _ := rfl

theorem append {relative : String} {line : LogLine} (manual : LogLine.isAutoRequeue line = false) :
    Unblocking w { w with log := w.log ++ [(relative, line)] } where
  blocked _ there := there
  automatic taskId := by simp [autoRequeues, manual]

end Unblocking

/-- The relation between the worlds before and after an operation. -/
def UnblockingStep (s t : World) : Prop := Unblocking s.workspace t.workspace

instance : Std.Refl UnblockingStep := ⟨fun s => .refl s.workspace⟩

instance : IsTrans World UnblockingStep := ⟨fun _ _ _ => .trans⟩

def Unblocks (x : StoreM α) : Prop := Advances UnblockingStep x

theorem unblocks_of_reads {x : StoreM α} (reads : Reads x) : Unblocks x := by
  intro s t same
  have kept := reads s.workspace t (same ▸ rfl)
  have still {u : World} (held : u.workspace = s.workspace) : UnblockingStep s u := by
    unfold UnblockingStep
    rw [held]
    exact .refl _
  cases ran : x t with
  | ok a u =>
    rw [ran] at kept
    exact still kept
  | error e u =>
    rw [ran] at kept
    exact still kept

variable (env : Environment)

theorem modifyWorkspace_unblocks {f : Workspace → Workspace} (step : ∀ w, Unblocking w (f w)) :
    Unblocks (modifyWorkspace f) := Advances.modify fun s => step s.workspace

theorem rename_unblocks (source : DocumentPath) {destination : DocumentPath}
    (elsewhere : destination.directory ≠ ⟨.task, .blocked, none⟩) : Unblocks (rename env source destination) := by
  refine .bind (unblocks_of_reads (fileOperation_reads env _)) fun _ => ?_
  refine .bind (unblocks_of_reads currentWorkspace_reads) fun w => ?_
  cases w.file source with
  | none => exact .throw _
  | some raw => exact modifyWorkspace_unblocks fun _ => (Unblocking.erase source).trans (.insert raw elsewhere)

theorem readToString_reads (path : DocumentPath) : Reads (readToString env path) := by
  refine .bind (readIfPresent_reads env path) fun found => ?_
  cases found with
  | none => exact .throw _
  | some raw => exact .pure _

theorem writeDocument_unblocks {destination : DocumentPath} (raw : String)
    (elsewhere : destination.directory ≠ ⟨.task, .blocked, none⟩) : Unblocks (writeDocument env destination raw) :=
  .bind (unblocks_of_reads (fileOperation_reads env _)) fun _ =>
    .bind (unblocks_of_reads (fileOperation_reads env _)) fun _ =>
      modifyWorkspace_unblocks fun _ => .insert raw elsewhere

theorem appendLine_unblocks (relative : String) {line : LogLine} (manual : LogLine.isAutoRequeue line = false) :
    Unblocks (appendLine env relative line) :=
  .bind (unblocks_of_reads (fileOperation_reads env _)) fun _ => modifyWorkspace_unblocks fun _ => .append manual

omit [Rfc3339] in
theorem taskPath_elsewhere {state : ItemState} (elsewhere : state ≠ .blocked) (taskId : String) :
    (taskPath state taskId).directory ≠ ⟨.task, .blocked, none⟩ := by
  intro same
  injection same with _ blocked
  exact elsewhere blocked

theorem appendInterventionRecord_unblocks (d : Directory) (record : OperatorInterventionRecord) :
    Unblocks (appendInterventionRecord env d record) :=
  .bind (unblocks_of_reads (fileOperation_reads env _)) fun _ => appendLine_unblocks env _ rfl

theorem writeOperatorRuntimeEvent_unblocks (eventType : String) (record : OperatorInterventionRecord) :
    Unblocks (writeOperatorRuntimeEvent env eventType record) :=
  .bind (unblocks_of_reads (fileOperation_reads env _)) fun _ => appendLine_unblocks env _ rfl

theorem moveItemFromState_unblocks {source destination : ItemState} (elsewhere : destination ≠ .blocked)
    (taskId sourceState : String) : Unblocks (moveItemFromState env .task source destination taskId sourceState) := by
  refine .bind (unblocks_of_reads (isFile_reads _)) fun _ => .bind (unblocks_of_reads (refuseIf_reads _ _)) fun _ => ?_
  refine .bind (unblocks_of_reads (fileOperation_reads env _)) fun _ => .bind (unblocks_of_reads (isFile_reads _)) fun _ => ?_
  refine .bind (unblocks_of_reads (refuseIf_reads _ _)) fun _ => .bind ?_ fun _ => .pure _
  exact rename_unblocks env _ (taskPath_elsewhere elsewhere taskId)

/-! ## Taking a task -/

theorem quarantineInvalidArtifact_unblocks (path : DocumentPath) (error : String) :
    Unblocks (quarantineInvalidArtifact env path error) := by
  refine .bind (unblocks_of_reads (fileOperation_reads env _)) fun _ => ?_
  refine .bind (unblocks_of_reads currentWorkspace_reads) fun w => ?_
  cases w.file path with
  | none => exact .pure _
  | some raw =>
    refine .bind (modifyWorkspace_unblocks fun _ => ⟨(Unblocking.erase path).blocked, fun _ => rfl⟩) fun _ => ?_
    exact .bind (unblocks_of_reads (currentTimestamp_reads env)) fun _ => appendLine_unblocks env _ rfl

theorem candidateAt_unblocks (completed : List String) (rootSpecId : Option String) (path : DocumentPath) :
    Unblocks (candidateAt env completed rootSpecId path) := by
  have aside (error : String) : Unblocks (quarantineInvalidArtifact env path error >>= fun _ =>
      pure (none : Option Candidate)) := .bind (quarantineInvalidArtifact_unblocks env path error) fun _ => .pure _
  refine .bind (unblocks_of_reads (readIfPresent_reads env path)) fun found => ?_
  cases found with
  | none => exact .pure _
  | some raw =>
    dsimp only
    split
    · exact aside _
    · exact .ite (aside _) (.ite (.pure _) (.pure _))

theorem collectCandidates_unblocks (completed : List String) (rootSpecId : Option String) (paths : List DocumentPath) :
    Unblocks (collectCandidates env completed rootSpecId paths) := by
  induction paths with
  | nil => exact .pure _
  | cons path rest ih =>
    exact .bind (candidateAt_unblocks env completed rootSpecId path) fun _ => .bind ih fun _ => .pure _

theorem selectOldestEligibleTask_unblocks (rootSpecId : Option String) :
    Unblocks (selectOldestEligibleTask env rootSpecId) :=
  .bind (unblocks_of_reads (listMarkdownFiles_reads env _)) fun _ =>
    .bind (unblocks_of_reads (listMarkdownFiles_reads env _)) fun _ =>
      .bind (collectCandidates_unblocks env _ rootSpecId _) fun _ => .pure _

theorem claimNextExecutionTask_unblocks (rootSpecId : Option String) :
    Unblocks (claimNextExecutionTask env rootSpecId) := by
  refine .bind (unblocks_of_reads (listMarkdownFiles_reads env _)) fun _ => ?_
  refine .bind (unblocks_of_reads (refuseIf_reads _ _)) fun _ => .ite (.pure _) ?_
  refine .bind (selectOldestEligibleTask_unblocks env rootSpecId) fun found => ?_
  cases found with
  | none => exact .pure _
  | some candidate => exact .bind (rename_unblocks env _ (taskPath_elsewhere (by decide) _)) fun _ => .pure _

/-! ## Ending and archiving -/

/-- The archive of superseded tasks is a directory of its own. -/
theorem supersededTaskPath_archived (taskId timestamp : String) (tries : Nat) (s : World) :
    Ensues s (supersededTaskPath env taskId timestamp tries)
      (fun path t => path.directory ≠ ⟨.task, .blocked, none⟩ ∧ UnblockingStep s t) fun _ t => UnblockingStep s t := by
  have archived : supersededArchive ≠ ⟨.task, .blocked, none⟩ := by decide
  induction tries generalizing s with
  | zero => exact .bind (unblocks_of_reads (reading_reads env) s) fun answer t step => .pure ⟨archived, step⟩
  | succ tries ih =>
    refine .bind (unblocks_of_reads (reading_reads env) s) fun answer t step => ?_
    refine .bind ((unblocks_of_reads (isFile_reads _) t).weaken (fun _ u step' => step.trans step')
      fun _ u step' => step.trans step') fun there u both => ?_
    refine .ite (fun _ => ?_) fun _ => .pure ⟨archived, both⟩
    exact (ih u).weaken (fun _ _ ends => ⟨ends.1, both.trans ends.2⟩) fun _ _ ends => both.trans ends

theorem retireStaleBlockedTaskDuplicateAfterDone_unblocks (taskId : String) :
    Unblocks (retireStaleBlockedTaskDuplicateAfterDone env taskId) := by
  refine .bind (unblocks_of_reads (isFile_reads _)) fun _ => .bind (unblocks_of_reads (isFile_reads _)) fun _ => ?_
  refine .ite (.pure _) (.bind (unblocks_of_reads (readTaskDocumentOrNone_reads env _)) fun blocked => ?_)
  cases blocked with
  | none => exact .pure _
  | some blockedDocument =>
    refine .bind (unblocks_of_reads (readTaskDocumentOrNone_reads env _)) fun done => ?_
    cases done with
    | none => exact .pure _
    | some doneDocument =>
      dsimp only
      split
      next => exact .pure _
      next blockedRoot known =>
        refine .ite (.pure _) (.bind (unblocks_of_reads (fileOperation_reads env _)) fun _ => ?_)
        refine .bind (unblocks_of_reads (currentTimestamp_reads env)) fun archivedAt s => ?_
        refine .bind (supersededTaskPath_archived env _ _ _ s) fun archivePath t named => ?_
        have rest : Unblocks (rename env (taskPath .blocked taskId) archivePath >>= fun _ =>
            appendLine env (supersededArchive.relative ++ "/retirements.jsonl")
              (.retirement archivePath.relative archivedAt blockedRoot (taskPath .blocked taskId).relative taskId) >>= fun _ =>
            pure (some archivePath)) :=
          .bind (rename_unblocks env _ named.1) fun _ => .bind (appendLine_unblocks env _ rfl) fun _ => .pure _
        exact (rest t).weaken (fun _ _ step => named.2.trans step) fun _ _ step => named.2.trans step

theorem archiveLocatedItem_unblocks (located : LocatedInterventionItem) (options : ArchiveLocatedOptions) :
    Unblocks (archiveLocatedItem env located options) := by
  refine .bind (unblocks_of_reads (cleanReason_reads _)) fun _ => ?_
  refine .bind (unblocks_of_reads (interventionTimes_reads env _)) fun times => ?_
  refine .bind (unblocks_of_reads (fileOperation_reads env _)) fun _ => .bind (unblocks_of_reads (reading_reads env)) fun _ => ?_
  refine .bind (unblocks_of_reads (isFile_reads _)) fun _ => .bind (unblocks_of_reads (refuseIf_reads _ _)) fun _ => ?_
  refine .bind (rename_unblocks env _ fun same => ?_) fun _ => ?_
  · injection same with _ _ archive
    cases archive
  refine .bind (unblocks_of_reads (buildInterventionRecord_reads _ _ _ _ _ _ _ _ _ _ _ _ _)) fun record => ?_
  refine .bind (appendInterventionRecord_unblocks env _ record) fun _ => ?_
  exact .bind (writeOperatorRuntimeEvent_unblocks env _ record) fun _ => .pure _

theorem cancelWorkItem_unblocks (workItemId : String) (kind : Option WorkItemKind) (reason : String)
    (context : OperatorInterventionContext) : Unblocks (cancelWorkItem env workItemId kind reason context) :=
  .bind (unblocks_of_reads (requireIdentifier_reads _ _)) fun _ =>
    .bind (unblocks_of_reads (locateCancelableWorkItem_reads _ _)) fun _ => archiveLocatedItem_unblocks env _ _

theorem retargetQueuedTaskDependency_unblocks (taskId oldDependencyId newDependencyId reason : String)
    (context : OperatorInterventionContext) :
    Unblocks (retargetQueuedTaskDependency env taskId oldDependencyId newDependencyId reason context) := by
  refine .bind (unblocks_of_reads (requireIdentifier_reads _ _)) fun _ => ?_
  refine .bind (unblocks_of_reads (requireIdentifier_reads _ _)) fun _ => ?_
  refine .bind (unblocks_of_reads (requireIdentifier_reads _ _)) fun _ => ?_
  refine .bind (unblocks_of_reads (cleanReason_reads _)) fun _ => ?_
  refine .bind (unblocks_of_reads (interventionTimes_reads env _)) fun times => ?_
  refine .bind (unblocks_of_reads (isFile_reads _)) fun _ => .bind (unblocks_of_reads (refuseIf_reads _ _)) fun _ => ?_
  refine .bind (unblocks_of_reads (requireReplacementTask_reads _)) fun _ => ?_
  refine .bind (unblocks_of_reads (readToString_reads env _)) fun raw => ?_
  dsimp only
  split
  next => exact .throw _
  next task parsed =>
    refine .bind (unblocks_of_reads (refuseIf_reads _ _)) fun _ => .bind (unblocks_of_reads (refuseIf_reads _ _)) fun _ => ?_
    refine .bind (writeDocument_unblocks env _ (taskPath_elsewhere (by decide) _)) fun _ => ?_
    refine .bind (unblocks_of_reads (buildInterventionRecord_reads _ _ _ _ _ _ _ _ _ _ _ _ _)) fun record => ?_
    refine .bind (appendInterventionRecord_unblocks env _ record) fun _ => ?_
    exact .bind (writeOperatorRuntimeEvent_unblocks env _ record) fun _ => .pure _

theorem cascadeTo_unblocks (oldTaskId replacementTaskId reason : String) (cascade : MailboxSupersedeCascade)
    (context : OperatorInterventionContext) (dependent : String) :
    Unblocks (cascadeTo env oldTaskId replacementTaskId reason cascade context dependent) := by
  cases cascade with
  | none => exact .pure _
  | retarget => exact .bind (retargetQueuedTaskDependency_unblocks env _ _ _ _ _) fun _ => .pure _
  | cancel => exact .bind (cancelWorkItem_unblocks env _ _ _ _) fun _ => .pure _

theorem supersedeTask_unblocks (oldTaskId replacementTaskId reason : String) (cascade : MailboxSupersedeCascade)
    (context : OperatorInterventionContext) :
    Unblocks (supersedeTask env oldTaskId replacementTaskId reason cascade context) := by
  refine .bind (unblocks_of_reads (requireIdentifier_reads _ _)) fun _ => ?_
  refine .bind (unblocks_of_reads (requireIdentifier_reads _ _)) fun _ => ?_
  refine .bind (unblocks_of_reads (refuseIf_reads _ _)) fun _ => .bind (unblocks_of_reads (locateExactTask_reads _ _)) fun _ => ?_
  refine .bind (unblocks_of_reads (requireReplacementTask_reads _)) fun _ => ?_
  refine .bind (unblocks_of_reads (queuedDependents_reads env _)) fun _ => ?_
  refine .bind (archiveLocatedItem_unblocks env _ _) fun _ => ?_
  exact .bind (.forM _ fun dependent _ => cascadeTo_unblocks env _ _ _ _ _ dependent) fun _ => .pure _

theorem ensureUniqueId_reads (taskId : String) (states : List ItemState) : Reads (ensureUniqueId .task taskId states) := by
  induction states with
  | nil => exact .pure _
  | cons state rest ih =>
    exact .bind (isFile_reads _) fun _ => .bind (refuseIf_reads _ _) fun _ => ih

/-! ## The operations -/

/-- The operations that neither block a task nor take it out of there, which only its stage and a retry do. -/
def LeavesBlocking : TaskOperation → Prop
  | .markTaskBlocked _ => False
  | .requeueBlockedTask .. => False
  | _ => True

theorem apply_unblocking (world : World) {operation : TaskOperation} (leaves : LeavesBlocking operation) :
    UnblockingStep world (operation.apply env world) := by
  have ends {β : Type} {x : StoreM β} (unblocks : Unblocks x) : UnblockingStep world (after x world) :=
    (unblocks world).after
  cases operation with
  | enqueueTask document =>
    apply ends
    unfold Queue.enqueueTask
    split
    · exact .throw _
    · exact .bind (unblocks_of_reads (ensureUniqueId_reads _ _)) fun _ =>
        .bind (writeDocument_unblocks env _ (taskPath_elsewhere (by decide) _)) fun _ => .pure _
  | claimNextExecutionTask rootSpecId => exact ends (claimNextExecutionTask_unblocks env rootSpecId)
  | markTaskDone taskId =>
    exact ends (.bind (moveItemFromState_unblocks env (by decide) _ _) fun _ =>
      .bind (retireStaleBlockedTaskDuplicateAfterDone_unblocks env _) fun _ => .pure _)
  | markTaskBlocked taskId => cases leaves
  | requeueTask taskId reason =>
    exact ends (.bind (moveItemFromState_unblocks env (by decide) _ _) fun _ =>
      .bind (.bind (unblocks_of_reads (refuseIf_reads _ _)) fun _ =>
        .bind (unblocks_of_reads (fileOperation_reads env _)) fun _ =>
          .bind (unblocks_of_reads (currentTimestamp_reads env)) fun _ => appendLine_unblocks env _ rfl) fun _ => .pure _)
  | requeueBlockedTask => cases leaves
  | cancelWorkItem => exact ends (cancelWorkItem_unblocks env _ _ _ _)
  | archiveBlockedTask =>
    exact ends (.bind (unblocks_of_reads (requireIdentifier_reads _ _)) fun _ =>
      .bind (unblocks_of_reads (locateExactTask_reads _ _)) fun _ => archiveLocatedItem_unblocks env _ _)
  | supersedeTask => exact ends (supersedeTask_unblocks env _ _ _ _ _)
  | retargetQueuedTaskDependency => exact ends (retargetQueuedTaskDependency_unblocks env _ _ _ _ _)

end

end Millrace.Recovery
