import Millrace.Workspace.QueueSafety
import Millrace.Workspace.TaskClaims

/-! What one intervention of an operator does: the change it makes, and the ways it fails before and after it. -/

set_option autoImplicit false

namespace Millrace.Queue
open Millrace.Text Millrace.Contracts Millrace.WorkDocuments Millrace.Action

section
variable [Rfc3339] {α : Type}

/-! ## Steps from one world -/

def World.tick (s : World) : World := { s with step := s.step + 1 }

@[simp] theorem World.tick_workspace (s : World) : s.tick.workspace = s.workspace := rfl

@[simp] theorem World.tick_step (s : World) : s.tick.step = s.step + 1 := rfl

/-- A file operation fails from this step on. -/
def FaultyFrom (env : Environment) (step : Nat) : Prop := ∃ n, step ≤ n ∧ (env.reading n).fault ≠ none

theorem FaultyFrom.earlier {env : Environment} {step step' : Nat} (faulty : FaultyFrom env step) (before : step' ≤ step) :
    FaultyFrom env step' := by
  obtain ⟨n, later, fault⟩ := faulty
  exact ⟨n, before.trans later, fault⟩

theorem FaultyFrom.faulty {env : Environment} {step : Nat} (faulty : FaultyFrom env step) : Faulty env := by
  obtain ⟨n, -, fault⟩ := faulty
  exact ⟨n, fault⟩

section Primitives
variable {env : Environment} {s : World} {E : QueueStoreError → World → Prop}

/-- A failing file operation may end the computation here. -/
def Tolerates (env : Environment) (s : World) (E : QueueStoreError → World → Prop) : Prop :=
  ∀ path message, (env.reading s.step).fault ≠ none → E (.io path message) s.tick

theorem reading_ensues : Ensues s (reading env) (fun answer t => answer = env.reading s.step ∧ t = s.tick) E := by
  rintro t rfl
  exact ⟨rfl, rfl⟩

theorem fileOperation_ensues (tolerates : Tolerates env s E) (relative : String) :
    Ensues s (fileOperation env relative) (fun _ t => True ∧ t = s.tick) E := by
  unfold fileOperation
  apply reading_ensues.reads
  rintro answer rfl
  cases fault : (env.reading s.step).fault with
  | none => exact .pure ⟨trivial, rfl⟩
  | some message => exact .throw (tolerates _ _ (by simp [fault]))

theorem currentTimestamp_ensues :
    Ensues s (currentTimestamp env) (fun now t => now = (env.reading s.step).now ∧ t = s.tick) E := by
  unfold currentTimestamp
  apply reading_ensues.reads
  rintro answer rfl
  exact .pure ⟨rfl, rfl⟩

theorem currentWorkspace_ensues : Ensues s currentWorkspace (fun found t => found = s.workspace ∧ t = s) E := by
  rintro t rfl
  exact ⟨rfl, rfl⟩

theorem refuseIf_ensues {condition : Prop} [Decidable condition] {error : QueueStoreError}
    (refused : condition → E error s) : Ensues s (refuseIf condition error) (fun _ t => ¬condition ∧ t = s) E :=
  Holds.ite (fun holds => .throw fun _ same => same ▸ refused holds) fun fails => .pure fun _ same => ⟨fails, same⟩

theorem isFile_ensues (path : DocumentPath) :
    Ensues s (isFile path) (fun there t => there = (s.workspace.file path).isSome ∧ t = s) E := by
  rintro t rfl
  exact ⟨rfl, rfl⟩

theorem readToString_ensues (tolerates : Tolerates env s E) {path : DocumentPath} {raw : String}
    (file : s.workspace.file path = some raw) :
    Ensues s (readToString env path) (fun read t => read = raw ∧ t = s.tick) E := by
  unfold readToString readIfPresent
  apply Ensues.reads (P := fun read => read = some raw) (t := s.tick)
  · apply (fileOperation_ensues tolerates _).reads
    intro _ _
    apply currentWorkspace_ensues.reads
    rintro _ rfl
    exact .pure ⟨file, rfl⟩
  · rintro _ rfl
    exact .pure ⟨rfl, rfl⟩

theorem modifyWorkspace_ensues (f : Workspace → Workspace) :
    Ensues s (modifyWorkspace f) (fun _ t => t = { s with workspace := f s.workspace }) E := by
  rintro t rfl
  rfl

theorem rename_ensues (tolerates : Tolerates env s E) {source : DocumentPath} (destination : DocumentPath) {raw : String}
    (file : s.workspace.file source = some raw) :
    Ensues s (rename env source destination)
      (fun _ t => t = ⟨(s.workspace.erase source).insert destination raw, s.step + 1⟩) E := by
  unfold rename
  apply (fileOperation_ensues tolerates _).reads
  intro _ _
  apply currentWorkspace_ensues.reads
  rintro _ rfl
  rw [World.tick_workspace, file]
  exact modifyWorkspace_ensues _

theorem writeDocument_ensues (tolerates : Tolerates env s E) (later : Tolerates env s.tick E)
    (destination : DocumentPath) (raw : String) :
    Ensues s (writeDocument env destination raw)
      (fun _ t => t = ⟨s.workspace.insert destination raw, s.step + 2⟩) E := by
  unfold writeDocument createDirAll
  apply (fileOperation_ensues tolerates _).reads
  intro _ _
  apply (fileOperation_ensues later _).reads
  intro _ _
  exact modifyWorkspace_ensues _

/-- The logs take a line; the files stay. -/
theorem appendLine_ensues (tolerates : Tolerates env s E) (relative : String) (line : LogLine) :
    Ensues s (appendLine env relative line)
      (fun _ t => t.workspace.files = s.workspace.files ∧ t.step = s.step + 1) E := by
  unfold appendLine
  apply (fileOperation_ensues tolerates _).reads
  intro _ _
  apply (modifyWorkspace_ensues _).weaken
  · rintro _ t rfl
    exact ⟨rfl, rfl⟩
  · exact fun _ _ fails => fails

end Primitives

/-! ## How a change fails -/

/-- The change was refused, or its document could not be read, with nothing written; or it was made, and then the record
of it was refused or not written. -/
inductive Fails (faulty : Prop) (actor : String) (refused unreadable : Prop) (w : Workspace)
    (changed : Workspace → Prop) : QueueStoreError → Workspace → Prop where
  | refused (message : String) : refused → Fails faulty actor refused unreadable w changed (.invalidState message) w
  | unreadable (path : String) (source : WorkDocumentError) : unreadable →
      Fails faulty actor refused unreadable w changed (.workDocument path source) w
  | early (path message : String) : faulty → Fails faulty actor refused unreadable w changed (.io path message) w
  | unsigned (message : String) (w' : Workspace) : isBlank actor = true → changed w' →
      w'.log = w.log ∧ w'.quarantined = w.quarantined →
      Fails faulty actor refused unreadable w changed (.invalidState message) w'
  | late (path message : String) (w' : Workspace) : faulty → changed w' →
      Fails faulty actor refused unreadable w changed (.io path message) w'

section Interventions
variable {env : Environment} {s : World} {context : OperatorInterventionContext}
  {E : QueueStoreError → World → Prop}

theorem cleanReason_ensues (reason : String)
    (refused : isBlank reason = true → ∀ message, E (.invalidState message) s) :
    Ensues s (cleanReason reason) (fun _ t => isBlank reason = false ∧ t = s) E := by
  unfold cleanReason
  apply (refuseIf_ensues fun blank => refused blank _).reads
  intro _ given
  exact .pure ⟨by simpa using given, rfl⟩

theorem interventionTimes_ensues :
    Ensues s (interventionTimes env context)
      (fun times t => times.2 = context.appliedAt.getD (env.reading s.step).now ∧ t = s.tick) E := by
  unfold interventionTimes
  apply currentTimestamp_ensues.reads
  rintro now rfl
  exact .pure ⟨rfl, rfl⟩

theorem buildInterventionRecord_ensues {action : OperatorInterventionAction} {kind : WorkItemKind}
    {workItemId sourceState destinationState : String} {sourcePath destinationPath : DocumentPath} {reason : String}
    {issuedAt appliedAt : Timestamp} {replacementWorkItemId : Option String} {affectedDependents : List String}
    (unsigned : isBlank context.actor = true → ∀ message, E (.invalidState message) s) :
    Ensues s (buildInterventionRecord action kind workItemId sourceState destinationState sourcePath destinationPath
        reason context issuedAt appliedAt replacementWorkItemId affectedDependents)
      (fun _ t => isBlank context.actor = false ∧ t = s) E := by
  unfold buildInterventionRecord cleanActor
  apply Ensues.reads (P := fun _ => isBlank context.actor = false) (t := s)
  · apply (refuseIf_ensues fun blank => unsigned blank _).reads
    intro _ given
    exact .pure ⟨by simpa using given, rfl⟩
  · intro _ given
    exact .pure ⟨given, rfl⟩

/-- The two log lines that follow a change are written, or a file operation fails; the files stay. -/
theorem record_ensues (d : Directory) (record : OperatorInterventionRecord) (eventType : String) (a : α) :
    Ensues s (do appendInterventionRecord env d record; writeOperatorRuntimeEvent env eventType record; return a)
      (fun _ t => t.workspace.files = s.workspace.files ∧ t.step = s.step + 4)
      fun e t => t.workspace.files = s.workspace.files ∧ FaultyFrom env s.step ∧ ∃ path message, e = .io path message := by
  have tolerates (t : World) (same : t.workspace.files = s.workspace.files) (later : s.step ≤ t.step) :
      Tolerates env t fun e t => t.workspace.files = s.workspace.files ∧ FaultyFrom env s.step ∧
        ∃ path message, e = .io path message :=
    fun path message fault => ⟨same, ⟨_, later, fault⟩, path, message, rfl⟩
  unfold appendInterventionRecord writeOperatorRuntimeEvent createDirAll
  apply Ensues.bind (Q := fun _ t => t.workspace.files = s.workspace.files ∧ t.step = s.step + 2)
  · apply (fileOperation_ensues (tolerates s rfl (le_refl _)) _).reads
    intro _ _
    exact appendLine_ensues (tolerates s.tick rfl (by simp)) _ _
  intro _ t ⟨same, step⟩
  apply Ensues.bind (Q := fun _ t => t.workspace.files = s.workspace.files ∧ t.step = s.step + 4)
  · apply (fileOperation_ensues (tolerates t same (by omega)) _).reads
    intro _ _
    apply (appendLine_ensues (tolerates t.tick same (by simp [step]; omega)) _ _).weaken
    · exact fun _ t' ends => ⟨ends.1.trans same, by simp [ends.2, step]⟩
    · exact fun _ _ fails => fails
  intro _ t' ends
  exact .pure ends

/-! ## Archiving a document -/

def archivePath (parent : Directory) (located : LocatedInterventionItem) (archiveName : String) (appliedAt : Timestamp)
    (suffix : Nat) : DocumentPath :=
  ⟨{ parent with archive := some archiveName }, located.workItemId ++ "." ++
    compactTimestamp appliedAt.instant ++ "." ++ hexadecimal 8 suffix ++ "." ++ located.state⟩

/-- The name that the archive chooses with the answers from this step on. -/
def archiveDestination (env : Environment) (step : Nat) (explicitArchiveParent : Option Directory)
    (located : LocatedInterventionItem) (archiveName : String) (context : OperatorInterventionContext) : DocumentPath :=
  archivePath (explicitArchiveParent.getD located.path.directory) located archiveName
    (context.appliedAt.getD (env.reading step).now) (env.reading (step + 2)).suffix

/-- The document went to the archive, under a name that was free. -/
def Archived (w : Workspace) (located : LocatedInterventionItem) (destination : DocumentPath) (w' : Workspace) : Prop :=
  w.file destination = none ∧
    ∃ raw, w.file located.path = some raw ∧ w'.files = ((w.erase located.path).insert destination raw).files

theorem archiveLocatedItemUnder_ensues {explicitArchiveParent : Option Directory} {located : LocatedInterventionItem}
    {options : ArchiveLocatedOptions} (there : (s.workspace.file located.path).isSome) :
    Ensues s (archiveLocatedItemUnder env explicitArchiveParent located options)
      (fun _ t => isBlank options.context.actor = false ∧ isBlank options.reason = false ∧
        Archived s.workspace located (archiveDestination env s.step explicitArchiveParent located options.archiveName
          options.context) t.workspace ∧ t.step = s.step + 8)
      (fun e t => Fails (FaultyFrom env s.step) options.context.actor
        (isBlank options.reason = true ∨ (s.workspace.file (archiveDestination env s.step explicitArchiveParent located
          options.archiveName options.context)).isSome) False s.workspace
        (fun w' => isBlank options.reason = false ∧ Archived s.workspace located (archiveDestination env s.step
          explicitArchiveParent located options.archiveName options.context) w') e t.workspace) := by
  obtain ⟨raw, file⟩ := Option.isSome_iff_exists.mp there
  set destination := archiveDestination env s.step explicitArchiveParent located options.archiveName options.context
    with chosen
  unfold archiveLocatedItemUnder createDirAll
  apply (cleanReason_ensues _ fun blank message => .refused message (.inl blank)).reads
  intro reason given
  apply interventionTimes_ensues.reads
  rintro ⟨issuedAt, appliedAt⟩ times
  obtain rfl : appliedAt = options.context.appliedAt.getD (env.reading s.step).now := times
  apply (fileOperation_ensues (fun path message fault => .early path message ⟨_, by simp, fault⟩) _).reads
  intro _ _
  apply reading_ensues.reads
  rintro answer rfl
  apply (isFile_ensues _).reads
  rintro _ rfl
  apply (refuseIf_ensues fun taken => .refused _ (.inr taken)).reads
  intro _ vacant
  have free : s.workspace.file destination = none := by
    cases found : s.workspace.file destination with
    | none => rfl
    | some raw' =>
      refine absurd ?_ vacant
      show (s.workspace.file destination).isSome = true
      rw [found]
      rfl
  apply (rename_ensues (s := s.tick.tick.tick)
    (fun path message fault => .early path message ⟨_, by simp; omega, fault⟩) _ file).bind
  rintro _ t rfl
  -- from here on the document lies in the archive
  have archived (w' : Workspace) (same : w'.files = ((s.workspace.erase located.path).insert destination raw).files) :
      Archived s.workspace located destination w' := ⟨free, raw, file, same⟩
  apply (buildInterventionRecord_ensues fun blank message => .unsigned message _ blank ⟨given, archived _ rfl⟩
    ⟨rfl, rfl⟩).reads
  intro record signed
  apply (record_ensues _ _ _ _).weaken
  · exact fun _ t ends => ⟨signed, given, archived _ ends.1, ends.2⟩
  · rintro _ t ⟨same, faulty, path, message, rfl⟩
    exact .late path message _ (faulty.earlier (by simp; omega)) ⟨given, archived _ same⟩

/-! ## Retargeting a dependency -/

theorem requireIdentifier_ensues {value : String} (fieldName : String)
    (refused : ¬SafeIdentifier value → ∀ message, E (.invalidState message) s) :
    Ensues s (requireIdentifier value fieldName) (fun _ t => SafeIdentifier value ∧ t = s) E := by
  unfold requireIdentifier
  cases checked : validateSafeIdentifier value fieldName with
  | ok _ => exact .pure ⟨(validateSafeIdentifier_iff value fieldName).mp checked, rfl⟩
  | error error =>
    refine .throw (refused (fun safe => ?_) _)
    rw [(validateSafeIdentifier_iff value fieldName).mpr safe] at checked
    cases checked

/-! ## Locating a document -/

/-- The places of an item among these states. -/
def itemCandidates (w : Workspace) (kind : WorkItemKind) (itemId : String) (states : List ItemState) :
    List LocatedInterventionItem :=
  states.filterMap fun state =>
    if (w.file ⟨⟨kind, state, none⟩, itemId⟩).isSome then
      some ⟨kind, itemId, state.name kind, ⟨⟨kind, state, none⟩, itemId⟩⟩
    else none

theorem mem_itemCandidates {w : Workspace} {kind : WorkItemKind} {itemId : String} {states : List ItemState}
    {located : LocatedInterventionItem} : located ∈ itemCandidates w kind itemId states ↔
      ∃ state ∈ states, (w.file ⟨⟨kind, state, none⟩, itemId⟩).isSome ∧
        located = ⟨kind, itemId, state.name kind, ⟨⟨kind, state, none⟩, itemId⟩⟩ := by
  unfold itemCandidates
  rw [List.mem_filterMap]
  constructor
  · rintro ⟨state, member, found⟩
    split at found
    next there => exact ⟨state, member, there, (Option.some.inj found).symm⟩
    next => cases found
  · rintro ⟨state, member, there, rfl⟩
    exact ⟨state, member, if_pos there⟩

theorem itemCandidates_single {w : Workspace} {kind : WorkItemKind} {itemId : String} {states : List ItemState}
    {located : LocatedInterventionItem} (single : itemCandidates w kind itemId states = [located]) :
    ∃ state ∈ states, located = ⟨kind, itemId, state.name kind, ⟨⟨kind, state, none⟩, itemId⟩⟩ ∧
      (w.file ⟨⟨kind, state, none⟩, itemId⟩).isSome ∧
      ∀ state' ∈ states, (w.file ⟨⟨kind, state', none⟩, itemId⟩).isSome → state' = state := by
  have only (other : LocatedInterventionItem) : other ∈ itemCandidates w kind itemId states ↔ other = located := by
    rw [single, List.mem_singleton]
  obtain ⟨state, member, there, rfl⟩ := mem_itemCandidates.mp ((only located).mpr rfl)
  refine ⟨state, member, rfl, there, fun state' member' there' => ?_⟩
  have same := (only _).mp (mem_itemCandidates.mpr ⟨state', member', there', rfl⟩)
  simpa using congrArg (fun located => located.path.directory.state) same

section Locate
variable {found : List LocatedInterventionItem}

/-- One candidate is located; none and several are refused. -/
theorem located_ensues {none several : QueueStoreError} (refused : (∀ located, found ≠ [located]) → E none s ∧ E several s) :
    Ensues s (match found with
        | [] => throw none
        | [located] => pure located
        | _ => throw several)
      (fun located t => found = [located] ∧ t = s) E := by
  cases found with
  | nil => exact .throw (refused (by simp)).1
  | cons first rest =>
    cases rest with
    | nil => exact .pure ⟨rfl, rfl⟩
    | cons second rest => exact .throw (refused (by simp)).2

theorem locateExactTask_ensues {taskId : String} {states : List ItemState}
    (refused : (∀ located, itemCandidates s.workspace .task taskId states ≠ [located]) →
      ∀ message, E (.invalidState message) s) :
    Ensues s (locateExactTask taskId states)
      (fun located t => itemCandidates s.workspace .task taskId states = [located] ∧ t = s) E := by
  unfold locateExactTask
  apply currentWorkspace_ensues.reads
  rintro _ rfl
  exact located_ensues fun none => ⟨refused none _, refused none _⟩

theorem locateIncident_ensues {incidentId : String} {states : List ItemState}
    (refused : (∀ located, itemCandidates s.workspace .incident incidentId states ≠ [located]) →
      ∀ message, E (.invalidState message) s) :
    Ensues s (locateIncident incidentId states)
      (fun located t => itemCandidates s.workspace .incident incidentId states = [located] ∧ t = s) E := by
  unfold locateIncident
  apply currentWorkspace_ensues.reads
  rintro _ rfl
  exact located_ensues fun none => ⟨refused none _, refused none _⟩

/-- The places from which an item can be cancelled. -/
def cancelCandidates (w : Workspace) (workItemId : String) (kind : Option WorkItemKind) : List LocatedInterventionItem :=
  (match kind with
    | some kind => [kind]
    | none => [.task, .probe, .spec, .incident]).flatMap (locateCancelableForKind w workItemId)

theorem mem_cancelCandidates {w : Workspace} {workItemId : String} {kind : Option WorkItemKind}
    {located : LocatedInterventionItem} (member : located ∈ cancelCandidates w workItemId kind) :
    (w.file located.path).isSome := by
  obtain ⟨kind, -, listed⟩ := List.mem_flatMap.mp member
  obtain ⟨state, -, found⟩ := List.mem_filterMap.mp listed
  dsimp only at found
  split at found
  next there =>
    rw [← Option.some.inj found]
    exact there
  next => cases found

theorem locateCancelableWorkItem_ensues {workItemId : String} {kind : Option WorkItemKind}
    (refused : (∀ located, cancelCandidates s.workspace workItemId kind ≠ [located]) →
      ∀ message, E (.invalidState message) s) :
    Ensues s (locateCancelableWorkItem workItemId kind)
      (fun located t => cancelCandidates s.workspace workItemId kind = [located] ∧ t = s) E := by
  unfold locateCancelableWorkItem
  apply currentWorkspace_ensues.reads
  rintro _ rfl
  exact located_ensues fun none => ⟨refused none _, refused none _⟩

end Locate

/-- The task is queued, active or done. -/
def Available (w : Workspace) (taskId : String) : Prop :=
  ∃ state ∈ [ItemState.queue, .active, .done], (w.file (taskPath state taskId)).isSome

theorem requireReplacementTask_ensues {taskId : String}
    (refused : ¬Available s.workspace taskId → ∀ message, E (.invalidState message) s) :
    Ensues s (requireReplacementTask taskId) (fun _ t => Available s.workspace taskId ∧ t = s) E := by
  unfold requireReplacementTask
  apply currentWorkspace_ensues.reads
  rintro _ rfl
  have absent_iff : (∀ state ∈ [ItemState.queue, .active, .done], (s.workspace.file (taskPath state taskId)).isNone) ↔
      ¬Available s.workspace taskId := by
    simp [Available]
  apply (refuseIf_ensues fun absent => refused (absent_iff.mp absent) _).weaken
  · exact fun _ t ends => ⟨not_not.mp fun none => ends.1 (absent_iff.mpr none), ends.2⟩
  · exact fun _ _ fails => fails

def retargetedTask (d : TaskDocument) (oldDependencyId newDependencyId : String) (appliedAt : Timestamp) :
    TaskDocument :=
  { d with
    dependsOn := d.dependsOn.map fun dependency =>
      if dependency = oldDependencyId then newDependencyId else dependency
    updatedAt := some appliedAt }

section Retarget
variable (env) (w : Workspace)

/-- What a retarget asks for before it writes. -/
structure RetargetAccepted (taskId oldDependencyId newDependencyId reason : String) : Prop where
  task : SafeIdentifier taskId
  old : SafeIdentifier oldDependencyId
  new : SafeIdentifier newDependencyId
  reason : isBlank reason = false
  queued : (w.file (taskPath .queue taskId)).isSome
  available : Available w newDependencyId
  once : ∀ d, queuedDocument env w taskId = some d → d.dependsOn.count oldDependencyId = 1

/-- The queued document has the new dependency in place of the old one. -/
def Retargeted (taskId oldDependencyId newDependencyId : String) (appliedAt : Timestamp) (w' : Workspace) : Prop :=
  ∃ d, queuedDocument env w taskId = some d ∧ w'.files =
    (w.insert (taskPath .queue taskId) (renderTaskDocument (retargetedTask d oldDependencyId newDependencyId appliedAt))).files

variable {env}

theorem retargetQueuedTaskDependency_ensues (taskId oldDependencyId newDependencyId reason : String) :
    Ensues s (retargetQueuedTaskDependency env taskId oldDependencyId newDependencyId reason context)
      (fun _ t => RetargetAccepted env s.workspace taskId oldDependencyId newDependencyId reason ∧
        isBlank context.actor = false ∧ Retargeted env s.workspace taskId oldDependencyId newDependencyId
          (context.appliedAt.getD (env.reading s.step).now) t.workspace ∧ s.step ≤ t.step)
      (fun e t => Fails (FaultyFrom env s.step) context.actor
        (¬RetargetAccepted env s.workspace taskId oldDependencyId newDependencyId reason)
        ((s.workspace.file (taskPath .queue taskId)).isSome ∧ queuedDocument env s.workspace taskId = none) s.workspace
        (fun w' => RetargetAccepted env s.workspace taskId oldDependencyId newDependencyId reason ∧
          Retargeted env s.workspace taskId oldDependencyId newDependencyId
            (context.appliedAt.getD (env.reading s.step).now) w') e t.workspace) := by
  unfold retargetQueuedTaskDependency
  apply (requireIdentifier_ensues _ fun invalid message => .refused message fun a => invalid a.task).reads
  intro _ safeTask
  apply (requireIdentifier_ensues _ fun invalid message => .refused message fun a => invalid a.old).reads
  intro _ safeOld
  apply (requireIdentifier_ensues _ fun invalid message => .refused message fun a => invalid a.new).reads
  intro _ safeNew
  apply (cleanReason_ensues _ fun blank message => .refused message fun a => by simp [a.reason] at blank).reads
  intro cleaned given
  apply interventionTimes_ensues.reads
  rintro ⟨issuedAt, appliedAt⟩ times
  obtain rfl : appliedAt = context.appliedAt.getD (env.reading s.step).now := times
  apply (isFile_ensues _).reads
  rintro _ rfl
  apply (refuseIf_ensues fun absent => .refused _ fun a => absent a.queued).reads
  intro _ present
  have queued := not_not.mp present
  apply (requireReplacementTask_ensues fun absent message => .refused message fun a => absent a.available).reads
  intro _ available
  obtain ⟨raw, file⟩ := Option.isSome_iff_exists.mp queued
  rw [World.tick_workspace] at file
  apply (readToString_ensues (s := s.tick) (fun path message fault => .early path message ⟨_, by simp, fault⟩) file).reads
  intro read same
  subst read
  cases parsed : parseTaskDocumentWithSource raw (absolute env (taskPath .queue taskId).relative) with
  | error error =>
    have unread : queuedDocument env s.workspace taskId = none := by
      simp [queuedDocument, file, parsed, Except.toOption]
    exact .throw (.unreadable _ _ ⟨queued, unread⟩)
  | ok task =>
    have read : queuedDocument env s.workspace taskId = some task := by
      simp [queuedDocument, file, parsed, Except.toOption]
    dsimp only
    apply (refuseIf_ensues fun missing => .refused _ fun a => by have := a.once task read; omega).reads
    intro _ some
    apply (refuseIf_ensues fun several => .refused _ fun a => by have := a.once task read; omega).reads
    intro _ single
    have accepted : RetargetAccepted env s.workspace taskId oldDependencyId newDependencyId reason :=
      ⟨safeTask, safeOld, safeNew, given, queued, available, fun d held => by
        rw [read] at held
        cases held
        omega⟩
    apply (writeDocument_ensues (s := s.tick.tick)
      (fun path message fault => .early path message ⟨_, by simp; omega, fault⟩)
      (fun path message fault => .early path message ⟨_, by simp; omega, fault⟩) _ _).bind
    rintro _ t rfl
    have retargeted (w' : Workspace) (same : w'.files = (s.workspace.insert (taskPath .queue taskId)
        (renderTaskDocument (retargetedTask task oldDependencyId newDependencyId
          (context.appliedAt.getD (env.reading s.step).now)))).files) :
        Retargeted env s.workspace taskId oldDependencyId newDependencyId
          (context.appliedAt.getD (env.reading s.step).now) w' := ⟨task, read, same⟩
    apply (buildInterventionRecord_ensues fun blank message =>
      .unsigned message _ blank ⟨accepted, retargeted _ rfl⟩ ⟨rfl, rfl⟩).reads
    intro record signed
    apply (record_ensues _ _ _ _).weaken
    · exact fun _ t ends => ⟨accepted, signed, retargeted _ ends.1, by simp [ends.2]; omega⟩
    · rintro _ t ⟨same, faulty, path, message, rfl⟩
      exact .late path message _ (faulty.earlier (by simp; omega)) ⟨accepted, retargeted _ same⟩

end Retarget
end Interventions

end
end Millrace.Queue
