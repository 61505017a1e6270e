import Millrace.Advance
import Millrace.Workspace.Interventions
import Millrace.Workspace.QueueLifecycle

/-! A requeue moves its document and writes one audit line, or is refused and changes nothing; when this is so. -/

set_option autoImplicit false

namespace Millrace.Queue
open Millrace.Text Millrace.Contracts Millrace.WorkDocuments Millrace.Action
open Millrace.Blueprints (DraftWorld DraftEnvironment)
open Millrace.Runtime (SourceLifecycleIntent SourceLifecycleAction)

section
variable [Rfc3339]

/-! ## What the operations compute -/

section Runs
variable (env : Environment) (s : World)

theorem fileOperation_run (relative : String) :
    fileOperation env relative s = match (env.reading s.step).fault with
      | some message => .error (.io (absolute env relative) message) s.tick
      | none => .ok () s.tick := by
  unfold fileOperation
  rw [bind_run]
  show (match (env.reading s.step).fault with
    | some message => throw (.io (absolute env relative) message)
    | none => pure () : StoreM Unit) s.tick = _
  cases (env.reading s.step).fault <;> rfl

theorem currentWorkspace_run : currentWorkspace s = .ok s.workspace s := rfl

theorem isFile_run (path : DocumentPath) : isFile path s = .ok (s.workspace.file path).isSome s := rfl

theorem refuseIf_run (condition : Prop) [Decidable condition] (error : QueueStoreError) :
    refuseIf condition error s = if condition then .error error s else .ok () s := by
  unfold refuseIf
  split <;> rfl

theorem modifyWorkspace_run (f : Workspace → Workspace) :
    modifyWorkspace f s = .ok () { s with workspace := f s.workspace } := rfl

theorem rename_run {source destination : DocumentPath} {raw : String} (file : s.workspace.file source = some raw) :
    rename env source destination s = match (env.reading s.step).fault with
      | some message => .error (.io (absolute env source.relative) message) s.tick
      | none => .ok () ⟨(s.workspace.erase source).insert destination raw, s.step + 1⟩ := by
  unfold rename
  rw [bind_run, fileOperation_run]
  cases (env.reading s.step).fault with
  | some message => rfl
  | none =>
    dsimp only
    rw [bind_run, currentWorkspace_run]
    have same : s.tick.workspace.file source = some raw := file
    simp only [same]
    rfl

/-- The environment lets the operation go through that comes so many operations later. -/
def Passes (env : Environment) (s : World) (later : Nat) : Prop := (env.reading (s.step + later)).fault = none

def itemPath (kind : WorkItemKind) (state : ItemState) (itemId : String) : DocumentPath := ⟨⟨kind, state, none⟩, itemId⟩

theorem moveItemFromState_run (kind : WorkItemKind) (source destination : ItemState) (itemId sourceState : String) :
    moveItemFromState env kind source destination itemId sourceState s =
      match s.workspace.file (itemPath kind source itemId) with
      | none => .error (.invalidState (asStr kind ++ " " ++ itemId ++ " is not " ++ sourceState)) s
      | some raw =>
        match (env.reading s.step).fault with
        | some message => .error (.io (absolute env (itemPath kind destination itemId).directory.relative) message) s.tick
        | none =>
          if (s.workspace.file (itemPath kind destination itemId)).isSome then
            .error (.invalidState (asStr kind ++ " " ++ itemId ++ " already exists at destination")) s.tick
          else
            match (env.reading (s.step + 1)).fault with
            | some message => .error (.io (absolute env (itemPath kind source itemId).relative) message) s.tick.tick
            | none => .ok (itemPath kind destination itemId)
                ⟨(s.workspace.erase (itemPath kind source itemId)).insert (itemPath kind destination itemId) raw,
                  s.step + 2⟩ := by
  unfold moveItemFromState itemPath
  simp only [bind_run, isFile_run, refuseIf_run]
  cases file : s.workspace.file ⟨⟨kind, source, none⟩, itemId⟩ with
  | none => simp
  | some raw =>
    simp only [Option.isSome_some, not_true_eq_false, if_false, createDirAll, fileOperation_run]
    cases (env.reading s.step).fault with
    | some message => simp
    | none =>
      dsimp only
      by_cases taken : (s.workspace.file ⟨⟨kind, destination, none⟩, itemId⟩).isSome
      · simp [taken]
      · have read : s.tick.workspace.file ⟨⟨kind, source, none⟩, itemId⟩ = some raw := file
        simp only [World.tick_workspace, taken, Bool.false_eq_true, if_false, rename_run env s.tick read, World.tick_step]
        cases (env.reading (s.step + 1)).fault <;> rfl

theorem appendLine_run (relative : String) (line : LogLine) :
    appendLine env relative line s = match (env.reading s.step).fault with
      | some message => .error (.io (absolute env relative) message) s.tick
      | none => .ok () ⟨{ s.workspace with log := s.workspace.log ++ [(relative, line)] }, s.step + 1⟩ := by
  unfold appendLine
  rw [bind_run, fileOperation_run]
  cases (env.reading s.step).fault <;> rfl

theorem appendRequeueReason_run (kind : WorkItemKind) (itemId reason : String) :
    appendRequeueReason env ⟨kind, .queue, none⟩ itemId kind reason s =
      if isBlank reason then .error (.invalidState "requeue reason is required") s
      else
        match (env.reading s.step).fault with
        | some message => .error (.io (absolute env (Directory.relative ⟨kind, .queue, none⟩)) message) s.tick
        | none => appendLine env (requeueLog ⟨kind, .queue, none⟩ itemId)
            (.requeue (env.reading (s.step + 1)).now kind (trimmed reason)) s.tick.tick := by
  unfold appendRequeueReason
  simp only [bind_run, refuseIf_run]
  by_cases blank : isBlank reason
  · simp [blank]
  · simp only [blank, Bool.false_eq_true, if_false, createDirAll, fileOperation_run]
    cases (env.reading s.step).fault <;> rfl

end Runs

/-! ## Requeues of the queue store -/

/-- The reason that an audit line of a requeue gives. -/
def LogLine.requeueReason : LogLine → Option String
  | .requeue _ _ reason => some reason
  | .blockedRequeue _ _ _ reason _ _ => some reason
  | _ => none

/-- The document has moved and the log has one line more, or the requeue was refused and nothing changed. -/
def StoreAudited (w : Workspace) (source destination : DocumentPath) (log reason : String) :
    EStateM.Result QueueStoreError World DocumentPath → Prop
  | .ok path t => path = destination ∧ ∃ raw line, w.file source = some raw ∧
      (∀ path, t.workspace.file path =
        if path = destination then some raw else if path = source then none else w.file path) ∧
      LogLine.requeueReason line = some (trimmed reason) ∧ t.workspace.log = w.log ++ [(log, line)]
  | .error e t => (∃ message, e = .invalidState message) ∧ t.workspace = w

/-- There is no document to move, or its place is taken, or the reason is given and no operation fails. -/
def StoreSound (env : Environment) (s : World) (kind : WorkItemKind) (source : ItemState) (itemId : String)
    (given : Prop) : Prop :=
  s.workspace.file (itemPath kind source itemId) = none ∨ (Passes env s 0 ∧
    ((s.workspace.file (itemPath kind .queue itemId)).isSome ∨ (given ∧ Passes env s 1 ∧ Passes env s 2 ∧ Passes env s 4)))

section Store
variable (env : Environment) (s : World)

theorem moved_ne {w : Workspace} {source destination : DocumentPath} {raw raw' : String} (file : w.file source = some raw)
    (apart : destination ≠ source) : (w.erase source).insert destination raw' ≠ w := by
  intro same
  have gone : ((w.erase source).insert destination raw').file source = none := by
    rw [Workspace.file_insert, if_neg apart.symm, Workspace.file_erase, if_pos rfl]
  rw [same, file] at gone
  cases gone

/-- An append of one audit line, which looks at its fields before it writes. -/
structure AppendsAudit (log reason : String) (given : Prop) (append : StoreM Unit) : Prop where
  refused : ¬given → ∃ message, ∀ t, append t = .error (.invalidState message) t
  written : given → ∃ (directory : String) (line : World → LogLine),
    (∀ t, (line t).requeueReason = some (trimmed reason)) ∧
      ∀ t, append t = match (env.reading t.step).fault with
        | some message => .error (.io directory message) t.tick
        | none => appendLine env log (line t) t.tick.tick

theorem appendRequeueReason_appends (kind : WorkItemKind) (itemId reason : String) :
    AppendsAudit env (requeueLog ⟨kind, .queue, none⟩ itemId) reason (isBlank reason = false)
      (appendRequeueReason env ⟨kind, .queue, none⟩ itemId kind reason) where
  refused blank := ⟨_, fun t => by rw [appendRequeueReason_run, if_pos (by simpa using blank)]⟩
  written given := ⟨_, _, fun _ => rfl, fun t => by
    rw [appendRequeueReason_run, if_neg (by simp [given])]⟩

/-- The move, then the audit line. -/
theorem moved_audited_iff {kind : WorkItemKind} {source : ItemState} {itemId sourceState reason : String} {given : Prop}
    {append : StoreM Unit} (queued : source ≠ .queue)
    (appends : AppendsAudit env (requeueLog ⟨kind, .queue, none⟩ itemId) reason given append) :
    StoreAudited s.workspace (itemPath kind source itemId) (itemPath kind .queue itemId)
        (requeueLog ⟨kind, .queue, none⟩ itemId) reason
        ((do let destination ← moveItemFromState env kind source .queue itemId sourceState; append; return destination) s) ↔
      StoreSound env s kind source itemId given := by
  have apart : itemPath kind .queue itemId ≠ itemPath kind source itemId := by simp [itemPath, queued.symm]
  unfold StoreSound Passes
  rw [bind_run, moveItemFromState_run]
  cases file : s.workspace.file (itemPath kind source itemId) with
  | none => simp [StoreAudited]
  | some raw =>
    have changed := @moved_ne _ _ _ _ _ raw file apart
    cases first : (env.reading s.step).fault with
    | some message => simp [StoreAudited]
    | none =>
      by_cases taken : (s.workspace.file (itemPath kind .queue itemId)).isSome
      · simp [StoreAudited, taken]
      · cases second : (env.reading (s.step + 1)).fault with
        | some message => simp [StoreAudited, taken]
        | none =>
          simp only [taken, Bool.false_eq_true, if_false, bind_run]
          by_cases holds : given
          · obtain ⟨directory, line, names, writes⟩ := appends.written holds
            rw [writes]
            cases third : (env.reading (s.step + 2)).fault with
            | some message => simp [StoreAudited]
            | none =>
              simp only [appendLine_run, World.tick_step]
              cases fourth : (env.reading (s.step + 4)).fault with
              | some message => simp [StoreAudited]
              | none =>
                -- every operation went through: the document has moved and the line is written
                simp only [pure_run, StoreAudited, file, true_and]
                constructor
                · exact fun _ => .inr (by simp [holds])
                · refine fun _ => ⟨raw, line _, rfl, fun path => ?_, names _, rfl⟩
                  exact (Workspace.file_insert _ _ _ _).trans (by rw [Workspace.file_erase])
          · -- the line is refused although the document has moved
            obtain ⟨message, refuses⟩ := appends.refused holds
            rw [refuses]
            simp [StoreAudited, changed, holds]

theorem requeueItem_audited_iff (kind : WorkItemKind) (itemId reason : String) :
    StoreAudited s.workspace (itemPath kind .active itemId) (itemPath kind .queue itemId)
        (requeueLog ⟨kind, .queue, none⟩ itemId) reason (requeueItem env kind itemId reason s) ↔
      StoreSound env s kind .active itemId (isBlank reason = false) :=
  moved_audited_iff env s (by decide) (appendRequeueReason_appends env kind itemId reason)

/-- The audit fields of a blocked task that is requeued. -/
def AuditFieldsGiven (reason actor : String) (attemptNumber : Option Nat) : Prop :=
  isBlank reason = false ∧ isBlank actor = false ∧ attemptNumber ≠ some 0

theorem validateBlockedRequeueAudit_run {reason actor : String} {attemptNumber : Option Nat}
    (given : AuditFieldsGiven reason actor attemptNumber) (t : World) :
    validateBlockedRequeueAudit reason actor attemptNumber t = .ok () t := by
  obtain ⟨reasonGiven, actorGiven, counted⟩ := given
  simp only [validateBlockedRequeueAudit, bind_run, refuseIf_run, reasonGiven, actorGiven, counted, Bool.false_eq_true,
    if_false]

theorem validateBlockedRequeueAudit_refuses {reason actor : String} {attemptNumber : Option Nat}
    (absent : ¬AuditFieldsGiven reason actor attemptNumber) (t : World) :
    ∃ message, validateBlockedRequeueAudit reason actor attemptNumber t = .error (.invalidState message) t := by
  simp only [validateBlockedRequeueAudit, bind_run, refuseIf_run]
  by_cases reasonBlank : isBlank reason
  · exact ⟨_, by simp only [if_pos reasonBlank]; rfl⟩
  by_cases actorBlank : isBlank actor
  · exact ⟨_, by simp only [if_neg reasonBlank, if_pos actorBlank]; rfl⟩
  by_cases zeroth : attemptNumber = some 0
  · exact ⟨_, by simp only [if_neg reasonBlank, if_neg actorBlank, if_pos zeroth]; rfl⟩
  · exact absurd ⟨by simpa using reasonBlank, by simpa using actorBlank, zeroth⟩ absent

theorem requeueBlockedTask_audited_iff (taskId : TaskId) (reason actor : String) (auto : Bool)
    (failureClass : Option String) (attemptNumber : Option Nat) :
    StoreAudited s.workspace (itemPath .task .blocked taskId) (itemPath .task .queue taskId)
        (requeueLog ⟨.task, .queue, none⟩ taskId) reason
        (requeueBlockedTask env taskId reason actor auto failureClass attemptNumber s) ↔
      ¬AuditFieldsGiven reason actor attemptNumber ∨ StoreSound env s .task .blocked taskId True := by
  unfold requeueBlockedTask
  rw [bind_run]
  by_cases given : AuditFieldsGiven reason actor attemptNumber
  · rw [validateBlockedRequeueAudit_run given]
    simp only [given, not_true_eq_false, false_or]
    apply moved_audited_iff env s (by decide)
    constructor
    · exact fun absent => absurd trivial absent
    · intro _
      refine ⟨absolute env (Directory.relative ⟨.task, .queue, none⟩), fun t => .blockedRequeue
        (env.reading (t.step + 1)).now (trimmed actor) auto (trimmed reason)
        ((failureClass.filter fun value => !isBlank value).map trimmed) attemptNumber, fun _ => rfl, ?_⟩
      intro t
      unfold appendBlockedRequeueAudit
      rw [bind_run, validateBlockedRequeueAudit_run given]
      simp only [bind_run, createDirAll, fileOperation_run]
      cases (env.reading t.step).fault <;> rfl
  · obtain ⟨message, refuses⟩ := validateBlockedRequeueAudit_refuses given s
    rw [refuses]
    simp [StoreAudited, given]

end Store

/-! ## Requeues of the workspace -/

/-- From where a requeue takes its item and where to, and the log it writes. -/
structure RequeuePlace where
  source : LifecyclePath
  destination : LifecyclePath
  log : String

def builtinPlace (kind : WorkItemKind) (source : ItemState) (itemId : String) : RequeuePlace where
  source := .document (itemPath kind source itemId)
  destination := .document (itemPath kind .queue itemId)
  log := requeueLog ⟨kind, .queue, none⟩ itemId

def familyPlace (family : WorkItemFamilyDefinition) (itemId : String) : RequeuePlace where
  source := .generic (familyFile family family.queueDirs.active itemId)
  destination := .generic (familyFile family family.queueDirs.queue itemId)
  log := familyRequeueLog family itemId

/-- The item has its new place, with the same content, and no other file has changed. -/
def Moved (place : RequeuePlace) (s t : LifecycleWorld) : Prop :=
  ∃ content, s.file place.source = some content ∧ ∀ path, t.file path =
    if path = place.destination then some content else if path = place.source then none else s.file path

/-- One line more than before, in this log and with this reason. -/
inductive OneLineMore (log reason : String) (s t : LifecycleWorld) : Prop where
  | queue (line : LogLine) : line.requeueReason = some (trimmed reason) →
      t.queue.workspace.log = s.queue.workspace.log ++ [(log, line)] → t.familyLog = s.familyLog →
      OneLineMore log reason s t
  | family (line : FamilyRequeueLine) : line.reason = trimmed reason →
      t.queue.workspace.log = s.queue.workspace.log → t.familyLog = s.familyLog ++ [(log, line)] →
      OneLineMore log reason s t

structure Unchanged (s t : LifecycleWorld) : Prop where
  workspace : t.queue.workspace = s.queue.workspace
  drafts : t.drafts.drafts = s.drafts.drafts
  generic : t.generic = s.generic
  familyLog : t.familyLog = s.familyLog

/-- All or nothing, with one audit line for all. -/
def Audited (place : Option RequeuePlace) (reason : String) (s : LifecycleWorld) :
    EStateM.Result QueueStoreError LifecycleWorld LifecyclePath → Prop
  | .ok path t => ∃ here, place = some here ∧ path = here.destination ∧ Moved here s t ∧ OneLineMore here.log reason s t
  | .error e t => (∃ message, e = .invalidState message) ∧ Unchanged s t

inductive RequeueOperation where
  | requeueTask (taskId reason : String)
  | requeueProbe (probeId reason : String)
  | requeueSpec (specId reason : String)
  | requeueIncident (incidentId reason : String)
  | requeueLearningRequest (learningRequestId reason : String)
  | requeueBlockedTask (taskId : TaskId) (reason actor : String) (auto : Bool) (failureClass : Option String)
    (attemptNumber : Option Nat)
  | applyIntent (families : List WorkItemFamilyDefinition) (intent : SourceLifecycleIntent)
    (requeues : intent.action = .requeue) (document : intentTarget families intent ≠ .ok (.builtin .blueprintDraft))

section Operations
variable (env : DraftEnvironment)

def documentOperation (x : StoreM DocumentPath) : LifecycleM LifecyclePath := .document <$> onQueueWorld x

namespace RequeueOperation

def run : RequeueOperation → LifecycleM LifecyclePath
  | .requeueTask taskId reason => documentOperation (requeueItem env.toEnvironment .task taskId reason)
  | .requeueProbe probeId reason => documentOperation (Queue.requeueProbe env.toEnvironment probeId reason)
  | .requeueSpec specId reason => documentOperation (Queue.requeueSpec env.toEnvironment specId reason)
  | .requeueIncident incidentId reason => documentOperation (Queue.requeueIncident env.toEnvironment incidentId reason)
  | .requeueLearningRequest learningRequestId reason =>
    documentOperation (Queue.requeueLearningRequest env.toEnvironment learningRequestId reason)
  | .requeueBlockedTask taskId reason actor auto failureClass attemptNumber => documentOperation
      (Queue.requeueBlockedTask env.toEnvironment taskId reason actor auto failureClass attemptNumber)
  | .applyIntent families intent _ _ => Queue.applyIntent env families intent

/-- The place of the item, unless the operation is refused for what it names. -/
def place : RequeueOperation → Option RequeuePlace
  | .requeueTask taskId _ => builtinPlace .task .active taskId
  | .requeueProbe probeId _ => builtinPlace .probe .active probeId
  | .requeueSpec specId _ => builtinPlace .spec .active specId
  | .requeueIncident incidentId _ => builtinPlace .incident .active incidentId
  | .requeueLearningRequest learningRequestId _ => builtinPlace .learningRequest .active learningRequestId
  | .requeueBlockedTask taskId .. => builtinPlace .task .blocked taskId
  | .applyIntent families intent _ _ =>
    match intentTarget families intent with
    | .ok (.builtin kind) => builtinPlace kind .active intent.workItemId
    | .ok (.family family) => familyPlace family intent.workItemId
    | .error _ => none

def reason : RequeueOperation → String
  | .requeueTask _ reason | .requeueProbe _ reason | .requeueSpec _ reason | .requeueIncident _ reason
  | .requeueLearningRequest _ reason | .requeueBlockedTask _ reason .. => reason
  | .applyIntent _ intent _ _ => intent.reason.getD ""

/-- There is no file to move, or its place is taken, or the reason is given and no operation fails. -/
def familySound (s : LifecycleWorld) (family : WorkItemFamilyDefinition) (itemId : String) (given : Prop) : Prop :=
  s.generic[familyFile family family.queueDirs.active itemId]? = none ∨
    (s.generic[familyFile family family.queueDirs.queue itemId]?).isSome ∨
    (given ∧ Passes env.toEnvironment s.queue 0 ∧ Passes env.toEnvironment s.queue 1 ∧ Passes env.toEnvironment s.queue 3)

/-- The requeue is refused for its arguments before the move, or it cannot move the item, or its reason is given and none
of its operations fails. -/
def Sound (s : LifecycleWorld) : RequeueOperation → Prop
  | .requeueTask taskId reason =>
    StoreSound env.toEnvironment s.queue .task .active taskId (isBlank reason = false)
  | .requeueProbe probeId reason =>
    StoreSound env.toEnvironment s.queue .probe .active probeId (isBlank reason = false)
  | .requeueSpec specId reason => StoreSound env.toEnvironment s.queue .spec .active specId (isBlank reason = false)
  | .requeueIncident incidentId reason =>
    StoreSound env.toEnvironment s.queue .incident .active incidentId (isBlank reason = false)
  | .requeueLearningRequest learningRequestId reason =>
    StoreSound env.toEnvironment s.queue .learningRequest .active learningRequestId (isBlank reason = false)
  | .requeueBlockedTask taskId reason actor _ _ attemptNumber =>
    ¬AuditFieldsGiven reason actor attemptNumber ∨ StoreSound env.toEnvironment s.queue .task .blocked taskId True
  | .applyIntent families intent _ _ =>
    match intentTarget families intent with
    | .error _ => True
    | .ok (.builtin kind) => isBlank (intent.reason.getD "") = true ∨
        StoreSound env.toEnvironment s.queue kind .active intent.workItemId True
    | .ok (.family family) => familySound env s family intent.workItemId (isBlank (intent.reason.getD "") = false)

end RequeueOperation
variable {env} {s : LifecycleWorld}

/-- On the queue, a requeue of the workspace is one of the queue store. -/
theorem documentOperation_audited_iff {x : StoreM DocumentPath} {kind : WorkItemKind} {source : ItemState}
    {itemId reason : String} :
    Audited (some (builtinPlace kind source itemId)) reason s (documentOperation x s) ↔
      StoreAudited s.queue.workspace (itemPath kind source itemId) (itemPath kind .queue itemId)
        (requeueLog ⟨kind, .queue, none⟩ itemId) reason (x s.queue) := by
  unfold documentOperation onQueueWorld
  rw [map_run, onPart_run]
  cases x s.queue with
  | error e t =>
    constructor
    · exact fun ⟨refused, unchanged⟩ => ⟨refused, unchanged.workspace⟩
    · exact fun ⟨refused, unchanged⟩ => ⟨refused, unchanged, rfl, rfl, rfl⟩
  | ok path t =>
    constructor
    · rintro ⟨here, ⟨⟩, destination, ⟨content, file, files⟩, line⟩
      obtain ⟨raw, found, rfl⟩ := Option.map_eq_some_iff.mp file
      cases line with
      | family line _ _ longer => simp [LifecycleWorld.setQueue] at longer
      | queue line names longer _ =>
        refine ⟨LifecyclePath.document.inj destination, raw, line, found, fun path => ?_, names, longer⟩
        have moved := files (.document path)
        simp only [builtinPlace, LifecyclePath.document.injEq] at moved
        apply Option.map_injective (f := LifecycleFile.text) fun _ _ => LifecycleFile.text.inj
        refine moved.trans ?_
        split
        · rfl
        · split <;> rfl
    · rintro ⟨rfl, raw, line, found, files, names, longer⟩
      refine ⟨_, rfl, rfl, ⟨.text raw, congrArg (Option.map LifecycleFile.text) found, fun path => ?_⟩, .queue line names longer rfl⟩
      cases path with
      | draft path => rfl
      | generic path => rfl
      | document path =>
        simp only [builtinPlace, LifecyclePath.document.injEq]
        refine (congrArg (Option.map LifecycleFile.text) (files path)).trans ?_
        split
        · rfl
        · split <;> rfl

theorem requeueBuiltin_eq (kind : WorkItemKind) (itemId reason : String) :
    requeueBuiltin env kind itemId reason = requeueItem env.toEnvironment kind itemId reason := by
  cases kind <;> rfl

omit [Rfc3339] in
theorem isBlank_trimmed (text : String) : isBlank (trimmed text) = isBlank text := by
  simp [isBlank, trimmed, trim_trim]

omit [Rfc3339] in
/-- A reason is required to be more than blanks, and is handed on without those around it. -/
theorem requiredReason_given {intent : SourceLifecycleIntent} (given : isBlank (intent.reason.getD "") = false) :
    requiredReason intent = .ok (trimmed (intent.reason.getD "")) := by
  unfold requiredReason
  cases stated : intent.reason with
  | none =>
    rw [stated] at given
    exact absurd given (by decide)
  | some reason =>
    rw [stated] at given
    simp [Option.filter_some, isBlank_trimmed, show isBlank reason = false from given]

omit [Rfc3339] in
theorem requiredReason_refuses {intent : SourceLifecycleIntent} (blank : isBlank (intent.reason.getD "") = true) :
    requiredReason intent = .error (.invalidState "requeue reason is required") := by
  unfold requiredReason
  cases stated : intent.reason with
  | none => rfl
  | some reason =>
    rw [stated] at blank
    simp [Option.filter_some, isBlank_trimmed, show isBlank reason = true from blank]

omit [Rfc3339] in
theorem trimmed_trimmed (text : String) : trimmed (trimmed text) = trimmed text := by
  simp [trimmed, trim_trim]

theorem StoreAudited.trimmed_iff {w : Workspace} {source destination : DocumentPath} {log reason : String}
    {result : EStateM.Result QueueStoreError World DocumentPath} :
    StoreAudited w source destination log (trimmed reason) result ↔ StoreAudited w source destination log reason result := by
  unfold StoreAudited
  rw [trimmed_trimmed]

/-- The interpreter looks at the reason before it calls the queue store. -/
theorem applyBuiltin_audited_iff {kind : WorkItemKind} {intent : SourceLifecycleIntent}
    (requeues : intent.action = .requeue) (document : kind ≠ .blueprintDraft) :
    Audited (some (builtinPlace kind .active intent.workItemId)) (intent.reason.getD "") s (applyBuiltin env kind intent s) ↔
      isBlank (intent.reason.getD "") = true ∨
        StoreSound env.toEnvironment s.queue kind .active intent.workItemId True := by
  unfold applyBuiltin applyDocument
  rw [if_neg document, requeues]
  dsimp only
  cases blank : isBlank (intent.reason.getD "") with
  | true =>
    rw [requiredReason_refuses blank]
    simp only [true_or, iff_true]
    exact ⟨⟨_, rfl⟩, rfl, rfl, rfl, rfl⟩
  | false =>
    rw [requiredReason_given blank]
    have audited := requeueItem_audited_iff env.toEnvironment s.queue kind intent.workItemId
      (trimmed (intent.reason.getD ""))
    rw [isBlank_trimmed, blank] at audited
    simp only [Bool.false_eq_true, false_or]
    refine Iff.trans ?_ ((StoreAudited.trimmed_iff.symm.trans audited).trans (by simp [StoreSound]))
    rw [← requeueBuiltin_eq]
    exact documentOperation_audited_iff

omit [Rfc3339] in
theorem intentTarget_refuses {families : List WorkItemFamilyDefinition} {intent : SourceLifecycleIntent}
    {e : QueueStoreError} (refused : intentTarget families intent = .error e) : ∃ message, e = .invalidState message := by
  unfold intentTarget at refused
  cases validated : validateIntent intent with
  | error error =>
    rw [validated] at refused
    exact ⟨_, (Except.error.inj refused).symm⟩
  | ok _ =>
    rw [validated] at refused
    cases coerced : coerceFamilyAndKind intent.workItemFamilyId intent.workItemKind with
    | error error =>
      rw [coerced] at refused
      exact ⟨_, (Except.error.inj refused).symm⟩
    | ok named =>
      rw [coerced] at refused
      obtain ⟨family, kind⟩ := named
      cases kind with
      | some kind => cases refused
      | none =>
        cases family with
        | none => exact ⟨_, (Except.error.inj refused).symm⟩
        | some familyId =>
          dsimp only [Except.mapError, bind, Except.bind] at refused
          cases found : families.find? fun family => family.familyId == familyId with
          | none =>
            rw [found] at refused
            exact ⟨_, (Except.error.inj refused).symm⟩
          | some family =>
            rw [found] at refused
            cases refused

/-! ### Families of a plan -/

/-- The state after so many file operations. -/
def LifecycleWorld.ticked (s : LifecycleWorld) (n : Nat) : LifecycleWorld :=
  s.setQueue ⟨s.queue.workspace, s.queue.step + n⟩

@[simp] theorem ticked_step (t : LifecycleWorld) (n : Nat) : (t.ticked n).queue.step = t.queue.step + n := rfl

theorem familyTimestamp_run (t : LifecycleWorld) :
    onQueueWorld (currentTimestamp env.toEnvironment) t = .ok (env.reading t.queue.step).now (t.ticked 1) := rfl

theorem familyOperation_run (path : String) (t : LifecycleWorld) :
    familyOperation env path t = match (env.reading t.queue.step).fault with
      | some message => .error (.io (absolute env.toEnvironment ("millrace-agents/" ++ path)) message) (t.ticked 1)
      | none => .ok () (t.ticked 1) := by
  unfold familyOperation onQueueWorld
  rw [onPart_run, fileOperation_run]
  cases (env.reading t.queue.step).fault <;> rfl

@[simp] theorem moveGeneric_step (t : LifecycleWorld) (source destination raw : String) :
    (t.moveGeneric source destination raw).queue.step = t.queue.step := rfl

theorem appendFamilyRequeueReason_run (family : WorkItemFamilyDefinition) (workItemId : String) {reason : String}
    (given : isBlank reason = false) (t : LifecycleWorld) :
    appendFamilyRequeueReason env family workItemId reason t =
      match (env.reading (t.queue.step + 1)).fault with
      | some message => .error (.io (absolute env.toEnvironment
          ("millrace-agents/" ++ familyRequeueLog family workItemId)) message) (t.ticked 2)
      | none => .ok () { t.ticked 2 with familyLog := t.familyLog ++ [(familyRequeueLog family workItemId,
          ⟨(env.reading t.queue.step).now, family.familyId, trimmed reason⟩)] } := by
  unfold appendFamilyRequeueReason
  simp only [given, Bool.false_eq_true, if_false, bind_run, familyTimestamp_run, familyOperation_run, ticked_step]
  cases (env.reading (t.queue.step + 1)).fault <;> rfl

theorem Moved.congr {place : RequeuePlace} {s t u : LifecycleWorld} (moved : Moved place s t)
    (workspace : u.queue.workspace = t.queue.workspace) (drafts : u.drafts.drafts = t.drafts.drafts)
    (generic : u.generic = t.generic) : Moved place s u := by
  obtain ⟨content, file, files⟩ := moved
  refine ⟨content, file, fun path => Eq.trans ?_ (files path)⟩
  cases path with
  | document path => simp only [LifecycleWorld.file, workspace]
  | draft path => simp only [LifecycleWorld.file, DraftWorld.file, drafts]
  | generic path => simp only [LifecycleWorld.file, generic]

omit [Rfc3339] in
theorem movedGeneric_ne {files : Std.ExtTreeMap String String compare} {source destination raw raw' : String}
    (file : files[source]? = some raw) (apart : source ≠ destination) :
    (files.erase source).insert destination raw' ≠ files := by
  intro same
  have gone : ((files.erase source).insert destination raw')[source]? = none := by
    simp [apart.symm]
  rw [same, file] at gone
  cases gone

theorem moveGeneric_file (t : LifecycleWorld) (source destination raw : String) (path : LifecyclePath) :
    (t.moveGeneric source destination raw).file path =
      if path = .generic destination then some (.text raw) else if path = .generic source then none else t.file path := by
  cases path with
  | document path => rfl
  | draft path => rfl
  | generic path =>
    unfold LifecycleWorld.moveGeneric LifecycleWorld.file
    simp only [LifecyclePath.generic.injEq, Std.ExtTreeMap.getElem?_insert, Std.ExtTreeMap.getElem?_erase,
      compare_eq_iff_eq]
    by_cases there : path = destination
    · simp [there]
    · by_cases here : path = source
      · rw [here] at there ⊢
        simp [there, Ne.symm there]
      · simp [here, there, Ne.symm here, Ne.symm there]

theorem familyMove_audited_iff {family : WorkItemFamilyDefinition} {intent : SourceLifecycleIntent}
    (requeues : intent.action = .requeue) :
    Audited (some (familyPlace family intent.workItemId)) (intent.reason.getD "") s
        (moveGenericActiveFamily env family intent s) ↔
      RequeueOperation.familySound env s family intent.workItemId (isBlank (intent.reason.getD "") = false) := by
  unfold moveGenericActiveFamily RequeueOperation.familySound Passes
  simp only [requeues, familyTargetDir, bind_run, get_run]
  cases file : s.generic[familyFile family family.queueDirs.active intent.workItemId]? with
  | none =>
    simp only [true_or, iff_true]
    exact ⟨⟨_, rfl⟩, rfl, rfl, rfl, rfl⟩
  | some raw =>
    by_cases taken : (s.generic[familyFile family family.queueDirs.queue intent.workItemId]?).isSome
    · simp only [taken, if_true, true_or, or_true, iff_true]
      exact ⟨⟨_, rfl⟩, rfl, rfl, rfl, rfl⟩
    · simp only [taken, Bool.false_eq_true, if_false, bind_run, familyOperation_run]
      cases first : (env.reading s.queue.step).fault with
      | some message => simp [Audited]
      | none =>
        cases second : (env.reading (s.queue.step + 1)).fault with
        | some message => simp [Audited, second]
        | none =>
          have apart : familyFile family family.queueDirs.active intent.workItemId ≠
              familyFile family family.queueDirs.queue intent.workItemId := by
            intro same
            rw [← same, file] at taken
            exact taken rfl
          simp only [ticked_step, second, modify_run]
          cases blank : isBlank (intent.reason.getD "") with
          | true =>
            -- the file has its new name, and then there is no reason to record
            simp only [recordFamilyMove, requeues, if_true, requiredReason_refuses blank, bind_run, ofExcept_run]
            simp only [Bool.true_eq_false, false_and, or_false, reduceCtorEq, iff_false]
            rintro ⟨-, unchanged⟩
            exact movedGeneric_ne file apart unchanged.generic
          | false =>
            simp only [recordFamilyMove, requeues, if_true, requiredReason_given blank, bind_run, ofExcept_run,
              appendFamilyRequeueReason_run family _ ((isBlank_trimmed _).trans blank), moveGeneric_step, ticked_step,
              Nat.add_assoc, Nat.reduceAdd]
            cases (env.reading (s.queue.step + 3)).fault with
            | some message => simp [Audited]
            | none =>
              simp only [reduceCtorEq, false_or, true_and, iff_true]
              have moved : Moved (familyPlace family intent.workItemId) s (s.moveGeneric
                  (familyFile family family.queueDirs.active intent.workItemId)
                  (familyFile family family.queueDirs.queue intent.workItemId) raw) :=
                ⟨.text raw, congrArg (Option.map LifecycleFile.text) file, moveGeneric_file s _ _ raw⟩
              refine ⟨_, rfl, rfl, moved.congr rfl rfl rfl, ?_⟩
              exact .family ⟨_, _, _⟩ (trimmed_trimmed _) rfl rfl

end Operations

/-- Every requeue is all or nothing and audited exactly where it is sound. -/
theorem requeue_audited_iff (env : DraftEnvironment) (operation : RequeueOperation) (s : LifecycleWorld) :
    Audited operation.place operation.reason s (operation.run env s) ↔ operation.Sound env s := by
  cases operation with
  | requeueTask taskId reason =>
    exact documentOperation_audited_iff.trans (requeueItem_audited_iff env.toEnvironment s.queue .task taskId reason)
  | requeueProbe probeId reason =>
    exact documentOperation_audited_iff.trans (requeueItem_audited_iff env.toEnvironment s.queue .probe probeId reason)
  | requeueSpec specId reason =>
    exact documentOperation_audited_iff.trans (requeueItem_audited_iff env.toEnvironment s.queue .spec specId reason)
  | requeueIncident incidentId reason =>
    exact documentOperation_audited_iff.trans
      (requeueItem_audited_iff env.toEnvironment s.queue .incident incidentId reason)
  | requeueLearningRequest learningRequestId reason =>
    exact documentOperation_audited_iff.trans
      (requeueItem_audited_iff env.toEnvironment s.queue .learningRequest learningRequestId reason)
  | requeueBlockedTask taskId reason actor auto failureClass attemptNumber =>
    exact documentOperation_audited_iff.trans
      (requeueBlockedTask_audited_iff env.toEnvironment s.queue taskId reason actor auto failureClass attemptNumber)
  | applyIntent families intent requeues document =>
    unfold RequeueOperation.place RequeueOperation.reason RequeueOperation.run RequeueOperation.Sound applyIntent
    simp only [bind_run, ofExcept_run]
    cases target : intentTarget families intent with
    | error e =>
      simp only [iff_true]
      obtain ⟨message, rfl⟩ := intentTarget_refuses target
      exact ⟨⟨message, rfl⟩, rfl, rfl, rfl, rfl⟩
    | ok target' =>
      cases target' with
      | builtin kind =>
        exact applyBuiltin_audited_iff requeues fun draft => document (draft ▸ target)
      | family family => exact familyMove_audited_iff requeues

end

/-! ## A requeue without a reason -/

section Concrete
local instance zonesOfRequeues : Rfc3339 := twoZones

def calmRequeues : DraftEnvironment where
  root := "/workspace"
  reading _ := ⟨inLondon, 0, none⟩
  removal _ := none

/-- One active task. -/
def activeTask : LifecycleWorld where
  drafts := ⟨⟨Workspace.empty.insert (taskPath .active "task-1") "", 0⟩, fun _ => ∅, 0⟩
  generic := ∅
  familyLog := []

/-- The task is refused for its blank reason once it is in the queue. -/
theorem requeued_without_reason :
    ¬ ∀ (env : DraftEnvironment) (operation : RequeueOperation) (s : LifecycleWorld),
      Audited operation.place operation.reason s (operation.run env s) := by
  intro audited
  have refused := audited calmRequeues (.requeueTask "task-1" " ") activeTask
  have moved : (match (RequeueOperation.requeueTask "task-1" " ").run calmRequeues activeTask with
      | .ok _ _ => none
      | .error _ t => t.queue.workspace.file (taskPath .queue "task-1")) = some "" := by decide +kernel
  have queued : activeTask.queue.workspace.file (taskPath .queue "task-1") = none := by decide +kernel
  cases ran : (RequeueOperation.requeueTask "task-1" " ").run calmRequeues activeTask with
  | ok path t =>
    rw [ran] at moved
    cases moved
  | error e t =>
    rw [ran] at moved refused
    have same := refused.2.workspace
    dsimp only at moved
    rw [same, queued] at moved
    cases moved

end Concrete

end Millrace.Queue
