import Millrace.Workspace.AllOrNothing

/-! Which cascades run to their end once the superseded task is archived. -/

set_option autoImplicit false

namespace Millrace.Queue
open Millrace.Text Millrace.Contracts Millrace.WorkDocuments Millrace.Action

section
variable [Rfc3339]

/-! ## Dependents -/

section Dependents
variable (env : Environment) (w : Workspace) (old : String)

def dependentIds (path : DocumentPath) : List String :=
  let document := (w.file path).bind fun raw =>
    (parseTaskDocumentWithSource raw (absolute env path.relative)).toOption
  (document.filter fun task => task.dependsOn.contains old).toList.map (·.taskId)

/-- The ids of the queued documents that depend on the task. -/
def dependentsOf : List String :=
  (w.markdownFiles ⟨.task, .queue, none⟩).flatMap (dependentIds env w old)

variable {env w old}

theorem dependentsRead_cons (step : Nat) (path : DocumentPath) (rest : List DocumentPath) :
    dependentsRead env w old step (path :: rest) =
      (if (env.reading step).fault = none then dependentIds env w old path else []) ++
        dependentsRead env w old (step + 1) rest := by
  unfold dependentIds
  rw [dependentsRead]
  split <;> rfl

theorem dependentsRead_sublist (step : Nat) (paths : List DocumentPath) :
    (dependentsRead env w old step paths).Sublist (paths.flatMap (dependentIds env w old)) := by
  induction paths generalizing step with
  | nil => exact .refl _
  | cons path rest ih =>
    rw [dependentsRead_cons, List.flatMap_cons]
    split
    · exact (List.Sublist.refl _).append (ih (step + 1))
    · exact (ih (step + 1)).trans (List.sublist_append_right _ _)

/-- Which dependents are found depends on which documents can be read. -/
theorem dependentsRead_kept (keep : DocumentPath → Bool) (step : Nat) (paths : List DocumentPath)
    (kept : ∀ i path, paths[i]? = some path → ((env.reading (step + i)).fault = none ↔ keep path = true)) :
    dependentsRead env w old step paths = (paths.filter keep).flatMap (dependentIds env w old) := by
  induction paths generalizing step with
  | nil => rfl
  | cons path rest ih =>
    have first : (env.reading step).fault = none ↔ keep path = true := kept 0 path rfl
    have later := ih (step + 1) fun i path' there => by
      have here := kept (i + 1) path' (by simpa using there)
      rwa [show step + (i + 1) = step + 1 + i by omega] at here
    rw [dependentsRead_cons, later, List.filter_cons]
    by_cases keeps : keep path = true
    · rw [if_pos (first.mpr keeps), if_pos keeps, List.flatMap_cons]
    · rw [if_neg fun none => keeps (first.mp none), if_neg keeps, List.nil_append]

theorem dependentIds_safe {path : DocumentPath} {taskId : String} (member : taskId ∈ dependentIds env w old path) :
    SafeIdentifier taskId := by
  unfold dependentIds at member
  obtain ⟨task, found, rfl⟩ := List.mem_map.mp member
  have read := (Option.filter_eq_some_iff.mp (Option.mem_toList.mp found)).1
  obtain ⟨raw, -, parsed⟩ := Option.bind_eq_some_iff.mp read
  cases ran : parseTaskDocumentWithSource raw (absolute env path.relative) with
  | error error =>
    rw [ran] at parsed
    cases parsed
  | ok document =>
    rw [ran] at parsed
    obtain rfl := Option.some.inj parsed
    exact (valid_of_parseTaskDocument ran).taskId

theorem dependentsOf_safe {taskId : String} (member : taskId ∈ dependentsOf env w old) : SafeIdentifier taskId := by
  obtain ⟨path, -, listed⟩ := List.mem_flatMap.mp member
  exact dependentIds_safe listed

/-- A document gives one id at most. -/
theorem dependentIds_eq (path : DocumentPath) :
    dependentIds env w old path = [] ∨ ∃ taskId, dependentIds env w old path = [taskId] := by
  unfold dependentIds
  dsimp only
  generalize Option.filter _ _ = found
  cases found with
  | none => exact .inl rfl
  | some task => exact .inr ⟨task.taskId, rfl⟩

/-- The dependents of one id, when only their documents can be read. -/
theorem dependents_of_kept (taskId : String) (paths : List DocumentPath) :
    (paths.filter fun path => decide (taskId ∈ dependentIds env w old path)).flatMap (dependentIds env w old) =
      List.replicate ((paths.flatMap (dependentIds env w old)).count taskId) taskId := by
  induction paths with
  | nil => rfl
  | cons path rest ih =>
    rw [List.filter_cons, List.flatMap_cons, List.count_append]
    rcases dependentIds_eq path with none | ⟨other, one⟩
    · rw [none]
      simpa using ih
    · rw [one]
      by_cases same : taskId = other
      · subst same
        simp [one, ih, List.replicate_succ, Nat.add_comm 1]
      · have apart : ¬other = taskId := fun equal => same equal.symm
        simp [same, apart, ih]

end Dependents

/-! ## Names of archived documents -/

omit [Rfc3339] in
theorem dot_not_mem_toDigitsCore {base : Nat} (known : 0 < base ∧ base ≤ 16) (fuel n : Nat) (digits : List Char)
    (dotless : '.' ∉ digits) : '.' ∉ Nat.toDigitsCore base fuel n digits := by
  have digit : ∀ m < 16, '.' ≠ Nat.digitChar m := by decide
  induction fuel generalizing n digits with
  | zero => exact dotless
  | succ fuel ih =>
    have longer : '.' ∉ Nat.digitChar (n % base) :: digits := fun member =>
      (List.mem_cons.mp member).elim (digit _ ((Nat.mod_lt n known.1).trans_le known.2)) dotless
    unfold Nat.toDigitsCore
    dsimp only
    split
    · exact longer
    · exact ih _ _ longer

omit [Rfc3339] in
theorem dot_not_mem_padded (width : Nat) {base : Nat} (known : 0 < base ∧ base ≤ 16) (n : Nat) :
    '.' ∉ (padded width (Nat.toDigits base n)).toList := by
  have digits := dot_not_mem_toDigitsCore known (n + 1) n [] (by simp)
  simpa [padded, Nat.toDigits] using digits

omit [Rfc3339] in
theorem dot_not_mem_compactTimestamp (value : OffsetDateTime) : '.' ∉ (compactTimestamp value).toList := by
  have part (width n : Nat) : '.' ∉ (decimal width n).toList := dot_not_mem_padded width (by decide) n
  simp [compactTimestamp, part]

omit [Rfc3339] in
/-- What stands before the last dot is known. -/
theorem append_dot_inj {a a' b b' : List Char} (dotless : '.' ∉ b) (dotless' : '.' ∉ b')
    (same : a ++ ".".toList ++ b = a' ++ ".".toList ++ b') : a = a' := by
  have dot (front back : List Char) : front ++ ".".toList ++ back = front ++ '.' :: back := by
    rw [List.append_assoc]
    rfl
  rw [dot, dot] at same
  rcases List.append_eq_append_iff.mp same with ⟨c, rfl, rest⟩ | ⟨c, rfl, rest⟩
  · cases c with
    | nil => simp
    | cons x c =>
      obtain ⟨-, rfl⟩ := List.cons.inj rest
      simp at dotless
  · cases c with
    | nil => simp
    | cons x c =>
      obtain ⟨-, rfl⟩ := List.cons.inj rest
      simp at dotless'

/-- The name in an archive tells which task it was given to. -/
theorem archivePath_itemId {parent parent' : Directory} {located located' : LocatedInterventionItem}
    {archiveName archiveName' : String} {appliedAt appliedAt' : Timestamp} {suffix suffix' : Nat}
    (dotless : '.' ∉ located.state.toList) (dotless' : '.' ∉ located'.state.toList)
    (same : archivePath parent located archiveName appliedAt suffix =
      archivePath parent' located' archiveName' appliedAt' suffix') : located.workItemId = located'.workItemId := by
  have stems := congrArg (fun path => path.stem.toList) same
  have hexadecimal (n : Nat) : '.' ∉ (hexadecimal 8 n).toList := dot_not_mem_padded 8 (by decide) n
  simp only [archivePath, String.toList_append] at stems
  have front := append_dot_inj dotless dotless' stems
  have earlier := append_dot_inj (hexadecimal suffix) (hexadecimal suffix') front
  exact String.toList_inj.mp
    (append_dot_inj (dot_not_mem_compactTimestamp _) (dot_not_mem_compactTimestamp _) earlier)

/-! ## Cascades -/

def Refusal (e : QueueStoreError) : Prop := ∃ message, e = .invalidState message

section Cascade
variable (env : Environment) (w : Workspace) (old new reason : String) (context : OperatorInterventionContext)

/-- Each dependent can be retargeted, and none that can be read comes twice. -/
def CleanRetargets (tasks : List String) : Prop :=
  ∀ taskId ∈ tasks, RetargetAccepted env w taskId old new reason ∧
    (queuedDocument env w taskId ≠ none → tasks.count taskId = 1)

/-- Each dependent is in one place and comes once, and all names that it may have in the archive are free. -/
def CleanCancels (tasks : List String) : Prop :=
  ∀ taskId ∈ tasks, tasks.count taskId = 1 ∧ ∃ located, cancelCandidates w taskId (some .task) = [located] ∧
    ∀ destination, (cancelable taskId (some .task)).MayChoose context located destination → w.file destination = none

def CleanCascade : MailboxSupersedeCascade → List String → Prop
  | .none, _ => True
  | .retarget, tasks => CleanRetargets env w old new reason tasks
  | .cancel, tasks => CleanCancels w context tasks

variable {env w old new reason context}

omit [Rfc3339] in
theorem count_of_sublist {tasks tasks' : List String} (sub : tasks'.Sublist tasks) {taskId : String}
    (member : taskId ∈ tasks') (once : tasks.count taskId = 1) : tasks'.count taskId = 1 := by
  have most := sub.count_le taskId
  have least := List.count_pos_iff.mpr member
  omega

theorem CleanCascade.sublist {cascade : MailboxSupersedeCascade} {tasks tasks' : List String}
    (clean : CleanCascade env w old new reason context cascade tasks) (sub : tasks'.Sublist tasks) :
    CleanCascade env w old new reason context cascade tasks' := by
  cases cascade with
  | none => trivial
  | retarget =>
    intro taskId member
    obtain ⟨accepted, once⟩ := clean taskId (sub.subset member)
    exact ⟨accepted, fun read => count_of_sublist sub member (once read)⟩
  | cancel =>
    intro taskId member
    obtain ⟨once, placed⟩ := clean taskId (sub.subset member)
    exact ⟨count_of_sublist sub member once, placed⟩

/-- The workspaces differ in one archive at most. -/
def AgreesOutside (archiveName : String) (w w' : Workspace) : Prop :=
  ∀ path, path.directory.archive ≠ some archiveName → w'.file path = w.file path

section Agrees
variable {w' : Workspace}

theorem Available.congr {taskId : String} (same : ∀ state, w'.file (taskPath state taskId) = w.file (taskPath state taskId))
    (available : Available w taskId) : Available w' taskId := by
  obtain ⟨state, member, there⟩ := available
  exact ⟨state, member, by rwa [same]⟩

theorem cancelCandidates_congr {taskId : String}
    (same : ∀ state, w'.file (taskPath state taskId) = w.file (taskPath state taskId)) :
    cancelCandidates w' taskId (some .task) = cancelCandidates w taskId (some .task) := by
  unfold taskPath at same
  simp [cancelCandidates, locateCancelableForKind, same]

theorem AgreesOutside.task (agrees : AgreesOutside "superseded" w w') (state : ItemState) (taskId : String) :
    w'.file (taskPath state taskId) = w.file (taskPath state taskId) := agrees _ (by simp [taskPath])

theorem AgreesOutside.symm {archiveName : String} (agrees : AgreesOutside archiveName w w') :
    AgreesOutside archiveName w' w := fun path outside => (agrees path outside).symm

theorem RetargetAccepted.agrees {taskId : String} (agrees : AgreesOutside "superseded" w w')
    (accepted : RetargetAccepted env w taskId old new reason) : RetargetAccepted env w' taskId old new reason :=
  { accepted with
    queued := by rw [agrees.task]; exact accepted.queued
    available := accepted.available.congr fun state => agrees.task state new
    once := fun d held => accepted.once d ((queuedDocument_congr (agrees.task _ _)).symm.trans held) }

theorem CleanCascade.agrees {cascade : MailboxSupersedeCascade} {tasks : List String}
    (agrees : AgreesOutside "superseded" w w') (clean : CleanCascade env w old new reason context cascade tasks) :
    CleanCascade env w' old new reason context cascade tasks := by
  cases cascade with
  | none => trivial
  | retarget =>
    intro taskId member
    obtain ⟨accepted, once⟩ := clean taskId member
    rw [queuedDocument_congr (agrees.task _ _)]
    exact ⟨accepted.agrees agrees, once⟩
  | cancel =>
    intro taskId member
    obtain ⟨once, located, single, free⟩ := clean taskId member
    refine ⟨once, located, (cancelCandidates_congr fun state => agrees.task state taskId).trans single, fun destination chosen => ?_⟩
    rw [agrees destination (by
      obtain ⟨_, _, -, rfl⟩ := chosen
      simp [archivePath, cancelable])]
    exact free destination chosen

end Agrees

/-- The rewriting of one dependent leaves the others as they were. -/
theorem Retargeted.others {taskId taskId' : String} {appliedAt : Timestamp} {w' : Workspace}
    (retargeted : Retargeted env w taskId old new appliedAt w') (other : taskId' ≠ taskId) (state : ItemState) :
    w'.file (taskPath state taskId') = w.file (taskPath state taskId') := by
  obtain ⟨d, -, files⟩ := retargeted
  rw [file_of_files files, Workspace.file_insert_task, if_neg fun same => other same.2]

theorem Retargeted.available {taskId taskId' : String} {appliedAt : Timestamp} {w' : Workspace}
    (retargeted : Retargeted env w taskId old new appliedAt w') (available : Available w taskId') :
    Available w' taskId' := by
  obtain ⟨state, member, there⟩ := available
  refine ⟨state, member, ?_⟩
  obtain ⟨d, -, files⟩ := retargeted
  rw [file_of_files files, Workspace.file_insert_task]
  split
  · rfl
  · exact there

theorem retargets_clean (signed : isBlank context.actor = false) (tasks : List String) (s : World)
    (clean : CleanRetargets env s.workspace old new reason tasks) :
    Ensues s (tasks.forM (cascadeTo env old new reason .retarget context)) (fun _ _ => True) fun e _ => ¬Refusal e := by
  induction tasks generalizing s with
  | nil => exact .pure trivial
  | cons taskId rest ih =>
    obtain ⟨accepted, once⟩ := clean taskId List.mem_cons_self
    have first : Ensues s (cascadeTo env old new reason .retarget context taskId)
        (fun _ t => ∃ appliedAt, Retargeted env s.workspace taskId old new appliedAt t.workspace)
        fun e _ => ¬Refusal e := by
      apply Ensues.bind ((retargetQueuedTaskDependency_ensues taskId old new reason).weaken (fun _ _ ends => ends.2.2.1) ?_)
      · intro _ t retargeted
        exact .pure ⟨_, retargeted⟩
      · rintro e t fails ⟨message, rfl⟩
        generalize t.workspace = w' at fails
        cases fails with
        | refused _ refused => exact refused accepted
        | unsigned _ _ blank _ _ => simp [signed] at blank
    apply first.bind
    rintro _ t ⟨appliedAt, retargeted⟩
    apply ih
    intro taskId' member
    obtain ⟨accepted', once'⟩ := clean taskId' (List.mem_cons_of_mem _ member)
    -- the document that was just rewritten was read, so its id does not come again
    have other : taskId' ≠ taskId := by
      rintro rfl
      obtain ⟨d, read, -⟩ := id retargeted
      have count := once (by simp [read])
      rw [List.count_cons_self] at count
      have again := List.count_pos_iff.mpr member
      omega
    have read : queuedDocument env t.workspace taskId' = queuedDocument env s.workspace taskId' :=
      queuedDocument_congr (retargeted.others other .queue)
    rw [read]
    refine ⟨{ accepted' with
      queued := by rw [retargeted.others other]; exact accepted'.queued
      available := retargeted.available accepted'.available
      once := fun d held => accepted'.once d (read.symm.trans held) }, fun readable => ?_⟩
    have count := once' readable
    rwa [List.count_cons_of_ne (Ne.symm other)] at count

theorem mem_cancelCandidates_task {taskId : String} {located : LocatedInterventionItem}
    (member : located ∈ cancelCandidates w taskId (some .task)) :
    ∃ state ∈ [ItemState.queue, .blocked], located = ⟨.task, taskId, state.name .task, taskPath state taskId⟩ := by
  obtain ⟨kind, listed, found⟩ := List.mem_flatMap.mp member
  obtain rfl := List.mem_singleton.mp listed
  obtain ⟨state, among, here⟩ := List.mem_filterMap.mp found
  dsimp only at here
  split at here
  next => exact ⟨state, among, (Option.some.inj here).symm⟩
  next => cases here

theorem cancelWorkItem_eq (workItemId : String) (kind : Option WorkItemKind) :
    cancelWorkItem env workItemId kind reason context =
      (cancelable workItemId kind).operation env "work_item_id" (locateCancelableWorkItem workItemId kind) {
        action := .cancel
        destinationState := "cancelled"
        archiveName := "cancelled"
        eventType := "work_item_cancelled"
        reason := reason
        context := context
        replacementWorkItemId := none
        affectedDependents := [] } := rfl

/-- The archiving of one dependent leaves the others, and the names that they may get, as they were. -/
theorem archived_others {taskId taskId' : String} {located located' : LocatedInterventionItem}
    {destination : DocumentPath} {w' : Workspace} (found : located ∈ cancelCandidates w taskId (some .task))
    (found' : located' ∈ cancelCandidates w taskId' (some .task)) (other : taskId' ≠ taskId)
    (chosen : (cancelable taskId (some .task)).MayChoose context located destination)
    (archived : Archived w located destination w') :
    (∀ state, w'.file (taskPath state taskId') = w.file (taskPath state taskId')) ∧
      ∀ destination', (cancelable taskId' (some .task)).MayChoose context located' destination' →
        w.file destination' = none → w'.file destination' = none := by
  obtain ⟨state, among, rfl⟩ := mem_cancelCandidates_task found
  obtain ⟨state', among', rfl⟩ := mem_cancelCandidates_task found'
  obtain ⟨-, raw, -, files⟩ := archived
  obtain ⟨_, _, -, rfl⟩ := chosen
  have dotless {state : ItemState} (member : state ∈ [ItemState.queue, .blocked]) : '.' ∉ (state.name .task).toList := by
    rcases List.mem_pair.mp member with rfl | rfl <;> decide
  constructor
  · intro state''
    rw [file_of_files files, Workspace.file_insert, if_neg (by simp [taskPath, archivePath]), Workspace.file_erase,
      if_neg (by simp [other])]
  · rintro _ ⟨_, _, -, rfl⟩ free
    rw [file_of_files files, Workspace.file_insert, if_neg, Workspace.file_erase, free, ite_self]
    intro same
    exact other (archivePath_itemId (dotless among') (dotless among) same)

theorem cancels_clean (signed : isBlank context.actor = false) (given : isBlank reason = false) (tasks : List String)
    (safe : ∀ taskId ∈ tasks, SafeIdentifier taskId) (s : World) (clean : CleanCancels s.workspace context tasks) :
    Ensues s (tasks.forM (cascadeTo env old new reason .cancel context)) (fun _ _ => True) fun e _ => ¬Refusal e := by
  induction tasks generalizing s with
  | nil => exact .pure trivial
  | cons taskId rest ih =>
    obtain ⟨once, located, single, free⟩ := clean taskId List.mem_cons_self
    have proceeds (destination : DocumentPath)
        (chosen : (cancelable taskId (some .task)).MayChoose context located destination) :
        (cancelable taskId (some .task)).Proceeds s.workspace reason context located destination :=
      ⟨safe taskId List.mem_cons_self, given, single, chosen, free destination chosen⟩
    have first : Ensues s (cascadeTo env old new reason .cancel context taskId)
        (fun _ t => ∃ destination, (cancelable taskId (some .task)).MayChoose context located destination ∧
          Archived s.workspace located destination t.workspace) fun e _ => ¬Refusal e := by
      unfold cascadeTo
      rw [cancelWorkItem_eq]
      apply Ensues.bind ((Archiving.operation_ensues (cancelable_locates taskId _) rfl).weaken (fun _ _ ends => ends.2.1) ?_)
      · rintro _ t ⟨located', proceeds', archived⟩
        obtain rfl : located' = located := by simpa using proceeds'.single.symm.trans single
        exact .pure ⟨_, proceeds'.chosen, archived⟩
      · rintro e t fails ⟨message, rfl⟩
        generalize t.workspace = w' at fails
        cases fails with
        | refused _ refused => exact refused located (proceeds _ (Archiving.destinationAt_mayChoose _ _ _))
        | unsigned _ _ blank _ _ => simp [signed] at blank
    apply first.bind
    rintro _ t ⟨destination, chosen, archived⟩
    apply ih (fun taskId' member => safe taskId' (List.mem_cons_of_mem _ member))
    intro taskId' member
    obtain ⟨once', located', single', free'⟩ := clean taskId' (List.mem_cons_of_mem _ member)
    have other : taskId' ≠ taskId := by
      rintro rfl
      rw [List.count_cons_self] at once
      have again := List.count_pos_iff.mpr member
      omega
    have found : located ∈ cancelCandidates s.workspace taskId (some .task) := by
      rw [single]
      exact List.mem_singleton_self _
    have found' : located' ∈ cancelCandidates s.workspace taskId' (some .task) := by
      rw [single']
      exact List.mem_singleton_self _
    obtain ⟨same, still⟩ := archived_others found found' other chosen archived
    rw [List.count_cons_of_ne (Ne.symm other)] at once'
    exact ⟨once', located', (cancelCandidates_congr same).trans single', fun destination' chosen' =>
      still destination' chosen' (free' destination' chosen')⟩

/-! ## Cascades that are refused -/

/-- The first step of a cascade is refused, and changes nothing, where its dependent cannot be retargeted. -/
theorem retarget_refused {taskId : String} {s : World} (calm : ¬FaultyFrom env s.step)
    (signed : isBlank context.actor = false) (refuses : ¬RetargetAccepted env s.workspace taskId old new reason)
    (readable : queuedDocument env s.workspace taskId = none → ¬(s.workspace.file (taskPath .queue taskId)).isSome) :
    Ensues s (cascadeTo env old new reason .retarget context taskId) (fun _ _ => False)
      fun e t => Refusal e ∧ t.workspace = s.workspace := by
  apply Ensues.bind ((retargetQueuedTaskDependency_ensues taskId old new reason).weaken (fun _ _ ends => refuses ends.1) ?_)
  · exact fun _ _ impossible => impossible.elim
  · intro e t fails
    generalize t.workspace = w' at fails
    cases fails with
    | refused message _ => exact ⟨⟨message, rfl⟩, rfl⟩
    | unreadable _ _ unread => exact absurd unread.1 (readable unread.2)
    | early _ _ faulty => exact absurd faulty calm
    | unsigned _ _ blank _ _ => simp [signed] at blank
    | late _ _ _ faulty _ => exact absurd faulty calm

theorem retargets_refused (oneLine : OneLineTimestamps) (different : old ≠ new) (signed : isBlank context.actor = false)
    {taskId : String} {s : World} (calm : ¬FaultyFrom env s.step) {times : Nat}
    (unclean : ¬RetargetAccepted env s.workspace taskId old new reason ∨
      (queuedDocument env s.workspace taskId ≠ none ∧ 1 ≤ times))
    (readable : ¬RetargetAccepted env s.workspace taskId old new reason → queuedDocument env s.workspace taskId = none →
      ¬(s.workspace.file (taskPath .queue taskId)).isSome) :
    Ensues s ((List.replicate (times + 1) taskId).forM (cascadeTo env old new reason .retarget context)) (fun _ _ => False)
      fun e t => Refusal e ∧ ∀ path, s.workspace.file path = none → t.workspace.file path = none := by
  by_cases accepted : RetargetAccepted env s.workspace taskId old new reason
  · obtain ⟨read, twice⟩ := unclean.resolve_left (not_not.mpr accepted)
    obtain ⟨times, rfl⟩ := Nat.exists_eq_add_of_le' twice
    have first : Ensues s (cascadeTo env old new reason .retarget context taskId)
        (fun _ t => (∃ appliedAt, Retargeted env s.workspace taskId old new appliedAt t.workspace) ∧ s.step ≤ t.step)
        fun e t => Refusal e ∧ ∀ path, s.workspace.file path = none → t.workspace.file path = none := by
      apply Ensues.bind ((retargetQueuedTaskDependency_ensues taskId old new reason).weaken (fun _ _ ends => ends.2.2) ?_)
      · exact fun _ t ends => .pure ⟨⟨_, ends.1⟩, ends.2⟩
      · intro e t fails
        generalize t.workspace = w' at fails
        cases fails with
        | refused _ refused => exact absurd accepted refused
        | unreadable _ _ unread => exact absurd unread.2 read
        | early _ _ faulty => exact absurd faulty calm
        | unsigned _ _ blank _ _ => simp [signed] at blank
        | late _ _ _ faulty _ => exact absurd faulty calm
    apply first.bind
    rintro _ t ⟨⟨appliedAt, retargeted⟩, later⟩
    -- the document does not depend on the old task any more
    obtain ⟨d, read, files⟩ := id retargeted
    obtain ⟨raw, -, parsed⟩ := Option.bind_eq_some_iff.mp read
    have reread : ∃ d', queuedDocument env t.workspace taskId = some d' := by
      cases ran : parseTaskDocumentWithSource raw (absolute env (taskPath .queue taskId).relative) with
      | error error =>
        rw [ran] at parsed
        cases parsed
      | ok document =>
        rw [ran] at parsed
        obtain rfl := Option.some.inj parsed
        unfold queuedDocument
        rw [file_of_files files, Workspace.file_insert, if_pos rfl, Option.bind_some,
          retargetedTask_reads ran accepted.new (oneLine _)]
        exact ⟨_, rfl⟩
    obtain ⟨d', reread⟩ := reread
    have gone : ¬DependsFrom env t.workspace .queue taskId old := by
      rw [retargeted_dependsFrom oneLine accepted retargeted]
      rintro (⟨-, kept⟩ | ⟨-, -, same, -⟩)
      · exact kept ⟨rfl, rfl, rfl⟩
      · exact different same
    have refuses : ¬RetargetAccepted env t.workspace taskId old new reason := by
      intro again
      have count := again.once d' reread
      exact gone ⟨d', reread, List.count_pos_iff.mp (by omega)⟩
    apply Ensues.bind ((retarget_refused (fun faulty => calm (faulty.earlier later)) signed refuses
      (by simp [reread])).weaken (fun _ _ impossible => impossible) ?_)
    · exact fun _ _ impossible => impossible.elim
    · rintro e t' ⟨refusal, same⟩
      refine ⟨refusal, fun path none => ?_⟩
      have apart : path ≠ taskPath .queue taskId := by
        rintro rfl
        have queued := accepted.queued
        rw [none] at queued
        cases queued
      rw [same, file_of_files files, Workspace.file_insert, if_neg apart]
      exact none
  · apply Ensues.bind ((retarget_refused calm signed accepted (readable accepted)).weaken (fun _ _ impossible => impossible) ?_)
    · exact fun _ _ impossible => impossible.elim
    · rintro e t ⟨refusal, same⟩
      exact ⟨refusal, fun path none => by rw [same]; exact none⟩

theorem cancel_refused {taskId : String} {s : World} (calm : ¬FaultyFrom env s.step)
    (signed : isBlank context.actor = false)
    (refuses : ∀ located, ¬(cancelable taskId (some .task)).Proceeds s.workspace reason context located
      ((cancelable taskId (some .task)).destinationAt env s.step context located)) :
    Ensues s (cascadeTo env old new reason .cancel context taskId) (fun _ _ => False)
      fun e t => Refusal e ∧ t.workspace = s.workspace := by
  unfold cascadeTo
  rw [cancelWorkItem_eq]
  apply Ensues.bind ((Archiving.operation_ensues (cancelable_locates taskId _) rfl).weaken (fun _ _ ends => ends.2.1) ?_)
  · rintro _ t ⟨located, proceeds, -⟩
    exact absurd proceeds (refuses located)
  · intro e t fails
    generalize t.workspace = w' at fails
    cases fails with
    | refused message _ => exact ⟨⟨message, rfl⟩, rfl⟩
    | unreadable _ _ impossible => exact impossible.elim
    | early _ _ faulty => exact absurd faulty calm
    | unsigned _ _ blank _ _ => simp [signed] at blank
    | late _ _ _ faulty _ => exact absurd faulty calm

/-- A document that was cancelled is in no place from which it could be cancelled. -/
theorem cancelled_gone {taskId : String} {located : LocatedInterventionItem} {destination : DocumentPath} {w' : Workspace}
    (single : cancelCandidates w taskId (some .task) = [located])
    (chosen : (cancelable taskId (some .task)).MayChoose context located destination)
    (archived : Archived w located destination w') : cancelCandidates w' taskId (some .task) = [] := by
  obtain ⟨-, raw, -, files⟩ := archived
  obtain ⟨_, _, -, rfl⟩ := chosen
  have only (other : LocatedInterventionItem) : other ∈ cancelCandidates w taskId (some .task) ↔ other = located := by
    rw [single, List.mem_singleton]
  obtain ⟨state, -, placed⟩ := mem_cancelCandidates_task ((only located).mpr rfl)
  rw [List.eq_nil_iff_forall_not_mem]
  intro other member
  obtain ⟨state', among, rfl⟩ := mem_cancelCandidates_task member
  have there := mem_cancelCandidates member
  rw [file_of_files files, Workspace.file_insert, if_neg (by simp [taskPath, archivePath]), Workspace.file_erase] at there
  split at there
  · cases there
  next apart =>
    refine apart (congrArg LocatedInterventionItem.path ((only _).mp ?_))
    refine List.mem_flatMap.mpr ⟨.task, List.mem_singleton_self _, List.mem_filterMap.mpr ⟨state', among, ?_⟩⟩
    exact if_pos there

theorem cancels_refused (signed : isBlank context.actor = false) {taskId : String} {s : World}
    (calm : ¬FaultyFrom env s.step) {times : Nat}
    (unclean : (∀ located, ¬(cancelable taskId (some .task)).Proceeds s.workspace reason context located
        ((cancelable taskId (some .task)).destinationAt env s.step context located)) ∨ 1 ≤ times) :
    Ensues s ((List.replicate (times + 1) taskId).forM (cascadeTo env old new reason .cancel context)) (fun _ _ => False)
      fun e t => Refusal e ∧ ∀ path, path.directory.archive = none → s.workspace.file path = none →
        t.workspace.file path = none := by
  rcases em (∀ located, ¬(cancelable taskId (some .task)).Proceeds s.workspace reason context located
    ((cancelable taskId (some .task)).destinationAt env s.step context located)) with refuses | goes
  · apply Ensues.bind ((cancel_refused calm signed refuses).weaken (fun _ _ impossible => impossible) ?_)
    · exact fun _ _ impossible => impossible.elim
    · rintro e t ⟨refusal, same⟩
      exact ⟨refusal, fun path _ none => by rw [same]; exact none⟩
  · obtain ⟨times, rfl⟩ := Nat.exists_eq_add_of_le' (unclean.resolve_left goes)
    have first : Ensues s (cascadeTo env old new reason .cancel context taskId)
        (fun _ t => (∃ located destination, cancelCandidates s.workspace taskId (some .task) = [located] ∧
          (cancelable taskId (some .task)).MayChoose context located destination ∧
          Archived s.workspace located destination t.workspace) ∧ t.step = s.step + 8)
        fun e t => Refusal e ∧ ∀ path, path.directory.archive = none → s.workspace.file path = none →
          t.workspace.file path = none := by
      unfold cascadeTo
      rw [cancelWorkItem_eq]
      apply Ensues.bind ((Archiving.operation_ensues (cancelable_locates taskId _) rfl).weaken (fun _ _ ends => ends.2) ?_)
      · rintro _ t ⟨⟨located, proceeds, archived⟩, step⟩
        exact .pure ⟨⟨located, _, proceeds.single, proceeds.chosen, archived⟩, step⟩
      · intro e t fails
        generalize t.workspace = w' at fails
        cases fails with
        | refused _ refused => exact absurd refused goes
        | unreadable _ _ impossible => exact impossible.elim
        | early _ _ faulty => exact absurd faulty calm
        | unsigned _ _ blank _ _ => simp [signed] at blank
        | late _ _ _ faulty _ => exact absurd faulty calm
    apply first.bind
    rintro _ t ⟨⟨located, destination, single, chosen, archived⟩, step⟩
    have gone := cancelled_gone single chosen archived
    have refuses (located' : LocatedInterventionItem) : ¬(cancelable taskId (some .task)).Proceeds t.workspace reason
        context located' ((cancelable taskId (some .task)).destinationAt env t.step context located') := by
      intro proceeds
      cases gone.symm.trans proceeds.single
    apply Ensues.bind ((cancel_refused (fun faulty => calm (faulty.earlier (by omega))) signed refuses).weaken
      (fun _ _ impossible => impossible) ?_)
    · exact fun _ _ impossible => impossible.elim
    · rintro e t' ⟨refusal, same⟩
      refine ⟨refusal, fun path lifecycle none => ?_⟩
      obtain ⟨-, raw, -, files⟩ := archived
      obtain ⟨_, _, -, rfl⟩ := chosen
      rw [same, file_of_files files, Workspace.file_insert, if_neg, Workspace.file_erase, none, ite_self]
      rintro rfl
      simp [archivePath, cancelable] at lifecycle

/-! ## Superseding a task -/

/-- What a superseding asks for before the task goes to the archive under this name. -/
structure SupersedeProceeds (w : Workspace) (old new reason : String) (context : OperatorInterventionContext)
    (located : LocatedInterventionItem) (destination : DocumentPath) : Prop where
  archives : (exactTask old "superseded" [.blocked, .queue]).Proceeds w reason context located destination
  replacement : SafeIdentifier new
  different : old ≠ new
  available : Available w new

/-- The step at which the old task is archived: one listing and one reading of each queued document come before. -/
def archivingStep (s : World) : Nat := s.step + 1 + (s.workspace.markdownFiles ⟨.task, .queue, none⟩).length

/-- The name that the old task gets. -/
def supersededAs (env : Environment) (s : World) (old : String) (context : OperatorInterventionContext)
    (located : LocatedInterventionItem) : DocumentPath :=
  (exactTask old "superseded" [.blocked, .queue]).destinationAt env (archivingStep s) context located

theorem supersedeTask_ensues_cascade (s : World) {cascade : MailboxSupersedeCascade} {Q : World → Prop}
    {E : QueueStoreError → World → Prop}
    (fails : ∀ e t, Fails ((env.reading s.step).fault ≠ none ∨ FaultyFrom env (archivingStep s)) context.actor
      (∀ located, ¬SupersedeProceeds s.workspace old new reason context located (supersededAs env s old context located))
      False s.workspace
      (fun w' => ∃ located, SupersedeProceeds s.workspace old new reason context located
          (supersededAs env s old context located) ∧
        Archived s.workspace located (supersededAs env s old context located) w') e t.workspace → E e t)
    (cascades : ∀ located t, SupersedeProceeds s.workspace old new reason context located
        (supersededAs env s old context located) → isBlank context.actor = false →
      Archived s.workspace located (supersededAs env s old context located) t.workspace →
      t.step = archivingStep s + 8 →
      Ensues t ((dependentsRead env s.workspace old (s.step + 1)
        (s.workspace.markdownFiles ⟨.task, .queue, none⟩)).forM (cascadeTo env old new reason cascade context))
        (fun _ t => Q t) E) :
    Ensues s (supersedeTask env old new reason cascade context) (fun _ t => Q t) E := by
  unfold supersedeTask
  apply (requireIdentifier_ensues _ fun invalid message =>
    fails _ _ (.refused message fun _ p => invalid p.archives.identifier)).reads
  intro _ safeOld
  apply (requireIdentifier_ensues _ fun invalid message =>
    fails _ _ (.refused message fun _ p => invalid p.replacement)).reads
  intro _ safeNew
  apply (refuseIf_ensues fun same => fails _ _ (.refused _ fun _ p => p.different same)).reads
  intro _ different
  apply (locateExactTask_ensues fun none message =>
    fails _ _ (.refused message fun located p => none located p.archives.single)).reads
  intro located single
  apply (requireReplacementTask_ensues fun absent message =>
    fails _ _ (.refused message fun _ p => absent p.available)).reads
  intro _ available
  apply (queuedDependents_ensues (fun path message fault => fails _ _ (.early path message (.inl fault))) old).reads
  rintro dependents rfl
  rw [archiveLocatedItem_eq]
  have there : (s.workspace.file located.path).isSome :=
    (exactTask old "superseded" [.blocked, .queue]).there s.workspace located (by
      show located ∈ itemCandidates s.workspace .task old [.blocked, .queue]
      simp [single])
  have proceeds (given : isBlank reason = false)
      (free : s.workspace.file (supersededAs env s old context located) = none) :
      SupersedeProceeds s.workspace old new reason context located (supersededAs env s old context located) :=
    ⟨⟨safeOld, given, single, Archiving.destinationAt_mayChoose _ _ _, free⟩, safeNew, different, available⟩
  apply Ensues.bind ((archiveLocatedItemUnder_ensues (s := ⟨s.workspace, archivingStep s⟩) there).weaken
    (fun _ _ ends => ends) ?_)
  · rintro result t ⟨signed, given, archived, step⟩
    apply (cascades located t (proceeds given archived.1) signed archived step).bind
    intro _ t' ends
    exact .pure ends
  · intro e t failed
    apply fails
    generalize t.workspace = w' at failed
    cases failed with
    | refused message refused =>
      refine .refused message fun located' p => ?_
      obtain rfl : located' = located := by simpa using p.archives.single.symm.trans single
      rcases refused with blank | taken
      · rw [p.archives.given] at blank
        cases blank
      · have free := p.archives.free
        unfold supersededAs Archiving.destinationAt at free
        erw [free] at taken
        cases taken
    | unreadable _ _ impossible => exact impossible.elim
    | early path message faulty => exact .early path message (.inr faulty)
    | unsigned message _ blank changed kept =>
      exact .unsigned message _ blank ⟨located, proceeds changed.1 changed.2.1, changed.2⟩ kept
    | late path message _ faulty changed =>
      exact .late path message _ (.inr faulty) ⟨located, proceeds changed.1 changed.2.1, changed.2⟩

theorem Archived.agrees {located : LocatedInterventionItem} {destination : DocumentPath} {w' : Workspace}
    (archived : Archived w located destination w')
    (chosen : (exactTask old "superseded" [.blocked, .queue]).MayChoose context located destination) :
    AgreesOutside "superseded" (w.erase located.path) w' := by
  obtain ⟨-, raw, -, files⟩ := archived
  obtain ⟨_, _, -, rfl⟩ := chosen
  intro path outside
  rw [file_of_files files, Workspace.file_insert, if_neg]
  rintro rfl
  exact outside rfl

theorem CleanCascade.root {env' : Environment} (same : env'.root = env.root) {cascade : MailboxSupersedeCascade}
    {tasks : List String} (clean : CleanCascade env w old new reason context cascade tasks) :
    CleanCascade env' w old new reason context cascade tasks := by
  cases cascade with
  | none => trivial
  | retarget =>
    intro taskId member
    obtain ⟨accepted, once⟩ := clean taskId member
    rw [queuedDocument_root same]
    exact ⟨accepted.root same, once⟩
  | cancel => exact clean

theorem dependentIds_root {env' : Environment} (same : env'.root = env.root) (path : DocumentPath) :
    dependentIds env' w old path = dependentIds env w old path := by
  unfold dependentIds absolute
  rw [same]

theorem dependentsOf_root {env' : Environment} (same : env'.root = env.root) :
    dependentsOf env' w old = dependentsOf env w old := by
  unfold dependentsOf
  congr 1
  funext path
  exact dependentIds_root same path

/-- A clean cascade is not refused. -/
theorem clean_cascade_ensues (signed : isBlank context.actor = false) {cascade : MailboxSupersedeCascade} {s t : World}
    {located : LocatedInterventionItem} {destination : DocumentPath}
    (proceeds : SupersedeProceeds s.workspace old new reason context located destination)
    (archived : Archived s.workspace located destination t.workspace)
    (clean : CleanCascade env (s.workspace.erase located.path) old new reason context cascade
      (dependentsOf env s.workspace old)) :
    Ensues t ((dependentsRead env s.workspace old (s.step + 1)
        (s.workspace.markdownFiles ⟨.task, .queue, none⟩)).forM (cascadeTo env old new reason cascade context))
      (fun _ _ => True) fun e _ => ¬Refusal e := by
  have sub : (dependentsRead env s.workspace old (s.step + 1) (s.workspace.markdownFiles ⟨.task, .queue, none⟩)).Sublist
      (dependentsOf env s.workspace old) := dependentsRead_sublist (s.step + 1) _
  have cleaned := (clean.sublist sub).agrees (archived.agrees proceeds.archives.chosen)
  cases cascade with
  | none =>
    generalize dependentsRead env s.workspace old _ _ = tasks
    induction tasks with
    | nil => exact .pure trivial
    | cons taskId rest ih => exact Ensues.bind (Q := fun _ t' => t' = t) (.pure rfl) fun _ _ same => same ▸ ih
  | retarget => exact retargets_clean signed _ t cleaned
  | cancel =>
    exact cancels_clean signed proceeds.archives.given _ (fun taskId member => dependentsOf_safe (sub.subset member)) t
      cleaned

/-- With the one dependent that the cascade finds and is refused for, the old task lies in the archive already. -/
theorem supersede_refused {cascade : MailboxSupersedeCascade} {s : World} {located : LocatedInterventionItem}
    {destination : DocumentPath} {taskId : String} {times : Nat} (signed : isBlank context.actor = false)
    (proceeds : SupersedeProceeds s.workspace old new reason context located destination)
    (calm : (env.reading s.step).fault = none) (calm' : ¬FaultyFrom env (archivingStep s))
    (chosen : supersededAs env s old context located = destination)
    (found : dependentsRead env s.workspace old (s.step + 1) (s.workspace.markdownFiles ⟨.task, .queue, none⟩) =
      List.replicate (times + 1) taskId)
    (refuses : ∀ t, Archived s.workspace located destination t.workspace → t.step = archivingStep s + 8 →
      Ensues t ((List.replicate (times + 1) taskId).forM (cascadeTo env old new reason cascade context))
        (fun _ _ => False) fun e t' => Refusal e ∧ ∀ path, path.directory.archive = none →
          t.workspace.file path = none → t'.workspace.file path = none) :
    ∃ message t, supersedeTask env old new reason cascade context s = .error (.invalidState message) t ∧
      t.workspace ≠ s.workspace := by
  have refused : Ensues s (supersedeTask env old new reason cascade context) (fun _ _ => False)
      fun e t => Refusal e ∧ t.workspace ≠ s.workspace := by
    apply supersedeTask_ensues_cascade s
    · intro e t fails
      generalize t.workspace = w' at fails
      cases fails with
      | refused _ refused => exact absurd (chosen.symm ▸ proceeds) (refused located)
      | unreadable _ _ impossible => exact impossible.elim
      | early _ _ faulty => exact faulty.elim (absurd calm) (absurd · calm')
      | unsigned _ _ blank _ _ => simp [signed] at blank
      | late _ _ _ faulty _ => exact faulty.elim (absurd calm) (absurd · calm')
    · intro located' t proceeds' _ archived step
      obtain rfl : located' = located := by simpa using proceeds'.archives.single.symm.trans proceeds.archives.single
      rw [chosen] at archived
      rw [found]
      apply (refuses t archived step).weaken (fun _ _ impossible => impossible)
      rintro e t' ⟨refusal, still⟩
      refine ⟨refusal, fun same => ?_⟩
      have gone := (archived.agrees proceeds.archives.chosen) located'.path
      obtain ⟨state, -, rfl, there, -⟩ := itemCandidates_single proceeds.archives.single
      rw [Workspace.file_erase, if_pos rfl] at gone
      rw [← same, still _ rfl (gone (by simp))] at there
      cases there
  cases ran : supersedeTask env old new reason cascade context s with
  | ok result t => exact (refused.of_ok ran).elim
  | error e t =>
    obtain ⟨⟨message, rfl⟩, changed⟩ := refused.of_error ran
    exact ⟨message, t, rfl, changed⟩

/-- Of the queued documents only some can be read, and after the archiving the clock and the suffixes are different. -/
def selectiveEnvironment (root : String) (s : World) (keep : DocumentPath → Bool) (early late : Timestamp × Nat) :
    Environment where
  root := root
  reading n :=
    if n < archivingStep s + 8 then
      ⟨early.1, early.2, if n ≤ s.step ∨ ((s.workspace.markdownFiles ⟨.task, .queue, none⟩)[n - (s.step + 1)]?).all keep then
        none else some "permission denied"⟩
    else ⟨late.1, late.2, none⟩

section Selective
variable {root : String} {s : World} {keep : DocumentPath → Bool} {early late : Timestamp × Nat}

theorem selectiveEnvironment_early {n : Nat} (before : n < archivingStep s + 8) :
    ((selectiveEnvironment root s keep early late).reading n).now = early.1 ∧
      ((selectiveEnvironment root s keep early late).reading n).suffix = early.2 := by
  simp [selectiveEnvironment, before]

theorem selectiveEnvironment_late {n : Nat} (after : archivingStep s + 8 ≤ n) :
    (selectiveEnvironment root s keep early late).reading n = ⟨late.1, late.2, none⟩ := by
  simp [selectiveEnvironment, after]

theorem selectiveEnvironment_calm : ¬FaultyFrom (selectiveEnvironment root s keep early late) (archivingStep s) := by
  rintro ⟨n, later, fault⟩
  refine fault ?_
  have beyond : (s.workspace.markdownFiles ⟨.task, .queue, none⟩)[n - (s.step + 1)]? = none := by
    rw [List.getElem?_eq_none_iff]
    unfold archivingStep at later
    omega
  simp only [selectiveEnvironment, beyond]
  split <;> simp

/-- Exactly the documents that were kept are read. -/
theorem selectiveEnvironment_kept (env : Environment) (same : root = env.root) {old taskId : String}
    (keeps : keep = fun path => decide (taskId ∈ dependentIds env s.workspace old path)) :
    dependentsRead (selectiveEnvironment root s keep early late) s.workspace old (s.step + 1)
        (s.workspace.markdownFiles ⟨.task, .queue, none⟩) =
      List.replicate ((dependentsOf env s.workspace old).count taskId) taskId := by
  have ids : dependentIds (selectiveEnvironment root s keep early late) s.workspace old =
      dependentIds env s.workspace old := by
    funext path
    exact dependentIds_root same path
  rw [dependentsRead_kept keep, ids, keeps, dependents_of_kept]
  · rfl
  · intro i path there
    obtain ⟨within, -⟩ := List.getElem?_eq_some_iff.mp there
    have before : s.step + 1 + i < archivingStep s + 8 := by
      unfold archivingStep
      omega
    have index : s.step + 1 + i - (s.step + 1) = i := by omega
    have later : ¬s.step + 1 + i ≤ s.step := by omega
    simp only [selectiveEnvironment, if_pos before, index, there, later, false_or, Option.all_some]
    split <;> simp_all

end Selective

theorem unclean_retargets_ensues (oneLine : OneLineTimestamps) {s t : World} {located : LocatedInterventionItem}
    {destination : DocumentPath} {taskId : String} {times : Nat} (signed : isBlank context.actor = false)
    (proceeds : SupersedeProceeds s.workspace old new reason context located destination)
    (archived : Archived s.workspace located destination t.workspace) (calm : ¬FaultyFrom env t.step)
    (safe : SafeIdentifier taskId)
    (unclean : ¬RetargetAccepted env (s.workspace.erase located.path) taskId old new reason ∨
      (queuedDocument env (s.workspace.erase located.path) taskId ≠ none ∧ 1 ≤ times)) :
    Ensues t ((List.replicate (times + 1) taskId).forM (cascadeTo env old new reason .retarget context)) (fun _ _ => False)
      fun e t' => Refusal e ∧ ∀ path, path.directory.archive = none →
        t.workspace.file path = none → t'.workspace.file path = none := by
  have agrees := archived.agrees proceeds.archives.chosen
  -- the replacement is still there: only the old task was moved
  have available : Available t.workspace new := by
    obtain ⟨state, member, there⟩ := proceeds.available
    obtain ⟨state', -, rfl, -, -⟩ := itemCandidates_single proceeds.archives.single
    refine ⟨state, member, ?_⟩
    rw [agrees.task]
    change ((s.workspace.erase (taskPath state' old)).file (taskPath state new)).isSome
    rw [Workspace.file_erase_task, if_neg fun same => proceeds.different same.2.symm]
    exact there
  refine Ensues.weaken (retargets_refused oneLine proceeds.different signed calm ?_ ?_)
    (fun _ _ impossible => impossible) ?_
  rotate_left 2
  · rintro e t' ⟨refusal, still⟩
    exact ⟨refusal, fun path _ => still path⟩
  · rw [queuedDocument_congr (agrees.task _ _)]
    exact unclean.imp_left fun refuses accepted => refuses (accepted.agrees agrees.symm)
  · intro refuses unread queued
    refine refuses ⟨safe, proceeds.archives.identifier, proceeds.replacement, proceeds.archives.given, queued, available,
      fun d held => ?_⟩
    rw [unread] at held
    cases held

theorem unclean_cancels_ensues {s t : World} {located : LocatedInterventionItem} {destination : DocumentPath}
    {taskId : String} {times : Nat} (signed : isBlank context.actor = false)
    (proceeds : SupersedeProceeds s.workspace old new reason context located destination)
    (archived : Archived s.workspace located destination t.workspace) (calm : ¬FaultyFrom env t.step)
    (unclean : (∀ found, cancelCandidates (s.workspace.erase located.path) taskId (some .task) = [found] →
        ((s.workspace.erase located.path).file
          ((cancelable taskId (some .task)).destinationAt env t.step context found)).isSome) ∨ 1 ≤ times) :
    Ensues t ((List.replicate (times + 1) taskId).forM (cascadeTo env old new reason .cancel context)) (fun _ _ => False)
      fun e t' => Refusal e ∧ ∀ path, path.directory.archive = none →
        t.workspace.file path = none → t'.workspace.file path = none := by
  have agrees := archived.agrees proceeds.archives.chosen
  apply cancels_refused signed calm
  refine unclean.imp_left fun occupied found goes => ?_
  have single : cancelCandidates (s.workspace.erase located.path) taskId (some .task) = [found] :=
    (cancelCandidates_congr fun state => (agrees.task state taskId).symm).trans goes.single
  have taken := occupied found single
  rw [← agrees _ (by simp [Archiving.destinationAt, archiveDestination, archivePath, cancelable]), goes.free] at taken
  cases taken

/-- An unclean cascade is refused when only the right dependent can be read. -/
theorem unclean_cascade_refused (oneLine : OneLineTimestamps) {cascade : MailboxSupersedeCascade} {s : World}
    {located : LocatedInterventionItem} {destination : DocumentPath} (signed : isBlank context.actor = false)
    (proceeds : SupersedeProceeds s.workspace old new reason context located destination)
    (unclean : ¬CleanCascade env (s.workspace.erase located.path) old new reason context cascade
      (dependentsOf env s.workspace old)) :
    ∃ env' : Environment, env'.root = env.root ∧ ∃ message t,
      supersedeTask env' old new reason cascade context s = .error (.invalidState message) t ∧
      t.workspace ≠ s.workspace := by
  obtain ⟨now, suffix, answers⟩ := proceeds.archives.chosen.answers
  have arises (late : Timestamp × Nat) {taskId : String} {times : Nat}
      (count : (dependentsOf env s.workspace old).count taskId = times + 1)
      (refuses : ∀ (env' : Environment) (t : World), env'.root = env.root → ¬FaultyFrom env' t.step →
        (∀ n, t.step ≤ n → env'.reading n = ⟨late.1, late.2, none⟩) →
        Archived s.workspace located destination t.workspace →
        Ensues t ((List.replicate (times + 1) taskId).forM (cascadeTo env' old new reason cascade context))
          (fun _ _ => False) fun e t' => Refusal e ∧ ∀ path, path.directory.archive = none →
            t.workspace.file path = none → t'.workspace.file path = none) :
      ∃ env' : Environment, env'.root = env.root ∧ ∃ message t,
        supersedeTask env' old new reason cascade context s = .error (.invalidState message) t ∧
        t.workspace ≠ s.workspace := by
    obtain ⟨env', root, calm, calm', chosen, found, later⟩ : ∃ env' : Environment, env'.root = env.root ∧
        (env'.reading s.step).fault = none ∧ ¬FaultyFrom env' (archivingStep s) ∧
        supersededAs env' s old context located = destination ∧
        dependentsRead env' s.workspace old (s.step + 1) (s.workspace.markdownFiles ⟨.task, .queue, none⟩) =
          List.replicate (times + 1) taskId ∧
        ∀ n, archivingStep s + 8 ≤ n → env'.reading n = ⟨late.1, late.2, none⟩ := by
      refine ⟨selectiveEnvironment env.root s (fun path => decide (taskId ∈ dependentIds env s.workspace old path))
        (now, suffix) late, rfl, ?_, selectiveEnvironment_calm, ?_, ?_, fun n after => selectiveEnvironment_late after⟩
      · simp only [selectiveEnvironment, le_refl, true_or, if_true]
        split <;> rfl
      · exact answers _ _ (selectiveEnvironment_early (by omega)).1 (selectiveEnvironment_early (by omega)).2
      · rw [selectiveEnvironment_kept env rfl rfl, count]
    refine ⟨env', root, supersede_refused signed proceeds calm calm' chosen found fun t archived step => ?_⟩
    exact refuses env' t root (fun faulty => calm' (faulty.earlier (by omega)))
      (fun n after => later n (by omega)) archived
  have some_count {taskId : String} (member : taskId ∈ dependentsOf env s.workspace old) :
      ∃ times, (dependentsOf env s.workspace old).count taskId = times + 1 :=
    Nat.exists_eq_add_of_le' (List.count_pos_iff.mpr member)
  cases cascade with
  | none => exact absurd trivial unclean
  | retarget =>
    obtain ⟨taskId, member, unclean⟩ : ∃ taskId ∈ dependentsOf env s.workspace old, ¬(RetargetAccepted env
        (s.workspace.erase located.path) taskId old new reason ∧ (queuedDocument env (s.workspace.erase located.path)
          taskId ≠ none → (dependentsOf env s.workspace old).count taskId = 1)) := by
      simpa only [CleanCascade, CleanRetargets, not_forall, exists_prop] using unclean
    obtain ⟨times, count⟩ := some_count member
    refine arises (now, suffix) count fun env' t root calm _ archived => ?_
    apply unclean_retargets_ensues oneLine signed proceeds archived calm (dependentsOf_safe member)
    rw [queuedDocument_root root]
    by_cases accepted : RetargetAccepted env (s.workspace.erase located.path) taskId old new reason
    · by_cases read : queuedDocument env (s.workspace.erase located.path) taskId = none
      · exact absurd ⟨accepted, fun readable => absurd read readable⟩ unclean
      · refine .inr ⟨read, ?_⟩
        by_contra once
        exact unclean ⟨accepted, fun _ => by omega⟩
    · exact .inl fun accepted' => accepted (accepted'.root root.symm)
  | cancel =>
    obtain ⟨taskId, member, unclean⟩ : ∃ taskId ∈ dependentsOf env s.workspace old,
        ¬((dependentsOf env s.workspace old).count taskId = 1 ∧ ∃ found,
          cancelCandidates (s.workspace.erase located.path) taskId (some .task) = [found] ∧
          ∀ destination, (cancelable taskId (some .task)).MayChoose context found destination →
            (s.workspace.erase located.path).file destination = none) := by
      simpa only [CleanCascade, CleanCancels, not_forall, exists_prop] using unclean
    obtain ⟨times, count⟩ := some_count member
    by_cases single : ∃ found, cancelCandidates (s.workspace.erase located.path) taskId (some .task) = [found]
    · obtain ⟨found, single⟩ := single
      by_cases free : ∀ destination, (cancelable taskId (some .task)).MayChoose context found destination →
          (s.workspace.erase located.path).file destination = none
      · refine arises (now, suffix) count fun env' t root calm _ archived => ?_
        apply unclean_cancels_ensues signed proceeds archived calm
        right
        by_contra once
        exact unclean ⟨by omega, found, single, free⟩
      · -- a name that the dependent may get is taken: the answers choose it
        simp only [not_forall, exists_prop] at free
        obtain ⟨taken, mayChoose, occupied⟩ := free
        obtain ⟨now', suffix', chooses⟩ := mayChoose.answers
        refine arises (now', suffix') count fun env' t root calm later archived => ?_
        apply unclean_cancels_ensues signed proceeds archived calm
        left
        intro found' single'
        obtain rfl : found' = found := by simpa using single'.symm.trans single
        rw [chooses env' t.step (by rw [later _ (le_refl _)]) (by rw [later _ (by omega)])]
        exact Option.isSome_iff_ne_none.mpr occupied
    · refine arises (now, suffix) count fun env' t root calm _ archived => ?_
      apply unclean_cancels_ensues signed proceeds archived calm
      left
      exact fun found found' => absurd ⟨found, found'⟩ single

/-- Whatever the files answer, a refused superseding has changed nothing, exactly where it never comes to move the task
or else has an actor and a clean cascade. -/
theorem supersede_untouched_iff (oneLine : OneLineTimestamps) (cascade : MailboxSupersedeCascade) (s : World) :
    (∀ env', env'.root = env.root → RefusedUntouched (supersedeTask env' old new reason cascade context) s) ↔
      ∀ located destination, SupersedeProceeds s.workspace old new reason context located destination →
        isBlank context.actor = false ∧ CleanCascade env (s.workspace.erase located.path) old new reason context cascade
          (dependentsOf env s.workspace old) := by
  constructor
  · intro untouched located destination proceeds
    have signed : isBlank context.actor = false := by
      by_contra unsigned
      obtain ⟨now, suffix, answers⟩ := proceeds.archives.chosen.answers
      obtain ⟨env', root, calm, chosen⟩ : ∃ env' : Environment, env'.root = env.root ∧ ¬FaultyFrom env' s.step ∧
          supersededAs env' s old context located = destination :=
        ⟨constantEnvironment env.root now suffix, rfl, constantEnvironment_calm, answers _ _ rfl rfl⟩
      have later : s.step ≤ archivingStep s := by
        unfold archivingStep
        omega
      have refused : Ensues s (supersedeTask env' old new reason cascade context) (fun _ _ => False)
          fun e t => Refusal e ∧ t.workspace ≠ s.workspace := by
        apply supersedeTask_ensues_cascade s
        · intro e t fails
          obtain ⟨refusal, located', -, archived⟩ := fails.changes
            (fun faulty => calm (faulty.elim (fun fault => ⟨_, le_refl _, fault⟩) (·.earlier later)))
            (fun refused => refused located (chosen.symm ▸ proceeds)) not_false
          exact ⟨refusal, Archiving.archived_ne archived⟩
        · exact fun _ _ _ signed => absurd signed unsigned
      cases ran : supersedeTask env' old new reason cascade context s with
      | ok result t => exact (refused.of_ok ran).elim
      | error e t =>
        obtain ⟨⟨message, rfl⟩, changed⟩ := refused.of_error ran
        exact changed (untouched env' root message t ran)
    refine ⟨signed, ?_⟩
    by_contra unclean
    obtain ⟨env', root, message, t, ran, changed⟩ := unclean_cascade_refused oneLine signed proceeds unclean
    exact changed (untouched env' root message t ran)
  · intro fits env' root message t ran
    have ends : Ensues s (supersedeTask env' old new reason cascade context) (fun _ _ => True)
        fun e t => Refusal e → t.workspace = s.workspace := by
      apply supersedeTask_ensues_cascade s
      · rintro e t fails ⟨message, rfl⟩
        generalize t.workspace = w' at fails
        cases fails with
        | refused _ _ => rfl
        | unsigned _ _ blank changed _ =>
          obtain ⟨located, proceeds, -⟩ := changed
          rw [(fits located _ proceeds).1] at blank
          cases blank
      · intro located t proceeds signed archived _
        have clean : CleanCascade env' (s.workspace.erase located.path) old new reason context cascade
            (dependentsOf env' s.workspace old) := by
          rw [dependentsOf_root root]
          exact (fits located _ proceeds).2.root root
        apply (clean_cascade_ensues signed proceeds archived clean).weaken (fun _ _ _ => trivial)
        exact fun _ _ accepted refusal => absurd refusal accepted
    exact ends.of_error ran ⟨message, rfl⟩

end Cascade

end
end Millrace.Queue
