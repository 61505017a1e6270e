import Millrace.Graph
import Millrace.Workspace.Interventions

/-! The dependencies between the tasks of a workspace, and which edits of an operator make them circular. -/

set_option autoImplicit false

namespace Millrace.Queue
open Relation Millrace.Graph Millrace.Text Millrace.Contracts Millrace.WorkDocuments Millrace.Action

section
variable [Rfc3339]

/-! ## The dependency graph -/

section Graph
variable (env : Environment) (w : Workspace)

def taskDocumentAt (state : ItemState) (taskId : String) : Option TaskDocument :=
  (w.file (taskPath state taskId)).bind fun raw =>
    (parseTaskDocumentWithSource raw (absolute env (taskPath state taskId).relative)).toOption

/-- The task in this directory depends on that one. -/
def DependsFrom (state : ItemState) (taskId dependency : String) : Prop :=
  ∃ d, taskDocumentAt env w state taskId = some d ∧ dependency ∈ d.dependsOn

/-- The dependencies of queued, active and done tasks. -/
def DependsOn (taskId dependency : String) : Prop :=
  ∃ state ∈ [ItemState.queue, .active, .done], DependsFrom env w state taskId dependency

variable {env w}

theorem taskDocumentAt_congr {w' : Workspace} {state : ItemState} {taskId : String}
    (same : w'.file (taskPath state taskId) = w.file (taskPath state taskId)) :
    taskDocumentAt env w' state taskId = taskDocumentAt env w state taskId := by
  unfold taskDocumentAt
  rw [same]

theorem queuedDocument_congr {w' : Workspace} {taskId : String}
    (same : w'.file (taskPath .queue taskId) = w.file (taskPath .queue taskId)) :
    queuedDocument env w' taskId = queuedDocument env w taskId := taskDocumentAt_congr same

theorem file_of_files {w' : Workspace} (same : w'.files = w.files) (path : DocumentPath) :
    w'.file path = w.file path := by
  unfold Workspace.file
  rw [same]

theorem dependsFrom_congr {w' : Workspace} (same : w'.files = w.files) (state : ItemState) (taskId dependency : String) :
    DependsFrom env w' state taskId dependency ↔ DependsFrom env w state taskId dependency := by
  unfold DependsFrom
  rw [taskDocumentAt_congr (file_of_files same _)]

end Graph

/-! ## One retarget -/

/-- No accepted timestamp runs over several lines. -/
def OneLineTimestamps : Prop := ∀ t : Timestamp, OneLineTimestamp t

/-- A dependency on this id survives in a document. -/
def Recorded (taskId : String) : Prop := isRelationshipPlaceholder taskId = false

theorem retargetedTask_reads {raw sourceName : String} {d : TaskDocument}
    (parsed : parseTaskDocumentWithSource raw sourceName = .ok d) {old new : String} (safe : SafeIdentifier new)
    {appliedAt : Timestamp} (oneLine : OneLineTimestamp appliedAt) (sourceName' : String) :
    parseTaskDocumentWithSource (renderTaskDocument (retargetedTask d old new appliedAt)) sourceName' =
      .ok { d with
        updatedAt := some appliedAt
        dependsOn := normalizeListItems .dependsOn
          (d.dependsOn.map fun dependency => if dependency = old then new else dependency) } := by
  have valid : { d with updatedAt := some appliedAt }.Valid := { valid_of_parseTaskDocument parsed with }
  have canonical : { d with updatedAt := some appliedAt }.Canonical :=
    { canonical_of_parseTaskDocument parsed with updatedAt := fun t same => Option.some.inj same ▸ oneLine }
  refine parseTaskDocument_renderDependencies valid canonical (fun item member => ?_) sourceName'
  obtain ⟨dependency, listed, rfl⟩ := List.mem_map.mp member
  split
  · exact safe.inline
  · exact ((canonical_of_parseTaskDocument parsed).dependsOn dependency listed).1

theorem mem_retargeted {d : TaskDocument} (canonical : d.Canonical) {old new dependency : String}
    (held : old ∈ d.dependsOn) :
    dependency ∈ normalizeListItems .dependsOn
        (d.dependsOn.map fun dependency => if dependency = old then new else dependency) ↔
      (dependency ∈ d.dependsOn ∧ dependency ≠ old) ∨ (dependency = new ∧ Recorded new) := by
  have kept : ∀ items, dependency ∈ normalizeListItems .dependsOn items ↔
      dependency ∈ items ∧ isRelationshipPlaceholder dependency = false := by
    simp [normalizeListItems]
  rw [kept, List.mem_map]
  constructor
  · rintro ⟨⟨item, listed, rfl⟩, recorded⟩
    by_cases same : item = old
    · rw [if_pos same] at recorded ⊢
      exact .inr ⟨rfl, recorded⟩
    · rw [if_neg same]
      exact .inl ⟨listed, same⟩
  · rintro (⟨listed, other⟩ | ⟨rfl, recorded⟩)
    · exact ⟨⟨dependency, listed, if_neg other⟩, (canonical.dependsOn dependency listed).2⟩
    · exact ⟨⟨old, held, if_pos rfl⟩, recorded⟩

section Edits
variable {env : Environment} {w w' : Workspace} {taskId old new reason : String} {appliedAt : Timestamp}

/-- A retarget puts one edge in the place of another. -/
theorem retargeted_dependsFrom (oneLine : OneLineTimestamps) (accepted : RetargetAccepted env w taskId old new reason)
    (retargeted : Retargeted env w taskId old new appliedAt w') (state : ItemState) (x y : String) :
    DependsFrom env w' state x y ↔
      (DependsFrom env w state x y ∧ ¬(state = .queue ∧ x = taskId ∧ y = old)) ∨
        (state = .queue ∧ x = taskId ∧ y = new ∧ Recorded new) := by
  obtain ⟨d, read, files⟩ := retargeted
  have file : w'.file (taskPath state x) =
      if state = .queue ∧ x = taskId then some (renderTaskDocument (retargetedTask d old new appliedAt))
      else w.file (taskPath state x) := by
    rw [file_of_files files, Workspace.file_insert_task]
  by_cases here : state = .queue ∧ x = taskId
  · obtain ⟨rfl, rfl⟩ := here
    rw [if_pos ⟨rfl, rfl⟩] at file
    obtain ⟨raw, -, parsed⟩ := Option.bind_eq_some_iff.mp read
    have parses : parseTaskDocumentWithSource raw (absolute env (taskPath .queue x).relative) = .ok d := by
      cases ran : parseTaskDocumentWithSource raw (absolute env (taskPath .queue x).relative) with
      | error error =>
        rw [ran] at parsed
        cases parsed
      | ok document =>
        rw [ran] at parsed
        rw [Option.some.inj parsed]
    have after : taskDocumentAt env w' .queue x = some { d with
        updatedAt := some appliedAt
        dependsOn := normalizeListItems .dependsOn
          (d.dependsOn.map fun dependency => if dependency = old then new else dependency) } := by
      unfold taskDocumentAt
      rw [file, Option.bind_some, retargetedTask_reads parses accepted.new (oneLine appliedAt)]
      rfl
    have before : taskDocumentAt env w .queue x = some d := read
    have held : old ∈ d.dependsOn := by
      have once := accepted.once d read
      exact List.count_pos_iff.mp (by omega)
    have member : y ∈ _ ↔ (y ∈ d.dependsOn ∧ y ≠ old) ∨ (y = new ∧ Recorded new) :=
      mem_retargeted (canonical_of_parseTaskDocument parses) held
    unfold DependsFrom
    rw [after, before]
    simp only [Option.some.injEq, exists_eq_left', member]
    simp
  · rw [if_neg here] at file
    unfold DependsFrom
    rw [taskDocumentAt_congr file]
    constructor
    · exact fun depends => .inl ⟨depends, fun same => here ⟨same.1, same.2.1⟩⟩
    · rintro (⟨depends, -⟩ | ⟨inQueue, same, -⟩)
      · exact depends
      · exact absurd ⟨inQueue, same⟩ here

/-- Each of these tasks is retargeted in turn. -/
inductive Cascaded (env : Environment) (old new reason : String) : List String → Workspace → Workspace → Prop where
  | done {w w' : Workspace} : w'.files = w.files → Cascaded env old new reason [] w w'
  | next {taskId : String} {rest : List String} {appliedAt : Timestamp} {w w₁ w' : Workspace} :
      RetargetAccepted env w taskId old new reason → Retargeted env w taskId old new appliedAt w₁ → Cascaded env old new reason rest w₁ w' →
      Cascaded env old new reason (taskId :: rest) w w'

/-- The queued documents of these tasks depend on the new task instead of the old one. -/
def Redirected (env : Environment) (old new : String) (tasks : List String) (w w' : Workspace) : Prop :=
  ∀ state x y, DependsFrom env w' state x y ↔
    (DependsFrom env w state x y ∧ ¬(state = .queue ∧ x ∈ tasks ∧ y = old)) ∨
      (state = .queue ∧ x ∈ tasks ∧ y = new ∧ Recorded new)

theorem Cascaded.redirected (oneLine : OneLineTimestamps) (different : old ≠ new) {tasks : List String}
    (cascaded : Cascaded env old new reason tasks w w') : Redirected env old new tasks w w' := by
  induction cascaded with
  | done same =>
    intro state x y
    rw [dependsFrom_congr same]
    simp
  | @next taskId rest appliedAt w w₁ w' accepted retargeted _ ih =>
    intro state x y
    rw [ih state x y, retargeted_dependsFrom oneLine accepted retargeted state x y]
    -- the edge to the new task is not one to the old
    grind

/-- New edges to a task close a cycle exactly where a path leads from that task to one of those that got them. -/
theorem Redirected.acyclic_iff {tasks : List String} (redirected : Redirected env old new tasks w w')
    (acyclic : Acyclic (DependsOn env w)) :
    Acyclic (DependsOn env w') ↔ ¬(Recorded new ∧ ∃ taskId ∈ tasks, ReflTransGen (DependsOn env w) new taskId) := by
  let kept : String → String → Prop := fun x y => ∃ state ∈ [ItemState.queue, .active, .done],
    DependsFrom env w state x y ∧ ¬(state = .queue ∧ x ∈ tasks ∧ y = old)
  have linked : DependsOn env w' = Linked kept (fun x => x ∈ tasks ∧ Recorded new) new := by
    funext x y
    apply propext
    constructor
    · rintro ⟨state, member, depends⟩
      rcases (redirected state x y).mp depends with old | ⟨-, listed, same, recorded⟩
      · exact .inl ⟨state, member, old⟩
      · exact .inr ⟨⟨listed, recorded⟩, same⟩
    · rintro (⟨state, member, old⟩ | ⟨⟨listed, recorded⟩, same⟩)
      · exact ⟨state, member, (redirected state x y).mpr (.inl old)⟩
      · exact ⟨.queue, by simp, (redirected .queue x y).mpr (.inr ⟨rfl, listed, same, recorded⟩)⟩
  have sub : ∀ x y, kept x y → DependsOn env w x y := fun x y ⟨state, member, depends, _⟩ => ⟨state, member, depends⟩
  have apart : ∀ x y, ¬x ∈ tasks → (kept x y ↔ DependsOn env w x y) := by
    intro x y other
    refine ⟨sub x y, fun ⟨state, member, depends⟩ => ⟨state, member, depends, fun same => other same.2.1⟩⟩
  rw [linked, acyclic_linked_iff (acyclic.mono sub), ← reaches_goal_congr apart]
  grind

end Edits

/-! ## The dependents that an operation finds -/

section Dependents
variable (env : Environment) (w : Workspace)

/-- The ids of the documents among these that depend on the task and can be read from the given step on. -/
def dependentsRead (oldTaskId : String) : Nat → List DocumentPath → List String
  | _, [] => []
  | step, path :: rest =>
    let document := if (env.reading step).fault = none then
        (w.file path).bind fun raw => (parseTaskDocumentWithSource raw (absolute env path.relative)).toOption
      else none
    (document.filter fun task => task.dependsOn.contains oldTaskId).toList.map (·.taskId) ++
      dependentsRead oldTaskId (step + 1) rest

variable {env}

theorem readTaskDocumentOrNone_run (path : DocumentPath) (s : World) :
    readTaskDocumentOrNone env path s = .ok
      (if (env.reading s.step).fault = none then
        (s.workspace.file path).bind fun raw => (parseTaskDocumentWithSource raw (absolute env path.relative)).toOption
      else none) { s with step := s.step + 1 } := by
  unfold readTaskDocumentOrNone readOrSkip reading currentWorkspace
  cases fault : (env.reading s.step).fault with
  | some message =>
    simp [bind, EStateM.bind, get, getThe, MonadStateOf.get, EStateM.get, set, MonadStateOf.set, EStateM.set, pure,
      EStateM.pure, fault]
  | none =>
    simp only [bind, EStateM.bind, get, getThe, MonadStateOf.get, EStateM.get, set, MonadStateOf.set, EStateM.set, pure,
      EStateM.pure, fault, if_true]
    cases s.workspace.file path with
    | none => rfl
    | some raw =>
      simp only [Option.bind_some]
      cases parseTaskDocumentWithSource raw (absolute env path.relative) <;> rfl

theorem dependentsAmong_run (oldTaskId : String) (paths : List DocumentPath) (s : World) :
    dependentsAmong env oldTaskId paths s =
      .ok (dependentsRead env s.workspace oldTaskId s.step paths) { s with step := s.step + paths.length } := by
  induction paths generalizing s with
  | nil => rfl
  | cons path rest ih =>
    unfold dependentsAmong
    simp only [bind, EStateM.bind, readTaskDocumentOrNone_run, ih, pure, EStateM.pure]
    simp only [dependentsRead, List.length_cons]
    congr 2
    omega

theorem queuedDependents_ensues {s : World} {E : QueueStoreError → World → Prop} (tolerates : Tolerates env s E)
    (oldTaskId : String) :
    Ensues s (queuedDependents env oldTaskId)
      (fun dependents t => dependents = dependentsRead env s.workspace oldTaskId (s.step + 1)
          (s.workspace.markdownFiles ⟨.task, .queue, none⟩) ∧
        t = ⟨s.workspace, s.step + 1 + (s.workspace.markdownFiles ⟨.task, .queue, none⟩).length⟩) E := by
  unfold queuedDependents listMarkdownFiles
  apply Ensues.reads (P := fun paths => paths = s.workspace.markdownFiles ⟨.task, .queue, none⟩) (t := s.tick)
  · apply (fileOperation_ensues tolerates _).reads
    intro _ _
    apply currentWorkspace_ensues.reads
    rintro _ rfl
    exact .pure ⟨rfl, rfl⟩
  · rintro _ rfl t rfl
    rw [dependentsAmong_run]
    exact ⟨rfl, rfl⟩

end Dependents

/-! ## Edits -/

section Supersede
variable {env : Environment} {context : OperatorInterventionContext}

theorem cascade_ensues (old new reason : String) (tasks : List String) (s : World) :
    Ensues s (tasks.forM (cascadeTo env old new reason .retarget context))
      (fun _ t => Cascaded env old new reason tasks s.workspace t.workspace) fun _ _ => True := by
  induction tasks generalizing s with
  | nil => exact .pure (.done rfl)
  | cons taskId rest ih =>
    have first : Ensues s (cascadeTo env old new reason .retarget context taskId)
        (fun _ t => RetargetAccepted env s.workspace taskId old new reason ∧
          ∃ appliedAt, Retargeted env s.workspace taskId old new appliedAt t.workspace) fun _ _ => True := by
      apply Ensues.bind ((retargetQueuedTaskDependency_ensues taskId old new reason).weaken (fun _ _ ends => ends)
        fun _ _ _ => trivial)
      intro _ t ends
      exact .pure ⟨ends.1, _, ends.2.2.1⟩
    apply first.bind
    intro _ t ⟨accepted, appliedAt, retargeted⟩
    exact (ih t).weaken (fun _ _ cascaded => .next accepted retargeted cascaded) fun _ _ fails => fails

/-- A superseding ends with the old task in the archive and with its dependents retargeted. -/
theorem supersedeTask_ensues (old new reason : String) (s : World) :
    Ensues s (supersedeTask env old new reason .retarget context)
      (fun _ t => old ≠ new ∧ ∃ located destination w₁,
        itemCandidates s.workspace .task old [.blocked, .queue] = [located] ∧
        destination.directory.archive.isSome ∧ Archived s.workspace located destination w₁ ∧
        Cascaded env old new reason (dependentsRead env s.workspace old (s.step + 1)
          (s.workspace.markdownFiles ⟨.task, .queue, none⟩)) w₁ t.workspace)
      fun _ _ => True := by
  unfold supersedeTask
  apply (requireIdentifier_ensues _ fun _ _ => trivial).reads
  intro _ _
  apply (requireIdentifier_ensues _ fun _ _ => trivial).reads
  intro _ _
  apply (refuseIf_ensues fun _ => trivial).reads
  intro _ different
  apply (locateExactTask_ensues fun _ _ => trivial).reads
  intro located single
  apply (requireReplacementTask_ensues fun _ _ => trivial).reads
  intro _ _
  apply (queuedDependents_ensues (fun _ _ _ => trivial) old).reads
  rintro dependents rfl
  obtain ⟨state, -, -, there, -⟩ := id (itemCandidates_single single)
  rw [archiveLocatedItem_eq]
  apply Ensues.bind ((archiveLocatedItemUnder_ensues (by
    obtain ⟨state, -, rfl, there, -⟩ := itemCandidates_single single
    exact there)).weaken (fun _ _ ends => ends.2.2.1) fun _ _ _ => trivial)
  intro result t archived
  apply (cascade_ensues old new reason _ t).bind
  intro _ t' cascaded
  exact .pure ⟨different, located, _, t.workspace, single, rfl, archived, cascaded⟩

theorem retargetQueuedTaskDependency_succeeds {w : Workspace} {taskId old new reason : String} {d : TaskDocument}
    (calm : ¬Faulty env) (accepted : RetargetAccepted env w taskId old new reason)
    (queued : queuedDocument env w taskId = some d) (signed : isBlank context.actor = false) (step : Nat) :
    ∃ result s', retargetQueuedTaskDependency env taskId old new reason context ⟨w, step⟩ = .ok result s' ∧
      ∃ appliedAt, Retargeted env w taskId old new appliedAt s'.workspace := by
  cases ran : retargetQueuedTaskDependency env taskId old new reason context ⟨w, step⟩ with
  | ok result s' =>
    have ends := (retargetQueuedTaskDependency_ensues taskId old new reason).of_ok ran
    exact ⟨result, s', rfl, _, ends.2.2.1⟩
  | error e s' =>
    have ends := (retargetQueuedTaskDependency_ensues taskId old new reason).of_error ran
    generalize s'.workspace = w' at ends
    cases ends with
    | refused _ refused => exact absurd accepted refused
    | unreadable _ _ unread => simp [queued] at unread
    | early _ _ faulty => exact absurd faulty.faulty calm
    | unsigned _ _ blank _ _ => simp [signed] at blank
    | late _ _ _ faulty _ => exact absurd faulty.faulty calm

end Supersede

/-- The edits of an operator that make a queued task depend on another one. -/
inductive DependencyEdit where
  | retargetQueuedTaskDependency (taskId oldDependencyId newDependencyId : String)
  | supersedeTask (oldTaskId replacementTaskId : String)

section DependencyEdit
variable (env : Environment)

def DependencyEdit.run (reason : String) (context : OperatorInterventionContext) :
    DependencyEdit → StoreM OperatorInterventionResult
  | .retargetQueuedTaskDependency taskId oldDependencyId newDependencyId =>
    Queue.retargetQueuedTaskDependency env taskId oldDependencyId newDependencyId reason context
  | .supersedeTask oldTaskId replacementTaskId =>
    Queue.supersedeTask env oldTaskId replacementTaskId reason .retarget context

/-- A path of dependencies leads from the new dependency to a task that gets it. -/
def DependencyEdit.Closes (s : World) : DependencyEdit → Prop
  | .retargetQueuedTaskDependency taskId _ newDependencyId =>
    Recorded newDependencyId ∧ ReflTransGen (DependsOn env s.workspace) newDependencyId taskId
  | .supersedeTask oldTaskId replacementTaskId =>
    Recorded replacementTaskId ∧ ∃ taskId ∈ dependentsRead env s.workspace oldTaskId (s.step + 1)
        (s.workspace.markdownFiles ⟨.task, .queue, none⟩),
      ReflTransGen (DependsOn env (s.workspace.erase (taskPath .queue oldTaskId))) replacementTaskId taskId

variable {env}

theorem Retargeted.redirected {w w' : Workspace} {taskId old new reason : String} {appliedAt : Timestamp}
    (oneLine : OneLineTimestamps) (accepted : RetargetAccepted env w taskId old new reason)
    (retargeted : Retargeted env w taskId old new appliedAt w') :
    Redirected env old new [taskId] w w' := by
  intro state x y
  rw [retargeted_dependsFrom oneLine accepted retargeted state x y]
  simp

/-- What is archived of a task leaves the graph without its queued document. -/
theorem archived_dependsOn {w w₁ : Workspace} {old : String} {located : LocatedInterventionItem}
    (single : itemCandidates w .task old [.blocked, .queue] = [located]) {destination : DocumentPath}
    (inArchive : destination.directory.archive.isSome) (archived : Archived w located destination w₁) :
    DependsOn env w₁ = DependsOn env (w.erase (taskPath .queue old)) := by
  obtain ⟨state, member, rfl, there, only⟩ := itemCandidates_single single
  obtain ⟨-, raw, -, files⟩ := archived
  have same (state' : ItemState) (other : state' ∈ [ItemState.queue, .active, .done]) (x : String) :
      w₁.file (taskPath state' x) = (w.erase (taskPath .queue old)).file (taskPath state' x) := by
    have apart : taskPath state' x ≠ destination := by
      rintro rfl
      simp [taskPath] at inArchive
    change w₁.files = ((w.erase (taskPath state old)).insert destination raw).files at files
    rw [file_of_files files, Workspace.file_insert, if_neg apart, Workspace.file_erase_task, Workspace.file_erase_task]
    rcases List.mem_pair.mp member with rfl | rfl
    · -- the document was blocked: nothing was queued under this id
      have blocked : ¬state' = .blocked := by
        rintro rfl
        simp at other
      rw [if_neg fun both => blocked both.1]
      split
      next here =>
        rw [here.1, here.2]
        cases queued : w.file (taskPath .queue old) with
        | none => rfl
        | some raw' =>
          have impossible := only .queue (by simp) (by rw [← taskPath, queued]; rfl)
          cases impossible
      next => rfl
    · rfl
  funext x y
  unfold DependsOn DependsFrom
  apply propext
  constructor
  · rintro ⟨state', other, depends⟩
    rw [taskDocumentAt_congr (same state' other x)] at depends
    exact ⟨state', other, depends⟩
  · rintro ⟨state', other, depends⟩
    rw [← taskDocumentAt_congr (same state' other x)] at depends
    exact ⟨state', other, depends⟩

theorem dependsOn_erase {w : Workspace} {path : DocumentPath} {x y : String}
    (depends : DependsOn env (w.erase path) x y) : DependsOn env w x y := by
  obtain ⟨state, member, d, read, listed⟩ := depends
  refine ⟨state, member, d, ?_, listed⟩
  unfold taskDocumentAt at read
  rw [Workspace.file_erase] at read
  split at read
  · cases read
  · exact read

/-- An edit that succeeds leaves the dependencies without cycles exactly where it closes none. -/
theorem edit_acyclic_iff (oneLine : OneLineTimestamps) (edit : DependencyEdit) (reason : String)
    (context : OperatorInterventionContext) (s s' : World) (result : OperatorInterventionResult)
    (acyclic : Acyclic (DependsOn env s.workspace)) (ran : edit.run env reason context s = .ok result s') :
    (Acyclic (DependsOn env s'.workspace) ∧
      ∀ taskId d, taskDocumentAt env s'.workspace .queue taskId = some d → taskId ∉ d.dependsOn) ↔
      ¬edit.Closes env s := by
  have loops (still : Acyclic (DependsOn env s'.workspace)) (taskId : String) (d : TaskDocument)
      (read : taskDocumentAt env s'.workspace .queue taskId = some d) : taskId ∉ d.dependsOn :=
    fun listed => still.irrefl taskId ⟨.queue, by simp, d, read, listed⟩
  rw [and_iff_left_of_imp loops]
  cases edit with
  | retargetQueuedTaskDependency taskId old new =>
    have ends := (retargetQueuedTaskDependency_ensues taskId old new reason).of_ok ran
    have redirected := ends.2.2.1.redirected oneLine ends.1
    rw [redirected.acyclic_iff acyclic]
    simp [DependencyEdit.Closes]
  | supersedeTask old new =>
    have ends := (supersedeTask_ensues old new reason s).of_ok ran
    obtain ⟨different, located, destination, w₁, single, inArchive, archived, cascaded⟩ := ends
    have same : DependsOn env w₁ = _ := archived_dependsOn single inArchive archived
    have before : Acyclic (DependsOn env w₁) := by
      rw [same]
      exact acyclic.mono fun _ _ => dependsOn_erase
    rw [(cascaded.redirected oneLine different).acyclic_iff before, same]
    rfl

end DependencyEdit

end

/-! ## A task made to depend on itself -/

section Concrete

local instance zonesOfDependencies : Rfc3339 := twoZones

theorem twoZones_oneLine : OneLineTimestamps := by
  intro t
  have parses := t.parses
  by_cases athens : t.text = "2026-01-01T10:00:00+02:00"
  · unfold OneLineTimestamp
    rw [athens]
    decide +kernel
  · by_cases london : t.text = "2026-01-01T09:00:00Z"
    · unfold OneLineTimestamp
      rw [london]
      decide +kernel
    · have unknown : Rfc3339.parse t.text = .error "unknown moment" := by
        show (if t.text = "2026-01-01T10:00:00+02:00" then _ else if t.text = "2026-01-01T09:00:00Z" then _ else _) = _
        rw [if_neg athens, if_neg london]
      rw [unknown] at parses
      cases parses

/-- A queued task that depends on another one. -/
def dependentTasks : Workspace :=
  (Workspace.empty.insert (taskPath .queue "task-a") (renderTaskDocument (plainTask "task-a" ["task-b"] inLondon))).insert
    (taskPath .queue "task-b") (renderTaskDocument (plainTask "task-b" [] inLondon))

theorem dependentTasks_file (state : ItemState) (taskId : String) : dependentTasks.file (taskPath state taskId) =
    if state = .queue ∧ taskId = "task-b" then some (renderTaskDocument (plainTask "task-b" [] inLondon))
    else if state = .queue ∧ taskId = "task-a" then some (renderTaskDocument (plainTask "task-a" ["task-b"] inLondon))
    else none := by
  unfold dependentTasks
  rw [Workspace.file_insert_task, Workspace.file_insert_task, Workspace.file_empty]

theorem dependentTasks_first :
    queuedDocument calmEnvironment dependentTasks "task-a" = some (plainTask "task-a" ["task-b"] inLondon) :=
  queuedDocument_render (d := plainTask "task-a" ["task-b"] inLondon) (by rw [dependentTasks_file]; rfl)
    (plainTask_valid (by decide +kernel)) (plainTask_canonical (by decide +kernel) (by decide +kernel))

theorem dependentTasks_second :
    queuedDocument calmEnvironment dependentTasks "task-b" = some (plainTask "task-b" [] inLondon) :=
  queuedDocument_render (d := plainTask "task-b" [] inLondon) (by rw [dependentTasks_file]; rfl)
    (plainTask_valid (by decide +kernel)) (plainTask_canonical (by decide +kernel) (by decide +kernel))

theorem dependentTasks_dependsOn {x y : String} (depends : DependsOn calmEnvironment dependentTasks x y) :
    x = "task-a" ∧ y = "task-b" := by
  obtain ⟨state, -, d, read, listed⟩ := depends
  have there : (dependentTasks.file (taskPath state x)).isSome := by
    obtain ⟨raw, file, -⟩ := Option.bind_eq_some_iff.mp read
    simp [file]
  rw [dependentTasks_file] at there
  split at there
  next second =>
    obtain ⟨rfl, rfl⟩ := second
    cases dependentTasks_second.symm.trans read
    cases listed
  next =>
    split at there
    next first =>
      obtain ⟨rfl, rfl⟩ := first
      cases dependentTasks_first.symm.trans read
      exact ⟨rfl, List.mem_singleton.mp listed⟩
    next => cases there

theorem dependentTasks_acyclic : Acyclic (DependsOn calmEnvironment dependentTasks) := by
  intro x cycle
  have ends {y : String} (path : TransGen (DependsOn calmEnvironment dependentTasks) x y) : y = "task-b" := by
    cases path with
    | single depends => exact (dependentTasks_dependsOn depends).2
    | tail _ depends => exact (dependentTasks_dependsOn depends).2
  have starts {y : String} (path : TransGen (DependsOn calmEnvironment dependentTasks) x y) : x = "task-a" := by
    induction path with
    | single depends => exact (dependentTasks_dependsOn depends).1
    | tail _ _ ih => exact ih
  have impossible := (starts cycle).symm.trans (ends cycle)
  revert impossible
  decide

def byOperator : OperatorInterventionContext := ⟨"operator", none, none⟩

theorem dependentTasks_accepts {new : String} (safe : SafeIdentifier new) (available : Available dependentTasks new) :
    RetargetAccepted calmEnvironment dependentTasks "task-a" "task-b" new "replanned" where
  task := by decide +kernel
  old := by decide +kernel
  new := safe
  reason := by decide +kernel
  queued := by
    rw [dependentTasks_file]
    rfl
  available := available
  once := by
    intro d read
    cases dependentTasks_first.symm.trans read
    decide

theorem dependentTasks_available {taskId : String} (there : taskId = "task-a" ∨ taskId = "task-b") :
    Available dependentTasks taskId := by
  refine ⟨.queue, by simp, ?_⟩
  rw [dependentTasks_file]
  rcases there with rfl | rfl <;> rfl

theorem edit_acyclic_iff_dependentTasks : ∃ result s',
    (DependencyEdit.retargetQueuedTaskDependency "task-a" "task-b" "task-b").run calmEnvironment "replanned" byOperator
      ⟨dependentTasks, 0⟩ = .ok result s' ∧
    ((Acyclic (DependsOn calmEnvironment s'.workspace) ∧
      ∀ taskId d, taskDocumentAt calmEnvironment s'.workspace .queue taskId = some d → taskId ∉ d.dependsOn) ↔
      ¬(DependencyEdit.retargetQueuedTaskDependency "task-a" "task-b" "task-b").Closes calmEnvironment
        ⟨dependentTasks, 0⟩) := by
  have signed : isBlank byOperator.actor = false := by decide +kernel
  have accepted := dependentTasks_accepts (by decide +kernel) (dependentTasks_available (.inr rfl))
  obtain ⟨result, s', ran, -⟩ :=
    retargetQueuedTaskDependency_succeeds calm_not_faulty accepted dependentTasks_first signed 0
  exact ⟨result, s', ran, edit_acyclic_iff twoZones_oneLine _ _ _ _ s' result dependentTasks_acyclic ran⟩

/-- The dependency of the first task is retargeted from the second one to the first task itself. -/
theorem retargeted_to_itself :
    ¬ ∀ (env : Environment) (edit : DependencyEdit) (reason : String) (context : OperatorInterventionContext)
      (s s' : World) (result : OperatorInterventionResult), OneLineTimestamps → Acyclic (DependsOn env s.workspace) →
      edit.run env reason context s = .ok result s' →
      Acyclic (DependsOn env s'.workspace) ∧
        ∀ taskId d, taskDocumentAt env s'.workspace .queue taskId = some d → taskId ∉ d.dependsOn := by
  intro kept
  have signed : isBlank byOperator.actor = false := by decide +kernel
  have accepted := dependentTasks_accepts (by decide +kernel) (dependentTasks_available (.inl rfl))
  obtain ⟨result, s', ran, appliedAt, retargeted⟩ :=
    retargetQueuedTaskDependency_succeeds calm_not_faulty accepted dependentTasks_first signed 0
  have still := (kept calmEnvironment (.retargetQueuedTaskDependency "task-a" "task-b" "task-a") "replanned" byOperator _ s'
    result twoZones_oneLine dependentTasks_acyclic ran).1
  have recorded : isRelationshipPlaceholder "task-a" = false := by decide +kernel
  have depends := (retargeted_dependsFrom twoZones_oneLine accepted retargeted .queue "task-a" "task-a").mpr
    (.inr ⟨rfl, rfl, rfl, recorded⟩)
  exact still.irrefl "task-a" ⟨.queue, by simp, depends⟩

end Concrete

end Millrace.Queue
