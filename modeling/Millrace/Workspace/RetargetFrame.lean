import Millrace.Workspace.Dependencies

/-! What the retargets of an operator leave of the queued documents they rewrite. -/

set_option autoImplicit false

namespace Millrace.Queue
open Millrace.Text Millrace.Contracts Millrace.WorkDocuments Millrace.Action

section
variable [Rfc3339]

/-! ## One retarget -/

section One
variable {env : Environment} {w w' : Workspace} {taskId old new reason : String} {appliedAt : Timestamp}

theorem parsed_of_queuedDocument {d : TaskDocument} (read : queuedDocument env w taskId = some d) :
    ∃ raw, w.file (taskPath .queue taskId) = some raw ∧
      parseTaskDocumentWithSource raw (absolute env (taskPath .queue taskId).relative) = .ok d := by
  obtain ⟨raw, file, parsed⟩ := Option.bind_eq_some_iff.mp read
  exact ⟨raw, file, toOption_eq_some.mp parsed⟩

/-- The rewritten document reads as the edited one exactly when a document can carry the new dependency and the time. -/
theorem Retargeted.reads_iff {d : TaskDocument} (accepted : RetargetAccepted env w taskId old new reason)
    (read : queuedDocument env w taskId = some d) (retargeted : Retargeted env w taskId old new appliedAt w') :
    queuedDocument env w' taskId = some (retargetedTask d old new appliedAt) ↔
      isRelationshipPlaceholder new = false ∧ OneLineTimestamp appliedAt := by
  obtain ⟨d', read', files⟩ := retargeted
  obtain rfl := Option.some.inj (read.symm.trans read')
  obtain ⟨raw, -, parsed⟩ := parsed_of_queuedDocument read
  have file : w'.file (taskPath .queue taskId) = some (renderTaskDocument (retargetedTask d old new appliedAt)) := by
    rw [file_of_files files, Workspace.file_insert_task, if_pos ⟨rfl, rfl⟩]
  constructor
  · intro reads
    obtain ⟨raw', -, parsed'⟩ := parsed_of_queuedDocument reads
    have canonical := canonical_of_parseTaskDocument parsed'
    have held : old ∈ d.dependsOn := List.count_pos_iff.mp (by have := accepted.once d read; omega)
    have listed : new ∈ (retargetedTask d old new appliedAt).dependsOn := List.mem_map.mpr ⟨old, held, if_pos rfl⟩
    exact ⟨(canonical.dependsOn new listed).2, canonical.updatedAt appliedAt rfl⟩
  · rintro ⟨recorded, oneLine⟩
    have kept : normalizeListItems .dependsOn (d.dependsOn.map fun dependency => if dependency = old then new else dependency) =
        d.dependsOn.map fun dependency => if dependency = old then new else dependency := by
      refine normalizeListItems_of_inline fun item member => ?_
      obtain ⟨dependency, listed, rfl⟩ := List.mem_map.mp member
      split
      · exact ⟨accepted.new.inline, recorded⟩
      · exact (canonical_of_parseTaskDocument parsed).dependsOn dependency listed
    have reads := @retargetedTask_reads _ _ _ d parsed old new accepted.new appliedAt oneLine
      (absolute env (taskPath .queue taskId).relative)
    rw [kept] at reads
    unfold queuedDocument
    rw [file, Option.bind_some, reads]
    rfl

theorem Retargeted.file_of_ne (retargeted : Retargeted env w taskId old new appliedAt w') {path : DocumentPath}
    (other : path ≠ taskPath .queue taskId) : w'.file path = w.file path := by
  obtain ⟨d, -, files⟩ := retargeted
  rw [file_of_files files, Workspace.file_insert, if_neg other]

theorem Retargeted.queuedDocument_of_ne (retargeted : Retargeted env w taskId old new appliedAt w') {taskId' : String}
    (other : taskId' ≠ taskId) : queuedDocument env w' taskId' = queuedDocument env w taskId' :=
  queuedDocument_congr (retargeted.file_of_ne fun same => other (congrArg DocumentPath.stem same))

end One

/-! ## Runs of retargets -/

/-- An operator's retarget, with the time at which it is applied. -/
structure Retarget where
  taskId : String
  oldDependencyId : String
  newDependencyId : String
  appliedAt : Timestamp

/-- A document can carry what the retarget writes. -/
def Retarget.Legible (r : Retarget) : Prop :=
  isRelationshipPlaceholder r.newDependencyId = false ∧ OneLineTimestamp r.appliedAt

/-- What the retarget makes of the document of this task. -/
def Retarget.edit (taskId : String) (d : TaskDocument) (r : Retarget) : TaskDocument :=
  if r.taskId = taskId then retargetedTask d r.oldDependencyId r.newDependencyId r.appliedAt else d

/-- Successful retargets, one after the other. -/
inductive Retargets (env : Environment) : World → List Retarget → World → Prop where
  | done (s : World) : Retargets env s [] s
  | retarget {s u t : World} {r : Retarget} {rs : List Retarget} (reason : String) (context : OperatorInterventionContext)
      (result : OperatorInterventionResult) (time : context.appliedAt.getD (env.reading s.step).now = r.appliedAt)
      (ran : retargetQueuedTaskDependency env r.taskId r.oldDependencyId r.newDependencyId reason context s = .ok result u)
      (rest : Retargets env u rs t) : Retargets env s (r :: rs) t

section Runs
variable {env : Environment} {s t : World} {taskId : String}

variable (taskId) in
/-- An edit leaves every field but the dependencies and the time of the update. -/
theorem Retarget.edit_frame (r : Retarget) (d : TaskDocument) :
    { r.edit taskId d with dependsOn := d.dependsOn, updatedAt := d.updatedAt } = d := by
  unfold Retarget.edit
  split <;> rfl

theorem edits_frame (rs : List Retarget) (d : TaskDocument) :
    { rs.foldl (Retarget.edit taskId) d with dependsOn := d.dependsOn, updatedAt := d.updatedAt } = d := by
  induction rs generalizing d with
  | nil => rfl
  | cons r rs ih =>
    have first := r.edit_frame taskId d
    have later := ih (r.edit taskId d)
    rw [List.foldl_cons]
    calc { rs.foldl (Retarget.edit taskId) (r.edit taskId d) with dependsOn := d.dependsOn, updatedAt := d.updatedAt }
        = { ({ rs.foldl (Retarget.edit taskId) (r.edit taskId d) with
              dependsOn := (r.edit taskId d).dependsOn, updatedAt := (r.edit taskId d).updatedAt } : TaskDocument) with
            dependsOn := d.dependsOn, updatedAt := d.updatedAt } := rfl
      _ = { r.edit taskId d with dependsOn := d.dependsOn, updatedAt := d.updatedAt } := by rw [later]
      _ = d := first

theorem retargets_edit {rs : List Retarget} (ran : Retargets env s rs t) (legible : ∀ r ∈ rs, r.Legible) {d : TaskDocument}
    (read : queuedDocument env s.workspace taskId = some d) :
    queuedDocument env t.workspace taskId = some (rs.foldl (Retarget.edit taskId) d) := by
  induction ran generalizing d with
  | done s => exact read
  | @retarget s u t r rs reason context result time ran rest ih =>
    have ends := (retargetQueuedTaskDependency_ensues r.taskId r.oldDependencyId r.newDependencyId reason).of_ok ran
    obtain ⟨accepted, -, retargeted, -⟩ := ends
    rw [time] at retargeted
    have first := legible r List.mem_cons_self
    have later : ∀ r ∈ rs, r.Legible := fun r member => legible r (List.mem_cons_of_mem _ member)
    rw [List.foldl_cons]
    apply ih later
    unfold Retarget.edit
    by_cases here : r.taskId = taskId
    · subst here
      rw [if_pos rfl]
      exact (retargeted.reads_iff accepted read).mpr first
    · rw [if_neg here, retargeted.queuedDocument_of_ne fun same => here same.symm]
      exact read

/-- A successful retarget leaves the document with the one dependency replaced and the update dated exactly when a
document can carry both; so do all retargets of a run, and no other field of any queued document changes. -/
theorem retargets_frame (env : Environment) :
    (∀ (s t : World) (taskId old new reason : String) (context : OperatorInterventionContext)
        (result : OperatorInterventionResult),
      retargetQueuedTaskDependency env taskId old new reason context s = .ok result t →
      ∃ d, queuedDocument env s.workspace taskId = some d ∧ d.dependsOn.count old = 1 ∧
        (queuedDocument env t.workspace taskId =
            some (retargetedTask d old new (context.appliedAt.getD (env.reading s.step).now)) ↔
          isRelationshipPlaceholder new = false ∧
            OneLineTimestamp (context.appliedAt.getD (env.reading s.step).now))) ∧
    ∀ (s t : World) (rs : List Retarget), Retargets env s rs t → (∀ r ∈ rs, r.Legible) →
      ∀ taskId d, queuedDocument env s.workspace taskId = some d → ∃ d', queuedDocument env t.workspace taskId = some d' ∧
        d' = rs.foldl (Retarget.edit taskId) d ∧ { d' with dependsOn := d.dependsOn, updatedAt := d.updatedAt } = d := by
  refine ⟨?_, ?_⟩
  · intro s t taskId old new reason context result ran
    obtain ⟨accepted, -, retargeted, -⟩ := (retargetQueuedTaskDependency_ensues taskId old new reason).of_ok ran
    obtain ⟨d, read, -⟩ := id retargeted
    exact ⟨d, read, accepted.once d read, retargeted.reads_iff accepted read⟩
  · intro s t rs ran legible taskId d read
    exact ⟨_, retargets_edit ran legible read, rfl, edits_frame rs d⟩

end Runs

end

/-! ## A dependency on a task called none -/

section Concrete
local instance zonesOfRetargets : Rfc3339 := twoZones

/-- The dependent tasks beside a task called none. -/
def tasksWithNone : Workspace := dependentTasks.insert (taskPath .queue "none") (renderTaskDocument (plainTask "none" [] inLondon))

theorem tasksWithNone_first :
    queuedDocument calmEnvironment tasksWithNone "task-a" = some (plainTask "task-a" ["task-b"] inLondon) := by
  have other : ("task-a" : String) ≠ "none" := by decide
  have same : tasksWithNone.file (taskPath .queue "task-a") = dependentTasks.file (taskPath .queue "task-a") := by
    unfold tasksWithNone
    rw [Workspace.file_insert_task, if_neg fun both => other both.2]
  exact (queuedDocument_congr same).trans dependentTasks_first

theorem tasksWithNone_accepts {new : String} (safe : SafeIdentifier new) (there : new = "none" ∨ new = "task-b") :
    RetargetAccepted calmEnvironment tasksWithNone "task-a" "task-b" new "replanned" where
  task := by decide
  old := by decide
  new := safe
  reason := by decide
  queued := by
    obtain ⟨raw, file, -⟩ := parsed_of_queuedDocument tasksWithNone_first
    rw [file]
    rfl
  available := by
    refine ⟨.queue, List.mem_cons_self, ?_⟩
    unfold tasksWithNone
    rw [Workspace.file_insert_task]
    rcases there with rfl | rfl
    · rfl
    · rw [dependentTasks_file]
      rfl
  once := by
    intro d read
    cases tasksWithNone_first.symm.trans read
    decide

/-- A retarget to the task called none succeeds, and the dependency is gone from the document. -/
theorem retargeted_to_none : ∃ result t,
    retargetQueuedTaskDependency calmEnvironment "task-a" "task-b" "none" "replanned" byOperator ⟨tasksWithNone, 0⟩ =
      .ok result t ∧
    ∀ appliedAt, queuedDocument calmEnvironment t.workspace "task-a" ≠
      some (retargetedTask (plainTask "task-a" ["task-b"] inLondon) "task-b" "none" appliedAt) := by
  have signed : isBlank byOperator.actor = false := by decide
  have accepted := tasksWithNone_accepts (by decide) (.inl rfl)
  obtain ⟨result, t, ran, -⟩ :=
    retargetQueuedTaskDependency_succeeds calm_not_faulty accepted tasksWithNone_first signed 0
  refine ⟨result, t, ran, fun appliedAt reads => ?_⟩
  obtain ⟨raw, -, parsed⟩ := parsed_of_queuedDocument reads
  have listed : "none" ∈ (retargetedTask (plainTask "task-a" ["task-b"] inLondon) "task-b" "none" appliedAt).dependsOn :=
    List.mem_singleton_self _
  have recorded := ((canonical_of_parseTaskDocument parsed).dependsOn "none" listed).2
  revert recorded
  decide

theorem retargets_frame_tasksWithNone : ∃ result t,
    retargetQueuedTaskDependency calmEnvironment "task-a" "task-b" "task-b" "replanned" byOperator ⟨tasksWithNone, 0⟩ =
      .ok result t ∧
    ∃ d, queuedDocument calmEnvironment tasksWithNone "task-a" = some d ∧
      queuedDocument calmEnvironment t.workspace "task-a" =
        some (retargetedTask d "task-b" "task-b" (calmEnvironment.reading 0).now) ∧
      ∃ d', queuedDocument calmEnvironment t.workspace "task-a" = some d' ∧
        { d' with dependsOn := d.dependsOn, updatedAt := d.updatedAt } = d := by
  have signed : isBlank byOperator.actor = false := by decide
  have accepted := tasksWithNone_accepts (by decide) (.inr rfl)
  obtain ⟨result, t, ran, -⟩ :=
    retargetQueuedTaskDependency_succeeds calm_not_faulty accepted tasksWithNone_first signed 0
  have legible : isRelationshipPlaceholder "task-b" = false ∧ OneLineTimestamp (calmEnvironment.reading 0).now :=
    ⟨by decide, twoZones_oneLine _⟩
  obtain ⟨d, read, -, reads⟩ := (retargets_frame calmEnvironment).1 _ _ _ _ _ _ _ _ ran
  have run : Retargets calmEnvironment ⟨tasksWithNone, 0⟩
      [⟨"task-a", "task-b", "task-b", (calmEnvironment.reading 0).now⟩] t :=
    .retarget "replanned" byOperator result rfl ran (.done t)
  obtain ⟨d', read', -, kept⟩ := (retargets_frame calmEnvironment).2 _ _ _ run
    (fun r member => List.mem_singleton.mp member ▸ legible) "task-a" d read
  exact ⟨result, t, ran, d, read, reads.mpr legible, d', read', kept⟩

end Concrete

end Millrace.Queue
