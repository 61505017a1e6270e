import Millrace.Workspace.QueueStore
import Millrace.WorkDocuments.Canonical

/-! The task directories stay consistent under every operation of the queue store. -/

set_option autoImplicit false

namespace Millrace.Queue
open Millrace.Text Millrace.Contracts Millrace.WorkDocuments Millrace.Action

section
variable [Rfc3339]

/-! ## What a rendered task is read as -/

theorem parseTaskFromFields_taskId {headingTitle : String} {fields : ParsedFields} {d : TaskDocument}
    (ok : parseTaskFromFields headingTitle fields = .ok d) : fields.scalars .taskId = some d.taskId := by
  unfold parseTaskFromFields at ok
  simp only [bind_eq_ok, pure_eq_ok] at ok
  obtain ⟨taskId, read, _, -, _, -, _, -, _, -, _, -, _, -, _, -, _, -, _, -, _, -, _, -, _, -, rfl⟩ := ok
  unfold requiredScalar at read
  split at read
  next value same => rw [same, Except.ok.inj read]
  next => cases read

/-- The id line of a rendered task is found even where the title runs over several lines. -/
theorem taskId_of_render {d d' : TaskDocument} {sourceName : String} (safe : SafeIdentifier d.taskId)
    (ok : parseTaskDocumentWithSource (renderTaskDocument d) sourceName = .ok d') : d'.taskId = d.taskId := by
  obtain ⟨⟨title, fields⟩, read, rest⟩ := bind_eq_ok.mp ok
  obtain ⟨-, parsed⟩ := bind_unit_eq_ok.mp rest
  have written := parseMarkdownFields_firstScalar .taskId safe.inline rfl read
  exact Option.some.inj ((parseTaskFromFields_taskId parsed).symm.trans written)

/-! ## Consistent task directories -/

/-- The file holds a rendered task whose id is the file's stem. -/
def Holding (taskId raw : String) : Prop :=
  SafeIdentifier taskId ∧ ∃ d : TaskDocument, d.taskId = taskId ∧ raw = renderTaskDocument d

theorem Holding.render {d : TaskDocument} {taskId : String} (safe : SafeIdentifier taskId) (same : d.taskId = taskId) :
    Holding taskId (renderTaskDocument d) := ⟨safe, d, same, rfl⟩

theorem Holding.reads {taskId raw sourceName : String} {d : TaskDocument} (holding : Holding taskId raw)
    (ok : parseTaskDocumentWithSource raw sourceName = .ok d) : d.taskId = taskId := by
  obtain ⟨safe, written, rfl, rfl⟩ := holding
  exact taskId_of_render safe ok

structure Consistent (w : Workspace) : Prop where
  holding : ∀ state taskId raw, w.file (taskPath state taskId) = some raw → Holding taskId raw
  single : ∀ state state' taskId, (w.file (taskPath state taskId)).isSome →
    (w.file (taskPath state' taskId)).isSome → state = state'
  oneActive : ∀ taskId taskId', (w.file (taskPath .active taskId)).isSome →
    (w.file (taskPath .active taskId')).isSome → taskId = taskId'

def NoActive (w : Workspace) : Prop := ∀ taskId, w.file (taskPath .active taskId) = none

namespace Consistent
variable {w : Workspace}

theorem empty : Consistent Workspace.empty where
  holding := by simp
  single := by simp
  oneActive := by simp

theorem congr {w' : Workspace} (consistent : Consistent w)
    (same : ∀ state taskId, w'.file (taskPath state taskId) = w.file (taskPath state taskId)) : Consistent w' where
  holding state taskId raw := by
    rw [same]
    exact consistent.holding state taskId raw
  single state state' taskId := by
    rw [same, same]
    exact consistent.single state state' taskId
  oneActive taskId taskId' := by
    rw [same, same]
    exact consistent.oneActive taskId taskId'

theorem erase (consistent : Consistent w) (path : DocumentPath) : Consistent (w.erase path) where
  holding state taskId raw found := by
    rw [Workspace.file_erase] at found
    split at found
    · cases found
    · exact consistent.holding state taskId raw found
  single state state' taskId there there' := by
    rw [Workspace.file_erase] at there there'
    split at there
    · cases there
    · split at there'
      · cases there'
      · exact consistent.single state state' taskId there there'
  oneActive taskId taskId' there there' := by
    rw [Workspace.file_erase] at there there'
    split at there
    · cases there
    · split at there'
      · cases there'
      · exact consistent.oneActive taskId taskId' there there'

theorem insert_archive (consistent : Consistent w) {path : DocumentPath} (raw : String)
    (archived : path.directory.archive.isSome) : Consistent (w.insert path raw) := by
  refine consistent.congr fun state taskId => ?_
  have other : taskPath state taskId ≠ path := by
    rintro rfl
    simp [taskPath] at archived
  rw [Workspace.file_insert, if_neg other]

/-- A document may be added under an id that no lifecycle directory has. -/
theorem insert_new (consistent : Consistent w) {state : ItemState} {taskId raw : String}
    (holding : Holding taskId raw) (fresh : ∀ state, w.file (taskPath state taskId) = none)
    (idle : state = .active → NoActive w) : Consistent (w.insert (taskPath state taskId) raw) where
  holding state' taskId' raw' found := by
    rw [Workspace.file_insert_task] at found
    split at found
    next same => rw [same.2, ← Option.some.inj found]; exact holding
    next => exact consistent.holding state' taskId' raw' found
  single state₁ state₂ taskId' there there' := by
    rw [Workspace.file_insert_task] at there there'
    by_cases same : taskId' = taskId
    · subst same
      simp only [fresh, and_true] at there there'
      split at there <;> split at there' <;> simp_all
    · simp only [same, and_false, if_false] at there there'
      exact consistent.single state₁ state₂ taskId' there there'
  oneActive taskId₁ taskId₂ there there' := by
    rw [Workspace.file_insert_task] at there there'
    by_cases active : state = .active
    · have none := idle active
      simp only [none taskId₁, none taskId₂, active, true_and] at there there'
      split at there <;> split at there' <;> simp_all
    · have other : ItemState.active ≠ state := fun same => active same.symm
      simp only [other, false_and, if_false] at there there'
      exact consistent.oneActive taskId₁ taskId₂ there there'

theorem overwrite (consistent : Consistent w) {state : ItemState} {taskId raw : String} (holding : Holding taskId raw)
    (there : (w.file (taskPath state taskId)).isSome) : Consistent (w.insert (taskPath state taskId) raw) := by
  have present : ∀ state' taskId', ((w.insert (taskPath state taskId) raw).file (taskPath state' taskId')).isSome →
      (w.file (taskPath state' taskId')).isSome := by
    intro state' taskId' found
    rw [Workspace.file_insert_task] at found
    split at found
    next same => rw [same.1, same.2]; exact there
    next => exact found
  refine ⟨fun state' taskId' raw' found => ?_, fun state₁ state₂ taskId' there₁ there₂ =>
    consistent.single state₁ state₂ taskId' (present _ _ there₁) (present _ _ there₂), fun taskId₁ taskId₂ there₁ there₂ =>
    consistent.oneActive taskId₁ taskId₂ (present _ _ there₁) (present _ _ there₂)⟩
  rw [Workspace.file_insert_task] at found
  split at found
  next same => rw [same.2, ← Option.some.inj found]; exact holding
  next => exact consistent.holding state' taskId' raw' found

/-- A task moves between lifecycle directories; into `active` only where nothing is active. -/
theorem move (consistent : Consistent w) {source destination : ItemState} {taskId raw : String}
    (found : w.file (taskPath source taskId) = some raw) (idle : destination = .active → NoActive w) :
    Consistent ((w.erase (taskPath source taskId)).insert (taskPath destination taskId) raw) := by
  refine (consistent.erase _).insert_new (consistent.holding _ _ _ found) (fun state => ?_) fun active taskId' => ?_
  · rw [Workspace.file_erase_task]
    split
    · rfl
    · next other =>
      cases there : w.file (taskPath state taskId) with
      | none => rfl
      | some raw' =>
        have same := consistent.single state source taskId (by simp [there]) (by simp [found])
        exact absurd ⟨same, rfl⟩ other
  · rw [Workspace.file_erase, idle active]
    simp

theorem length_active (consistent : Consistent w) : (w.markdownFiles ⟨.task, .active, none⟩).length ≤ 1 := by
  have same : ∀ path ∈ w.markdownFiles ⟨.task, .active, none⟩, ∀ path' ∈ w.markdownFiles ⟨.task, .active, none⟩,
      path = path' := by
    rintro ⟨d, stem⟩ member ⟨d', stem'⟩ member'
    obtain ⟨rfl, there⟩ := (Workspace.mem_markdownFiles _ _ _).mp member
    obtain ⟨rfl, there'⟩ := (Workspace.mem_markdownFiles _ _ _).mp member'
    rw [consistent.oneActive stem stem' there there']
  have distinct := w.nodup_markdownFiles ⟨.task, .active, none⟩
  match listed : w.markdownFiles ⟨.task, .active, none⟩ with
  | [] => simp
  | [_] => simp
  | path :: path' :: rest =>
    rw [listed] at same distinct
    simp [same path (by simp) path' (by simp)] at distinct

end Consistent

end
end Millrace.Queue
