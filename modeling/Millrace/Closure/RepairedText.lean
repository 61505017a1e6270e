import Millrace.Closure.Repair
import Millrace.WorkDocuments.RoundTrip

/-! The text that a lineage repair makes of one file: another root in the document, and nothing else. -/

set_option autoImplicit false

namespace Millrace.Closure.Repair
open Millrace.Text Millrace.Contracts Millrace.WorkDocuments Millrace.Action
open Millrace.Queue (ItemState Directory DocumentPath Workspace World StoreM QueueStoreError Environment absolute)

/-! ## Paths -/

theorem slash_split {before before' after after' : List Char} (plain : '/' ∉ after) (plain' : '/' ∉ after')
    (same : before ++ '/' :: after = before' ++ '/' :: after') : before = before' ∧ after = after' := by
  rcases List.append_eq_append_iff.mp same with ⟨more, rfl, rest⟩ | ⟨more, rfl, rest⟩
  · cases more with
    | nil => exact ⟨by simp, by simpa using rest⟩
    | cons c more =>
      obtain ⟨rfl, later⟩ := List.cons.inj rest
      have inside : '/' ∈ after := by
        rw [later]
        exact List.mem_append_right _ List.mem_cons_self
      exact absurd inside plain
  · cases more with
    | nil => exact ⟨by simp, by simpa using rest.symm⟩
    | cons c more =>
      obtain ⟨rfl, later⟩ := List.cons.inj rest
      have inside : '/' ∈ after' := by
        rw [later]
        exact List.mem_append_right _ List.mem_cons_self
      exact absurd inside plain'

theorem relative_toList (path : DocumentPath) :
    path.relative.toList = path.directory.relative.toList ++ '/' :: (path.stem.toList ++ ".md".toList) := by
  unfold DocumentPath.relative
  simp [String.toList_append]

theorem stem_plain {stem : String} (safe : SafeIdentifier stem) {c : Char} (special : c = '/' ∨ c = '\\') :
    c ∉ stem.toList ++ ".md".toList := by
  intro member
  rcases List.mem_append.mp member with there | there
  · have tail := safe.solid c there
    rcases special with rfl | rfl <;> revert tail <;> decide
  · rcases special with rfl | rfl <;> revert there <;> decide

theorem surfaces_distinct : ∀ d ∈ lineageSurfaces, ∀ d' ∈ lineageSurfaces, d.relative = d'.relative → d = d' := by
  decide

theorem surfaces_plain : ∀ d ∈ lineageSurfaces, '\\' ∉ d.relative.toList := by decide

/-- Two files of the surfaces have different paths. -/
theorem relative_inj {path path' : DocumentPath} (surface : path.directory ∈ lineageSurfaces)
    (surface' : path'.directory ∈ lineageSurfaces) (safe : SafeIdentifier path.stem) (safe' : SafeIdentifier path'.stem)
    (same : path.relative = path'.relative) : path = path' := by
  have lists := congrArg String.toList same
  rw [relative_toList, relative_toList] at lists
  obtain ⟨directories, stems⟩ := slash_split (stem_plain safe (.inl rfl)) (stem_plain safe' (.inl rfl)) lists
  obtain ⟨d, stem⟩ := path
  obtain ⟨d', stem'⟩ := path'
  obtain rfl := surfaces_distinct d surface d' surface' (String.toList_inj.mp directories)
  obtain rfl := String.toList_inj.mp (List.append_cancel_right stems)
  rfl

/-- The path of such a file is shown as it is. -/
theorem workspaceRelativePath_eq {path : DocumentPath} (surface : path.directory ∈ lineageSurfaces)
    (safe : SafeIdentifier path.stem) : workspaceRelativePath path = path.relative := by
  have unchanged : (path.relative.toList.map fun c => if c = '\\' then '/' else c) = path.relative.toList := by
    have plain : ∀ c ∈ path.relative.toList, (if c = '\\' then '/' else c) = c := by
      intro c member
      rw [if_neg]
      rintro rfl
      rw [relative_toList] at member
      rcases List.mem_append.mp member with there | there
      · exact surfaces_plain _ surface there
      · exact stem_plain safe (.inr rfl) ((List.mem_cons.mp there).resolve_left (by decide))
    exact (List.map_congr_left plain).trans (List.map_id' _)
  unfold workspaceRelativePath
  rw [unchanged, String.ofList_toList]

section
variable [Rfc3339]

/-- The files of the surfaces are named by identifiers, as the queue store names them. -/
def Tidy (w : Workspace) : Prop :=
  ∀ path : DocumentPath, path.directory ∈ lineageSurfaces → (w.file path).isSome → SafeIdentifier path.stem

theorem documentAt_relative {w : Workspace} (tidy : Tidy w) {path : DocumentPath}
    (surface : path.directory ∈ lineageSurfaces) (there : (w.file path).isSome) :
    documentAt w path.relative = some path := by
  have listed : ∀ p : DocumentPath, p ∈ lineageSurfaces.flatMap w.markdownFiles ↔
      p.directory ∈ lineageSurfaces ∧ (w.file p).isSome := by
    intro p
    simp only [List.mem_flatMap, Workspace.mem_markdownFiles]
    constructor
    · rintro ⟨d, member, same, present⟩
      exact ⟨same ▸ member, present⟩
    · rintro ⟨member, present⟩
      exact ⟨_, member, rfl, present⟩
  unfold documentAt
  cases found : (lineageSurfaces.flatMap w.markdownFiles).find? fun p => p.relative = path.relative with
  | none =>
    have missing := List.find?_eq_none.mp found path ((listed path).mpr ⟨surface, there⟩)
    simp at missing
  | some p =>
    have same : p.relative = path.relative := by simpa using List.find?_some found
    obtain ⟨surface', there'⟩ := (listed p).mp (List.mem_of_find?_eq_some found)
    rw [relative_inj surface' surface (tidy p surface' there') (tidy path surface there) same]

/-! ## One document -/

section Documents
variable {env : Environment} {target : RepairTarget} {path : DocumentPath}

/-- The changes to a document of this path, where the repair makes any. -/
def changesFor (target : RepairTarget) (path : DocumentPath) (document : SurfaceDocument) :
    Option (List LineageRepairChange) :=
  (driftFinding target path document).bind (repairChanges target)

/-- The task under the root of the target; its spec is the old one or the root. -/
structure TaskRepaired (target : RepairTarget) (d d' : TaskDocument) : Prop where
  frame : { d' with rootSpecId := d.rootSpecId, specId := d.specId } = d
  root : d'.rootSpecId = some target.rootSpecId.val
  spec : d'.specId = d.specId ∨ d'.specId = some target.rootSpecId.val

structure IncidentRepaired (target : RepairTarget) (d d' : IncidentDocument) : Prop where
  frame : { d' with rootSpecId := d.rootSpecId } = d
  root : d'.rootSpecId = some target.rootSpecId.val

theorem driftFinding_spec {document : SurfaceDocument} {finding : LineageDriftFinding}
    (found : driftFinding target path document = some finding) :
    finding.workItemKind = path.directory.kind ∧ finding.state = path.directory.state ∧
      finding.path = workspaceRelativePath path := by
  unfold driftFinding at found
  split at found
  next => cases found
  next =>
    obtain ⟨reason, -, rfl⟩ := Option.map_eq_some_iff.mp found
    exact ⟨rfl, rfl, rfl⟩

/-- A document under the root of the target does not drift. -/
theorem driftFinding_of_root {document : SurfaceDocument}
    (root : document.effectiveRootSpecId = some target.rootSpecId.val) : driftFinding target path document = none := by
  unfold driftFinding
  rw [if_pos root]

omit [Rfc3339] in
theorem repairChanges_eq_some {finding : LineageDriftFinding} {changes : List LineageRepairChange}
    (made : repairChanges target finding = some changes) :
    (finding.state = .queue ∨ finding.state = .blocked) ∧
      ((finding.workItemKind = .task ∧ changes = taskRepairChanges finding target) ∨
        (finding.workItemKind = .incident ∧ changes = incidentRepairChanges finding target)) := by
  unfold repairChanges at made
  split at made
  next waits =>
    split at made
    next kind => exact ⟨waits, .inl ⟨kind, (Option.some.inj made).symm⟩⟩
    next kind => exact ⟨waits, .inr ⟨kind, (Option.some.inj made).symm⟩⟩
    next => cases made
  next => cases made

theorem repaired_task (d : TaskDocument) (finding : LineageDriftFinding) :
    TaskRepaired target d (TaskDocument.repaired d (taskRepairChanges finding target)) := by
  unfold taskRepairChanges TaskDocument.repaired
  dsimp only
  split
  next => exact ⟨rfl, rfl, .inr rfl⟩
  next => exact ⟨rfl, rfl, .inl rfl⟩

theorem repaired_incident (d : IncidentDocument) (finding : LineageDriftFinding) :
    IncidentRepaired target d (IncidentDocument.repaired d (incidentRepairChanges finding target)) := by
  unfold incidentRepairChanges IncidentDocument.repaired LineageDriftFinding.change
  exact ⟨rfl, rfl⟩

/-- The repaired task is read back from what is rendered of it. -/
theorem TaskRepaired.reads {raw sourceName : String} {d d' : TaskDocument} (repaired : TaskRepaired target d d')
    (parsed : parseTaskDocumentWithSource raw sourceName = .ok d) (sourceName' : String) :
    parseTaskDocumentWithSource (renderTaskDocument d') sourceName' = .ok d' := by
  obtain ⟨frame, root, spec⟩ := repaired
  have valid : ({ d' with rootSpecId := d.rootSpecId, specId := d.specId } : TaskDocument).Valid :=
    frame.symm ▸ valid_of_parseTaskDocument parsed
  have canonical : ({ d' with rootSpecId := d.rootSpecId, specId := d.specId } : TaskDocument).Canonical :=
    frame.symm ▸ canonical_of_parseTaskDocument parsed
  have safe : OptionalIdentifier (some target.rootSpecId.val) :=
    fun id same => Option.some.inj same ▸ target.rootSpecId.property
  apply parseTaskDocument_render
  · exact { valid with
      rootSpecId := root.symm ▸ safe
      specId := spec.elim (fun same => same.symm ▸ valid.specId) fun same => same.symm ▸ safe }
  · exact { canonical with }

theorem valid_of_parseIncidentDocument {raw sourceName : String} {d : IncidentDocument}
    (ok : parseIncidentDocumentWithSource raw sourceName = .ok d) : d.Valid := by
  obtain ⟨title, fields, -, parsed⟩ := carried_of_readDocument ok
  unfold parseIncidentFromFields at parsed
  simp only [bind_eq_ok, pure_eq_ok] at parsed
  obtain ⟨_, -, _, -, _, -, _, -, _, -, _, -, _, -, _, -, _, -, _, -, _, -, _, -, _, -, _, -, _, accepted, rfl⟩ := parsed
  exact (IncidentDocument.validate_iff _).mp accepted

theorem IncidentRepaired.reads {raw sourceName : String} {d d' : IncidentDocument}
    (repaired : IncidentRepaired target d d') (parsed : parseIncidentDocumentWithSource raw sourceName = .ok d)
    (sourceName' : String) : parseIncidentDocumentWithSource (renderIncidentDocument d') sourceName' = .ok d' := by
  obtain ⟨frame, root⟩ := repaired
  have valid : ({ d' with rootSpecId := d.rootSpecId } : IncidentDocument).Valid :=
    frame.symm ▸ valid_of_parseIncidentDocument parsed
  have canonical : ({ d' with rootSpecId := d.rootSpecId } : IncidentDocument).Canonical :=
    frame.symm ▸ canonical_of_parseIncidentDocument parsed
  have safe : OptionalIdentifier (some target.rootSpecId.val) :=
    fun id same => Option.some.inj same ▸ target.rootSpecId.property
  apply parseIncidentDocument_render
  · exact { valid with rootSpecId := root.symm ▸ safe }
  · exact { canonical with }

theorem changesFor_of_root {document : SurfaceDocument}
    (root : document.effectiveRootSpecId = some target.rootSpecId.val) : changesFor target path document = none := by
  unfold changesFor
  rw [driftFinding_of_root root, Option.bind_none]

theorem TaskRepaired.settled {d d' : TaskDocument} (repaired : TaskRepaired target d d') :
    changesFor target path (.task d') = none := by
  apply changesFor_of_root
  show d'.rootSpecId.or d'.specId = _
  rw [repaired.root, Option.some_or]

theorem IncidentRepaired.settled {d d' : IncidentDocument} (repaired : IncidentRepaired target d d') :
    changesFor target path (.incident d') = none := by
  apply changesFor_of_root
  show d'.rootSpecId.or d'.sourceSpecId = _
  rw [repaired.root, Option.some_or]

/-- What the changes make of the documents they are for. -/
theorem changesFor_task {d : TaskDocument} {changes : List LineageRepairChange} (kind : path.directory.kind = .task)
    (made : changesFor target path (.task d) = some changes) :
    TaskRepaired target d (TaskDocument.repaired d changes) := by
  obtain ⟨finding, found, made⟩ := Option.bind_eq_some_iff.mp made
  obtain ⟨-, ⟨-, rfl⟩ | ⟨incident, -⟩⟩ := repairChanges_eq_some made
  · exact repaired_task d finding
  · rw [(driftFinding_spec found).1, kind] at incident
    cases incident

theorem changesFor_incident {d : IncidentDocument} {changes : List LineageRepairChange}
    (kind : path.directory.kind = .incident) (made : changesFor target path (.incident d) = some changes) :
    IncidentRepaired target d (IncidentDocument.repaired d changes) := by
  obtain ⟨finding, found, made⟩ := Option.bind_eq_some_iff.mp made
  obtain ⟨-, ⟨task, -⟩ | ⟨-, rfl⟩⟩ := repairChanges_eq_some made
  · rw [(driftFinding_spec found).1, kind] at task
    cases task
  · exact repaired_incident d finding

variable (env target) in
/-- What a repair makes of the text of one file. -/
def repairedText (path : DocumentPath) (raw : String) : String :=
  if path.directory ∈ lineageSurfaces then
    match path.directory.kind with
    | .task =>
      match parseTaskDocumentWithSource raw (absolute env path.relative) with
      | .error _ => raw
      | .ok d =>
        match changesFor target path (.task d) with
        | none => raw
        | some changes => renderTaskDocument (TaskDocument.repaired d changes)
    | .incident =>
      match parseIncidentDocumentWithSource raw (absolute env path.relative) with
      | .error _ => raw
      | .ok d =>
        match changesFor target path (.incident d) with
        | none => raw
        | some changes => renderIncidentDocument (IncidentDocument.repaired d changes)
    | _ => raw
  else raw

theorem repairedText_task {raw : String} {d : TaskDocument} (surface : path.directory ∈ lineageSurfaces)
    (kind : path.directory.kind = .task)
    (parsed : parseTaskDocumentWithSource raw (absolute env path.relative) = .ok d) :
    repairedText env target path raw =
      match changesFor target path (.task d) with
      | none => raw
      | some changes => renderTaskDocument (TaskDocument.repaired d changes) := by
  unfold repairedText
  rw [if_pos surface, kind]
  simp only [parsed]

theorem repairedText_incident {raw : String} {d : IncidentDocument} (surface : path.directory ∈ lineageSurfaces)
    (kind : path.directory.kind = .incident)
    (parsed : parseIncidentDocumentWithSource raw (absolute env path.relative) = .ok d) :
    repairedText env target path raw =
      match changesFor target path (.incident d) with
      | none => raw
      | some changes => renderIncidentDocument (IncidentDocument.repaired d changes) := by
  unfold repairedText
  rw [if_pos surface, kind]
  simp only [parsed]

/-- A text is left as it is, or is that of a task or an incident that is rendered anew. -/
theorem repairedText_cases (path : DocumentPath) (raw : String) : repairedText env target path raw = raw ∨
    (path.directory ∈ lineageSurfaces ∧ path.directory.kind = .task ∧ ∃ d changes,
      parseTaskDocumentWithSource raw (absolute env path.relative) = .ok d ∧
      changesFor target path (.task d) = some changes ∧
      repairedText env target path raw = renderTaskDocument (TaskDocument.repaired d changes)) ∨
    (path.directory ∈ lineageSurfaces ∧ path.directory.kind = .incident ∧ ∃ d changes,
      parseIncidentDocumentWithSource raw (absolute env path.relative) = .ok d ∧
      changesFor target path (.incident d) = some changes ∧
      repairedText env target path raw = renderIncidentDocument (IncidentDocument.repaired d changes)) := by
  unfold repairedText
  split
  next surface =>
    split
    next kind =>
      split
      next => exact .inl rfl
      next d parsed =>
        split
        next => exact .inl rfl
        next changes made => exact .inr (.inl ⟨surface, kind, d, changes, parsed, made, rfl⟩)
    next kind =>
      split
      next => exact .inl rfl
      next d parsed =>
        split
        next => exact .inl rfl
        next changes made => exact .inr (.inr ⟨surface, kind, d, changes, parsed, made, rfl⟩)
    next => exact .inl rfl
  next => exact .inl rfl

/-- A repaired text is left alone. -/
theorem repairedText_settles (path : DocumentPath) (raw : String) :
    repairedText env target path (repairedText env target path raw) = repairedText env target path raw := by
  rcases repairedText_cases path raw with
    same | ⟨surface, kind, d, changes, parsed, made, rendered⟩ | ⟨surface, kind, d, changes, parsed, made, rendered⟩
  · rw [same, same]
  · have repaired := changesFor_task kind made
    rw [rendered, repairedText_task surface kind (repaired.reads parsed _), repaired.settled]
  · have repaired := changesFor_incident kind made
    rw [rendered, repairedText_incident surface kind (repaired.reads parsed _), repaired.settled]

end Documents

end

end Millrace.Closure.Repair
