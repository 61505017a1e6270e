import Millrace.Closure.RepairedText
import Millrace.FirstWins
import Millrace.Resuming
import Millrace.Workspace.Requeue

/-! One pass of a lineage repair: what the scan sees, what the plan says, and which files the application rewrites. -/

set_option autoImplicit false

namespace Millrace.Closure.Repair
open Millrace.Text Millrace.Contracts Millrace.WorkDocuments Millrace.Action Millrace.Resuming
open Millrace.Queue (ItemState Directory DocumentPath Workspace World StoreM QueueStoreError Environment absolute)

section
variable [Rfc3339]

/-! ## The scan -/

section Scan
variable {env : Environment} {target : RepairTarget} {s : World}

/-- An operation from this one on fails. -/
def FaultyFrom (env : Environment) (n : Nat) : Prop := ∃ m, n ≤ m ∧ (env.reading m).fault ≠ none

theorem FaultyFrom.earlier {n m : Nat} (faulty : FaultyFrom env m) (before : n ≤ m) : FaultyFrom env n := by
  obtain ⟨k, later, fails⟩ := faulty
  exact ⟨k, before.trans later, fails⟩

/-- The computation reads this value off the workspace, or an operation on the files fails; it writes nothing. -/
def Sees {α : Type} (env : Environment) (s : World) (x : RepairM α) (a : α) : Prop :=
  Ensues s x (fun b t => b = a ∧ t.workspace = s.workspace ∧ s.step ≤ t.step)
    fun _ t => t.workspace = s.workspace ∧ FaultyFrom env s.step

namespace Sees
variable {α β : Type}

theorem pure (a : α) : Sees env s (Pure.pure a) a := Ensues.pure ⟨rfl, rfl, le_rfl⟩

theorem bind {x : RepairM α} {f : α → RepairM β} {a : α} {b : β} (first : Sees env s x a)
    (rest : ∀ t : World, t.workspace = s.workspace → Sees env t (f a) b) : Sees env s (x >>= f) b := by
  refine Ensues.bind first ?_
  rintro _ t ⟨rfl, same, later⟩
  refine (rest t same).weaken ?_ ?_
  · rintro _ u ⟨seen, same', later'⟩
    exact ⟨seen, same'.trans same, later.trans later'⟩
  · rintro _ u ⟨same', faulty⟩
    exact ⟨same'.trans same, faulty.earlier later⟩

end Sees

theorem fileOperation_sees (relative : String) : Sees env s (onFiles (Queue.fileOperation env relative)) () := by
  unfold onFiles
  apply adapt_ensues
  rintro s rfl
  rw [Queue.fileOperation_run]
  cases fault : (env.reading s.step).fault with
  | none => exact ⟨rfl, rfl, Nat.le_succ _⟩
  | some message => exact ⟨rfl, s.step, le_rfl, by simp [fault]⟩

theorem currentWorkspace_sees : Sees env s (onFiles Queue.currentWorkspace) s.workspace := by
  rintro s rfl
  exact ⟨rfl, rfl, le_rfl⟩

theorem onFiles_bind {α β : Type} (x : StoreM α) (f : α → StoreM β) :
    onFiles (x >>= f) = onFiles x >>= fun a => onFiles (f a) := by
  funext s
  show adapt ofFile (EStateM.bind x f) s = EStateM.bind (adapt ofFile x) (fun a => adapt ofFile (f a)) s
  unfold adapt EStateM.bind
  dsimp only
  cases x s <;> rfl

theorem readIfPresent_sees (path : DocumentPath) :
    Sees env s (onFiles (Queue.readIfPresent env path)) (s.workspace.file path) := by
  unfold Queue.readIfPresent
  rw [onFiles_bind]
  refine (fileOperation_sees _).bind fun t same => ?_
  rw [onFiles_bind]
  refine currentWorkspace_sees.bind fun u same' => ?_
  rw [same]
  exact .pure _

theorem listMarkdownFiles_sees (d : Directory) :
    Sees env s (onFiles (Queue.listMarkdownFiles env d)) (s.workspace.markdownFiles d) := by
  unfold Queue.listMarkdownFiles
  rw [onFiles_bind]
  refine (fileOperation_sees _).bind fun t same => ?_
  rw [onFiles_bind]
  refine currentWorkspace_sees.bind fun u same' => ?_
  rw [same]
  exact .pure _

variable (env target) in
/-- The finding of a file of the workspace. -/
def findingOf (w : Workspace) (path : DocumentPath) : Option LineageDriftFinding :=
  (w.file path).bind fun raw =>
    (surfaceDocument path.directory.kind raw (absolute env path.relative)).bind (driftFinding target path)

variable (env target) in
def findingsIn (w : Workspace) (surfaces : List Directory) : List LineageDriftFinding :=
  surfaces.flatMap fun d => (w.markdownFiles d).filterMap (findingOf env target w)

theorem scanFile_sees (path : DocumentPath) : Sees env s (scanFile env target path) (findingOf env target s.workspace path) := by
  unfold scanFile findingOf
  refine (readIfPresent_sees path).bind fun t same => ?_
  cases s.workspace.file path <;> exact .pure _

theorem scanFiles_sees (paths : List DocumentPath) :
    Sees env s (scanFiles env target paths) (paths.filterMap (findingOf env target s.workspace)) := by
  induction paths generalizing s with
  | nil => exact .pure _
  | cons path rest ih =>
    refine (scanFile_sees path).bind fun t same => ?_
    refine (same ▸ ih (s := t)).bind fun u same' => ?_
    cases found : findingOf env target s.workspace path with
    | none =>
      rw [List.filterMap_cons_none found]
      exact .pure _
    | some finding =>
      rw [List.filterMap_cons_some found]
      exact .pure _

theorem scanSurfaces_sees (surfaces : List Directory) :
    Sees env s (scanSurfaces env target surfaces) (findingsIn env target s.workspace surfaces) := by
  induction surfaces generalizing s with
  | nil => exact .pure _
  | cons surface rest ih =>
    refine (listMarkdownFiles_sees surface).bind fun t same => ?_
    rw [← same]
    refine (scanFiles_sees _).bind fun u same' => ?_
    rw [← same']
    refine ih.bind fun v _ => ?_
    exact .pure _

variable (env target) in
/-- The findings of a workspace in the order in which they are reported. -/
def driftFindings (w : Workspace) : List LineageDriftFinding :=
  (findingsIn env target w lineageSurfaces).mergeSort LineageDriftFinding.before

theorem scan_sees : Sees env s (scanClosureLineageDrift env target) (driftFindings env target s.workspace) :=
  (scanSurfaces_sees lineageSurfaces).bind fun _ _ => .pure _

theorem plan_sees : Sees env s (buildLineageRepairPlan env target) (planOf target (driftFindings env target s.workspace)) :=
  scan_sees.bind fun _ _ => .pure _

theorem mem_driftFindings {w : Workspace} {finding : LineageDriftFinding} :
    finding ∈ driftFindings env target w ↔
      ∃ path : DocumentPath, path.directory ∈ lineageSurfaces ∧ findingOf env target w path = some finding := by
  unfold driftFindings findingsIn
  simp only [List.mem_mergeSort, List.mem_flatMap, List.mem_filterMap, Workspace.mem_markdownFiles]
  constructor
  · rintro ⟨d, member, path, ⟨same, -⟩, found⟩
    exact ⟨path, same ▸ member, found⟩
  · rintro ⟨path, member, found⟩
    refine ⟨_, member, path, ⟨rfl, ?_⟩, found⟩
    obtain ⟨raw, read, -⟩ := Option.bind_eq_some_iff.mp found
    rw [read]
    rfl

end Scan

/-! ## The plan -/

omit [Rfc3339] in
theorem repairChanges_path (target : RepairTarget) (finding : LineageDriftFinding) :
    ∀ change ∈ (repairChanges target finding).getD [], change.path = finding.path := by
  intro change member
  cases made : repairChanges target finding with
  | none =>
    rw [made] at member
    cases member
  | some changes =>
    rw [made, Option.getD_some] at member
    obtain ⟨-, ⟨-, rfl⟩ | ⟨-, rfl⟩⟩ := repairChanges_eq_some made
    · rcases List.mem_cons.mp member with rfl | later
      · rfl
      · split at later
        · obtain rfl := List.mem_singleton.mp later
          rfl
        · cases later
    · obtain rfl := List.mem_singleton.mp member
      rfl

section Plan
variable {env : Environment} {target : RepairTarget} {w : Workspace}

theorem findingOf_spec {path : DocumentPath} {finding : LineageDriftFinding}
    (found : findingOf env target w path = some finding) : (w.file path).isSome ∧ finding.path = workspaceRelativePath path := by
  obtain ⟨raw, read, found⟩ := Option.bind_eq_some_iff.mp found
  obtain ⟨document, -, found⟩ := Option.bind_eq_some_iff.mp found
  exact ⟨by simp [read], (driftFinding_spec found).2.2⟩

/-- No two findings are of one file. -/
theorem driftFindings_distinct (tidy : Tidy w) :
    FirstWins.Distinct LineageDriftFinding.path (driftFindings env target w) := by
  have apart : ((findingsIn env target w lineageSurfaces).map LineageDriftFinding.path).Nodup := by
    have surfaces : (lineageSurfaces.flatMap w.markdownFiles).Nodup := by
      refine List.nodup_flatMap.mpr ⟨fun d _ => w.nodup_markdownFiles d, ?_⟩
      have distinct : lineageSurfaces.Nodup := by decide
      refine distinct.imp fun {d d'} different path => ?_
      intro here there
      obtain ⟨rfl, -⟩ := (w.mem_markdownFiles d path).mp here
      obtain ⟨same, -⟩ := (w.mem_markdownFiles d' path).mp there
      exact different same
    unfold findingsIn
    rw [← List.filterMap_flatMap, List.Nodup, List.pairwise_map, List.pairwise_filterMap]
    refine List.Pairwise.imp_of_mem ?_ surfaces
    intro path path' member member' different finding found finding' found' same
    obtain ⟨there, shown⟩ := findingOf_spec found
    obtain ⟨there', shown'⟩ := findingOf_spec found'
    obtain ⟨d, surface, listed⟩ := List.mem_flatMap.mp member
    obtain ⟨d', surface', listed'⟩ := List.mem_flatMap.mp member'
    obtain ⟨rfl, -⟩ := (w.mem_markdownFiles d path).mp listed
    obtain ⟨rfl, -⟩ := (w.mem_markdownFiles d' path').mp listed'
    rw [shown, shown', workspaceRelativePath_eq surface (tidy path surface there),
      workspaceRelativePath_eq surface' (tidy path' surface' there')] at same
    exact different (relative_inj surface surface' (tidy path surface there) (tidy path' surface' there') same)
  exact ((List.mergeSort_perm _ _).map _).nodup_iff.mpr apart

/-- The changes of a plan to one file are those of its finding. -/
theorem plan_changes (tidy : Tidy w) {path : DocumentPath} (surface : path.directory ∈ lineageSurfaces)
    {finding : LineageDriftFinding} (found : findingOf env target w path = some finding) :
    ((planOf target (driftFindings env target w)).changes.filter fun change => change.path = finding.path) =
      (repairChanges target finding).getD [] := by
  have member := mem_driftFindings.mpr ⟨path, surface, found⟩
  unfold planOf
  rw [FirstWins.filter_flatMap (repairChanges_path target), (driftFindings_distinct tidy).filter_eq member, List.flatMap_singleton]

/-- A document with changes is named in the plan. -/
theorem plan_path (tidy : Tidy w) {path : DocumentPath} (surface : path.directory ∈ lineageSurfaces)
    {finding : LineageDriftFinding} (found : findingOf env target w path = some finding)
    {changes : List LineageRepairChange} (made : repairChanges target finding = some changes) :
    path.relative ∈ (planOf target (driftFindings env target w)).changes.map (·.path) := by
  obtain ⟨there, shown⟩ := findingOf_spec found
  have some : (repairChanges target finding).getD [] ≠ [] := by
    rw [made, Option.getD_some]
    obtain ⟨-, ⟨-, rfl⟩ | ⟨-, rfl⟩⟩ := repairChanges_eq_some made <;> exact List.cons_ne_nil _ _
  rw [← plan_changes tidy surface found] at some
  obtain ⟨change, member⟩ := List.exists_mem_of_ne_nil _ some
  obtain ⟨member, same⟩ := List.mem_filter.mp member
  refine List.mem_map.mpr ⟨change, member, ?_⟩
  rw [of_decide_eq_true same, shown, workspaceRelativePath_eq surface (tidy path surface there)]

/-- A path that the plan names is that of a document with changes. -/
theorem named_in_plan (tidy : Tidy w) {relative : String}
    (named : relative ∈ (planOf target (driftFindings env target w)).changes.map (·.path)) :
    ∃ path finding changes, path.directory ∈ lineageSurfaces ∧ path.relative = relative ∧
      findingOf env target w path = some finding ∧ repairChanges target finding = some changes ∧
      (planOf target (driftFindings env target w)).changes.filter (fun change => change.path = relative) = changes := by
  obtain ⟨change, member, rfl⟩ := List.mem_map.mp named
  obtain ⟨finding, listed, member⟩ := List.mem_flatMap.mp member
  obtain ⟨path, surface, found⟩ := mem_driftFindings.mp listed
  obtain ⟨there, shown⟩ := findingOf_spec found
  have same := repairChanges_path target finding change member
  cases made : repairChanges target finding with
  | none =>
    rw [made] at member
    cases member
  | some changes =>
    refine ⟨path, finding, changes, surface, ?_, found, made, ?_⟩
    · rw [same, shown, workspaceRelativePath_eq surface (tidy path surface there)]
    · rw [same, plan_changes tidy surface found, made, Option.getD_some]

end Plan

/-! ## The application -/

section Application
variable {env : Environment} {target : RepairTarget}

variable (env target) in
/-- What a repair makes of a file. -/
def rewrite (path : DocumentPath) : Option String → Option String := Option.map (repairedText env target path)

theorem rewrite_settles : Resuming.Settles (rewrite env target) := by
  intro path file
  cases file with
  | none => rfl
  | some raw => exact congrArg some (repairedText_settles path raw)

/-- A document of this path that these changes are for. -/
inductive Pending (env : Environment) (target : RepairTarget) (w : Workspace) (path : DocumentPath)
    (changes : List LineageRepairChange) : Prop
  | task {raw : String} {d : TaskDocument} (kind : path.directory.kind = .task) (read : w.file path = some raw)
    (parsed : parseTaskDocumentWithSource raw (absolute env path.relative) = .ok d)
    (made : changesFor target path (.task d) = some changes)
  | incident {raw : String} {d : IncidentDocument} (kind : path.directory.kind = .incident)
    (read : w.file path = some raw)
    (parsed : parseIncidentDocumentWithSource raw (absolute env path.relative) = .ok d)
    (made : changesFor target path (.incident d) = some changes)

theorem pending_of_finding {w : Workspace} {path : DocumentPath} {finding : LineageDriftFinding}
    {changes : List LineageRepairChange} (found : findingOf env target w path = some finding)
    (made : repairChanges target finding = some changes) : Pending env target w path changes := by
  obtain ⟨raw, read, found⟩ := Option.bind_eq_some_iff.mp found
  obtain ⟨document, parsed, found⟩ := Option.bind_eq_some_iff.mp found
  have made' : changesFor target path document = some changes := by
    unfold changesFor
    rw [found, Option.bind_some, made]
  obtain ⟨kind, -, -⟩ := driftFinding_spec found
  obtain ⟨-, ⟨task, -⟩ | ⟨incident, -⟩⟩ := repairChanges_eq_some made
  · have kind := kind.symm.trans task
    rw [kind] at parsed
    obtain ⟨d, accepted, rfl⟩ := Option.map_eq_some_iff.mp parsed
    exact .task kind read (toOption_eq_some.mp accepted) made'
  · have kind := kind.symm.trans incident
    rw [kind] at parsed
    obtain ⟨d, accepted, rfl⟩ := Option.map_eq_some_iff.mp parsed
    exact .incident kind read (toOption_eq_some.mp accepted) made'

theorem Pending.congr {w w' : Workspace} {path : DocumentPath} {changes : List LineageRepairChange}
    (pending : Pending env target w path changes) (same : w'.file path = w.file path) :
    Pending env target w' path changes := by
  cases pending with
  | task kind read parsed made => exact .task kind (same.trans read) parsed made
  | incident kind read parsed made => exact .incident kind (same.trans read) parsed made

/-- The first change to a document is to one of its kind. -/
theorem changes_kind {path : DocumentPath} {document : SurfaceDocument} {changes : List LineageRepairChange}
    (made : changesFor target path document = some changes) :
    changes.head?.map LineageRepairChange.workItemKind = some path.directory.kind := by
  obtain ⟨finding, found, made⟩ := Option.bind_eq_some_iff.mp made
  rw [← (driftFinding_spec found).1]
  obtain ⟨-, ⟨-, rfl⟩ | ⟨-, rfl⟩⟩ := repairChanges_eq_some made <;> rfl

theorem writeDocument_ends {s : World} (path : DocumentPath) (raw : String) :
    Ensues s (onFiles (Queue.writeDocument env path raw))
      (fun _ t => t.workspace = s.workspace.insert path raw ∧ s.step ≤ t.step)
      fun _ t => t.workspace = s.workspace ∧ FaultyFrom env s.step := by
  unfold Queue.writeDocument Queue.createDirAll
  rw [onFiles_bind]
  refine Ensues.bind (fileOperation_sees _) ?_
  rintro _ t ⟨-, same, later⟩
  rw [onFiles_bind]
  refine Ensues.bind ((fileOperation_sees _).weaken (fun _ _ ends => ends.2) fun _ u ends =>
    ⟨ends.1.trans same, ends.2.earlier later⟩) ?_
  rintro _ u ⟨same', later'⟩
  rintro u rfl
  refine ⟨?_, later.trans later'⟩
  show u.workspace.insert path raw = s.workspace.insert path raw
  rw [same', same]

theorem readNamed_ends {α : Type} {parse : String → String → Except WorkDocumentError α} {s : World} {path : DocumentPath}
    (tidy : Tidy s.workspace) (surface : path.directory ∈ lineageSurfaces) {raw : String}
    (read : s.workspace.file path = some raw) {d : α} (parsed : parse raw (absolute env path.relative) = .ok d) :
    Sees env s (readNamed env parse path.relative) (path, d) := by
  unfold readNamed
  refine (fileOperation_sees _).bind fun t same => ?_
  refine Sees.bind currentWorkspace_sees fun u same' => ?_
  rw [same, documentAt_relative tidy surface (by simp [read])]
  simp only [Option.bind_some, read, Option.map_some, parsed]
  exact .pure _

/-- One file of a plan is written as the repair of its document. -/
theorem repairFile_ends {s : World} {path : DocumentPath} {changes : List LineageRepairChange} (tidy : Tidy s.workspace)
    (surface : path.directory ∈ lineageSurfaces) (pending : Pending env target s.workspace path changes) :
    Ensues s (repairFile env path.relative changes)
      (fun _ t => s.step ≤ t.step ∧ ∀ p, t.workspace.file p =
        if p = path then rewrite env target p (s.workspace.file p) else s.workspace.file p)
      fun _ t => t.workspace = s.workspace ∧ FaultyFrom env s.step := by
  unfold repairFile
  cases pending with
  | @task raw d kind read parsed made =>
    rw [changes_kind made, kind]
    refine Ensues.bind (readNamed_ends tidy surface read parsed) ?_
    rintro _ t ⟨rfl, same, later⟩
    refine Ensues.bind ((writeDocument_ends path _).weaken (fun _ _ ends => ends) fun _ u ends =>
      ⟨ends.1.trans same, ends.2.earlier later⟩) ?_
    refine fun _ u written => .pure ⟨later.trans written.2, fun p => ?_⟩
    rw [written.1, Workspace.file_insert, same]
    split
    next here =>
      subst here
      rw [read]
      unfold rewrite
      rw [Option.map_some, repairedText_task surface kind parsed, made]
    next => rfl
  | @incident raw d kind read parsed made =>
    rw [changes_kind made, kind]
    refine Ensues.bind (readNamed_ends tidy surface read parsed) ?_
    rintro _ t ⟨rfl, same, later⟩
    refine Ensues.bind ((writeDocument_ends path _).weaken (fun _ _ ends => ends) fun _ u ends =>
      ⟨ends.1.trans same, ends.2.earlier later⟩) ?_
    refine fun _ u written => .pure ⟨later.trans written.2, fun p => ?_⟩
    rw [written.1, Workspace.file_insert, same]
    split
    next here =>
      subst here
      rw [read]
      unfold rewrite
      rw [Option.map_some, repairedText_incident surface kind parsed, made]
    next => rfl

theorem tidy_congr {w w' : Workspace} (tidy : Tidy w) (same : ∀ path, (w'.file path).isSome = (w.file path).isSome) :
    Tidy w' := fun path surface there => tidy path surface (same path ▸ there)

/-- The files of these paths are rewritten, each of them once. -/
theorem repairFiles_ends {changes : List LineageRepairChange} (todo : List String) (distinct : todo.Nodup) {s : World}
    (tidy : Tidy s.workspace)
    (pending : ∀ relative ∈ todo, ∃ path, path.directory ∈ lineageSurfaces ∧ path.relative = relative ∧
      Pending env target s.workspace path (changes.filter fun change => change.path = relative)) :
    Ensues s (repairFiles env changes todo)
      (fun _ t => ∀ p, t.workspace.file p =
        if p.directory ∈ lineageSurfaces ∧ p.relative ∈ todo then rewrite env target p (s.workspace.file p)
        else s.workspace.file p)
      fun _ t => Partly (rewrite env target) s.workspace.file t.workspace.file ∧ FaultyFrom env s.step := by
  induction todo generalizing s with
  | nil =>
    refine .pure fun p => ?_
    rw [if_neg fun named => List.not_mem_nil named.2]
  | cons relative rest ih =>
    obtain ⟨fresh, apart⟩ := List.nodup_cons.mp distinct
    obtain ⟨path, surface, rfl, first⟩ := pending relative List.mem_cons_self
    have there : (s.workspace.file path).isSome := by
      cases first with
      | task kind read => rw [read]; rfl
      | incident kind read => rw [read]; rfl
    unfold repairFiles
    refine Ensues.bind ((repairFile_ends tidy surface first).weaken (fun _ _ ends => ends) ?_) ?_
    · rintro _ t ⟨same, faulty⟩
      exact ⟨same ▸ .refl _, faulty⟩
    · rintro _ t ⟨later, written⟩
      have present : ∀ p, (t.workspace.file p).isSome = (s.workspace.file p).isSome := by
        intro p
        rw [written]
        split
        next => exact Option.isSome_map
        next => rfl
      have tidy' := tidy_congr tidy present
      have waiting : ∀ relative' ∈ rest, ∃ path', path'.directory ∈ lineageSurfaces ∧ path'.relative = relative' ∧
          Pending env target t.workspace path' (changes.filter fun change => change.path = relative') := by
        intro relative' member
        obtain ⟨path', surface', rfl, waits⟩ := pending relative' (List.mem_cons_of_mem _ member)
        refine ⟨path', surface', rfl, waits.congr ?_⟩
        rw [written, if_neg]
        rintro rfl
        exact fresh member
      refine Ensues.bind ((ih apart tidy' waiting).weaken (fun _ _ ends => ends) ?_) ?_
      · rintro _ u ⟨partly, faulty⟩
        have before : Partly (rewrite env target) s.workspace.file t.workspace.file := by
          intro p
          rw [written]
          split
          next => exact .inr rfl
          next => exact .inl rfl
        exact ⟨before.trans rewrite_settles partly, faulty.earlier later⟩
      · refine fun _ u done => .pure fun p => ?_
        rw [done, written]
        by_cases here : p = path
        · subst here
          rw [if_neg fun named => fresh named.2, if_pos rfl, if_pos ⟨surface, List.mem_cons_self⟩]
        · rw [if_neg here]
          by_cases named : p.directory ∈ lineageSurfaces ∧ p.relative ∈ rest
          · rw [if_pos named, if_pos ⟨named.1, List.mem_cons_of_mem _ named.2⟩]
          · rw [if_neg named]
            by_cases again : p.directory ∈ lineageSurfaces ∧ p.relative = path.relative
            · -- only a file that is not there shares the path of another
              cases file : s.workspace.file p with
              | none => simp [rewrite]
              | some raw =>
                have safe := tidy p again.1 (by simp [file])
                exact absurd (relative_inj again.1 surface safe (tidy path surface there) again.2) here
            · rw [if_neg]
              rintro ⟨surface', member⟩
              exact (List.mem_cons.mp member).elim (fun same => again ⟨surface', same⟩) fun inRest => named ⟨surface', inRest⟩

/-- A plan of the workspace rewrites every file that the repair changes. -/
theorem apply_ends {s : World} (tidy : Tidy s.workspace) :
    Ensues s (applyLineageRepairPlan env (planOf target (driftFindings env target s.workspace)))
      (fun _ t => Fully (rewrite env target) s.workspace.file t.workspace.file)
      fun _ t => Partly (rewrite env target) s.workspace.file t.workspace.file ∧ FaultyFrom env s.step := by
  unfold applyLineageRepairPlan
  have distinct : (sortedUnique ((planOf target (driftFindings env target s.workspace)).changes.map (·.path))).Nodup :=
    (List.mergeSort_perm _ _).nodup_iff.mpr (List.nodup_dedup _)
  refine (repairFiles_ends _ distinct tidy ?_).weaken ?_ fun _ _ ends => ends
  · intro relative member
    obtain ⟨path, finding, changes, surface, shown, found, made, listed⟩ :=
      named_in_plan tidy (mem_sortedUnique.mp member)
    exact ⟨path, surface, shown, listed ▸ pending_of_finding found made⟩
  · intro _ t written p
    rw [written]
    split
    next => rfl
    next unnamed =>
      cases file : s.workspace.file p with
      | none => rfl
      | some raw =>
        refine congrArg some ?_
        have named {document : SurfaceDocument} {changes : List LineageRepairChange}
            (surface : p.directory ∈ lineageSurfaces)
            (parsed : surfaceDocument p.directory.kind raw (absolute env p.relative) = some document)
            (made : changesFor target p document = some changes) : False := by
          obtain ⟨finding, found, made⟩ := Option.bind_eq_some_iff.mp made
          have foundHere : findingOf env target s.workspace p = some finding := by
            unfold findingOf
            rw [file, Option.bind_some, parsed, Option.bind_some, found]
          exact unnamed ⟨surface, mem_sortedUnique.mpr (plan_path tidy surface foundHere made)⟩
        rcases repairedText_cases p raw with
          same | ⟨surface, kind, d, changes, parsed, made, -⟩ | ⟨surface, kind, d, changes, parsed, made, -⟩
        · exact same.symm
        · refine (named surface ?_ made).elim
          rw [kind]
          exact congrArg (Option.map SurfaceDocument.task) (toOption_eq_some.mpr parsed)
        · refine (named surface ?_ made).elim
          rw [kind]
          exact congrArg (Option.map SurfaceDocument.incident) (toOption_eq_some.mpr parsed)

end Application

end

end Millrace.Closure.Repair
