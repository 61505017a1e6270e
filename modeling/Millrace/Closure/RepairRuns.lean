import Millrace.Closure.RepairPass
import Millrace.Workspace.TaskClaims

/-! What lineage repairs leave: no drift, the other fields as they were, and the same files after any interruption. -/

set_option autoImplicit false

namespace Millrace.Closure.Repair
open Millrace.Text Millrace.Contracts Millrace.WorkDocuments Millrace.Action Millrace.Resuming
open Millrace.Queue (ItemState Directory DocumentPath Workspace World StoreM QueueStoreError Environment absolute)

section
variable [Rfc3339]

/-! ## The two scans -/

section Levels
variable {env : Environment} {target : RepairTarget}

/-- The work directories of closure, as this workspace holds them; no Blueprint artifacts. -/
def lineageWork (env : Environment) (w : Workspace) : LineageWork :=
  { LineageWork.empty with
    tasks := fun state => (w.markdownFiles ⟨.task, state, none⟩).map fun path => ⟨path.stem,
      (w.file path).bind fun raw => (parseTaskDocumentWithSource raw (absolute env path.relative)).toOption⟩
    specs := fun state => (w.markdownFiles ⟨.spec, state, none⟩).map fun path => ⟨path.stem,
      (w.file path).bind fun raw => (parseSpecDocumentWithSource raw (absolute env path.relative)).toOption⟩
    incidents := fun state => (w.markdownFiles ⟨.incident, state, none⟩).map fun path => ⟨path.stem,
      (w.file path).bind fun raw => (parseIncidentDocumentWithSource raw (absolute env path.relative)).toOption⟩ }

/-- What closure readiness reads of a finding. -/
def LineageDriftFinding.forClosure (finding : LineageDriftFinding) : Closure.LineageDriftFinding where
  path := finding.path
  workItemId := finding.workItemId
  diagnosticReason := finding.diagnosticReason

theorem driftFinding_forClosure (path : DocumentPath) (document : SurfaceDocument)
    (shown : workspaceRelativePath path = path.relative) :
    (driftFinding target path document).map LineageDriftFinding.forClosure =
      Closure.driftFinding path.directory target.rootSpecId.val target.rootIdeaId path.stem document := by
  unfold driftFinding Closure.driftFinding
  split
  next => rfl
  next =>
    rw [Option.map_map]
    refine congrArg (fun report => Option.map report (driftReason document target.rootSpecId.val target.rootIdeaId)) ?_
    funext reason
    simp only [Function.comp, LineageDriftFinding.forClosure, shown]

/-- The findings of one directory are those of the documents that its files hold. -/
theorem directory_forClosure {α : Type} {w : Workspace} (tidy : Tidy w) {d : Directory} (surface : d ∈ lineageSurfaces)
    (surfaceOf : α → SurfaceDocument) (parse : String → String → Except WorkDocumentError α)
    (reads : ∀ raw sourceName, surfaceDocument d.kind raw sourceName = (parse raw sourceName).toOption.map surfaceOf) :
    ((w.markdownFiles d).filterMap (findingOf env target w)).map LineageDriftFinding.forClosure =
      ((w.markdownFiles d).map fun path => (⟨path.stem, (w.file path).bind fun raw =>
        (parse raw (absolute env path.relative)).toOption⟩ : WorkFile α)).filterMap fun file =>
          file.document.bind fun document =>
            Closure.driftFinding d target.rootSpecId.val target.rootIdeaId file.stem (surfaceOf document) := by
  rw [List.map_filterMap, List.filterMap_map]
  apply List.filterMap_congr
  intro path member
  obtain ⟨rfl, there⟩ := (w.mem_markdownFiles d path).mp member
  have shown := workspaceRelativePath_eq surface (tidy path surface there)
  unfold findingOf
  dsimp only [Function.comp]
  cases w.file path with
  | none => rfl
  | some raw =>
    rw [Option.bind_some, Option.bind_some, reads]
    cases (parse raw (absolute env path.relative)).toOption with
    | none => rfl
    | some document => exact driftFinding_forClosure path (surfaceOf document) shown

/-- The scan of the files finds the drift that closure readiness rests on. -/
theorem driftFindings_forClosure {w : Workspace} (tidy : Tidy w) :
    (driftFindings env target w).map LineageDriftFinding.forClosure =
      Closure.scanClosureLineageDrift (lineageWork env w) target.rootSpecId.val target.rootIdeaId := by
  unfold driftFindings Closure.scanClosureLineageDrift
  have sameOrder : ∀ a ∈ findingsIn env target w lineageSurfaces, ∀ b ∈ findingsIn env target w lineageSurfaces,
      a.before b = a.forClosure.before b.forClosure := fun _ _ _ _ => rfl
  rw [List.map_mergeSort sameOrder]
  refine congrArg (fun l : List Closure.LineageDriftFinding => l.mergeSort Closure.LineageDriftFinding.before) ?_
  have task (d : Directory) (surface : d ∈ lineageSurfaces) (kind : d.kind = .task) :=
    @directory_forClosure _ env target _ w tidy d surface .task parseTaskDocumentWithSource
      fun raw sourceName => kind ▸ rfl
  have spec (d : Directory) (surface : d ∈ lineageSurfaces) (kind : d.kind = .spec) :=
    @directory_forClosure _ env target _ w tidy d surface .spec parseSpecDocumentWithSource
      fun raw sourceName => kind ▸ rfl
  have incident (d : Directory) (surface : d ∈ lineageSurfaces) (kind : d.kind = .incident) :=
    @directory_forClosure _ env target _ w tidy d surface .incident parseIncidentDocumentWithSource
      fun raw sourceName => kind ▸ rfl
  unfold findingsIn lineageSurfaces familyFindings openStates lineageWork
  simp only [List.flatMap_cons, List.flatMap_nil, List.map_append, List.append_nil, List.append_assoc]
  rw [task _ (by decide) rfl, task _ (by decide) rfl, task _ (by decide) rfl, spec _ (by decide) rfl,
    spec _ (by decide) rfl, spec _ (by decide) rfl, incident _ (by decide) rfl, incident _ (by decide) rfl,
    incident _ (by decide) rfl]

end Levels

/-! ## Repairs -/

section Repairs
variable {env : Environment} {target : RepairTarget}

/-- What a repair leaves of one file: the text it was, or a document of which only the root and spec have changed. -/
inductive FileRepaired (env : Environment) (target : RepairTarget) (path : DocumentPath) :
    Option String → Option String → Prop
  | kept (file : Option String) : FileRepaired env target path file file
  | task {raw raw' : String} {d d' : TaskDocument} (kind : path.directory.kind = .task)
    (before : parseTaskDocumentWithSource raw (absolute env path.relative) = .ok d)
    (after : parseTaskDocumentWithSource raw' (absolute env path.relative) = .ok d') (repaired : TaskRepaired target d d') :
    FileRepaired env target path (some raw) (some raw')
  | incident {raw raw' : String} {d d' : IncidentDocument} (kind : path.directory.kind = .incident)
    (before : parseIncidentDocumentWithSource raw (absolute env path.relative) = .ok d)
    (after : parseIncidentDocumentWithSource raw' (absolute env path.relative) = .ok d')
    (repaired : IncidentRepaired target d d') : FileRepaired env target path (some raw) (some raw')

/-- A finding about a task or an incident that is queued or blocked. -/
def LineageDriftFinding.Repairable (finding : LineageDriftFinding) : Prop :=
  (finding.state = .queue ∨ finding.state = .blocked) ∧ (finding.workItemKind = .task ∨ finding.workItemKind = .incident)

/-- A scan reports nothing that a repair would change, and a plan changes nothing. -/
def Undrifted (env : Environment) (target : RepairTarget) (s : World) : Prop :=
  (∀ findings t, scanClosureLineageDrift env target s = .ok findings t → ∀ finding ∈ findings, ¬finding.Repairable) ∧
    ∀ plan t, buildLineageRepairPlan env target s = .ok plan t → plan.changes = []

/-- The plan for the workspace as it is, and its application. -/
def repairLineage (env : Environment) (target : RepairTarget) : RepairM Nat := do
  let plan ← buildLineageRepairPlan env target
  applyLineageRepairPlan env plan

theorem rewrite_repairs (path : DocumentPath) (file : Option String) :
    FileRepaired env target path file (rewrite env target path file) := by
  cases file with
  | none => exact .kept none
  | some raw =>
    unfold rewrite
    rw [Option.map_some]
    rcases repairedText_cases path raw with
      same | ⟨-, kind, d, changes, parsed, made, rendered⟩ | ⟨-, kind, d, changes, parsed, made, rendered⟩
    · rw [same]
      exact .kept _
    · have repaired := changesFor_task kind made
      rw [rendered]
      exact .task kind parsed (repaired.reads parsed _) repaired
    · have repaired := changesFor_incident kind made
      rw [rendered]
      exact .incident kind parsed (repaired.reads parsed _) repaired

omit [Rfc3339] in
theorem LineageDriftFinding.Repairable.changes {finding : LineageDriftFinding} (repairable : finding.Repairable)
    (target : RepairTarget) : ∃ changes, repairChanges target finding = some changes := by
  obtain ⟨waits, kind⟩ := repairable
  unfold repairChanges
  rw [if_pos waits]
  rcases kind with kind | kind <;> rw [kind] <;> exact ⟨_, rfl⟩

/-- Where nothing is left to rewrite, no finding can be repaired. -/
theorem no_changes {w : Workspace} (settled : Fully (rewrite env target) w.file w.file) {finding : LineageDriftFinding}
    (listed : finding ∈ driftFindings env target w) : repairChanges target finding = none := by
  obtain ⟨path, surface, found⟩ := mem_driftFindings.mp listed
  cases made : repairChanges target finding with
  | none => rfl
  | some changes =>
    have same := settled path
    cases pending_of_finding found made with
    | @task raw d kind read parsed made =>
      have repaired := changesFor_task kind made
      rw [read] at same
      have text := Option.some.inj same
      rw [repairedText_task surface kind parsed, made] at text
      dsimp only at text
      have again := repaired.reads parsed (absolute env path.relative)
      rw [← text, parsed] at again
      obtain same' := Except.ok.inj again
      have none : changesFor target path (.task (TaskDocument.repaired d changes)) = none := repaired.settled
      rw [← same', made] at none
      cases none
    | @incident raw d kind read parsed made =>
      have repaired := changesFor_incident kind made
      rw [read] at same
      have text := Option.some.inj same
      rw [repairedText_incident surface kind parsed, made] at text
      dsimp only at text
      have again := repaired.reads parsed (absolute env path.relative)
      rw [← text, parsed] at again
      obtain same' := Except.ok.inj again
      have none : changesFor target path (.incident (IncidentDocument.repaired d changes)) = none := repaired.settled
      rw [← same', made] at none
      cases none

theorem undrifted_of_settled {s : World} (settled : Fully (rewrite env target) s.workspace.file s.workspace.file) :
    Undrifted env target s := by
  constructor
  · intro findings t ran finding listed repairable
    obtain ⟨rfl, -⟩ := scan_sees.of_ok ran
    obtain ⟨changes, made⟩ := repairable.changes target
    rw [no_changes settled listed] at made
    cases made
  · intro plan t ran
    obtain ⟨rfl, -⟩ := plan_sees.of_ok ran
    refine List.flatMap_eq_nil_iff.mpr fun finding listed => ?_
    rw [no_changes settled listed, Option.getD_none]

theorem repairLineage_ends {s : World} (tidy : Tidy s.workspace) :
    Ensues s (repairLineage env target) (fun _ t => Fully (rewrite env target) s.workspace.file t.workspace.file)
      fun _ t => Partly (rewrite env target) s.workspace.file t.workspace.file ∧ FaultyFrom env s.step := by
  unfold repairLineage
  refine Ensues.bind (plan_sees.weaken (fun _ _ seen => seen) fun _ t failed => ⟨failed.1 ▸ .refl _, failed.2⟩) ?_
  rintro _ t ⟨rfl, same, later⟩
  rw [← same]
  exact (apply_ends (same ▸ tidy)).weaken (fun _ _ full => full) fun _ _ failed => ⟨failed.1, failed.2.earlier later⟩

/-- A repair goes through where none of its operations fails. -/
theorem repairs_unless_faulty (env : Environment) (target : RepairTarget) {s : World} (tidy : Tidy s.workspace)
    (calm : ¬FaultyFrom env s.step) : ∃ count t, repairLineage env target s = .ok count t := by
  have ends : Ensues s (repairLineage env target) (fun _ _ => True) fun _ _ => False :=
    (repairLineage_ends tidy).weaken (fun _ _ _ => trivial) fun _ _ failed => calm failed.2
  have ended := ends s rfl
  cases ran : repairLineage env target s with
  | ok count t => exact ⟨count, t, rfl⟩
  | error error t =>
    rw [ran] at ended
    exact False.elim ended

/-- After a repair, the scan of closure readiness reports no drift where all open documents are queued or blocked tasks
and incidents. -/
theorem repair_clears_closure (env : Environment) (target : RepairTarget) (s : World) (tidy : Tidy s.workspace)
    (waiting : ∀ path : DocumentPath, path.directory ∈ lineageSurfaces → (s.workspace.file path).isSome →
      (path.directory.state = .queue ∨ path.directory.state = .blocked) ∧
        (path.directory.kind = .task ∨ path.directory.kind = .incident)) :
    Ensues s (repairLineage env target)
      (fun _ t => Closure.scanClosureLineageDrift (lineageWork env t.workspace) target.rootSpecId.val target.rootIdeaId = [])
      fun _ _ => FaultyFrom env s.step := by
  refine (repairLineage_ends tidy).weaken ?_ fun _ _ failed => failed.2
  intro _ t full
  have present : ∀ path, (t.workspace.file path).isSome = (s.workspace.file path).isSome := by
    intro path
    rw [full path]
    exact Option.isSome_map
  rw [← driftFindings_forClosure (tidy_congr tidy present)]
  have nothing : driftFindings env target t.workspace = [] := by
    refine List.eq_nil_iff_forall_not_mem.mpr fun finding listed => ?_
    obtain ⟨path, surface, found⟩ := mem_driftFindings.mp listed
    obtain ⟨there, -⟩ := findingOf_spec found
    obtain ⟨raw, -, drifts⟩ := Option.bind_eq_some_iff.mp found
    obtain ⟨document, -, drifts⟩ := Option.bind_eq_some_iff.mp drifts
    obtain ⟨kind, state, -⟩ := driftFinding_spec drifts
    have repairable : finding.Repairable := by
      have open' := waiting path surface (present path ▸ there)
      rw [← kind, ← state] at open'
      exact open'
    obtain ⟨changes, made⟩ := repairable.changes target
    rw [no_changes (full.again rewrite_settles) listed] at made
    cases made
  rw [nothing, List.map_nil]

/-- Repairs that were stopped by a failing operation, one after the other. -/
inductive Stopped (env : Environment) (target : RepairTarget) : World → World → Prop
  | none (s : World) : Stopped env target s s
  | next {s t u : World} {error : LineageRepairError} (ran : repairLineage env target s = .error error t)
    (rest : Stopped env target t u) : Stopped env target s u

theorem Partly.tidy {w w' : Workspace} (tidy : Tidy w) (partly : Partly (rewrite env target) w.file w'.file) : Tidy w' := by
  apply tidy_congr tidy
  intro path
  rcases partly path with same | done
  · rw [same]
  · rw [done]
    exact Option.isSome_map

theorem Stopped.partly {s t : World} (stopped : Stopped env target s t) (tidy : Tidy s.workspace) :
    Partly (rewrite env target) s.workspace.file t.workspace.file := by
  induction stopped with
  | none s => exact .refl _
  | @next s t u error ran rest ih =>
    have first := ((repairLineage_ends tidy).of_error ran).1
    exact first.trans rewrite_settles (ih (Partly.tidy tidy first))

/-- After any number of stopped repairs, one that goes through leaves the files that one repair would have left which
no failing operation stopped. -/
theorem stopped_repairs_converge (env calm : Environment) (sameRoot : calm.root = env.root) (target : RepairTarget)
    (s t u s' v : World) (tidy : Tidy s.workspace) (stopped : Stopped env target s t) (count : Nat)
    (resumed : repairLineage env target t = .ok count u) (sameFiles : s'.workspace = s.workspace) (count' : Nat)
    (atOnce : repairLineage calm target s' = .ok count' v) : u.workspace.file = v.workspace.file := by
  have partly := stopped.partly tidy
  have resumed : Fully (rewrite env target) s.workspace.file u.workspace.file :=
    partly.finish rewrite_settles ((repairLineage_ends (Partly.tidy tidy partly)).of_ok resumed)
  have atOnce : Fully (rewrite calm target) s.workspace.file v.workspace.file :=
    sameFiles ▸ (repairLineage_ends (sameFiles ▸ tidy)).of_ok atOnce
  -- the documents are parsed under the same names
  have names : repairedText calm target = repairedText env target := by
    unfold repairedText Queue.absolute
    rw [sameRoot]
  have same : rewrite calm target = rewrite env target := by
    unfold rewrite
    rw [names]
  rw [same] at atOnce
  exact resumed.unique atOnce

end Repairs

end

/-! ## A task of the idea's other root -/

section Concrete
local instance zonesOfRepair : Rfc3339 := Queue.twoZones

def ideaTarget : RepairTarget := ⟨⟨"s", by decide⟩, "i"⟩

/-- A queued task of the idea that names another spec. -/
def drifted : Workspace :=
  Workspace.empty.insert (Queue.taskPath .queue "a") (renderTaskDocument
    { Queue.plainTask "a" [] Queue.inAthens with rootIdeaId := some "i", specId := some "x" })

theorem drifted_tidy : Tidy drifted := by
  intro path _ there
  unfold drifted at there
  rw [Workspace.file_insert, Workspace.file_empty] at there
  split at there
  next here =>
    subst here
    exact (by decide : SafeIdentifier "a")
  next => cases there

theorem drifted_cleared : Ensues ⟨drifted, 0⟩ (repairLineage Queue.calmEnvironment ideaTarget)
    (fun _ t => Closure.scanClosureLineageDrift (lineageWork Queue.calmEnvironment t.workspace) "s" "i" = [])
    fun _ _ => FaultyFrom Queue.calmEnvironment 0 := by
  refine repair_clears_closure Queue.calmEnvironment ideaTarget ⟨drifted, 0⟩ drifted_tidy ?_
  intro path _ there
  have here : path = Queue.taskPath .queue "a" := by
    by_contra other
    unfold drifted at there
    rw [Workspace.file_insert, if_neg other, Workspace.file_empty] at there
    cases there
  subst here
  exact ⟨.inl rfl, .inl rfl⟩

/-- The first operation on the files fails. -/
def stoppingOnce : Environment where
  root := "/workspace"
  reading n := { now := Queue.inLondon, suffix := 0, fault := if n = 0 then some "disk full" else none }

theorem stoppingOnce_later : ¬FaultyFrom stoppingOnce 1 := by
  rintro ⟨n, later, fails⟩
  have first : n ≠ 0 := by omega
  simp [stoppingOnce, first] at fails

/-- A repair that was stopped at its first operation is made up for by the next one. -/
theorem stopped_drifted_converges : ∃ u v, (∃ count, repairLineage stoppingOnce ideaTarget ⟨drifted, 1⟩ = .ok count u) ∧
    (∃ count, repairLineage Queue.calmEnvironment ideaTarget ⟨drifted, 0⟩ = .ok count v) ∧
    u.workspace.file = v.workspace.file := by
  have calm : ¬FaultyFrom Queue.calmEnvironment 0 := by
    rintro ⟨n, -, fails⟩
    exact fails rfl
  obtain ⟨count, u, resumed⟩ : ∃ count u, repairLineage stoppingOnce ideaTarget ⟨drifted, 1⟩ = .ok count u :=
    repairs_unless_faulty stoppingOnce ideaTarget drifted_tidy stoppingOnce_later
  obtain ⟨count', v, atOnce⟩ : ∃ count v, repairLineage Queue.calmEnvironment ideaTarget ⟨drifted, 0⟩ = .ok count v :=
    repairs_unless_faulty Queue.calmEnvironment ideaTarget drifted_tidy calm
  have stopped : Stopped stoppingOnce ideaTarget ⟨drifted, 0⟩ ⟨drifted, 1⟩ := .next rfl (.none _)
  exact ⟨u, v, ⟨count, resumed⟩, ⟨count', atOnce⟩, stopped_repairs_converge stoppingOnce Queue.calmEnvironment rfl ideaTarget
    ⟨drifted, 0⟩ ⟨drifted, 1⟩ u ⟨drifted, 0⟩ v drifted_tidy stopped count resumed rfl count' atOnce⟩

end Concrete

end Millrace.Closure.Repair
