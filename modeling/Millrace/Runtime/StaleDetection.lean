import Millrace.Blueprints.Drafts
import Millrace.Runtime.Control
import Millrace.Runtime.Entries
import Millrace.Runtime.Interference
import Millrace.Workspace.TaskClaims

/-! What a starting runtime finds stale, and what the runs of a snapshot own. -/

set_option autoImplicit false

namespace Millrace.Startup
open Millrace.Text Millrace.Contracts Millrace.WorkDocuments Millrace.Action Millrace.Queue Millrace.Runtime
open Millrace.Blueprints (DraftWorld DraftPath DraftState)

/-! ## Detection -/

structure StaleActiveState where
  isStale : Bool
  reasons : List String
  deriving DecidableEq, Repr

/-- The reasons are collected in a set, and read in its order. -/
def staleState (reasons : List String) : StaleActiveState where
  isStale := reasons.dedup.insertionSort (· ≤ ·) ≠ []
  reasons := reasons.dedup.insertionSort (· ≤ ·)

section Reasons
variable {α : Type} [DecidableEq α]

/-- The checks that the three detectors share: the active documents against the item of the snapshot's run. -/
def staleReasons (active queued : List α) (snapshot : Option α) : List String :=
  (if 1 < active.length then ["multiple_active_items"] else []) ++
  (if active ≠ [] ∧ snapshot = none then ["active_without_snapshot"] else []) ++
  match snapshot with
  | none => []
  | some item =>
    (if item ∈ queued then ["snapshot_points_to_queued_item"] else []) ++
    match active with
    | [] => ["snapshot_without_active_artifact"]
    | [single] => if single ≠ item then ["snapshot_active_id_mismatch"] else []
    | _ => []

theorem staleState_iff (reasons : List String) : (staleState reasons).isStale = true ↔ reasons ≠ [] := by
  have sorted : reasons.dedup.insertionSort (· ≤ ·) = [] ↔ reasons = [] := by
    rw [← List.length_eq_zero_iff, List.length_insertionSort, List.length_eq_zero_iff, List.dedup_eq_nil]
  simp [staleState, sorted]

theorem staleReasons_eq_nil {active queued : List α} {snapshot : Option α} (distinct : active.Nodup) :
    staleReasons active queued snapshot = [] ↔
      (∀ item, item ∈ active ↔ snapshot = some item) ∧ ∀ item, snapshot = some item → item ∉ queued := by
  unfold staleReasons
  match active, snapshot with
  | [], none => simp
  | [], some item => simp
  | [single], none => simp
  | [single], some item =>
    by_cases same : single = item
    · simp [same, eq_comm]
    · have apart : ¬∀ other, other = single ↔ item = other := fun all => same ((all single).mp rfl).symm
      simp [same, apart]
  | first :: second :: rest, none =>
    simp only [List.length_cons, List.mem_cons]
    grind
  | first :: second :: rest, some item =>
    have different : first ≠ second := by grind
    simp only [List.length_cons, List.mem_cons]
    grind

end Reasons

section
variable [Rfc3339]

section Detectors
variable (env : Environment)

def idsInDirectory (d : Directory) : StoreM (List String) := return (← listMarkdownFiles env d).map (·.stem)

/-- The items of one planning family. -/
def itemsInDirectory (kind : WorkItemKind) (state : ItemState) : StoreM (List (WorkItemKind × String)) :=
  return (← idsInDirectory env ⟨kind, state, none⟩).map (kind, ·)

def detectFamilyStaleState (kind : WorkItemKind) (snapshotActiveId : Option String) : StoreM StaleActiveState := do
  let activeIds ← idsInDirectory env ⟨kind, .active, none⟩
  let queuedIds ← idsInDirectory env ⟨kind, .queue, none⟩
  return staleState (staleReasons activeIds queuedIds snapshotActiveId)

def detectExecutionStaleState : Option String → StoreM StaleActiveState := detectFamilyStaleState env .task

def detectLearningStaleState : Option String → StoreM StaleActiveState := detectFamilyStaleState env .learningRequest

/-- The directories of the snapshot's own family are read for what is queued. -/
def queuedLikeSnapshot : Option (WorkItemKind × String) → StoreM (List (WorkItemKind × String))
  | some (kind, _) =>
    match kind with
    | .probe | .spec | .incident => itemsInDirectory env kind .queue
    | .task | .learningRequest | .blueprintDraft => return []
  | none => return []

def detectPlanningStaleState (snapshotActiveKind : Option WorkItemKind) (snapshotActiveItemId : Option String) :
    StoreM StaleActiveState := do
  refuseIf (snapshotActiveKind.isSome ≠ snapshotActiveItemId.isSome)
    (.invalidState "snapshot_active_kind and snapshot_active_item_id must be set together")
  refuseIf (snapshotActiveKind.any fun kind => !([WorkItemKind.probe, .spec, .incident].contains kind))
    (.invalidState "planning stale-state checks only support probe, spec, and incident kinds")
  let probes ← itemsInDirectory env .probe .active
  let specs ← itemsInDirectory env .spec .active
  let incidents ← itemsInDirectory env .incident .active
  let snapshot := snapshotActiveKind.bind fun kind => snapshotActiveItemId.map (kind, ·)
  let queued ← queuedLikeSnapshot env snapshot
  return staleState (staleReasons (probes ++ specs ++ incidents) queued snapshot)

end Detectors

/-! ## Reconciliation -/

/-- The saved snapshot of a runtime that may have been interrupted. -/
structure StartupSnapshot extends RuntimeSnapshot where
  processRunning : Bool

structure RuntimeReconciliationSignal where
  code : String
  failureClass : String
  plane : Option Plane
  recommendedStage : Option StageName
  message : String
  deriving DecidableEq, Repr

structure RuntimeStartupReconciliation where
  execution : StaleActiveState
  planning : StaleActiveState
  learning : StaleActiveState
  signals : List RuntimeReconciliationSignal
  deriving DecidableEq, Repr

def RuntimeStartupReconciliation.onPlane (r : RuntimeStartupReconciliation) : Plane → StaleActiveState
  | .execution => r.execution
  | .planning => r.planning
  | .learning => r.learning

def staleActiveFailureClass : String := "stale_active_ownership"

def staleActiveTroubleshootAttempts (snapshot : RuntimeSnapshot) (counters : RecoveryCounters) : Nat :=
  match snapshot.activeWorkItemKind, snapshot.activeWorkItemId with
  | some kind, some id =>
    ((counters.filter fun entry => entry.failureClass == staleActiveFailureClass && entry.workItemKind == kind &&
      entry.workItemId == id).map (·.troubleshootAttemptCount)).max?.getD 0
  | _, _ => 0

def staleActiveRecoveryStage (plane : Plane) (snapshot : RuntimeSnapshot) (counters : RecoveryCounters) :
    Option StageName :=
  match plane with
  | .planning => some .mechanic
  | .execution =>
    if 2 ≤ staleActiveTroubleshootAttempts snapshot counters then some .consultant else some .troubleshooter
  | .learning => none

def reconciliationSignals (snapshot : StartupSnapshot) (counters : RecoveryCounters) :
    List RuntimeReconciliationSignal :=
  if snapshot.activeStage.isSome ∧ ¬snapshot.processRunning then
    [{ code := staleActiveFailureClass
       failureClass := staleActiveFailureClass
       plane := snapshot.activePlane
       recommendedStage := snapshot.activePlane.bind fun plane =>
         staleActiveRecoveryStage plane snapshot.toRuntimeSnapshot counters
       message := "runtime snapshot has active ownership while process is not running" }]
  else []

/-- The work item of the run that the snapshot has on a plane. -/
def snapshotActiveWorkItemForPlane (snapshot : RuntimeSnapshot) (plane : Plane) : Option (WorkItemKind × String) :=
  (snapshot.activeRunsByPlane plane).bind runWorkItem

def detectStartupReconciliation (env : Environment) (snapshot : StartupSnapshot) (plan : EntryPlan)
    (counters : RecoveryCounters) : StoreM RuntimeStartupReconciliation := do
  let owned := snapshotActiveWorkItemForPlane snapshot.toRuntimeSnapshot
  let executionSnapshot := ((owned .execution).filter fun item => item.1 == .task).map (·.2)
  let planningSnapshot := (owned .planning).filter fun item => item.1 == .spec || item.1 == .incident
  let learningSnapshot := ((owned .learning).filter fun item => item.1 == .learningRequest).map (·.2)
  let execution ← detectExecutionStaleState env executionSnapshot
  let planning ← detectPlanningStaleState env (planningSnapshot.map (·.1)) (planningSnapshot.map (·.2))
  let learning ← detectLearningStaleState env learningSnapshot
  let missing := (compiledEntryNodeForWorkItem plan .task).isNone
  return {
    execution :=
      if missing then { isStale := true, reasons := execution.reasons ++ ["compiled_entry_missing"] } else execution
    planning := planning
    learning := learning
    signals := reconciliationSignals snapshot counters }

/-! ## What a plane holds -/

/-- The document of an item in one of its family's directories. -/
def Lies (s : DraftWorld) (state : ItemState) (item : WorkItemKind × String) : Prop :=
  match item.1, state with
  | .blueprintDraft, .queue => (s.file ⟨.queue, item.2⟩).isSome
  | .blueprintDraft, .active => (s.file ⟨.active, item.2⟩).isSome
  | .blueprintDraft, .done => (s.file ⟨.approved, item.2⟩).isSome
  | .blueprintDraft, .blocked => (s.file ⟨.blocked, item.2⟩).isSome
  | kind, state => (s.world.workspace.file ⟨⟨kind, state, none⟩, item.2⟩).isSome

/-- The run of a plane owns the plane's only active document, and that document is not queued as well. -/
structure Agrees (s : DraftWorld) (plane : Plane) (run : Option (WorkItemKind × String)) : Prop where
  owned : ∀ item, planeForBuiltinKind item.1 = plane → Lies s .active item → run = some item
  present : ∀ item, run = some item → planeForBuiltinKind item.1 = plane ∧ Lies s .active item
  unqueued : ∀ item, run = some item → ¬Lies s .queue item

/-! ## What a detector compares -/

/-- The active documents that a detector lists; it never lists a draft. -/
def Listed (s : DraftWorld) (plane : Plane) (item : WorkItemKind × String) : Prop :=
  item.1 ≠ .blueprintDraft ∧ planeForBuiltinKind item.1 = plane ∧ Lies s .active item

/-- The kinds of a plane's run that are handed to its detector. -/
def comparedOn : Plane → WorkItemKind → Bool
  | .execution, kind => kind == .task
  | .planning, kind => kind == .spec || kind == .incident
  | .learning, kind => kind == .learningRequest

/-- The documents that a detector lists are those of the run that it is given. -/
structure Matches (s : DraftWorld) (plane : Plane) (run : Option (WorkItemKind × String)) : Prop where
  sole : ∀ item, Listed s plane item ↔ run = some item
  unqueued : ∀ item, run = some item → ¬Lies s .queue item

def EntryMissing (plan : EntryPlan) (plane : Plane) : Prop :=
  plane = .execution ∧ (compiledEntryNodeForWorkItem plan .task).isNone

def DraftActive (s : DraftWorld) (plane : Plane) (draftId : String) : Prop :=
  plane = .planning ∧ Lies s .active (.blueprintDraft, draftId)

section Detection
variable {env : Environment} {w : Workspace}

theorem idsInDirectory_yields (d : Directory) :
    Yields env w (idsInDirectory env d) ((w.markdownFiles d).map (·.stem)) := by
  unfold idsInDirectory
  apply (listMarkdownFiles_yields d).bind
  exact .pure _

theorem mem_ids (d : Directory) (id : String) :
    id ∈ (w.markdownFiles d).map (·.stem) ↔ (w.file ⟨d, id⟩).isSome := by
  simp only [List.mem_map, Workspace.mem_markdownFiles]
  constructor
  · rintro ⟨path, ⟨rfl, present⟩, rfl⟩
    exact present
  · intro present
    exact ⟨⟨d, id⟩, ⟨rfl, present⟩, rfl⟩

theorem nodup_ids (d : Directory) : ((w.markdownFiles d).map (·.stem)).Nodup := by
  apply (w.nodup_markdownFiles d).map_on
  intro a inA b inB same
  rw [Workspace.mem_markdownFiles] at inA inB
  obtain ⟨_, _⟩ := a
  obtain ⟨_, _⟩ := b
  simp_all

def familyItems (w : Workspace) (kind : WorkItemKind) (state : ItemState) : List (WorkItemKind × String) :=
  ((w.markdownFiles ⟨kind, state, none⟩).map (·.stem)).map (kind, ·)

theorem itemsInDirectory_yields (kind : WorkItemKind) (state : ItemState) :
    Yields env w (itemsInDirectory env kind state) (familyItems w kind state) := by
  unfold itemsInDirectory
  apply (idsInDirectory_yields _).bind
  exact .pure _

theorem mem_familyItems (kind : WorkItemKind) (state : ItemState) (item : WorkItemKind × String) :
    item ∈ familyItems w kind state ↔ item.1 = kind ∧ (w.file ⟨⟨kind, state, none⟩, item.2⟩).isSome := by
  obtain ⟨itemKind, id⟩ := item
  simp only [familyItems, List.mem_map (f := (kind, ·)), mem_ids]
  grind

theorem nodup_familyItems (kind : WorkItemKind) (state : ItemState) : (familyItems w kind state).Nodup :=
  (nodup_ids _).map fun _ _ same => (Prod.mk.injEq _ _ _ _ ▸ same).2

theorem detectFamilyStaleState_yields (kind : WorkItemKind) (snapshot : Option String) :
    Yields env w (detectFamilyStaleState env kind snapshot)
      (staleState (staleReasons ((w.markdownFiles ⟨kind, .active, none⟩).map (·.stem))
        ((w.markdownFiles ⟨kind, .queue, none⟩).map (·.stem)) snapshot)) := by
  unfold detectFamilyStaleState
  apply (idsInDirectory_yields _).bind
  apply (idsInDirectory_yields _).bind
  exact .pure _

theorem refuseIf_yields {condition : Prop} [Decidable condition] (error : QueueStoreError) (passes : ¬condition) :
    Yields env w (refuseIf condition error) () := by
  unfold refuseIf
  rw [if_neg passes]
  exact .pure _

def planningItems (w : Workspace) : List (WorkItemKind × String) :=
  familyItems w .probe .active ++ familyItems w .spec .active ++ familyItems w .incident .active

def queuedItems (w : Workspace) : Option (WorkItemKind × String) → List (WorkItemKind × String)
  | some item => familyItems w item.1 .queue
  | none => []

theorem detectPlanningStaleState_yields {snapshot : Option (WorkItemKind × String)}
    (compared : ∀ item, snapshot = some item → item.1 ∈ [WorkItemKind.probe, .spec, .incident]) :
    Yields env w (detectPlanningStaleState env (snapshot.map (·.1)) (snapshot.map (·.2)))
      (staleState (staleReasons (planningItems w) (queuedItems w snapshot) snapshot)) := by
  have together : (snapshot.map (·.1)).bind (fun kind => (snapshot.map (·.2)).map (kind, ·)) = snapshot := by
    cases snapshot <;> rfl
  unfold detectPlanningStaleState
  apply (refuseIf_yields _ (by simp)).bind
  apply (refuseIf_yields _ (by cases snapshot <;> grind)).bind
  apply (itemsInDirectory_yields _ _).bind
  apply (itemsInDirectory_yields _ _).bind
  apply (itemsInDirectory_yields _ _).bind
  simp only [together]
  have queued : Yields env w (queuedLikeSnapshot env snapshot) (queuedItems w snapshot) := by
    cases snapshot with
    | none => exact .pure _
    | some item =>
      obtain ⟨kind, id⟩ := item
      have kinds := compared _ rfl
      cases kind with
      | probe | spec | incident => exact itemsInDirectory_yields _ _
      | task | learningRequest | blueprintDraft => simp at kinds
  apply queued.bind
  exact .pure _

/-- What the detectors are given of a plane's run. -/
def comparedItem (plane : Plane) (run : Option (WorkItemKind × String)) : Option (WorkItemKind × String) :=
  run.filter fun item => comparedOn plane item.1

/-- The detector's findings on a plane. -/
def findings (w : Workspace) (plane : Plane) (run : Option (WorkItemKind × String)) : List String :=
  let ids := fun kind state => (w.markdownFiles ⟨kind, state, none⟩).map (·.stem)
  let given := comparedItem plane run
  match plane with
  | .execution => staleReasons (ids .task .active) (ids .task .queue) (given.map (·.2))
  | .planning => staleReasons (planningItems w) (queuedItems w given) given
  | .learning => staleReasons (ids .learningRequest .active) (ids .learningRequest .queue) (given.map (·.2))

theorem detectStartupReconciliation_yields (snapshot : StartupSnapshot) (plan : EntryPlan)
    (counters : RecoveryCounters) :
    let found := fun plane =>
      staleState (findings w plane (snapshotActiveWorkItemForPlane snapshot.toRuntimeSnapshot plane))
    Yields env w (detectStartupReconciliation env snapshot plan counters) {
      execution :=
        if (compiledEntryNodeForWorkItem plan .task).isNone then
          { isStale := true, reasons := (found .execution).reasons ++ ["compiled_entry_missing"] }
        else found .execution
      planning := found .planning
      learning := found .learning
      signals := reconciliationSignals snapshot counters } := by
  intro found
  unfold detectStartupReconciliation
  apply (detectFamilyStaleState_yields _ _).bind
  apply (detectPlanningStaleState_yields _).bind
  · apply (detectFamilyStaleState_yields _ _).bind
    exact .pure _
  · intro item given
    have spared := (Option.filter_eq_some_iff.mp given).2
    simpa using Or.inr spared

theorem lies_document {kind : WorkItemKind} (notDraft : kind ≠ .blueprintDraft) (s : DraftWorld) (state : ItemState)
    (id : String) : Lies s state (kind, id) ↔ (s.world.workspace.file ⟨⟨kind, state, none⟩, id⟩).isSome := by
  cases kind with
  | blueprintDraft => exact absurd rfl notDraft
  | task | probe | spec | incident | learningRequest => rfl

/-- On a plane with one family of documents, the ids of the family stand for its items. -/
theorem family_matches (s : DraftWorld) (plane : Plane) {kind : WorkItemKind} (notDraft : kind ≠ .blueprintDraft)
    (lone : ∀ other, other ≠ .blueprintDraft → (planeForBuiltinKind other = plane ↔ other = kind)) (id : Option String) :
    staleReasons ((s.world.workspace.markdownFiles ⟨kind, .active, none⟩).map (·.stem))
      ((s.world.workspace.markdownFiles ⟨kind, .queue, none⟩).map (·.stem)) id = [] ↔
      Matches s plane (id.map (kind, ·)) := by
  rw [staleReasons_eq_nil (nodup_ids _)]
  simp only [mem_ids]
  constructor
  · rintro ⟨sole, unqueued⟩
    refine ⟨fun item => ?_, fun item given => ?_⟩
    · obtain ⟨itemKind, itemId⟩ := item
      rw [Option.map_eq_some_iff]
      constructor
      · rintro ⟨document, onPlane, active⟩
        obtain rfl := (lone itemKind document).mp onPlane
        exact ⟨itemId, (sole itemId).mp ((lies_document notDraft ..).mp active), rfl⟩
      · rintro ⟨_, given, same⟩
        cases same
        exact ⟨notDraft, (lone _ notDraft).mpr rfl, (lies_document notDraft ..).mpr ((sole itemId).mpr given)⟩
    · obtain ⟨itemId, isId, rfl⟩ := Option.map_eq_some_iff.mp given
      exact fun queued => unqueued itemId isId ((lies_document notDraft ..).mp queued)
  · rintro ⟨sole, unqueued⟩
    refine ⟨fun itemId => ?_, fun itemId given => ?_⟩
    · rw [← lies_document notDraft]
      have listed := sole (kind, itemId)
      simpa [Listed, notDraft, (lone kind notDraft).mpr rfl] using listed
    · rw [← lies_document notDraft]
      exact unqueued (kind, itemId) (by simp [given])

theorem nodup_planningItems : (planningItems w).Nodup := by
  simp only [planningItems, List.nodup_append, List.mem_append, nodup_familyItems, mem_familyItems]
  grind

theorem mem_planningItems (s : DraftWorld) (item : WorkItemKind × String) :
    item ∈ planningItems s.world.workspace ↔ Listed s .planning item := by
  obtain ⟨kind, id⟩ := item
  simp only [planningItems, List.mem_append, mem_familyItems, Listed]
  cases kind <;> simp [planeForBuiltinKind, Lies]

theorem findings_eq_nil (s : DraftWorld) (plane : Plane) (run : Option (WorkItemKind × String)) :
    findings s.world.workspace plane run = [] ↔ Matches s plane (comparedItem plane run) := by
  have kinds : ∀ item, comparedItem plane run = some item → comparedOn plane item.1 = true :=
    fun item given => (Option.filter_eq_some_iff.mp given).2
  have named : ∀ kind, (∀ item, comparedItem plane run = some item → item.1 = kind) →
      ((comparedItem plane run).map (·.2)).map (kind, ·) = comparedItem plane run := by
    intro kind same
    cases given : comparedItem plane run with
    | none => rfl
    | some item => simp [← same item given]
  cases plane with
  | execution =>
    have task := named .task fun item given => by simpa [comparedOn] using kinds item given
    have same := family_matches s .execution (show WorkItemKind.task ≠ .blueprintDraft by decide)
      (by intro other; cases other <;> simp [planeForBuiltinKind]) ((comparedItem .execution run).map (·.2))
    rwa [task] at same
  | learning =>
    have request := named .learningRequest fun item given => by simpa [comparedOn] using kinds item given
    have same := family_matches s .learning (show WorkItemKind.learningRequest ≠ .blueprintDraft by decide)
      (by intro other; cases other <;> simp [planeForBuiltinKind]) ((comparedItem .learning run).map (·.2))
    rwa [request] at same
  | planning =>
    simp only [findings]
    rw [staleReasons_eq_nil nodup_planningItems]
    simp only [mem_planningItems]
    have queued : ∀ item, comparedItem .planning run = some item →
        (item ∈ queuedItems s.world.workspace (comparedItem .planning run) ↔ Lies s .queue item) := by
      intro item given
      obtain ⟨kind, id⟩ := item
      have notDraft : kind ≠ .blueprintDraft := by
        rintro rfl
        simpa [comparedOn] using kinds _ given
      simp only [given, queuedItems, mem_familyItems, lies_document notDraft, true_and]
    constructor
    · rintro ⟨sole, unqueued⟩
      exact ⟨sole, fun item given => (queued item given).not.mp (unqueued item given)⟩
    · rintro ⟨sole, unqueued⟩
      exact ⟨sole, fun item given => (queued item given).not.mpr (unqueued item given)⟩

end Detection

/-! ## Exactness -/

/-- When a report is right: for a run that the detector is given, for one of another plane, for a draft's and for a
probe's. -/
def Exact (plan : EntryPlan) (s : DraftWorld) (plane : Plane) (run : Option (WorkItemKind × String)) : Prop :=
  match run with
  | none => (∃ item, Listed s plane item) ∨ ¬EntryMissing plan plane ∧ ∀ id, ¬DraftActive s plane id
  | some item =>
    if comparedOn plane item.1 then Matches s plane run → ¬EntryMissing plan plane ∧ ∀ id, ¬DraftActive s plane id
    else if planeForBuiltinKind item.1 ≠ plane then (∃ other, Listed s plane other) ∨ EntryMissing plan plane
    else if item.1 = .blueprintDraft then
      (∃ other, Listed s plane other) ∨ (∀ id, DraftActive s plane id ↔ id = item.2) ∧ ¬Lies s .queue item
    else (∃ other, Listed s plane other) ∧ (Matches s plane run → ∃ id, DraftActive s plane id)

section Exactness
variable {plan : EntryPlan} {s : DraftWorld} {plane : Plane} {run : Option (WorkItemKind × String)}

theorem matches_none : Matches s plane none ↔ ∀ item, ¬Listed s plane item := by
  constructor
  · intro same item listed
    cases (same.sole item).mp listed
  · intro empty
    exact ⟨fun item => ⟨fun listed => absurd listed (empty item), nofun⟩, nofun⟩

/-- Drafts aside, the documents that a detector lists are those of the plane. -/
theorem agrees_iff_matches (own : ∀ item, run = some item → planeForBuiltinKind item.1 = plane ∧
    item.1 ≠ .blueprintDraft) : Agrees s plane run ↔ Matches s plane run ∧ ∀ id, ¬DraftActive s plane id := by
  constructor
  · intro agrees
    refine ⟨⟨fun item => ⟨fun listed => agrees.owned item listed.2.1 listed.2.2, fun given => ?_⟩, agrees.unqueued⟩, ?_⟩
    · exact ⟨(own item given).2, agrees.present item given⟩
    · rintro id ⟨rfl, active⟩
      exact (own _ (agrees.owned (.blueprintDraft, id) rfl active)).2 rfl
  · rintro ⟨same, noDraft⟩
    refine ⟨fun item onPlane active => ?_, fun item given => ((same.sole item).mpr given).2, same.unqueued⟩
    obtain ⟨kind, id⟩ := item
    by_cases draft : kind = .blueprintDraft
    · subst draft
      exact absurd ⟨onPlane.symm, active⟩ (noDraft id)
    · exact (same.sole _).mp ⟨draft, onPlane, active⟩

theorem agrees_draft (draftId : String) : Agrees s .planning (some (.blueprintDraft, draftId)) ↔
    (∀ item, ¬Listed s .planning item) ∧ (∀ id, DraftActive s .planning id ↔ id = draftId) ∧
      ¬Lies s .queue (.blueprintDraft, draftId) := by
  constructor
  · intro agrees
    refine ⟨fun item listed => ?_, fun id => ⟨fun active => ?_, ?_⟩, agrees.unqueued _ rfl⟩
    · cases agrees.owned item listed.2.1 listed.2.2
      exact listed.1 rfl
    · cases agrees.owned (.blueprintDraft, id) rfl active.2
      rfl
    · rintro rfl
      exact ⟨rfl, (agrees.present _ rfl).2⟩
  · rintro ⟨unlisted, drafts, unqueued⟩
    refine ⟨fun item onPlane active => ?_, ?_, ?_⟩
    · obtain ⟨kind, id⟩ := item
      by_cases draft : kind = .blueprintDraft
      · subst draft
        rw [(drafts id).mp ⟨rfl, active⟩]
      · exact absurd ⟨draft, onPlane, active⟩ (unlisted (kind, id))
    · rintro _ ⟨⟩
      exact ⟨rfl, ((drafts draftId).mpr rfl).2⟩
    · rintro _ ⟨⟩
      exact unqueued

/-- The entry is looked up for the execution plane, and drafts lie on the planning plane. -/
theorem not_missing_and_draft {id : String} (missing : EntryMissing plan plane) : ¬DraftActive s plane id := by
  rintro ⟨planning, -⟩
  exact absurd (missing.1.symm.trans planning) (by decide)

theorem reports_exactly_iff : ((¬Matches s plane (comparedItem plane run) ∨ EntryMissing plan plane) ↔
    ¬Agrees s plane run) ↔ Exact plan s plane run := by
  have apart : EntryMissing plan plane → ∀ id, ¬DraftActive s plane id := fun missing _ => not_missing_and_draft missing
  cases run with
  | none =>
    have agrees : Agrees s plane none ↔ _ := agrees_iff_matches nofun
    have listed : Matches s plane none ↔ ¬∃ item, Listed s plane item := matches_none.trans not_exists.symm
    have given : comparedItem plane none = none := rfl
    simp only [Exact, given]
    grind
  | some item =>
    by_cases compared : comparedOn plane item.1 = true
    · have given : comparedItem plane (some item) = some item := Option.filter_some_pos compared
      have agrees : Agrees s plane (some item) ↔ _ := agrees_iff_matches (by
        rintro _ ⟨⟩
        obtain ⟨kind, id⟩ := item
        cases plane <;> cases kind <;> simp_all [comparedOn, planeForBuiltinKind])
      simp only [Exact, given, compared, if_true]
      grind
    · have given : comparedItem plane (some item) = none := Option.filter_some_neg (by simpa using compared)
      have listed : Matches s plane none ↔ ¬∃ item, Listed s plane item := matches_none.trans not_exists.symm
      simp only [Exact, given, compared]
      by_cases own : planeForBuiltinKind item.1 = plane
      · have planning : plane = .planning := by
          obtain ⟨kind, id⟩ := item
          cases plane <;> cases kind <;> simp_all [comparedOn, planeForBuiltinKind]
        subst planning
        have entry : ¬EntryMissing plan .planning := fun missing => absurd missing.1 (by decide)
        by_cases draft : item.1 = .blueprintDraft
        · obtain ⟨kind, id⟩ := item
          obtain rfl : kind = .blueprintDraft := draft
          have agrees := agrees_draft (s := s) id
          have unlisted : (∀ item, ¬Listed s .planning item) ↔ ¬∃ item, Listed s .planning item := not_exists.symm
          grind
        · have agrees : Agrees s .planning (some item) ↔ _ := agrees_iff_matches (by
            rintro _ ⟨⟩
            exact ⟨own, draft⟩)
          have found : Matches s .planning (some item) → ∃ other, Listed s .planning other :=
            fun same => ⟨item, (same.sole item).mpr rfl⟩
          grind
      · have disagrees : ¬Agrees s plane (some item) := fun agrees => own (agrees.present item rfl).1
        grind

/-- What reconciliation reports of a plane: a mismatch with the run that the detector is given, or a missing entry. -/
theorem reported_iff (env : Environment) (snapshot : StartupSnapshot) (plan : EntryPlan) (counters : RecoveryCounters)
    (s : DraftWorld) : Queue.Ends env ((detectStartupReconciliation env snapshot plan counters).run s.world)
      fun reconciliation _ => ∀ plane, (reconciliation.onPlane plane).isStale = true ↔
        ¬Matches s plane (comparedItem plane (snapshotActiveWorkItemForPlane snapshot.toRuntimeSnapshot plane)) ∨
          EntryMissing plan plane := by
  have stale : ∀ plane run, (staleState (findings s.world.workspace plane run)).isStale = true ↔
      ¬Matches s plane (comparedItem plane run) := by
    intro plane run
    rw [staleState_iff, Ne, findings_eq_nil]
  have yields := (detectStartupReconciliation_yields snapshot plan counters :
    Yields env s.world.workspace (detectStartupReconciliation env snapshot plan counters) _) s.world rfl
  simp only [Queue.Ends, EStateM.run]
  cases ran : detectStartupReconciliation env snapshot plan counters s.world with
  | error e t => simpa [ran] using yields
  | ok reconciliation t =>
    rw [ran] at yields
    obtain ⟨rfl, -⟩ := yields
    intro plane
    cases plane with
    | execution =>
      by_cases missing : (compiledEntryNodeForWorkItem plan .task).isNone
      · simp [RuntimeStartupReconciliation.onPlane, EntryMissing, missing]
      · simp [RuntimeStartupReconciliation.onPlane, EntryMissing, missing, stale]
    | planning => simp [RuntimeStartupReconciliation.onPlane, EntryMissing, stale]
    | learning => simp [RuntimeStartupReconciliation.onPlane, EntryMissing, stale]

/-- A plane is reported stale exactly when its run and its documents disagree, under the condition on each plane. -/
theorem detection_exact_iff (env : Environment) (snapshot : StartupSnapshot) (plan : EntryPlan)
    (counters : RecoveryCounters) (s : DraftWorld) :
    Queue.Ends env ((detectStartupReconciliation env snapshot plan counters).run s.world) fun reconciliation _ => ∀ plane,
      let run := snapshotActiveWorkItemForPlane snapshot.toRuntimeSnapshot plane
      ((reconciliation.onPlane plane).isStale = true ↔ ¬Agrees s plane run) ↔ Exact plan s plane run := by
  have reported := reported_iff env snapshot plan counters s
  unfold Queue.Ends at reported ⊢
  split at reported
  · intro plane
    rw [reported plane]
    exact reports_exactly_iff
  · exact reported

end Exactness
end

section Concrete
local instance zonesOfStartup : Rfc3339 := twoZones

def reconRun : ActiveRunState where
  plane := .planning
  stage := .recon
  nodeId := "recon"
  stageKindId := "recon"
  runId := "run-1"
  requestKind := .activeWorkItem
  workItemKind := some .probe
  workItemId := some "probe-1"
  closureTargetRootSpecId := none
  activeSince := "2026-01-01T09:00:00Z"

/-- A probe under way. -/
def probing : StartupSnapshot where
  toRuntimeSnapshot := projectForegroundActiveRun { Control.idleSnapshot with
    activeRunsByPlane := Function.update (fun _ => none) .planning (some reconRun) }
  processRunning := false

def probeActive : DraftWorld :=
  { DraftWorld.empty with world := ⟨Workspace.empty.insert ⟨⟨.probe, .active, none⟩, "probe-1"⟩ "", 0⟩ }

def standardEntries : EntryPlan where
  toCompiledRunPlan := standardPlan
  compiledEntries
    | .execution => [⟨.task, "builder", "builder"⟩]
    | .planning => [⟨.probe, "recon", "recon"⟩, ⟨.spec, "planner", "planner"⟩, ⟨.incident, "auditor", "auditor"⟩]
    | .learning => []

/-- The run of a probe owns the only active document, and its plane is reported stale. -/
theorem active_probe_reported_stale : ¬∀ (env : Environment) (snapshot : StartupSnapshot) (plan : EntryPlan)
    (counters : RecoveryCounters) (s : DraftWorld),
    Queue.Ends env ((detectStartupReconciliation env snapshot plan counters).run s.world) fun reconciliation _ => ∀ plane,
      (reconciliation.onPlane plane).isStale = true ↔
        ¬Agrees s plane (snapshotActiveWorkItemForPlane snapshot.toRuntimeSnapshot plane) := by
  intro exact
  have claimed := exact calmEnvironment probing standardEntries [] probeActive
  have reported := reported_iff calmEnvironment probing standardEntries [] probeActive
  have running : snapshotActiveWorkItemForPlane probing.toRuntimeSnapshot .planning = some (.probe, "probe-1") := by
    decide
  have files : ∀ path, probeActive.world.workspace.file path =
      if path = ⟨⟨.probe, .active, none⟩, "probe-1"⟩ then some "" else none := by
    intro path
    simp [probeActive, Workspace.file_insert]
  have listed : Listed probeActive .planning (.probe, "probe-1") := by
    refine ⟨by decide, rfl, ?_⟩
    simp [Lies, files]
  have stale : ¬Matches probeActive .planning (comparedItem .planning (some (.probe, "probe-1"))) :=
    fun same => by cases (same.sole _).mp listed
  have agrees : Agrees probeActive .planning (some (.probe, "probe-1")) := by
    have noDraft : ∀ state id, probeActive.file ⟨state, id⟩ = none := fun state id => by
      simp [probeActive, DraftWorld.file, DraftWorld.empty]
    apply (agrees_iff_matches (by rintro _ ⟨⟩; decide)).mpr
    refine ⟨⟨fun item => ⟨?_, ?_⟩, ?_⟩, fun id active => ?_⟩
    · obtain ⟨kind, id⟩ := item
      rintro ⟨document, -, active⟩
      rw [lies_document document, files] at active
      simp_all
    · rintro ⟨⟩
      exact listed
    · rintro _ ⟨⟩
      simp [Lies, files]
    · simpa [Lies, noDraft] using active.2
  cases ran : (detectStartupReconciliation calmEnvironment probing standardEntries []).run probeActive.world with
  | ok reconciliation t =>
    rw [ran] at claimed reported
    have wrongly := (reported .planning).symm.trans (claimed .planning)
    rw [running] at wrongly
    exact wrongly.mp (.inl stale) agrees
  | error e t =>
    rw [ran] at claimed
    exact calm_not_faulty claimed

end Concrete

end Millrace.Startup
