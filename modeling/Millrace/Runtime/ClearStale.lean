import Millrace.Runtime.StaleDetection
import Millrace.Workspace.Requeue

/-! The command that clears stale state, and what the ticks after it find. -/

set_option autoImplicit false

namespace Millrace.Startup
open Millrace.Text Millrace.Contracts Millrace.WorkDocuments Millrace.Action Millrace.Queue Millrace.Runtime
open Millrace.Control (ControlState resetRuntimeToIdle mailboxReason defaultClearStaleReason)
open Millrace.Blueprints (DraftWorld DraftPath DraftState DraftFiles)

section
variable [Rfc3339]

/-! ## Sessions -/

/-- What the ticks of a session change. -/
structure LiveState where
  control : ControlState
  drafts : DraftState → DraftFiles
  removals : Nat
  counters : RecoveryCounters

/-- The reconciliation is the one that was made at startup: no tick makes it again. -/
structure RuntimeSession where
  live : LiveState
  reconciliation : RuntimeStartupReconciliation

namespace RuntimeSession

def world (s : RuntimeSession) : World := s.live.control.world

def setWorld (s : RuntimeSession) (world : World) : RuntimeSession :=
  { s with live := { s.live with control := { s.live.control with world := world } } }

def files (s : RuntimeSession) : DraftWorld := ⟨s.world, s.live.drafts, s.live.removals⟩

end RuntimeSession

abbrev SessionM (α : Type) := EStateM QueueStoreError RuntimeSession α

def onWorld {α : Type} : StoreM α → SessionM α := onPart RuntimeSession.world RuntimeSession.setWorld

/-! ## The command -/

section Command
variable (env : Environment)

def stateFile (name : String) : String := "millrace-agents/state/" ++ name

/-- The files of the queues are counted for the snapshot. -/
def refreshQueueDepths : SessionM Unit :=
  [WorkItemKind.task, .probe, .spec, .incident, .learningRequest].forM fun kind => do
    let _ ← onWorld (listMarkdownFiles env ⟨kind, .queue, none⟩)

def resetToIdle (clearStopRequested clearPaused : Bool) : SessionM Unit := do
  modify fun s => { s with live :=
    { s.live with control := resetRuntimeToIdle clearStopRequested clearPaused s.live.control } }
  refreshQueueDepths env
  ["execution_status.md", "planning_status.md", "learning_status.md", "runtime_snapshot.json"].forM fun name =>
    onWorld (fileOperation env (stateFile name))

def writeRuntimeEvent : SessionM Unit := do
  onWorld (fileOperation env logsDir)
  onWorld (fileOperation env (logsDir ++ "/runtime_events.jsonl"))

/-- How many items were requeued; `payload` is the reason in the command. -/
def clearStaleFromMailbox (payload : String) : SessionM Nat := do
  let reason := mailboxReason payload defaultClearStaleReason
  onWorld (fileOperation env (stateFile "recovery_counters.json"))
  let requeuedCount ← onWorld (requeueAllActiveItems env reason)
  resetToIdle env true true
  onWorld (fileOperation env (stateFile "recovery_counters.json"))
  modify fun s => { s with live := { s.live with counters := [] } }
  writeRuntimeEvent env
  return requeuedCount

end Command

/-! ## Ticks -/

def staleReconciliationBlocksTick (s : RuntimeSession) : Bool :=
  if s.live.control.snapshot.activeStage.isSome then false
  else s.reconciliation.execution.isStale || s.reconciliation.planning.isStale || s.reconciliation.learning.isStale

inductive TickOutcome where
  | stopped | paused
  | blocked (reason : String)
  | prepared
  deriving DecidableEq, Repr

/-- What a tick takes in, and what it does once nothing holds it back. -/
structure TickInputs where
  intake : LiveState → LiveState
  config : UsageGovernanceConfig
  blockers : List UsageGovernanceBlocker
  work : LiveState → LiveState

def LiveState.setControl (l : LiveState) (control : ControlState) : LiveState := { l with control := control }

def runTick (inputs : TickInputs) (s : RuntimeSession) : TickOutcome × RuntimeSession :=
  let taken := inputs.intake s.live
  if taken.control.stopRequested then
    (.stopped, ⟨taken.setControl (resetRuntimeToIdle true true taken.control), s.reconciliation⟩)
  else
    let governed := taken.setControl
      { taken.control with pause := evaluateAndApplyUsageGovernance inputs.config inputs.blockers taken.control.pause }
    if governed.control.pause.paused then (.paused, ⟨governed, s.reconciliation⟩)
    else if staleReconciliationBlocksTick ⟨governed, s.reconciliation⟩ then
      (.blocked "stale_active_state", ⟨governed, s.reconciliation⟩)
    else (.prepared, ⟨inputs.work governed, s.reconciliation⟩)

def outcomes : List TickInputs → RuntimeSession → List TickOutcome
  | [], _ => []
  | inputs :: rest, s => (runTick inputs s).1 :: outcomes rest (runTick inputs s).2

/-! ## What the command promises -/

/-- The item lies in its queue, and a document of the queue store lies there as it was. -/
def QueuedAs (before after : DraftWorld) (item : WorkItemKind × String) : Prop :=
  Lies after .queue item ∧ (item.1 ≠ .blueprintDraft →
    after.world.workspace.file (itemPath item.1 .queue item.2) =
      before.world.workspace.file (itemPath item.1 .active item.2))

structure Repaired (before after : RuntimeSession) : Prop where
  emptied : ∀ item, ¬Lies after.files .active item
  queued : ∀ item, Lies before.files .active item → QueuedAs before.files after.files item
  idle : ∀ plane, after.live.control.snapshot.activeRunsByPlane plane = none
  unblocked : ∀ ticks, ∀ outcome ∈ outcomes ticks after, outcome ≠ .blocked "stale_active_state"

/-- No draft is active, no active item is queued as well, and startup found no plane stale. -/
structure Repairable (s : RuntimeSession) : Prop where
  noDraft : ∀ draftId, ¬Lies s.files .active (.blueprintDraft, draftId)
  unqueued : ∀ item, Lies s.files .active item → ¬Lies s.files .queue item
  reconciled : ∀ plane, (s.reconciliation.onPlane plane).isStale = false

/-! ## The requeues -/

section Requeues
variable {env : Environment} {w₀ : Workspace} {done : WorkItemKind × String → Prop}

/-- The items of `done` are requeued where their place is free, and all others lie where they lay. -/
structure Requeued (w₀ : Workspace) (done : WorkItemKind × String → Prop) (w : Workspace) : Prop where
  moved : ∀ kind id, done (kind, id) → w₀.file (itemPath kind .queue id) = none →
    w.file (itemPath kind .active id) = none ∧ w.file (itemPath kind .queue id) = w₀.file (itemPath kind .active id)
  kept : ∀ kind id, ¬(done (kind, id) ∧ w₀.file (itemPath kind .queue id) = none) →
    w.file (itemPath kind .active id) = w₀.file (itemPath kind .active id) ∧
      w.file (itemPath kind .queue id) = w₀.file (itemPath kind .queue id)

omit [Rfc3339] in
theorem mailboxReason_given (payload : String) :
    Queue.isBlank (mailboxReason payload defaultClearStaleReason) = false := by
  unfold mailboxReason
  cases blank : Runtime.isBlank payload with
  | true =>
    rw [if_pos rfl]
    decide
  | false => simpa [Queue.isBlank, Runtime.isBlank] using blank

theorem requeueItem_moves {reason : String} (given : Queue.isBlank reason = false) (kind : WorkItemKind) (id : String)
    (s : World) : Ensues s (requeueItem env kind id reason)
      (fun _ t => ∃ raw, s.workspace.file (itemPath kind .active id) = some raw ∧
        s.workspace.file (itemPath kind .queue id) = none ∧ ∀ path, t.workspace.file path =
          ((s.workspace.erase (itemPath kind .active id)).insert (itemPath kind .queue id) raw).file path)
      (fun e t => (∃ message, e = .invalidState message) → t.workspace = s.workspace ∧
        (s.workspace.file (itemPath kind .active id) = none ∨
          (s.workspace.file (itemPath kind .queue id)).isSome)) := by
  rintro t rfl
  unfold requeueItem moveItem
  simp only [bind_run, moveItemFromState_run]
  cases file : t.workspace.file (itemPath kind .active id) with
  | none => simp
  | some raw =>
    dsimp only
    cases (env.reading t.step).fault with
    | some message => simp
    | none =>
      cases queued : t.workspace.file (itemPath kind .queue id) with
      | some other => simp
      | none =>
        simp only [Option.isSome_none, Bool.false_eq_true, if_false]
        cases (env.reading (t.step + 1)).fault with
        | some message => simp
        | none =>
          simp only [appendRequeueReason_run, given, Bool.false_eq_true, if_false]
          cases (env.reading (t.step + 2)).fault with
          | some message => simp
          | none =>
            simp only [appendLine_run, World.tick_step]
            cases (env.reading (t.step + 2 + 1 + 1)).fault with
            | some message => simp
            | none => exact ⟨raw, rfl, trivial, fun path => rfl⟩

theorem requeued_start (w : Workspace) : Requeued w (fun _ => False) w :=
  ⟨fun _ _ impossible => impossible.elim, fun _ _ _ => ⟨rfl, rfl⟩⟩

theorem Requeued.congr {done' : WorkItemKind × String → Prop} {w : Workspace} (requeued : Requeued w₀ done w)
    (same : ∀ item, done item ↔ done' item) : Requeued w₀ done' w :=
  (funext fun item => propext (same item) : done = done') ▸ requeued

omit [Rfc3339] in
theorem itemPath_inj {kind kind' : WorkItemKind} {state state' : ItemState} {id id' : String} :
    itemPath kind state id = itemPath kind' state' id' ↔ kind = kind' ∧ state = state' ∧ id = id' := by
  simp [itemPath, and_assoc]

/-- An item that is not yet requeued lies where it lay. -/
theorem Requeued.untouched {w : Workspace} {kind : WorkItemKind} {id raw : String} (requeued : Requeued w₀ done w)
    (active : w.file (itemPath kind .active id) = some raw) :
    w.file (itemPath kind .active id) = w₀.file (itemPath kind .active id) ∧
      w.file (itemPath kind .queue id) = w₀.file (itemPath kind .queue id) := by
  apply requeued.kept
  rintro ⟨isDone, free⟩
  rw [(requeued.moved kind id isDone free).1] at active
  cases active

/-- One item more: it is moved where it lies active and its place is free. -/
theorem Requeued.move {w w' : Workspace} {kind : WorkItemKind} {id raw : String} (requeued : Requeued w₀ done w)
    (active : w.file (itemPath kind .active id) = some raw) (free : w.file (itemPath kind .queue id) = none)
    (files : ∀ path, w'.file path =
      ((w.erase (itemPath kind .active id)).insert (itemPath kind .queue id) raw).file path) :
    Requeued w₀ (fun item => done item ∨ item = (kind, id)) w' := by
  have before := requeued.untouched active
  have others : ∀ kind' id' state, (kind', id') ≠ (kind, id) →
      w'.file (itemPath kind' state id') = w.file (itemPath kind' state id') := by
    intro kind' id' state different
    rw [files, Workspace.file_insert, Workspace.file_erase]
    simp only [itemPath_inj]
    grind
  have own : w'.file (itemPath kind .active id) = none ∧ w'.file (itemPath kind .queue id) = some raw := by
    rw [files, files, Workspace.file_insert, Workspace.file_insert, Workspace.file_erase]
    simp [itemPath_inj]
  constructor
  · intro kind' id' isDone place
    by_cases same : (kind', id') = (kind, id)
    · cases same
      rw [own.1, own.2, ← before.1, active]
      exact ⟨rfl, rfl⟩
    · rw [others kind' id' _ same, others kind' id' _ same]
      exact requeued.moved kind' id' (isDone.resolve_right same) place
  · intro kind' id' spared
    by_cases same : (kind', id') = (kind, id)
    · cases same
      exact absurd ⟨.inr rfl, before.2.symm.trans free⟩ spared
    · rw [others kind' id' _ same, others kind' id' _ same]
      exact requeued.kept kind' id' fun both => spared ⟨.inl both.1, both.2⟩

/-- More items: they stay where there is nothing to move or their place is taken. -/
theorem Requeued.refuse {w : Workspace} {more : WorkItemKind × String → Prop} (requeued : Requeued w₀ done w)
    (refused : ∀ kind id, more (kind, id) →
      w.file (itemPath kind .active id) = none ∨ (w.file (itemPath kind .queue id)).isSome) :
    Requeued w₀ (fun item => done item ∨ more item) w := by
  constructor
  · intro kind id isDone place
    by_cases before : done (kind, id)
    · exact requeued.moved kind id before place
    · have stays := requeued.kept kind id fun both => before both.1
      have why := refused kind id (isDone.resolve_left before)
      rw [stays.2, place] at why
      have absent : w₀.file (itemPath kind .active id) = none := by
        rw [← stays.1]
        simpa using why
      rw [stays.1, stays.2, absent, place]
      exact ⟨rfl, rfl⟩
  · intro kind id spared
    exact requeued.kept kind id fun both => spared ⟨.inl both.1, both.2⟩

/-- A refused requeue is passed over. -/
theorem ignoreInvalidState_requeued {reason : String} (given : Queue.isBlank reason = false) (kind : WorkItemKind)
    (id : String) : Holds (fun s => Requeued w₀ done s.workspace) (ignoreInvalidState (requeueItem env kind id reason))
      (fun _ t => Requeued w₀ (fun item => done item ∨ item = (kind, id)) t.workspace) (fun _ _ => True) := by
  intro s requeued
  have moves : Ensues s (requeueItem env kind id reason) _ _ := requeueItem_moves given kind id s
  unfold ignoreInvalidState
  apply Holds.tryCatch (P := fun t => t = s) (F := fun e t => (∃ message, e = .invalidState message) →
    Requeued w₀ (fun item => done item ∨ item = (kind, id)) t.workspace) ?_ ?_ s rfl
  · apply Holds.bind (Q := fun _ t => Requeued w₀ (fun item => done item ∨ item = (kind, id)) t.workspace)
    · refine moves.weaken ?_ ?_
      · rintro path t ⟨raw, active, free, files⟩
        exact requeued.move active free files
      · intro e t refused isInvalid
        obtain ⟨same, why⟩ := refused isInvalid
        rw [same]
        apply requeued.refuse
        rintro _ _ ⟨⟩
        exact why
    · exact fun _ => Holds.pure fun _ done => done
  · intro e
    cases e with
    | invalidState message => exact Holds.pure fun t refused => refused ⟨message, rfl⟩
    | io path message => exact Holds.throw fun _ _ => trivial
    | workDocument path source => exact Holds.throw fun _ _ => trivial

theorem requeueEach {reason : String} (given : Queue.isBlank reason = false) (kind : WorkItemKind)
    (paths : List DocumentPath) (done : WorkItemKind × String → Prop) (count : Nat) :
    Holds (fun s => Requeued w₀ done s.workspace)
      (paths.foldlM (fun count path => do
        let requeued ← ignoreInvalidState (requeueItem env kind path.stem reason)
        return if requeued then count + 1 else count) count)
      (fun _ t => Requeued w₀ (fun item => done item ∨ ∃ path ∈ paths, item = (kind, path.stem)) t.workspace)
      (fun _ _ => True) := by
  induction paths generalizing done count with
  | nil => exact Holds.pure fun s requeued => requeued.congr (by simp)
  | cons path rest ih =>
    rw [List.foldlM_cons]
    apply Holds.bind (Q := fun _ t => Requeued w₀ (fun item => done item ∨ item = (kind, path.stem)) t.workspace)
    · apply Holds.bind (ignoreInvalidState_requeued given kind path.stem)
      exact fun _ => Holds.pure fun _ requeued => requeued
    · intro count
      refine (ih _ count).weaken (fun _ requeued => requeued) (fun _ _ requeued => requeued.congr fun item => ?_)
        fun _ _ => id
      simp [or_assoc]

/-- The directory lists all active items of its family. -/
theorem requeueActiveDirectory_requeued {reason : String} (given : Queue.isBlank reason = false) (kind : WorkItemKind)
    (done : WorkItemKind × String → Prop) :
    Holds (fun s => Requeued w₀ done s.workspace) (requeueActiveDirectory env reason kind)
      (fun _ t => Requeued w₀ (fun item => done item ∨ item.1 = kind) t.workspace) (fun _ _ => True) := by
  intro s requeued
  have listed : Ensues s (listMarkdownFiles env ⟨kind, .active, none⟩)
      (fun paths t => paths = s.workspace.markdownFiles ⟨kind, .active, none⟩ ∧ t.workspace = s.workspace)
      (fun _ _ => True) := by
    intro t start
    have lists : Yields env s.workspace _ _ := listMarkdownFiles_yields ⟨kind, .active, none⟩
    exact lists.weaken (fun _ same => congrArg World.workspace same) (fun _ _ read => read) (fun _ _ _ => trivial) t start
  unfold requeueActiveDirectory
  apply Ensues.bind listed ?_ s rfl
  rintro paths t ⟨rfl, same⟩
  have unlisted : Requeued w₀ (fun item => done item ∨
      (item.1 = kind ∧ ∀ path ∈ s.workspace.markdownFiles ⟨kind, .active, none⟩, item ≠ (kind, path.stem)))
      s.workspace := by
    apply requeued.refuse
    rintro _ id ⟨rfl, missing⟩
    refine .inl (Option.not_isSome_iff_eq_none.mp fun active => ?_)
    exact missing _ ((Workspace.mem_markdownFiles _ _ (itemPath _ .active id)).mpr ⟨rfl, active⟩) rfl
  refine (requeueEach given kind (s.workspace.markdownFiles ⟨kind, .active, none⟩) (fun item => done item ∨
    (item.1 = kind ∧ ∀ path ∈ s.workspace.markdownFiles ⟨kind, .active, none⟩, item ≠ (kind, path.stem))) 0).weaken (fun u start => ?_) (fun _ u after => after.congr fun item => ?_) fun _ _ => id
  · rw [start, same]
    exact unlisted
  · grind

theorem requeueAllActiveItems_requeued {reason : String} (given : Queue.isBlank reason = false) :
    Holds (fun s => s.workspace = w₀) (requeueAllActiveItems env reason)
      (fun _ t => Requeued w₀ (fun item => item.1 ≠ .blueprintDraft) t.workspace) (fun _ _ => True) := by
  have families : ∀ (kinds : List WorkItemKind) (done : WorkItemKind × String → Prop),
      Holds (fun s => Requeued w₀ done s.workspace) (kinds.mapM (requeueActiveDirectory env reason))
        (fun _ t => Requeued w₀ (fun item => done item ∨ item.1 ∈ kinds) t.workspace) (fun _ _ => True) := by
    intro kinds
    induction kinds with
    | nil => exact fun done => Holds.pure fun s requeued => requeued.congr (by simp)
    | cons kind rest ih =>
      intro done
      rw [List.mapM_cons]
      apply Holds.bind (requeueActiveDirectory_requeued given kind done)
      intro _
      apply Holds.bind (ih _)
      exact fun _ => Holds.pure fun s requeued => requeued.congr (by simp [or_assoc])
  unfold requeueAllActiveItems
  have start : ∀ s : World, s.workspace = w₀ → Requeued w₀ (fun _ => False) s.workspace := by
    rintro s rfl
    exact requeued_start _
  apply Holds.bind (Holds.given start (families _ _))
  refine fun _ => Holds.pure fun s requeued => requeued.congr fun item => ?_
  cases item.1 <;> simp

end Requeues

/-! ## The rest of the command -/

section Rest
variable {env : Environment}

/-- File operations were counted, and nothing else has changed. -/
structure Counted (s t : RuntimeSession) : Prop where
  workspace : t.world.workspace = s.world.workspace
  rest : t = s.setWorld t.world

instance countedRefl : Std.Refl Counted where
  refl _ := ⟨rfl, rfl⟩

instance countedTrans : IsTrans RuntimeSession Counted where
  trans _ _ _ first second :=
    ⟨second.workspace.trans first.workspace, second.rest.trans (by rw [first.rest]; rfl)⟩

theorem fileOperation_counted (relative : String) : Advances Counted (onWorld (fileOperation env relative)) := by
  apply Advances.onPart (T := fun w v => v.workspace = w.workspace)
  · intro s
    rintro t rfl
    rw [fileOperation_run]
    cases (env.reading t.step).fault <;> rfl
  · exact fun s w same => ⟨same, rfl⟩

theorem listMarkdownFiles_counted (d : Directory) : Advances Counted (onWorld (listMarkdownFiles env d)) := by
  apply Advances.onPart (T := fun w v => v.workspace = w.workspace)
  · intro s
    rintro t rfl
    unfold listMarkdownFiles
    rw [bind_run, fileOperation_run]
    cases (env.reading t.step).fault <;> rfl
  · exact fun s w same => ⟨same, rfl⟩

theorem refreshQueueDepths_counted : Advances Counted (refreshQueueDepths env) := by
  apply Advances.forM
  intro kind _
  apply Advances.bind (listMarkdownFiles_counted _)
  exact fun _ => .pure _

theorem writeRuntimeEvent_counted : Advances Counted (writeRuntimeEvent env) :=
  (fileOperation_counted _).bind fun _ => fileOperation_counted _

/-- What the command leaves of a session. -/
structure Cleared (s t : RuntimeSession) : Prop where
  requeued : Requeued s.world.workspace (fun item => item.1 ≠ .blueprintDraft) t.world.workspace
  drafts : t.live.drafts = s.live.drafts
  reconciliation : t.reconciliation = s.reconciliation
  snapshot : t.live.control.snapshot = Control.idleSnapshot
  unpaused : t.live.control.pause.paused = false ∧ t.live.control.pause.pauseSources = []
  running : t.live.control.stopRequested = false

theorem Cleared.counted {s t u : RuntimeSession} (cleared : Cleared s t) (counted : Counted t u) : Cleared s u := by
  obtain ⟨workspace, rest⟩ := counted
  rw [rest]
  exact ⟨workspace ▸ cleared.requeued, cleared.drafts, cleared.reconciliation, cleared.snapshot, cleared.unpaused,
    cleared.running⟩

theorem Cleared.through {α : Type} {s t : RuntimeSession} {x : SessionM α} (cleared : Cleared s t)
    (counted : Advances Counted x) : Ensues t x (fun _ u => Cleared s u) (fun _ _ => True) :=
  (counted t).weaken (fun _ _ same => cleared.counted same) fun _ _ _ => trivial

/-- The session is reset once its items are requeued. -/
theorem resetToIdle_clears {s t : RuntimeSession} {w : World} (world : t = s.setWorld w)
    (requeued : Requeued s.world.workspace (fun item => item.1 ≠ .blueprintDraft) w.workspace) :
    Ensues t (resetToIdle env true true) (fun _ u => Cleared s u) (fun _ _ => True) := by
  unfold resetToIdle
  apply Ensues.bind (Ensues.modify _)
  rintro _ u rfl
  have cleared : Cleared s { t with live := { t.live with control := resetRuntimeToIdle true true t.live.control } } := by
    subst world
    exact ⟨requeued, rfl, rfl, rfl, ⟨rfl, rfl⟩, rfl⟩
  apply Ensues.bind (cleared.through refreshQueueDepths_counted)
  intro _ u cleared
  apply cleared.through
  apply Advances.forM
  exact fun name _ => fileOperation_counted _

theorem clearStaleFromMailbox_clears (payload : String) (s : RuntimeSession) :
    Ensues s (clearStaleFromMailbox env payload) (fun _ t => Cleared s t) (fun _ _ => True) := by
  unfold clearStaleFromMailbox
  apply Ensues.bind ((fileOperation_counted _ s).weaken (fun _ _ counted => counted) fun _ _ _ => trivial)
  intro _ t counted
  have requeues : Ensues t (onWorld (requeueAllActiveItems env (mailboxReason payload defaultClearStaleReason)))
      (fun _ u => ∃ w, u = s.setWorld w ∧
        Requeued s.world.workspace (fun item => item.1 ≠ .blueprintDraft) w.workspace) (fun _ _ => True) := by
    apply onPart_ensues (Q := fun _ w =>
      Requeued s.world.workspace (fun item => item.1 ≠ .blueprintDraft) w.workspace) (E := fun _ _ => True)
    · rintro w rfl
      exact requeueAllActiveItems_requeued (mailboxReason_given payload) _ counted.workspace
    · intro _ w requeued
      exact ⟨w, by rw [counted.rest]; rfl, requeued⟩
    · exact fun _ _ _ => trivial
  apply Ensues.bind requeues
  rintro count u ⟨w, world, requeued⟩
  apply Ensues.bind (resetToIdle_clears world requeued)
  intro _ u cleared
  apply Ensues.bind (cleared.through (fileOperation_counted _))
  intro _ u cleared
  apply Ensues.bind (Ensues.modify _)
  rintro _ v rfl
  have kept : Cleared s { u with live := { u.live with counters := [] } } :=
    ⟨cleared.requeued, cleared.drafts, cleared.reconciliation, cleared.snapshot, cleared.unpaused, cleared.running⟩
  apply Ensues.bind (kept.through writeRuntimeEvent_counted)
  exact fun _ _ cleared => .pure cleared

end Rest

/-! ## Repair -/

section Repair
variable {s t : RuntimeSession}

theorem runTick_reconciliation (inputs : TickInputs) (s : RuntimeSession) :
    (runTick inputs s).2.reconciliation = s.reconciliation := by
  unfold runTick
  dsimp only
  repeat' split
  all_goals rfl

theorem runTick_unblocked (reconciled : ∀ plane, (s.reconciliation.onPlane plane).isStale = false)
    (inputs : TickInputs) : (runTick inputs s).1 ≠ .blocked "stale_active_state" := by
  have quiet : ∀ live, staleReconciliationBlocksTick ⟨live, s.reconciliation⟩ = false := by
    intro live
    have execution := reconciled .execution
    have planning := reconciled .planning
    have learning := reconciled .learning
    simp only [RuntimeStartupReconciliation.onPlane] at execution planning learning
    simp [staleReconciliationBlocksTick, execution, planning, learning]
  unfold runTick
  dsimp only
  rw [quiet]
  repeat' split
  all_goals simp_all

theorem unblocked_of_reconciled (reconciled : ∀ plane, (s.reconciliation.onPlane plane).isStale = false)
    (ticks : List TickInputs) : ∀ outcome ∈ outcomes ticks s, outcome ≠ .blocked "stale_active_state" := by
  induction ticks generalizing s with
  | nil => exact nofun
  | cons inputs rest ih =>
    intro outcome member
    rcases List.mem_cons.mp member with rfl | later
    · exact runTick_unblocked reconciled inputs
    · exact ih (by rwa [runTick_reconciliation]) outcome later

/-- Nothing is taken in, and no usage governance is configured. -/
def quietTick : TickInputs := ⟨id, ⟨false, true⟩, [], id⟩

omit [Rfc3339] in
theorem quietGovernance {w : PauseWorkspace} (unpaused : w.paused = false) (noSource : w.pauseSources = []) :
    (evaluateAndApplyUsageGovernance ⟨false, true⟩ [] w).paused = false := by
  have noGovernance : hasGovernancePauseSource w = false := by simp [hasGovernancePauseSource, noSource]
  unfold evaluateAndApplyUsageGovernance
  split
  · exact unpaused
  · simp only [evaluateUsageGovernance, applyUsageGovernance, recordGovernancePause, hasGovernancePauseSource] at *
    simp [noSource, unpaused, disabledUsageGovernanceState]

theorem quietTick_blocked {plane : Plane} (cleared : Cleared s t)
    (stale : (s.reconciliation.onPlane plane).isStale = true) :
    (runTick quietTick t).1 = .blocked "stale_active_state" := by
  have blocks : ∀ live : LiveState, live.control.snapshot = Control.idleSnapshot →
      staleReconciliationBlocksTick ⟨live, t.reconciliation⟩ = true := by
    intro live idle
    cases plane <;>
      simp_all [staleReconciliationBlocksTick, cleared.reconciliation, RuntimeStartupReconciliation.onPlane,
        Control.idleSnapshot]
  have unpaused := quietGovernance cleared.unpaused.1 cleared.unpaused.2
  simp only [runTick, quietTick, id, cleared.running, LiveState.setControl, unpaused, Bool.false_eq_true, if_false]
  rw [if_pos]
  exact blocks _ cleared.snapshot

theorem lies_draft {a b : DraftWorld} (same : b.drafts = a.drafts) (state : ItemState) (id : String) :
    Lies b state (.blueprintDraft, id) ↔ Lies a state (.blueprintDraft, id) := by
  cases state <;> simp [Lies, DraftWorld.file, same]

/-- The command repairs a session exactly when the session has nothing of what it leaves as it is. -/
theorem Cleared.repaired_iff (cleared : Cleared s t) : Repaired s t ↔ Repairable s := by
  have drafts : ∀ state id, Lies t.files state (.blueprintDraft, id) ↔ Lies s.files state (.blueprintDraft, id) :=
    lies_draft cleared.drafts
  have document : ∀ u : RuntimeSession, ∀ {kind}, kind ≠ WorkItemKind.blueprintDraft → ∀ state id,
      Lies u.files state (kind, id) ↔ (u.world.workspace.file (itemPath kind state id)).isSome :=
    fun u _ notDraft state id => lies_document notDraft u.files state id
  constructor
  · intro repaired
    have noDraft : ∀ draftId, ¬Lies s.files .active (.blueprintDraft, draftId) :=
      fun draftId active => repaired.emptied _ ((drafts _ _).mpr active)
    refine ⟨noDraft, fun item active queued => ?_, fun plane => ?_⟩
    · obtain ⟨kind, id⟩ := item
      by_cases draft : kind = .blueprintDraft
      · exact noDraft id (draft ▸ active)
      · have stays := cleared.requeued.kept kind id fun both => by
          rw [document s draft, both.2] at queued
          cases queued
        refine repaired.emptied (kind, id) ((document t draft ..).mpr ?_)
        rw [stays.1]
        exact (document s draft ..).mp active
    · by_contra stale
      rw [Bool.not_eq_false] at stale
      exact repaired.unblocked [quietTick] _ List.mem_cons_self (quietTick_blocked cleared stale)
  · intro repairable
    -- What is active in the end was active before and is not a draft, so its place in the queue was free.
    have moved : ∀ kind id, kind ≠ .blueprintDraft → Lies s.files .active (kind, id) →
        t.world.workspace.file (itemPath kind .active id) = none ∧
          t.world.workspace.file (itemPath kind .queue id) = s.world.workspace.file (itemPath kind .active id) := by
      intro kind id notDraft active
      have free := repairable.unqueued _ active
      rw [document s notDraft, Option.not_isSome_iff_eq_none] at free
      exact cleared.requeued.moved kind id notDraft free
    refine ⟨fun item active => ?_, fun item active => ?_, fun plane => ?_, ?_⟩
    · obtain ⟨kind, id⟩ := item
      by_cases draft : kind = .blueprintDraft
      · subst draft
        exact repairable.noDraft id ((drafts _ _).mp active)
      · rw [document t draft] at active
        by_cases before : Lies s.files .active (kind, id)
        · rw [(moved kind id draft before).1] at active
          cases active
        · rw [document s draft, Option.not_isSome_iff_eq_none] at before
          cases place : s.world.workspace.file (itemPath kind .queue id) with
          | none =>
            rw [(cleared.requeued.moved kind id draft place).1] at active
            cases active
          | some raw =>
            rw [(cleared.requeued.kept kind id (by simp [place])).1, before] at active
            cases active
    · obtain ⟨kind, id⟩ := item
      have notDraft : kind ≠ .blueprintDraft := by
        rintro rfl
        exact repairable.noDraft id active
      have after := (moved kind id notDraft active).2
      refine ⟨(document t notDraft ..).mpr ?_, fun _ => after⟩
      rw [after]
      exact (document s notDraft ..).mp active
    · rw [cleared.snapshot]
      rfl
    · exact unblocked_of_reconciled (cleared.reconciliation ▸ repairable.reconciled)

/-- Clearing stale state repairs the workspace exactly when no draft is active, no active item is queued as well, and
startup found no plane stale. -/
theorem clearStale_repairs_iff (env : Environment) (payload : String) (s : RuntimeSession) :
    Ensues s (clearStaleFromMailbox env payload) (fun _ t => Repaired s t ↔ Repairable s) (fun _ _ => True) :=
  (clearStaleFromMailbox_clears payload s).weaken (fun _ _ cleared => cleared.repaired_iff) fun _ _ _ => trivial

end Repair
end

section Concrete
local instance zonesOfSessions : Rfc3339 := twoZones

/-- A runtime that started over an active spec of no run. -/
def strandedSpec : RuntimeSession where
  live := {
    control := {
      snapshot := Control.idleSnapshot
      pause := ⟨false, [], none⟩
      stopRequested := false
      world := ⟨Workspace.empty.insert (itemPath .spec .active "spec-1") "", 0⟩ }
    drafts := fun _ => ∅
    removals := 0
    counters := [] }
  reconciliation := {
    execution := staleState []
    planning := staleState (staleReasons [(WorkItemKind.spec, "spec-1")] [] none)
    learning := staleState []
    signals := [] }

/-- The spec is requeued, and the next tick is blocked by what startup found. -/
theorem cleared_session_stays_blocked : ¬∀ (env : Environment) (payload : String) (s : RuntimeSession),
    Ensues s (clearStaleFromMailbox env payload) (fun _ t => Repaired s t) (fun _ _ => True) := by
  intro repairs
  have repaired := repairs calmEnvironment "" strandedSpec _ rfl
  have clears : Ensues strandedSpec (clearStaleFromMailbox calmEnvironment "") _ _ :=
    clearStaleFromMailbox_clears "" strandedSpec
  have succeeds : (match clearStaleFromMailbox calmEnvironment "" strandedSpec with
      | .ok _ _ => true
      | .error _ _ => false) = true := by decide +kernel
  cases ran : clearStaleFromMailbox calmEnvironment "" strandedSpec with
  | ok count t =>
    rw [ran] at repaired
    have cleared := clears _ rfl
    rw [ran] at cleared
    exact repaired.unblocked [quietTick] _ List.mem_cons_self (@quietTick_blocked _ _ _ .planning cleared rfl)
  | error e t =>
    rw [ran] at succeeds
    cases succeeds

end Concrete

end Millrace.Startup
