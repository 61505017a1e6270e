import Millrace.Advance
import Millrace.Closure.Drained

/-! Which of the ready closure targets the completion stage is activated for, and which one is forgotten. -/

set_option autoImplicit false

namespace Millrace.Closure
open Millrace.Text Millrace.Contracts Millrace.WorkDocuments Millrace.Action
open Millrace.Queue (ItemState DocumentPath)
open Millrace.Runtime (ActiveRunState ActiveRunRequestKind)

section Readiness
variable [Rfc3339]

/-! ## Ready targets -/

/-- Open, with neither open work nor drift of its lineage. -/
structure Waiting (s : ClosureSession) (target : ClosureTargetState) : Prop where
  persisted : target ∈ s.targets
  isOpen : target.closureOpen = true
  drained : ¬ OpenWork s.work target.rootSpecId
  straight : scanClosureLineageDrift s.work target.rootSpecId target.rootIdeaId = []

/-- The planning plane runs the completion stage for this root. -/
def Judging (plan : ClosurePlan) (root : String) (snapshot : ClosureSnapshot) : Prop :=
  ∃ run activation, snapshot.activeRunsByPlane .planning = some run ∧ plan.completionEntry = some activation ∧
    run.val.stage = activation.stage ∧ run.val.nodeId = activation.nodeId ∧ run.val.requestKind = .closureTarget ∧
    run.val.closureTargetRootSpecId = some root

def ClosureStep.Claimless : ClosureStep → Prop
  | .serialTick met | .completionStage met => ∀ plane root, met.claim plane root = none
  | _ => True

/-- Planning is idle, nothing is claimable, and the step is one that activates the completion stage; the serial tick does
so only while no stage is active on any plane. -/
def Due (s : ClosureSession) (step : ClosureStep) : Prop :=
  match step with
  | .completionStage _ => step.Claimless ∧ s.snapshot.activeRunsByPlane .planning = none
  | .serialTick _ => step.Claimless ∧ s.snapshot.idle = true
  | _ => False

/-- A target that waited before is under judgement after. -/
def JudgesOne (plan : ClosurePlan) (s t : ClosureSession) : Prop :=
  ∃ target, Waiting s target ∧ Judging plan target.rootSpecId t.snapshot

/-- If a target waits where the step is due, the step activates the completion stage for one that waits. -/
def Remembers (plan : ClosurePlan) (s : ClosureSession) (step : ClosureStep) : Prop :=
  plan.completionBehavior = true → Due s step → (∃ target, Waiting s target) → JudgesOne plan s (step.apply plan s)

/-! ## The target that is looked at -/

/-- The one actionable target or, where none is, the persisted target of the latest root spec. -/
inductive Foremost (s : ClosureSession) (target : ClosureTargetState) : Prop
  | actionable (sole : s.targets.filter (·.actionable) = [target])
  | latest (none : s.targets.filter (·.actionable) = []) {spec : SpecDocument}
      (newest : latestRootSpecCandidate s.work = some spec) (root : spec.rootSpecId = some target.rootSpecId)
      (idea : spec.rootIdeaId.isSome = true) (persisted : target ∈ s.targets)

/-- How many file operations the step makes up to the saved run. -/
def operationsOf (plan : ClosurePlan) (s : ClosureSession) : ClosureStep → Nat
  | .serialTick _ => if s.targets.any (·.actionable) then 7 else if plan.learningGraph then 10 else 9
  | _ => if s.targets.any (·.actionable) then 5 else 7

def ClosureStep.fault : ClosureStep → Nat → Option String
  | .serialTick met | .completionStage met => met.fault
  | _ => fun _ => none

/-- The scans can read the work of the lineage and find nothing. -/
structure Clear (work : LineageWork) (root : String) : Prop where
  documents : openLineageWorkIds work root = .ok []
  blueprints : listOpenBlueprintLineageWorkRefs work root = []

/-- The target that is looked at is one that waits, and nothing fails on the way to its run. -/
structure Reached (plan : ClosurePlan) (s : ClosureSession) (step : ClosureStep) (target : ClosureTargetState) : Prop where
  foremost : Foremost s target
  waiting : Waiting s target
  clear : Clear s.work target.rootSpecId
  entry : plan.completionEntry.isSome = true
  contracts : ∀ other ∈ s.targets, other.validate = .ok ()
  quiet : ∀ n < operationsOf plan s step, step.fault n = none

def Foreseen (plan : ClosurePlan) (s : ClosureSession) (step : ClosureStep) : Prop :=
  plan.completionBehavior = true → Due s step → (∃ target, Waiting s target) → ∃ target, Reached plan s step target

/-! ## Computations that start no run -/

/-- Neither snapshot has a planning run. -/
structure Free (s : ClosureSession) : Prop where
  memory : s.snapshot.activeRunsByPlane .planning = none
  disk : s.saved.activeRunsByPlane .planning = none

theorem kept_free : Kept Free Free where
  fails _ free := free
  operations _ _ free := ⟨free.memory, free.disk⟩
  status _ _ _ free := ⟨free.memory, free.disk⟩
  save _ _ free := ⟨free.memory, free.memory⟩
  write _ _ _ free := ⟨free.memory, free.disk⟩

theorem Free.not_judging {plan : ClosurePlan} {s : ClosureSession} (free : Free s) (root : String) :
    ¬ Judging plan root s.snapshot := by
  intro ⟨run, _, active, _⟩
  rw [free.memory] at active
  cases active

theorem judging_arbiterRoot {plan : ClosurePlan} {root : String} {snapshot : ClosureSnapshot}
    (judging : Judging plan root snapshot) : snapshot.arbiterRoot = some root := by
  obtain ⟨run, activation, active, _, _, _, request, named⟩ := judging
  rw [arbiterRoot_of_active active rfl, if_pos request, named]

/-- What a computation leaves; a failed one leaves the snapshot that is on disk. -/
def settled (x : ClosureM Unit) (s : ClosureSession) : ClosureSession :=
  match x s with
  | .ok _ t => t
  | .error _ t => { t with snapshot := t.saved }

theorem settled_free {P : ClosureSession → Prop} {x : ClosureM Unit} (holds : Holds P x (fun _ => Free) fun _ => Free)
    {s : ClosureSession} (start : P s) : Free (settled x s) := by
  have ends := holds s start
  unfold settled
  cases ran : x s with
  | ok _ t =>
    rw [ran] at ends
    exact ends
  | error _ t =>
    rw [ran] at ends
    exact ⟨ends.disk, ends.disk⟩

/-! ## What the activation of one target comes to -/

/-- Under the condition the state is as wanted; otherwise it is of the other kind. -/
def Concludes (condition : Prop) (wanted unwanted : ClosureSession → Prop) (s : ClosureSession) : Prop :=
  (condition ∧ wanted s) ∨ (¬ condition ∧ unwanted s)

section Conclusions
variable {condition : Prop} {wanted unwanted : ClosureSession → Prop} {met : Meeting} {s : ClosureSession}

theorem Concludes.stopped (fails : ¬ condition) (ends : unwanted s) : Concludes condition wanted unwanted s :=
  .inr ⟨fails, ends⟩

theorem fileOperation_run (met : Meeting) (s : ClosureSession) :
    fileOperation met s = match met.fault s.operations with
      | some message => .error (.io message) { s with operations := s.operations + 1 }
      | none => .ok () { s with operations := s.operations + 1 } := by
  unfold fileOperation
  rw [bind_run, get_run]
  dsimp only
  rw [bind_run]
  dsimp only [set, EStateM.set]
  cases met.fault s.operations <;> rfl

/-- A file operation that fails leaves what is on disk. -/
theorem Concludes.operation {f : Unit → ClosureM Unit}
    (lost : unwanted { s with operations := s.operations + 1, snapshot := s.saved })
    (needed : condition → met.fault s.operations = none)
    (rest : met.fault s.operations = none →
      Concludes condition wanted unwanted (settled (f ()) { s with operations := s.operations + 1 })) :
    Concludes condition wanted unwanted (settled (fileOperation met >>= f) s) := by
  unfold settled
  rw [bind_run, fileOperation_run]
  cases fault : met.fault s.operations with
  | none => exact rest fault
  | some message =>
    refine .stopped (fun holds => ?_) lost
    rw [needed holds] at fault
    cases fault

theorem settled_get (f : ClosureSession → ClosureM Unit) : settled (get >>= f) s = settled (f s) s := rfl

theorem settled_modify (g : ClosureSession → ClosureSession) (f : PUnit → ClosureM Unit) :
    settled (modify g >>= f) s = settled (f ⟨⟩) (g s) := rfl

theorem settled_checked {target : ClosureTargetState} (valid : target.validate = .ok ()) (f : Unit → ClosureM Unit) :
    settled (checkContract target >>= f) s = settled (f ()) s := by
  unfold checkContract
  rw [valid]
  rfl

theorem Concludes.saved {target : ClosureTargetState} {f : Unit → ClosureM Unit}
    (lost : unwanted { s with operations := s.operations + 1, snapshot := s.saved }) (valid : target.validate = .ok ())
    (needed : condition → met.fault s.operations = none)
    (rest : met.fault s.operations = none → Concludes condition wanted unwanted (settled (f ())
      { s with operations := s.operations + 1, targets := writeTarget target s.targets })) :
    Concludes condition wanted unwanted (settled (saveClosureTargetState met target >>= f) s) := by
  unfold saveClosureTargetState
  simp only [bind_assoc]
  rw [settled_checked valid]
  exact .operation lost needed rest

end Conclusions

omit [Rfc3339] in
/-- A target that meets its contract does so once nothing blocks it. -/
theorem withReadiness_valid {target : ClosureTargetState} (valid : target.validate = .ok ()) :
    (target.withReadiness [] []).validate = .ok () := by
  unfold ClosureTargetState.validate at valid ⊢
  obtain ⟨_, rootSpec, valid⟩ := bind_eq_ok.mp valid
  obtain ⟨_, rootIdea, valid⟩ := bind_eq_ok.mp valid
  obtain ⟨_, arbiter, valid⟩ := bind_eq_ok.mp valid
  obtain ⟨_, _, valid⟩ := bind_eq_ok.mp valid
  have closed : ¬ (target.closedAt.isSome && target.closureOpen) = true := by
    intro both
    rw [if_pos both] at valid
    cases valid
  have unblocked : ¬ ((target.withReadiness [] []).closedAt.isSome && (target.withReadiness [] []).closureOpen) = true :=
    closed
  refine bind_eq_ok.mpr ⟨_, rootSpec, bind_eq_ok.mpr ⟨_, rootIdea, bind_eq_ok.mpr ⟨_, arbiter, ?_⟩⟩⟩
  refine bind_eq_ok.mpr ⟨(), rfl, ?_⟩
  rw [if_neg unblocked]
  exact if_neg fun found => found.1.elim (fun ids => ids rfl) fun refs => refs rfl

omit [Rfc3339] in
/-- Where a scan finds something, the target is blocked. -/
theorem withReadiness_blocked {target : ClosureTargetState} {ids : List String} {refs : List ClosureBlockingWorkRef}
    (found : ¬ (ids = [] ∧ refs = [])) : (target.withReadiness ids refs).closureBlockedByLineageWork = true := by
  by_contra unblocked
  exact found (withReadiness_clear (by simpa using unblocked))

theorem blockOnClosureLineageDriftIfPresent_drifted {target : ClosureTargetState} (isOpen : target.closureOpen = true)
    {w : LineageWork} (drifted : scanClosureLineageDrift w target.rootSpecId target.rootIdeaId ≠ []) (met : Meeting) :
    Holds (fun s => Free s ∧ s.work = w) (blockOnClosureLineageDriftIfPresent met target)
      (fun blocked s => blocked = true ∧ Free s) fun _ => Free := by
  unfold blockOnClosureLineageDriftIfPresent
  have calm : Calm (fun s => Free s ∧ s.work = w) Free := {
    fails := fun s holds => holds.1
    operations := fun s n holds => ⟨kept_free.operations s n holds.1, holds.2⟩
    status := fun s marker failureClass holds => ⟨kept_free.status s marker failureClass holds.1, holds.2⟩
    save := fun s n holds => ⟨kept_free.save s n holds.1, holds.2⟩ }
  refine .bind (fileOperation_holds calm met) fun _ => getState_holds fun s => ?_
  refine .assume (C := s.work = w) (fun _ holds => holds.1 ▸ holds.2.2) fun same => ?_
  rw [same]
  cases found : scanClosureLineageDrift w target.rootSpecId target.rootIdeaId with
  | nil => exact absurd found drifted
  | cons finding findings =>
    refine .given (A := Free) (fun _ holds => holds.2.1) ?_
    have kept : Kept Free Free := kept_free
    refine .bind (fileOperation_holds kept.toCalm met) fun _ => ?_
    refine .bind (saveClosureTargetState_holds kept.toCalm met fun s holds => kept.write s _ isOpen holds) fun _ => ?_
    refine .bind (markCompletionBehaviorBlocked_holds kept.toCalm met _) fun _ => ?_
    exact .bind (fileOperation_holds kept.toCalm met) fun _ => .pure fun _ holds => ⟨rfl, holds⟩

theorem judging_completionRun {plan : ClosurePlan} {activation : GraphActivationDecision} (met : Meeting)
    (entry : plan.completionEntry = some activation) (root : String) (snapshot : ClosureSnapshot) :
    Judging plan root
      { snapshotWithActiveRun (completionRun met activation root) snapshot with currentFailureClass := none } := by
  have active : (snapshotWithActiveRun (completionRun met activation root) snapshot).activeRunsByPlane .planning =
      some ⟨completionRun met activation root, rfl⟩ := by
    simp [snapshotWithActiveRun, completionRun]
  exact ⟨_, activation, active, entry, rfl, rfl, rfl, rfl⟩

/-- A target found unblocked is judged if its lineage is straight, the plan has an entry and nothing fails. -/
theorem unblocked_concludes (plan : ClosurePlan) (met : Meeting) (s : ClosureSession) (target : ClosureTargetState)
    (free : Free s) (isOpen : target.closureOpen = true) :
    Concludes (scanClosureLineageDrift s.work target.rootSpecId target.rootIdeaId = [] ∧
        plan.completionEntry.isSome = true ∧ met.fault s.operations = none ∧ met.fault (s.operations + 1) = none)
      (fun t => Judging plan target.rootSpecId t.snapshot) Free
      (settled (blockOnClosureLineageDriftIfPresent met target >>= fun drifted =>
        if drifted then return ()
        else match plan.completionEntry with
          | none => throw (.invalidState "compiled graph is missing closure_target completion entry")
          | some activation => startRun met (completionRun met activation target.rootSpecId)) s) := by
  by_cases straight : scanClosureLineageDrift s.work target.rootSpecId target.rootIdeaId = []
  case neg =>
    refine .stopped (fun passable => straight passable.1) (settled_free (P := fun t => Free t ∧ t.work = s.work) ?_ ⟨free, rfl⟩)
    refine .bind (blockOnClosureLineageDriftIfPresent_drifted isOpen straight met) fun blocked => ?_
    exact .assume (fun _ holds => holds.1) fun is => .ite (fun _ => .pure fun _ holds => holds.2) fun not => absurd is not
  unfold blockOnClosureLineageDriftIfPresent
  simp only [bind_assoc]
  apply Concludes.operation ⟨free.disk, free.disk⟩ fun passable => passable.2.2.1
  intro first
  rw [settled_get]
  simp only [straight, pure_bind, Bool.false_eq_true, if_false]
  cases entry : plan.completionEntry with
  | none => exact .stopped (fun passable => absurd passable.2.1 (by simp)) ⟨free.disk, free.disk⟩
  | some activation =>
    unfold startRun saveSnapshot modifySnapshot
    rw [settled_modify]
    apply Concludes.operation
    · exact ⟨free.disk, free.disk⟩
    · exact fun passable => passable.2.2.2
    intro second
    exact .inl ⟨⟨trivial, rfl, first, second⟩, judging_completionRun met entry target.rootSpecId s.snapshot⟩

/-- The lineage is drained and straight, the plan has an entry and no operation fails up to the saved run. -/
structure Passable (plan : ClosurePlan) (met : Meeting) (s : ClosureSession) (target : ClosureTargetState) : Prop where
  isOpen : target.closureOpen = true
  clear : Clear s.work target.rootSpecId
  straight : scanClosureLineageDrift s.work target.rootSpecId target.rootIdeaId = []
  entry : plan.completionEntry.isSome = true
  quiet : ∀ n < 4, met.fault (s.operations + n) = none

theorem maybeActivateCompletionStage_concludes (plan : ClosurePlan) (met : Meeting) {s : ClosureSession}
    {target : ClosureTargetState} (free : Free s) (valid : target.validate = .ok ()) :
    Concludes (Passable plan met s target) (fun t => Judging plan target.rootSpecId t.snapshot) Free
      (settled (maybeActivateCompletionStage plan met target) s) := by
  unfold maybeActivateCompletionStage
  by_cases isOpen : target.closureOpen = true
  case neg =>
    rw [if_pos (by simpa using isOpen)]
    exact .stopped (fun passable => isOpen passable.isOpen) free
  rw [if_neg (by simpa using isOpen)]
  unfold refreshClosureTargetReadiness
  simp only [bind_assoc]
  apply Concludes.operation ⟨free.disk, free.disk⟩ fun passable => passable.quiet 0 (by omega)
  intro first
  rw [settled_get]
  dsimp only
  cases ids : openLineageWorkIds s.work target.rootSpecId with
  | error error =>
    refine .stopped (fun passable => ?_) ⟨free.disk, free.disk⟩
    rw [passable.clear.documents] at ids
    cases ids
  | ok ids' =>
    simp only [bind_assoc, pure_bind]
    by_cases clear : ids' = [] ∧ listOpenBlueprintLineageWorkRefs s.work target.rootSpecId = []
    case neg =>
      rw [withReadiness_blocked clear]
      refine .stopped (fun passable => ?_) (settled_free ?_ (kept_free.operations s (s.operations + 1) free))
      · rw [passable.clear.documents] at ids
        exact clear ⟨(Except.ok.inj ids).symm, passable.clear.blueprints⟩
      · exact .bind (saveClosureTargetState_holds kept_free.toCalm met fun t kept => kept_free.write t _ isOpen kept)
          fun _ => .pure fun _ kept => kept
    obtain ⟨rfl, refs⟩ := clear
    rw [refs]
    apply Concludes.saved ⟨free.disk, free.disk⟩ (withReadiness_valid valid) fun passable =>
      passable.quiet 1 (by omega)
    intro second
    have unblocked : ¬ (target.withReadiness [] []).closureBlockedByLineageWork = true := Bool.false_ne_true
    rw [if_neg unblocked]
    have rest := unblocked_concludes plan met
      { s with operations := s.operations + 1 + 1, targets := writeTarget (target.withReadiness [] []) s.targets }
      (target.withReadiness [] []) ⟨free.memory, free.disk⟩ isOpen
    rcases rest with ⟨⟨straight, entry, third, fourth⟩, judging⟩ | ⟨fails, still⟩
    · refine .inl ⟨⟨isOpen, ⟨ids, refs⟩, straight, entry, fun n small => ?_⟩, judging⟩
      match n, small with
      | 0, _ => exact first
      | 1, _ => exact second
      | 2, _ => exact third
      | 3, _ => exact fourth
    · exact .stopped (fun passable => fails ⟨passable.straight, passable.entry, passable.quiet 2 (by omega),
        passable.quiet 3 (by omega)⟩) still


/-! ## What the search for a target comes to -/

theorem checkContract_passes {P E : ClosureSession → Prop} (fails : ∀ s, P s → E s) (target : ClosureTargetState) :
    Holds P (checkContract target) (fun _ s => P s ∧ target.validate = .ok ()) fun _ => E := by
  unfold checkContract
  cases target.validate with
  | ok => exact .pure fun _ holds => ⟨holds, rfl⟩
  | error source => exact .throw fails

/-- What a search for a root's target brings up is of that root and meets its contract. -/
def Found (root : String) (found : Option ClosureTargetState) : Prop :=
  ∀ target, found = some target → target.rootSpecId = root ∧ target.validate = .ok ()

omit [Rfc3339] in
theorem Found.none {root : String} : Found root none := nofun

omit [Rfc3339] in
theorem Found.some {root : String} {target : ClosureTargetState} (same : target.rootSpecId = root)
    (valid : target.validate = .ok ()) : Found root (some target) := by
  intro other is
  cases is
  exact ⟨same, valid⟩

theorem findClosureTarget_finds (met : Meeting) (root : String) :
    Holds Free (findClosureTarget met root) (fun found s => Free s ∧ Found root found) fun _ => Free := by
  refine .bind (fileOperation_holds kept_free.toCalm met) fun _ => getState_holds fun s => ?_
  cases found : s.targets.find? fun target => target.rootSpecId = root with
  | none => exact .pure fun _ holds => ⟨holds.2, .none⟩
  | some target =>
    have same : target.rootSpecId = root := by simpa using List.find?_some found
    refine .bind (checkContract_passes (fun _ holds => holds.2) target) fun _ => .pure fun _ holds => ?_
    exact ⟨holds.1.2, .some same holds.2⟩

theorem createClosureTargetForRootSpec_finds (met : Meeting) (spec : SpecDocument) {root : String}
    (rooted : spec.rootSpecId = some root) :
    Holds Free (createClosureTargetForRootSpec met spec) (fun found s => Free s ∧ Found root found) fun _ => Free := by
  have calm : Calm Free Free := kept_free.toCalm
  unfold createClosureTargetForRootSpec
  rw [rooted]
  cases spec.rootIdeaId with
  | none => exact .pure fun _ free => ⟨free, .none⟩
  | some rootIdeaId =>
    refine .ite (fun _ => .pure fun _ free => ⟨free, .none⟩) fun _ => ?_
    refine .bind (findClosureTarget_finds met root) fun found => ?_
    cases found with
    | some target => exact .pure fun _ holds => holds
    | none =>
      refine .given (A := Free) (fun _ holds => holds.1) ?_
      refine .bind (openClosureTargets_holds calm met) fun targets => .given (A := Free) (fun _ holds => holds.1) ?_
      refine .bind (refuse_holds calm.fails _ _) fun _ => ?_
      refine .bind (refuse_holds (fun _ holds => holds.2) _ _) fun _ => .given (A := Free) (fun _ holds => holds.2.2) ?_
      refine .bind (fileOperation_holds calm met) fun _ => ?_
      refine .ite (fun _ => .pure fun _ free => ⟨free, .none⟩) fun _ => ?_
      refine .bind (fileOperation_holds calm met) fun _ => ?_
      refine .bind (fileOperation_holds calm met) fun _ => ?_
      refine .bind (fileOperation_holds calm met) fun _ => ?_
      refine .bind (Q := fun _ s => Free s ∧ _) ?_ fun _ => .pure fun _ holds => ⟨holds.1, .some rfl holds.2⟩
      refine .bind (checkContract_passes calm.fails _) fun _ => .assume (fun _ holds => holds.2) fun valid => ?_
      refine .given (A := Free) (fun _ holds => holds.1) ?_
      exact .bind (fileOperation_holds calm met) fun _ => .modify fun s free => ⟨kept_free.write s _ rfl free, valid⟩

theorem settled_bind {α : Type} {P R : ClosureSession → Prop} {Q : α → ClosureSession → Prop} {x : ClosureM α}
    {f : α → ClosureM Unit} {s : ClosureSession} (holds : Holds P x Q fun _ => Free) (start : P s)
    (rest : ∀ a t, Q a t → R (settled (f a) t)) (free : ∀ t, Free t → R t) : R (settled (x >>= f) s) := by
  have ends := holds s start
  unfold settled at rest ⊢
  rw [bind_run]
  cases ran : x s with
  | ok a t =>
    rw [ran] at ends
    exact rest a t ends
  | error e t =>
    rw [ran] at ends
    exact free _ ⟨ends.disk, ends.disk⟩

theorem Passable.waiting {plan : ClosurePlan} {met : Meeting} {s t : ClosureSession} {target : ClosureTargetState}
    (passable : Passable plan met t target) (same : t.work = s.work) (persisted : target ∈ s.targets) :
    Waiting s target where
  persisted := persisted
  isOpen := passable.isOpen
  drained := same ▸ no_openWork passable.clear.documents passable.clear.blueprints
  straight := same ▸ passable.straight

/-- What the search passes on is of the root that was looked for, and so is what is judged then. -/
theorem found_judges {plan : ClosurePlan} {met : Meeting} {root : String} {found : Option ClosureTargetState}
    {s : ClosureSession} (free : Free s) (isFound : Found root found) :
    ∀ other, Judging plan other (settled (match found with
      | some target => maybeActivateCompletionStage plan met target
      | none => return ()) s).snapshot → other = root := by
  intro other judging
  cases found with
  | none => exact absurd judging (free.not_judging other)
  | some target =>
    obtain ⟨same, valid⟩ := isFound target rfl
    rcases maybeActivateCompletionStage_concludes plan met free valid with ⟨_, judged⟩ | ⟨_, still⟩
    · have here := (judging_arbiterRoot judging).symm.trans (judging_arbiterRoot judged)
      exact (Option.some.inj here).trans same
    · exact absurd judging (still.not_judging other)

theorem created_judges (plan : ClosurePlan) (met : Meeting) {s : ClosureSession} (free : Free s) {spec : SpecDocument}
    {root : String} (rooted : spec.rootSpecId = some root) :
    ∀ other, Judging plan other (settled (createClosureTargetForRootSpec met spec >>= fun created =>
      (match created with
        | none => do
          markCompletionBehaviorBlocked met "missing_root_idea_source"
          fileOperation met
          return none
        | some target => do
          fileOperation met
          return some target) >>= fun found => match found with
        | some target => maybeActivateCompletionStage plan met target
        | none => return ()) s).snapshot → other = root := by
  have calm : Calm Free Free := kept_free.toCalm
  apply settled_bind (R := fun u => ∀ other, Judging plan other u.snapshot → other = root)
    (createClosureTargetForRootSpec_finds met spec rooted) free
  case free => exact fun t free other judging => absurd judging (free.not_judging other)
  intro created t holds
  apply settled_bind (R := fun u => ∀ other, Judging plan other u.snapshot → other = root)
    (P := fun t => Free t ∧ Found root created) (Q := fun found t => Free t ∧ Found root found) ?_ holds
  · exact fun found u ends => found_judges ends.1 ends.2
  · exact fun t free other judging => absurd judging (free.not_judging other)
  · cases created with
    | none =>
      refine .given (A := Free) (fun _ holds => holds.1) ?_
      refine .bind (markCompletionBehaviorBlocked_holds calm met _) fun _ => ?_
      exact .bind (fileOperation_holds calm met) fun _ => .pure fun _ free => ⟨free, .none⟩
    | some target =>
      refine .assume (fun _ holds => holds.2) fun isFound => .given (A := Free) (fun _ holds => holds.1) ?_
      exact .bind (fileOperation_holds calm met) fun _ => .pure fun _ free => ⟨free, isFound⟩

/-- The persisted target of the latest root spec, and what its activation needs after the search for it. -/
structure Recovers (plan : ClosurePlan) (met : Meeting) (s : ClosureSession) (target : ClosureTargetState)
    (spec : SpecDocument) : Prop where
  newest : latestRootSpecCandidate s.work = some spec
  root : spec.rootSpecId = some target.rootSpecId
  idea : spec.rootIdeaId.isSome = true
  persisted : target ∈ s.targets
  passable : Passable plan met { s with operations := s.operations + 2 } target
  quiet : ∀ n < 2, met.fault (s.operations + n) = none

theorem recovered_concludes (plan : ClosurePlan) (met : Meeting) {s : ClosureSession} (free : Free s)
    (keyed : Keyed s.targets) (contracts : ∀ target ∈ s.targets, target.validate = .ok ())
    (behavior : plan.completionBehavior = true) :
    Concludes (∃ target spec, Recovers plan met s target spec) (JudgesOne plan s) (fun u => ¬ JudgesOne plan s u)
      (settled (recoverOrBackfillMissingClosureTarget plan met >>= fun found => match found with
        | some target => maybeActivateCompletionStage plan met target
        | none => return ()) s) := by
  have unjudged : ∀ u, Free u → ¬ JudgesOne plan s u := by
    rintro u free ⟨target, _, judging⟩
    exact free.not_judging _ judging
  have lost : ∀ n, ¬ JudgesOne plan s { s with operations := n, snapshot := s.saved } :=
    fun n => unjudged _ ⟨free.disk, free.disk⟩
  unfold recoverOrBackfillMissingClosureTarget
  rw [if_neg (by simp [behavior])]
  simp only [bind_assoc]
  have quiet : ∀ n < 2, (∃ target spec, Recovers plan met s target spec) →
      met.fault (s.operations + n) = none := by
    rintro n small ⟨_, _, recovers⟩
    exact recovers.quiet n small
  apply Concludes.operation (lost _) (quiet 0 (by omega))
  intro first
  rw [settled_get]
  dsimp only
  have free' : Free { s with operations := s.operations + 1 } := ⟨free.memory, free.disk⟩
  cases newest : latestRootSpecCandidate s.work with
  | none =>
    refine .stopped ?_ (unjudged _ free')
    rintro ⟨_, _, recovers⟩
    rw [recovers.newest] at newest
    cases newest
  | some spec =>
    have same : ∀ target spec', Recovers plan met s target spec' → spec' = spec :=
      fun _ _ recovers => Option.some.inj (recovers.newest.symm.trans newest)
    dsimp only
    have rootless : Holds Free (do
        markCompletionBehaviorBlocked met "missing_root_lineage"
        (match none with
          | some target => maybeActivateCompletionStage plan met target
          | none => return ()) : ClosureM Unit) (fun _ => Free) fun _ => Free :=
      .bind (markCompletionBehaviorBlocked_holds kept_free.toCalm met _) fun _ => .pure fun _ free => free
    cases rooted : spec.rootSpecId with
    | none =>
      refine .stopped ?_ (unjudged _ ?_)
      · rintro ⟨target, spec', recovers⟩
        have root := recovers.root
        rw [same target spec' recovers, rooted] at root
        cases root
      · simp only [bind_assoc, pure_bind]
        exact settled_free rootless free'
    | some root =>
      cases idea : spec.rootIdeaId with
      | none =>
        refine .stopped ?_ (unjudged _ ?_)
        · rintro ⟨target, spec', recovers⟩
          have given := recovers.idea
          rw [same target spec' recovers, idea] at given
          cases given
        · simp only [bind_assoc, pure_bind]
          exact settled_free rootless free'
      | some ideaId =>
        have searched : ∀ target spec', Recovers plan met s target spec' → target.rootSpecId = root := by
          intro target spec' recovers
          have is := recovers.root
          rw [same target spec' recovers, rooted] at is
          exact (Option.some.inj is).symm
        dsimp only
        unfold findClosureTarget
        simp only [bind_assoc]
        apply Concludes.operation (lost _) (quiet 1 (by omega))
        intro second
        rw [settled_get]
        dsimp only
        cases named : s.targets.find? fun target => target.rootSpecId = root with
        | none =>
          have apart : ∀ target ∈ s.targets, target.rootSpecId ≠ root := by simpa using named
          refine .stopped ?_ ?_
          · rintro ⟨target, spec', recovers⟩
            exact apart target recovers.persisted (searched _ _ recovers)
          rintro ⟨target, waiting, judging⟩
          simp only [bind_assoc, pure_bind] at judging
          have free : Free { s with operations := s.operations + 1 + 1 } := ⟨free.memory, free.disk⟩
          exact apart target waiting.persisted (created_judges plan met free rooted _ judging)
        | some target =>
          have found : target.rootSpecId = root := by simpa using List.find?_some named
          have persisted := List.mem_of_find?_eq_some named
          simp only [bind_assoc, pure_bind]
          rw [settled_checked (contracts target persisted)]
          have unique : ∀ other spec', Recovers plan met s other spec' → other = target := fun other spec' recovers =>
            List.inj_on_of_nodup_map keyed recovers.persisted persisted ((searched _ _ recovers).trans found.symm)
          by_cases isOpen : target.closureOpen = true
          case neg =>
            rw [if_neg isOpen]
            refine .stopped ?_ (unjudged _ ⟨free.memory, free.disk⟩)
            rintro ⟨other, spec', recovers⟩
            exact isOpen (unique other spec' recovers ▸ recovers.passable.isOpen)
          rw [if_pos isOpen]
          have free : Free { s with operations := s.operations + 2 } := ⟨free.memory, free.disk⟩
          rcases maybeActivateCompletionStage_concludes plan met free (contracts target persisted) with
            ⟨passable, judging⟩ | ⟨fails, still⟩
          · refine .inl ⟨⟨target, spec, newest, found ▸ rooted, by simp [idea], persisted, passable, ?_⟩, target, ?_, judging⟩
            · intro n small
              obtain rfl | rfl : n = 0 ∨ n = 1 := by omega
              · exact first
              · exact second
            · exact passable.waiting rfl persisted
          · refine .stopped ?_ (unjudged _ still)
            rintro ⟨other, spec', recovers⟩
            apply fails
            exact unique other spec' recovers ▸ recovers.passable

/-! ## The steps that activate the completion stage -/

/-- The actionable target, if there is one. -/
def IsActive (s : ClosureSession) (found : Option ClosureTargetState) : Prop :=
  found.toList = s.targets.filter (·.actionable)

section Contracts
variable {s : ClosureSession} {targets : List ClosureTargetState}

theorem settled_contracts (contracts : ∀ target ∈ targets, target.validate = .ok ()) (f : PUnit → ClosureM Unit) :
    settled (targets.forM checkContract >>= f) s = settled (f ⟨⟩) s := by
  induction targets with
  | nil => rfl
  | cons first rest ih =>
    show settled ((checkContract first >>= fun _ => rest.forM checkContract) >>= f) s = _
    rw [bind_assoc, settled_checked (contracts first List.mem_cons_self)]
    exact ih fun target member => contracts target (List.mem_cons_of_mem _ member)

theorem settled_broken (broken : ¬ ∀ target ∈ targets, target.validate = .ok ()) (f : PUnit → ClosureM Unit) :
    settled (targets.forM checkContract >>= f) s = { s with snapshot := s.saved } := by
  induction targets with
  | nil => exact absurd nofun broken
  | cons first rest ih =>
    show settled ((checkContract first >>= fun _ => rest.forM checkContract) >>= f) s = _
    rw [bind_assoc]
    cases valid : first.validate with
    | ok =>
      rw [settled_checked valid]
      refine ih fun contracts => broken ?_
      intro target member
      rcases List.mem_cons.mp member with rfl | later
      · exact valid
      · exact contracts target later
    | error source =>
      unfold checkContract settled
      rw [bind_run, valid]
      rfl

end Contracts

section Steps
variable {condition : Prop} {wanted unwanted : ClosureSession → Prop} {plan : ClosurePlan} {met : Meeting}
  {s : ClosureSession}

theorem Concludes.active {f : Option ClosureTargetState → ClosureM Unit}
    (lost : unwanted { s with operations := s.operations + 1, snapshot := s.saved })
    (single : (s.targets.filter (·.actionable)).length ≤ 1)
    (needed : condition → met.fault s.operations = none ∧ ∀ target ∈ s.targets, target.validate = .ok ())
    (rest : met.fault s.operations = none → (∀ target ∈ s.targets, target.validate = .ok ()) → ∀ found,
      IsActive s found → Concludes condition wanted unwanted (settled (f found) { s with operations := s.operations + 1 })) :
    Concludes condition wanted unwanted (settled (activeClosureTarget met >>= f) s) := by
  unfold activeClosureTarget openClosureTargets
  simp only [bind_assoc]
  apply Concludes.operation lost fun holds => (needed holds).1
  intro first
  rw [settled_get]
  dsimp only
  by_cases contracts : ∀ target ∈ s.targets, target.validate = .ok ()
  case neg =>
    rw [settled_broken contracts]
    exact .stopped (fun holds => contracts (needed holds).2) lost
  rw [settled_contracts contracts]
  simp only [pure_bind]
  have same := actionable_perm s.targets
  generalize actionableOpenClosureTargets ((s.targets.filter (·.closureOpen)).mergeSort
    fun a b => decide (a.rootSpecId ≤ b.rootSpecId)) = found at same ⊢
  have few : found.length ≤ 1 := same.length_eq ▸ single
  match found, few with
  | [], _ => exact rest first contracts none same.nil_eq
  | [target], _ => exact rest first contracts (some target) (List.singleton_perm.mp same)

theorem judgesOne_operations {u : ClosureSession} (n : Nat) :
    JudgesOne plan { s with operations := n } u ↔ JudgesOne plan s u :=
  ⟨fun ⟨target, waiting, judging⟩ => ⟨target, ⟨waiting.1, waiting.2, waiting.3, waiting.4⟩, judging⟩,
    fun ⟨target, waiting, judging⟩ => ⟨target, ⟨waiting.1, waiting.2, waiting.3, waiting.4⟩, judging⟩⟩

/-- What the step needs once it knows the actionable target, from its first `n` operations on. -/
structure Reaches (plan : ClosurePlan) (met : Meeting) (s : ClosureSession) (n : Nat)
    (found : Option ClosureTargetState) (target : ClosureTargetState) : Prop where
  foremost : Foremost s target
  waiting : Waiting s target
  clear : Clear s.work target.rootSpecId
  entry : plan.completionEntry.isSome = true
  quiet : ∀ k < if found.isSome then 4 else 6, met.fault (n + k) = none

theorem foremost_of_active {found target : ClosureTargetState} (active : IsActive s (some found))
    (foremost : Foremost s target) : target = found := by
  cases foremost with
  | actionable sole =>
    rw [← active] at sole
    exact (List.singleton_inj.mp sole).symm
  | latest none =>
    rw [← active] at none
    cases none

theorem active_concludes {target : ClosureTargetState} (free : Free s) (active : IsActive s (some target))
    (contracts : ∀ target ∈ s.targets, target.validate = .ok ()) (n : Nat) :
    Concludes (∃ other, Reaches plan met s n (some target) other) (JudgesOne plan s) (fun u => ¬ JudgesOne plan s u)
      (settled (maybeActivateCompletionStage plan met target) { s with operations := n }) := by
  have listed : target ∈ s.targets.filter (·.actionable) := active ▸ List.mem_singleton_self target
  obtain ⟨persisted, actionable⟩ := List.mem_filter.mp listed
  have free' : Free { s with operations := n } := ⟨free.memory, free.disk⟩
  rcases maybeActivateCompletionStage_concludes plan met free' (contracts target persisted) with
    ⟨passable, judging⟩ | ⟨fails, still⟩
  · have waiting : Waiting s target := passable.waiting rfl persisted
    exact .inl ⟨⟨target, .actionable active.symm, waiting, passable.clear, passable.entry, passable.quiet⟩, target,
      waiting, judging⟩
  · refine .stopped (fun ⟨other, reaches⟩ => fails ?_) fun ⟨_, _, judging⟩ => still.not_judging _ judging
    obtain rfl := foremost_of_active active reaches.foremost
    exact ⟨reaches.waiting.isOpen, reaches.clear, reaches.waiting.straight, reaches.entry, reaches.quiet⟩

theorem idle_concludes (free : Free s) (keyed : Keyed s.targets) (active : IsActive s none)
    (contracts : ∀ target ∈ s.targets, target.validate = .ok ()) (behavior : plan.completionBehavior = true) (n : Nat) :
    Concludes (∃ target, Reaches plan met s n none target) (JudgesOne plan s) (fun u => ¬ JudgesOne plan s u)
      (settled (recoverOrBackfillMissingClosureTarget plan met >>= fun found => match found with
        | some target => maybeActivateCompletionStage plan met target
        | none => return ()) { s with operations := n }) := by
  have free' : Free { s with operations := n } := ⟨free.memory, free.disk⟩
  have concludes := recovered_concludes plan met free' keyed contracts behavior
  rcases concludes with ⟨⟨target, spec, recovers⟩, judges⟩ | ⟨fails, unjudged⟩
  · refine .inl ⟨⟨target, .latest active.symm recovers.newest recovers.root recovers.idea recovers.persisted,
      recovers.passable.waiting rfl recovers.persisted, recovers.passable.clear, recovers.passable.entry, ?_⟩,
      (judgesOne_operations n).mp judges⟩
    intro k small
    match k, small with
    | 0, _ => exact recovers.quiet 0 (by omega)
    | 1, _ => exact recovers.quiet 1 (by omega)
    | k + 2, small =>
      have later := recovers.passable.quiet k (by simp at small; omega)
      rwa [show n + (k + 2) = n + 2 + k by omega]
  · refine .stopped (fun ⟨target, reaches⟩ => fails ?_) fun judges => unjudged ((judgesOne_operations n).mpr judges)
    cases reaches.foremost with
    | actionable sole =>
      rw [← active] at sole
      cases sole
    | @latest _ spec newest root idea persisted =>
      refine ⟨target, spec, newest, root, idea, persisted, ⟨reaches.waiting.isOpen, reaches.clear,
        reaches.waiting.straight, reaches.entry, fun k small => ?_⟩, fun k small => reaches.quiet k (by simp; omega)⟩
      have later := reaches.quiet (k + 2) (by simp; omega)
      rwa [show n + (k + 2) = n + 2 + k by omega] at later

theorem Concludes.congr {other : Prop} (same : condition ↔ other) (concludes : Concludes condition wanted unwanted s) :
    Concludes other wanted unwanted s := by
  unfold Concludes at concludes ⊢
  rwa [← same]

theorem any_actionable {found : Option ClosureTargetState} (active : IsActive s found) :
    s.targets.any (·.actionable) = found.isSome := by
  cases found with
  | none => simpa using List.filter_eq_nil_iff.mp active.symm
  | some target =>
    have listed : target ∈ s.targets.filter (·.actionable) := active ▸ List.mem_singleton_self target
    exact List.any_eq_true.mpr ⟨target, List.mem_filter.mp listed⟩

/-- Once the first operations have passed, the step is as far as its search for the actionable target. -/
theorem reached_iff {step : ClosureStep} {found : Option ClosureTargetState} {n : Nat} (met : Meeting)
    (same : step.fault = met.fault) (contracts : ∀ target ∈ s.targets, target.validate = .ok ())
    (length : operationsOf plan s step = n + if found.isSome then 4 else 6) (lead : ∀ k < n, met.fault k = none) :
    (∃ target, Reaches plan met s n found target) ↔ ∃ target, Reached plan s step target := by
  constructor
  · intro ⟨target, reaches⟩
    refine ⟨target, reaches.foremost, reaches.waiting, reaches.clear, reaches.entry, contracts, fun k small => ?_⟩
    rw [same]
    by_cases early : k < n
    · exact lead k early
    · have later := reaches.quiet (k - n) (by omega)
      rwa [show n + (k - n) = k by omega] at later
  · intro ⟨target, reached⟩
    refine ⟨target, reached.foremost, reached.waiting, reached.clear, reached.entry, fun k small => ?_⟩
    have quiet := reached.quiet (n + k) (by omega)
    rwa [same] at quiet

theorem completionStage_concludes (free : Free s) (keyed : Keyed s.targets)
    (single : (s.targets.filter (·.actionable)).length ≤ 1) (behavior : plan.completionBehavior = true) :
    Concludes (∃ target, Reached plan s (.completionStage met) target) (JudgesOne plan s) (fun u => ¬ JudgesOne plan s u)
      (settled (activateCompletionStageIfReady plan met) { s with operations := 0 }) := by
  have unjudged : ∀ u, Free u → ¬ JudgesOne plan s u := fun u free ⟨target, _, judging⟩ => free.not_judging _ judging
  unfold activateCompletionStageIfReady
  rw [settled_get]
  dsimp only
  rw [if_neg (by simp [free.memory])]
  have early : 0 < operationsOf plan s (.completionStage met) := by
    dsimp only [operationsOf]
    split <;> omega
  apply Concludes.active
  · exact unjudged _ ⟨free.disk, free.disk⟩
  · exact single
  · exact fun ⟨target, reached⟩ => ⟨reached.quiet 0 early, reached.contracts⟩
  intro first contracts found active
  replace contracts : ∀ target ∈ s.targets, target.validate = .ok () := contracts
  replace active : IsActive s found := active
  have lead : ∀ k < 1, met.fault k = none := by
    intro k small
    rwa [show k = 0 by omega]
  have length : operationsOf plan s (.completionStage met) = 1 + if found.isSome then 4 else 6 := by
    simp only [operationsOf, any_actionable active]
    split <;> rfl
  apply Concludes.congr (reached_iff met rfl contracts length lead)
  cases found with
  | some target => exact active_concludes free active contracts 1
  | none => exact idle_concludes free keyed active contracts behavior 1

theorem claimNext_concludes {plane : Plane} {root : Option String}
    {f : Option { claim : ClosureClaim // claim.plane = plane } → ClosureM Unit}
    (lost : unwanted { s with operations := s.operations + 1, snapshot := s.saved })
    (unclaimed : met.claim plane root = none) (needed : condition → met.fault s.operations = none)
    (rest : met.fault s.operations = none →
      Concludes condition wanted unwanted (settled (f none) { s with operations := s.operations + 1 })) :
    Concludes condition wanted unwanted (settled (claimNext met plane root >>= f) s) := by
  unfold claimNext
  simp only [bind_assoc, pure_bind, unclaimed]
  exact .operation lost needed rest

theorem serialTick_concludes (free : Free s) (keyed : Keyed s.targets)
    (single : (s.targets.filter (·.actionable)).length ≤ 1) (behavior : plan.completionBehavior = true)
    (claimless : ∀ plane root, met.claim plane root = none) :
    Concludes (∃ target, Reached plan s (.serialTick met) target) (JudgesOne plan s) (fun u => ¬ JudgesOne plan s u)
      (settled (activateNextWorkOrCompletion plan met) { s with operations := 0 }) := by
  have unjudged : ∀ u, Free u → ¬ JudgesOne plan s u := fun u free ⟨target, _, judging⟩ => free.not_judging _ judging
  have lost : ∀ n, ¬ JudgesOne plan s { s with operations := n, snapshot := s.saved } :=
    fun n => unjudged _ ⟨free.disk, free.disk⟩
  have least : 3 ≤ operationsOf plan s (.serialTick met) := by
    dsimp only [operationsOf]
    split
    · omega
    · split <;> omega
  have early : ∀ n < 3, (∃ target, Reached plan s (.serialTick met) target) → met.fault n = none :=
    fun n small ⟨target, reached⟩ => reached.quiet n (by omega)
  unfold activateNextWorkOrCompletion
  apply Concludes.active
  · exact lost _
  · exact single
  · exact fun reached => ⟨early 0 (by omega) reached, reached.elim fun _ is => is.contracts⟩
  intro first contracts found active
  replace contracts : ∀ target ∈ s.targets, target.validate = .ok () := contracts
  replace active : IsActive s found := active
  cases found with
  | some target =>
    apply claimNext_concludes (lost _) (claimless _ _) (early 1 (by omega))
    intro second
    apply claimNext_concludes (lost _) (claimless _ _) (early 2 (by omega))
    intro third
    have lead : ∀ k < 3, met.fault k = none := by
      intro k small
      match k, small with
      | 0, _ => exact first
      | 1, _ => exact second
      | 2, _ => exact third
    have length : operationsOf plan s (.serialTick met) = 3 + 4 := by
      simp only [operationsOf, any_actionable active, Option.isSome_some, if_true]
    exact (active_concludes free active contracts 3).congr (reached_iff met rfl contracts length lead)
  | none =>
    apply claimNext_concludes (lost _) (claimless _ _) (early 1 (by omega))
    intro second
    apply claimNext_concludes (lost _) (claimless _ _) (early 2 (by omega))
    intro third
    have lead : ∀ k < 3, met.fault k = none := by
      intro k small
      match k, small with
      | 0, _ => exact first
      | 1, _ => exact second
      | 2, _ => exact third
    have unused : s.targets.any (·.actionable) = false := any_actionable active
    unfold claimNextLearningRequest
    cases learning : plan.learningGraph with
    | false =>
      have length : operationsOf plan s (.serialTick met) = 3 + 6 := by simp [operationsOf, unused, learning]
      exact (idle_concludes free keyed active contracts behavior 3).congr (reached_iff met rfl contracts length lead)
    | true =>
      have length : operationsOf plan s (.serialTick met) = 4 + 6 := by simp [operationsOf, unused, learning]
      apply claimNext_concludes (lost _) (claimless _ _)
      · exact fun ⟨target, reached⟩ => reached.quiet 3 (by omega)
      intro fourth
      have lead' : ∀ k < 4, met.fault k = none := by
        intro k small
        by_cases last : k = 3
        · exact last ▸ fourth
        · exact lead k (by omega)
      exact (idle_concludes free keyed active contracts behavior 4).congr (reached_iff met rfl contracts length lead')

end Steps

theorem Concludes.iff {condition : Prop} {wanted : ClosureSession → Prop} {s : ClosureSession}
    (concludes : Concludes condition wanted (fun t => ¬ wanted t) s) : wanted s ↔ condition := by
  rcases concludes with ⟨holds, is⟩ | ⟨fails, isNot⟩
  · exact iff_of_true is holds
  · exact iff_of_false isNot fails

/-- A step remembers what waits exactly if what it looks at is what waits. -/
theorem remembers_iff (plan : ClosurePlan) {s : ClosureSession} (rested : Rested s) (step : ClosureStep) :
    Remembers plan s step ↔ Foreseen plan s step := by
  obtain ⟨root, resting⟩ := rested
  have single := length_actionable resting.sole.keyed resting.sole.only
  have freed : s.snapshot.activeRunsByPlane .planning = none → Free s :=
    fun memory => ⟨memory, resting.settled.trans memory⟩
  unfold Remembers Foreseen
  refine imp_congr_right fun behavior => imp_congr_right fun due => imp_congr_right fun _ => ?_
  cases step with
  | completionStage met => exact (completionStage_concludes (freed due.2) resting.sole.keyed single behavior).iff
  | serialTick met =>
    obtain ⟨claimless, idle⟩ := due
    have memory : s.snapshot.activeRunsByPlane .planning = none := by
      simpa using List.all_eq_true.mp idle .planning (by decide)
    simp only [ClosureStep.apply, idle, if_true]
    exact (serialTick_concludes (freed memory) resting.sole.keyed single behavior claimless).iff
  | claimForPlane plane met => exact due.elim
  | arbiterResult outcome met => exact due.elim
  | runs snapshot => exact due.elim
  | queues work => exact due.elim

/-- In every run, each step remembers what waits exactly if what it looks at is what waits. -/
theorem ready_target_remembered_iff (plan : ClosurePlan) (work : LineageWork) (steps : List ClosureStep) :
    Runs.Along (ClosureStep.apply plan) (fun s step => Remembers plan s step ↔ Foreseen plan s step)
      (ClosureSession.start [] work) steps := by
  have rested : Rested (ClosureSession.start [] work) := start_rested work
  generalize ClosureSession.start [] work = s at rested
  induction steps generalizing s with
  | nil => trivial
  | cons step steps ih => exact ⟨remembers_iff plan rested step, ih _ (apply_rested plan step rested)⟩

end Readiness

/-! ## A target behind a later one -/

local instance momentsOfReadiness : Rfc3339 := instRfc3339

/-- Another root spec, of the same moment as the search. -/
def indexSpec : SpecDocument :=
  { searchSpec with
    specId := "idea-index"
    title := "Index"
    summary := "Index the catalogue"
    rootIdeaId := some "index"
    rootSpecId := some "idea-index"
    references := ["ideas/index.md"] }

def indexTask : TaskDocument :=
  { lateTask with
    taskId := "index-task"
    rootIdeaId := some "index"
    rootSpecId := some "idea-index"
    specId := some "idea-index" }

def indexClaim : ClosureClaim := ⟨.spec, "idea-index", some indexSpec⟩

def claimingMeeting : Meeting :=
  { calmMeeting with
    runId := "run-2"
    claim := fun plane _ => if h : indexClaim.plane = plane then some ⟨indexClaim, h⟩ else none }

def plannerPlan : ClosurePlan :=
  { arbiterPlan with activationForClaim := fun _ => some ⟨.planner, "planner", "planner"⟩ }

def bothSpecs : List (WorkFile SpecDocument) := [⟨"idea-index", some indexSpec⟩, ⟨"idea-search", some searchSpec⟩]

/-- Both specs are done; a task of the index is in this state. -/
def indexWork (taskState : ItemState) : LineageWork :=
  { LineageWork.empty with
    specs := fun state => if state = .done then bothSpecs else []
    tasks := fun state => if state = taskState then [⟨"index-task", some indexTask⟩] else [] }

/-- The search is closed; the index is claimed, planned, found blocked by its task, and then drained. -/
def untilDrained : List ClosureStep :=
  [.completionStage calmMeeting, .arbiterResult closedByArbiter calmMeeting, .claimForPlane .planning claimingMeeting,
    .runs (ClosureSession.start [] drainedWork).snapshot, .queues (indexWork .queue), .completionStage calmMeeting,
    .queues (indexWork .done)]

def drainedSession : ClosureSession := Runs.after (ClosureStep.apply plannerPlan) (.start [] drainedWork) untilDrained

def doneSpec (stem : String) (spec : SpecDocument) : String × SpecDocument :=
  (DocumentPath.relative ⟨⟨.spec, .done, none⟩, stem⟩, spec)

theorem newest_search : latestRootSpecCandidate (indexWork .done) = some searchSpec := by
  have candidates : ([ItemState.active, .done, .queue, .blocked].flatMap fun state =>
      ((indexWork .done).specs state).filterMap fun file => (file.document.filter fun spec => isRootSpecCandidate spec).map
        fun spec => (DocumentPath.relative ⟨⟨.spec, state, none⟩, file.stem⟩, spec)) =
      [doneSpec "idea-index" indexSpec, doneSpec "idea-search" searchSpec] := by decide +kernel
  have older : newerFirst (doneSpec "idea-index" indexSpec) (doneSpec "idea-search" searchSpec) = false := by
    decide +kernel
  have sorted : [doneSpec "idea-index" indexSpec, doneSpec "idea-search" searchSpec].mergeSort newerFirst =
      [doneSpec "idea-search" searchSpec, doneSpec "idea-index" indexSpec] := by
    simp [List.mergeSort, older]
  unfold latestRootSpecCandidate
  rw [candidates]
  dsimp only
  rw [sorted]
  rfl

/-- The drained index stays behind the search, whose target is closed. -/
theorem index_forgotten : ¬ Runs.Along (ClosureStep.apply plannerPlan) (Remembers plannerPlan)
    (ClosureSession.start [] drainedWork) (untilDrained ++ [.completionStage calmMeeting]) := by
  intro along
  have remembers : Remembers plannerPlan drainedSession (.completionStage calmMeeting) := (Runs.along_append.mp along).2.1
  have rested : Rested drainedSession :=
    Runs.after_keeps (fun s step rested => apply_rested plannerPlan step rested) (start_rested drainedWork) untilDrained
  have work : drainedSession.work = indexWork .done := rfl
  have free : (drainedSession.snapshot.activeRunsByPlane .planning).isNone = true := by decide +kernel
  have index : ∃ target ∈ drainedSession.targets, target.rootSpecId = "idea-index" ∧ target.rootIdeaId = "index" ∧
      target.closureOpen = true := by decide +kernel
  have waiting : ∃ target, Waiting drainedSession target := by
    obtain ⟨target, persisted, root, idea, isOpen⟩ := index
    refine ⟨target, persisted, isOpen, ?_, ?_⟩
    · rw [root, work]
      exact no_openWork (by decide +kernel) (by decide +kernel)
    · rw [root, idea, work]
      decide +kernel
  obtain ⟨target, reached⟩ := (remembers_iff plannerPlan rested _).mp remembers rfl
    ⟨fun _ _ => rfl, Option.isNone_iff_eq_none.mp free⟩ waiting
  cases reached.foremost with
  | actionable sole =>
    have unused : drainedSession.targets.filter (·.actionable) = [] := by decide +kernel
    rw [unused] at sole
    cases sole
  | latest none newest root idea persisted =>
    have closed : ∀ target ∈ drainedSession.targets, target.rootSpecId = "idea-search" → target.closureOpen = false := by
      decide +kernel
    rw [work, newest_search] at newest
    obtain rfl := Option.some.inj newest
    have isOpen := reached.waiting.isOpen
    rw [closed target persisted (Option.some.inj root).symm] at isOpen
    cases isOpen

end Millrace.Closure
