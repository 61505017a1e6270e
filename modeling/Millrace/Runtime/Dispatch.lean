import Mathlib.Data.List.Dedup
import Millrace.Action
import Millrace.Runs
import Millrace.Runtime.Lanes

/-! # The supervisor's dispatch gates: which runs are in flight together -/

set_option autoImplicit false

namespace Millrace.Runtime

open Millrace.Text Millrace.Contracts Millrace.Action

/-- The policies of the compiled plan. -/
structure DispatchPolicies where
  concurrency : Option PlaneConcurrencyPolicyDefinition
  lanes : Option WorkflowPlaneSchedulerPolicyDefinition

/-- The snapshot, and every run that was dispatched and has not completed. -/
structure DispatchState where
  snapshot : LaneSnapshot
  running : List ScheduledRun

def activePlanes (s : LaneSnapshot) : List Plane :=
  dispatchOrder.filter fun plane => (s.activeRunsByPlane plane).isSome

def activeLaneIds (s : LaneSnapshot) : List String :=
  (activeRuns s).map (·.laneId)

/-- Both gates of `dispatch_claim_for_plane`. -/
def admits (p : DispatchPolicies) (s : LaneSnapshot) (plane : Plane) : Bool :=
  canDispatchPlane p.concurrency (activePlanes s) plane &&
    canDispatchLane p.lanes p.concurrency (activeLaneIds s) (laneIdForPlane p.lanes plane)

/-- A claimed item is dispatched on its plane, if the gates admit the plane. -/
def dispatchClaimForPlane (p : DispatchPolicies) (run : ScheduledRun) (s : DispatchState) : DispatchState :=
  if !admits p s.snapshot run.plane || (s.snapshot.activeRunsByPlane run.plane).isSome then s
  else match activateRun p.lanes run s.snapshot with
    | .error _ => s
    | .ok snapshot =>
      { snapshot, running := s.running ++ [{ run with laneId := laneIdForPlane p.lanes run.plane }] }

inductive DispatchStep where
  | claim (run : ScheduledRun)
  | completionStage (completedWorkersEmpty : Bool) (run : ScheduledRun)
  | complete (plane : Plane) (now : String)

/-- The closure stage goes through the same gates on the planning plane, once no worker result is pending. -/
def DispatchStep.apply (p : DispatchPolicies) (s : DispatchState) : DispatchStep → DispatchState
  | .claim run => dispatchClaimForPlane p run s
  | .completionStage completedWorkersEmpty run =>
    if completedWorkersEmpty then dispatchClaimForPlane p { run with plane := .planning } s else s
  | .complete plane now =>
    { snapshot := clearActivePlane plane now s.snapshot
      running := s.running.filter (·.plane ≠ plane) }

def DispatchState.initial : DispatchState :=
  { snapshot := { activeRunsByPlane := fun _ => none, lanesById := ∅ }, running := [] }

/-! ## What the policies ask of the runs in flight -/

/-- No mutually exclusive group holds both planes and a may-run-concurrently group does. -/
def MayRunTogether (policy : Option PlaneConcurrencyPolicyDefinition) (a b : Plane) : Prop :=
  ∃ p, policy = some p ∧ pairInGroups a b p.mutuallyExclusivePlanes = false ∧
    pairInGroups a b p.mayRunConcurrently = true

structure DispatchSafe (p : DispatchPolicies) (running : List ScheduledRun) : Prop where
  together : running.Pairwise fun a b => MayRunTogether p.concurrency a.plane b.plane
  onePerPlane : (running.map (·.plane)).Nodup
  laneBound : ∀ policy lane, p.lanes = some policy → policy.lane lane.laneId = some lane →
    running.countP (·.laneId = lane.laneId) ≤ lane.maxActiveRuns

theorem pairInGroups_comm (a b : Plane) (groups : List (List Plane)) :
    pairInGroups a b groups = pairInGroups b a groups := by
  unfold pairInGroups
  congr 1
  funext group
  rw [Bool.and_comm (group.contains a), Bool.beq_comm]

theorem MayRunTogether.symm {policy : Option PlaneConcurrencyPolicyDefinition} {a b : Plane}
    (together : MayRunTogether policy a b) : MayRunTogether policy b a := by
  obtain ⟨p, is, apart, grouped⟩ := together
  exact ⟨p, is, pairInGroups_comm b a _ ▸ apart, pairInGroups_comm b a _ ▸ grouped⟩

/-- What the plane gate lets pass: an idle plane that may run beside every active one. -/
theorem canDispatchPlane_true {policy : Option PlaneConcurrencyPolicyDefinition} {planes : List Plane} {candidate : Plane}
    (admitted : canDispatchPlane policy planes candidate = true) :
    candidate ∉ planes ∧ ∀ plane ∈ planes, MayRunTogether policy candidate plane := by
  have idle : candidate ∉ planes := by
    intro active
    simp [canDispatchPlane, active] at admitted
  refine ⟨idle, fun plane active => ?_⟩
  have nonempty : planes.eraseDups.isEmpty = false := by
    rw [List.isEmpty_eq_false_iff_exists_mem]
    exact ⟨plane, List.mem_eraseDups.mpr active⟩
  cases policy with
  | none => simp [canDispatchPlane, idle, nonempty] at admitted
  | some p =>
    simp only [canDispatchPlane, List.contains_iff_mem, List.mem_eraseDups, idle, if_false, nonempty,
      Bool.false_eq_true] at admitted
    have passed := List.all_eq_true.mp admitted plane (List.mem_eraseDups.mpr active)
    simp only [Bool.and_eq_true, Bool.not_eq_true'] at passed
    exact ⟨p, rfl, passed.1, passed.2⟩

/-! ## Lane ids -/

theorem trimmed_of_safe {laneId : String} (safe : SafeIdentifier laneId) : trimmed laneId = laneId := by
  rw [trimmed, trim_of_trimmed safe.inline.trimmed, String.ofList_toList]

theorem safe_defaultLaneIdForPlane (plane : Plane) : SafeIdentifier (defaultLaneIdForPlane plane) := by
  cases plane <;> decide

theorem safe_laneIdForPlane (policy : Option WorkflowPlaneSchedulerPolicyDefinition) (plane : Plane) :
    SafeIdentifier (laneIdForPlane policy plane) := by
  unfold laneIdForPlane
  split
  next lane found => exact lane.safe
  next => exact safe_defaultLaneIdForPlane plane

theorem ne_empty_of_safe {laneId : String} (safe : SafeIdentifier laneId) : laneId ≠ "" := by
  intro empty
  exact safe.inline.nonempty (by rw [empty]; rfl)

/-- Below the bound of its lane the lane gate lets a candidate pass, and no further. -/
theorem canDispatchLane_count {policy : WorkflowPlaneSchedulerPolicyDefinition}
    {concurrency : Option PlaneConcurrencyPolicyDefinition} {laneIds : List String} {candidate : String}
    {lane : WorkflowLaneDefinition} (safe : ∀ laneId ∈ laneIds, SafeIdentifier laneId)
    (found : policy.lane candidate = some lane)
    (admitted : canDispatchLane (some policy) concurrency laneIds candidate = true) :
    laneIds.countP (· = candidate) < lane.maxActiveRuns := by
  have same : (laneIds.map trimmed).filter (· ≠ "") = laneIds := by
    have kept : laneIds.map trimmed = laneIds := by
      conv_rhs => rw [← List.map_id laneIds]
      exact List.map_congr_left fun laneId member => trimmed_of_safe (safe laneId member)
    rw [kept, List.filter_eq_self]
    intro laneId member
    simpa using ne_empty_of_safe (safe laneId member)
  by_contra full
  simp only [canDispatchLane, same, found, if_pos (Nat.le_of_not_lt full)] at admitted
  cases admitted

/-! ## The plane map lists the runs in flight -/

theorem mem_activePlanes (s : LaneSnapshot) (plane : Plane) :
    plane ∈ activePlanes s ↔ (s.activeRunsByPlane plane).isSome = true := by
  simp [activePlanes, mem_dispatchOrder]

/-- The active runs of the snapshot are the runs in flight, each in the lane its plane was given. -/
structure DispatchState.Tracked (p : DispatchPolicies) (s : DispatchState) : Prop where
  listed : ∀ plane run, s.snapshot.activeRunsByPlane plane = some run ↔ run ∈ s.running ∧ run.plane = plane
  lanes : ∀ run ∈ s.running, run.laneId = laneIdForPlane p.lanes run.plane

structure DispatchState.Sound (p : DispatchPolicies) (s : DispatchState) : Prop where
  tracked : s.Tracked p
  safe : DispatchSafe p s.running

theorem activateRun_runs {policy : Option WorkflowPlaneSchedulerPolicyDefinition} {run : ScheduledRun}
    {s s' : LaneSnapshot} (ok : activateRun policy run s = .ok s') (idle : s.activeRunsByPlane run.plane = none) :
    s'.activeRunsByPlane = Function.update s.activeRunsByPlane run.plane
      (some { run with laneId := laneIdForPlane policy run.plane }) := by
  rw [activateRun, idle, if_neg (by simp)] at ok
  obtain ⟨_, same⟩ := bind_unit_eq_ok.mp ok
  rw [← Except.ok.inj same]
  rfl

theorem clearActivePlane_runs (plane : Plane) (now : String) (s : LaneSnapshot) :
    (clearActivePlane plane now s).activeRunsByPlane = Function.update s.activeRunsByPlane plane none := by
  unfold clearActivePlane
  split
  next idle => rw [← idle, Function.update_eq_self]
  next run active =>
    unfold snapshotWithoutLaneActiveRun
    split <;> rfl

section Sound
variable {p : DispatchPolicies} {s : DispatchState}

theorem DispatchState.Tracked.perm (tracked : s.Tracked p) (nodup : (s.running.map (·.plane)).Nodup) :
    s.running.Perm (activeRuns s.snapshot) := by
  have once : (activeRuns s.snapshot).Nodup := by
    refine List.Nodup.filterMap (fun a b run first second => ?_) nodup_dispatchOrder
    rw [← ((tracked.listed a run).mp first).2, ((tracked.listed b run).mp second).2]
  refine (List.perm_ext_iff_of_nodup (List.Nodup.of_map _ nodup) once).mpr fun run => ?_
  simp only [activeRuns, List.mem_filterMap, mem_dispatchOrder, true_and]
  constructor
  · intro member
    exact ⟨run.plane, (tracked.listed _ _).mpr ⟨member, rfl⟩⟩
  · intro ⟨plane, active⟩
    exact ((tracked.listed _ _).mp active).1

theorem DispatchState.Sound.initial : DispatchState.initial.Sound p where
  tracked := ⟨by simp [DispatchState.initial], by simp [DispatchState.initial]⟩
  safe := ⟨List.Pairwise.nil, List.nodup_nil, fun _ _ _ _ => Nat.zero_le _⟩

/-- One more run on an idle plane, as the gates let it pass. -/
theorem DispatchSafe.add {run : ScheduledRun} (sound : s.Sound p)
    (admitted : admits p s.snapshot run.plane = true) (placed : run.laneId = laneIdForPlane p.lanes run.plane) :
    DispatchSafe p (s.running ++ [run]) := by
  obtain ⟨planeGate, laneGate⟩ := Bool.and_eq_true_iff.mp admitted
  obtain ⟨idle, together⟩ := canDispatchPlane_true planeGate
  have active : ∀ other ∈ s.running, other.plane ∈ activePlanes s.snapshot := by
    intro other member
    rw [mem_activePlanes, (sound.tracked.listed other.plane other).mpr ⟨member, rfl⟩]
    rfl
  constructor
  · refine List.pairwise_append.mpr ⟨sound.safe.together, List.pairwise_singleton _ _, ?_⟩
    intro other member new is
    rw [List.mem_singleton.mp is]
    exact (together _ (active other member)).symm
  · rw [List.map_append, List.nodup_append]
    refine ⟨sound.safe.onePerPlane, List.nodup_singleton _, ?_⟩
    intro plane listed new is same
    obtain ⟨other, member, of⟩ := List.mem_map.mp listed
    rw [List.map_singleton, List.mem_singleton, ← same, ← of] at is
    exact idle (is ▸ active other member)
  · intro policy lane given found
    rw [List.countP_append, List.countP_singleton]
    by_cases here : run.laneId = lane.laneId
    · -- The candidate's own lane: the gate has counted its runs under the snapshot's lane ids.
      have safe : ∀ laneId ∈ activeLaneIds s.snapshot, SafeIdentifier laneId := by
        intro laneId member
        obtain ⟨other, listed, of⟩ := List.mem_map.mp member
        have running := (sound.tracked.perm sound.safe.onePerPlane).mem_iff.mpr listed
        rw [← of, sound.tracked.lanes other running]
        exact safe_laneIdForPlane p.lanes other.plane
      rw [given] at laneGate placed
      have below := canDispatchLane_count safe ((placed.symm.trans here).symm ▸ found) laneGate
      rw [activeLaneIds, List.countP_map, ← placed, here] at below
      rw [(sound.tracked.perm sound.safe.onePerPlane).countP_eq]
      simp only [here, decide_true, if_true]
      exact below
    · simpa [here] using sound.safe.laneBound policy lane given found

theorem dispatchClaimForPlane_sound (run : ScheduledRun) (sound : s.Sound p) :
    (dispatchClaimForPlane p run s).Sound p := by
  unfold dispatchClaimForPlane
  split
  next => exact sound
  next passed =>
    have admitted : admits p s.snapshot run.plane = true := by
      by_contra refused
      simp [refused] at passed
    have idle : s.snapshot.activeRunsByPlane run.plane = none := by
      simpa [admitted] using passed
    split
    next => exact sound
    next snapshot ok =>
      have runs := activateRun_runs ok idle
      have fresh : ∀ other ∈ s.running, other.plane ≠ run.plane := by
        intro other member same
        have active := (sound.tracked.listed other.plane other).mpr ⟨member, rfl⟩
        rw [same, idle] at active
        cases active
      refine ⟨⟨fun plane other => ?_, ?_⟩, .add sound admitted rfl⟩
      · simp only [runs, List.mem_append, List.mem_singleton]
        by_cases here : plane = run.plane
        · subst here
          rw [Function.update_self]
          constructor
          · intro same
            rw [← Option.some.inj same]
            exact ⟨.inr rfl, rfl⟩
          · intro ⟨member, on⟩
            obtain old | new := member
            · exact absurd on (fresh other old)
            · rw [new]
        · rw [Function.update_of_ne here, sound.tracked.listed]
          constructor
          · intro ⟨member, on⟩
            exact ⟨.inl member, on⟩
          · intro ⟨member, on⟩
            obtain old | new := member
            · exact ⟨old, on⟩
            · rw [new] at on
              exact absurd on.symm here
      · intro other member
        obtain old | new := List.mem_append.mp member
        · exact sound.tracked.lanes other old
        · rw [List.mem_singleton.mp new]

theorem complete_sound (plane : Plane) (now : String) (sound : s.Sound p) :
    (DispatchStep.apply p s (.complete plane now)).Sound p := by
  have sub : (s.running.filter (·.plane ≠ plane)).Sublist s.running := List.filter_sublist
  constructor
  · constructor
    · intro other run
      simp only [DispatchStep.apply, clearActivePlane_runs, List.mem_filter, decide_eq_true_eq]
      by_cases here : other = plane
      · subst here
        rw [Function.update_self]
        exact iff_of_false nofun fun ⟨⟨_, off⟩, on⟩ => off on
      · rw [Function.update_of_ne here, sound.tracked.listed]
        constructor
        · intro ⟨member, on⟩
          exact ⟨⟨member, on ▸ here⟩, on⟩
        · intro ⟨member, on⟩
          exact ⟨member.1, on⟩
    · intro run member
      exact sound.tracked.lanes run (List.mem_filter.mp member).1
  · constructor
    · exact sound.safe.together.sublist sub
    · exact (sub.map _).nodup sound.safe.onePerPlane
    · intro policy lane given found
      exact sub.countP_le.trans (sound.safe.laneBound policy lane given found)

theorem DispatchStep.apply_sound (step : DispatchStep) (sound : s.Sound p) : (step.apply p s).Sound p := by
  cases step with
  | claim run => exact dispatchClaimForPlane_sound run sound
  | completionStage completedWorkersEmpty run =>
    cases completedWorkersEmpty with
    | true => exact dispatchClaimForPlane_sound { run with plane := .planning } sound
    | false => exact sound
  | complete plane now => exact complete_sound plane now sound

end Sound

/-- Whatever the policies and in whatever order claims and closure stages are dispatched and runs complete, the runs in
flight may run together two by two, each on a plane of its own, and fill no lane beyond its bound. -/
theorem dispatch_safe (p : DispatchPolicies) (steps : List DispatchStep) :
    DispatchSafe p (Runs.after (fun s step => DispatchStep.apply p s step) DispatchState.initial steps).running :=
  (Runs.after_keeps (fun _ step sound => step.apply_sound sound) DispatchState.Sound.initial steps).safe

end Millrace.Runtime
