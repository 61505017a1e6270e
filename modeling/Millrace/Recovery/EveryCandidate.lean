import Millrace.Recovery.FirstCandidate

/-! When the one stranded task that an idle daemon looks at is one that may be retried. -/

set_option autoImplicit false

namespace Millrace.Recovery
open Millrace.Text Millrace.Contracts Millrace.WorkDocuments Millrace.Action Millrace.Queue

section
variable [Rfc3339]

/-! ## What the search finds -/

section Search
variable {env : Environment} {w : Workspace}

theorem AllKnown.noteDependency {queued : TaskDocument} {found : Stranded} {dependencyId : String}
    (valid : queued.Valid) (compatible : AllKnown env w found.compatible)
    (incompatible : AllKnown env w found.incompatible) :
    AllKnown env w (noteDependency env w queued found dependencyId).compatible ∧
      AllKnown env w (noteDependency env w queued found dependencyId).incompatible := by
  unfold Recovery.noteDependency
  cases read : readTaskDocumentOrNone env w (taskPath .blocked dependencyId) with
  | none => exact ⟨compatible, incompatible⟩
  | some blocked =>
    have new : Known env w dependencyId
        ⟨effectiveRootSpecTask blocked, (effectiveRootSpecTask blocked).or (effectiveRootSpecTask queued),
          [queued.taskId]⟩ := {
      blocked := ⟨blocked, read, rfl⟩
      waiting := List.cons_ne_nil _ _
      dependents := by
        intro dependent among
        rw [List.mem_singleton.1 among]
        exact valid.taskId
      distinct := List.nodup_singleton _
      root := by
        intro root given
        cases own : effectiveRootSpecTask blocked with
        | none =>
          rw [own, Option.none_or] at given
          exact effectiveRoot_given valid given
        | some blockedRoot =>
          rw [own, Option.some_or] at given
          obtain rfl := Option.some.inj given
          exact effectiveRoot_given (readTask_valid read) own }
    dsimp only
    split
    next => exact ⟨compatible, incompatible.noteDependent valid.taskId new⟩
    next => exact ⟨compatible.noteDependent valid.taskId new, incompatible⟩

theorem mem_noteDependency {queued : TaskDocument} {found : Stranded} {dependencyId id : String} :
    id ∈ (noteDependency env w queued found dependencyId).compatible.map Prod.fst ↔
      id ∈ found.compatible.map Prod.fst ∨ (id = dependencyId ∧ WaitsFor env w queued id) := by
  unfold Recovery.noteDependency WaitsFor
  cases read : readTaskDocumentOrNone env w (taskPath .blocked dependencyId) with
  | none =>
    constructor
    · exact Or.inl
    · rintro (before | ⟨rfl, blocked, found, -⟩)
      · exact before
      · rw [read] at found
        cases found
  | some blocked =>
    dsimp only
    split
    next mismatch =>
      constructor
      · exact Or.inl
      · rintro (before | ⟨rfl, other, found, same⟩)
        · exact before
        · rw [read] at found
          obtain rfl := Option.some.inj found
          rw [mismatch] at same
          cases same
    next matching =>
      rw [mem_noteDependent, or_comm]
      constructor
      · rintro (before | rfl)
        · exact Or.inl before
        · exact Or.inr ⟨rfl, blocked, read, by simpa using matching⟩
      · rintro (before | ⟨rfl, -⟩)
        · exact Or.inl before
        · exact Or.inr rfl

/-- Over the dependencies of one queued task; the induction is on what is still to be looked at. -/
theorem foldl_noteDependency {queued : TaskDocument} (valid : queued.Valid) (missing : List String) (found : Stranded)
    (compatible : AllKnown env w found.compatible) (incompatible : AllKnown env w found.incompatible) :
    AllKnown env w (missing.foldl (noteDependency env w queued) found).compatible ∧
      AllKnown env w (missing.foldl (noteDependency env w queued) found).incompatible ∧
      ∀ id, id ∈ (missing.foldl (noteDependency env w queued) found).compatible.map Prod.fst ↔
        id ∈ found.compatible.map Prod.fst ∨ (id ∈ missing ∧ WaitsFor env w queued id) := by
  induction missing generalizing found with
  | nil => exact ⟨compatible, incompatible, fun id => by simp⟩
  | cons dependencyId rest ih =>
    obtain ⟨nextCompatible, nextIncompatible⟩ := compatible.noteDependency valid incompatible
    obtain ⟨allCompatible, allIncompatible, mem⟩ := ih _ nextCompatible nextIncompatible
    refine ⟨allCompatible, allIncompatible, fun id => ?_⟩
    rw [List.foldl_cons, mem, mem_noteDependency, List.mem_cons]
    tauto

/-- A queued task that can be read depends on this task, which is blocked and of a compatible root. -/
def HoldsUp (env : Environment) (w : Workspace) (id : String) : Prop :=
  ∃ path ∈ w.markdownFiles ⟨.task, .queue, none⟩, ∃ queued, readTaskDocumentOrNone env w path = some queued ∧
    id ∈ queued.dependsOn ∧ WaitsFor env w queued id

theorem collectStranded_spec (completed : List String) (paths : List DocumentPath) (found : Stranded)
    (compatible : AllKnown env w found.compatible) (incompatible : AllKnown env w found.incompatible) :
    AllKnown env w (collectStranded env w completed paths found).compatible ∧
      AllKnown env w (collectStranded env w completed paths found).incompatible ∧
      ∀ id, id ∈ (collectStranded env w completed paths found).compatible.map Prod.fst ↔
        id ∈ found.compatible.map Prod.fst ∨ (id ∉ completed ∧
          ∃ path ∈ paths, ∃ queued, readTaskDocumentOrNone env w path = some queued ∧ id ∈ queued.dependsOn ∧
            WaitsFor env w queued id) := by
  induction paths generalizing found with
  | nil => exact ⟨compatible, incompatible, fun id => by simp [collectStranded]⟩
  | cons path rest ih =>
    unfold collectStranded
    cases read : readTaskDocumentOrNone env w path with
    | none =>
      obtain ⟨known, others, mem⟩ := ih found compatible incompatible
      refine ⟨known, others, fun id => (mem id).trans ?_⟩
      simp only [List.mem_cons, exists_eq_or_imp, read, false_and, exists_false, false_or, reduceCtorEq]
    | some queued =>
      obtain ⟨nextCompatible, nextIncompatible, ofQueued⟩ := foldl_noteDependency (readTask_valid read)
        (queued.dependsOn.filter fun dependency => !completed.contains dependency) found compatible incompatible
      obtain ⟨known, others, mem⟩ := ih _ nextCompatible nextIncompatible
      refine ⟨known, others, fun id => (mem id).trans ?_⟩
      rw [ofQueued]
      simp only [List.mem_filter, List.contains_eq_mem, decide_eq_false_iff_not, Bool.not_eq_true', List.mem_cons,
        exists_eq_or_imp, read, Option.some.injEq, exists_eq_left']
      tauto

/-- The tasks that are done already, by the names of their files. -/
def doneIds (w : Workspace) : List String := (w.markdownFiles ⟨.task, .done, none⟩).map (·.stem)

/-- What the search of a workspace finds. -/
def stranded (env : Environment) (w : Workspace) : Stranded :=
  collectStranded env w (doneIds w) (w.markdownFiles ⟨.task, .queue, none⟩) ⟨[], []⟩

theorem stranded_spec : AllKnown env w (stranded env w).compatible ∧ AllKnown env w (stranded env w).incompatible ∧
    ∀ id, id ∈ (stranded env w).compatible.map Prod.fst ↔ HoldsUp env w id ∧ id ∉ doneIds w := by
  have nothing : AllKnown env w [] := fun _ member => absurd member List.not_mem_nil
  obtain ⟨known, others, mem⟩ := collectStranded_spec (doneIds w) (w.markdownFiles ⟨.task, .queue, none⟩) ⟨[], []⟩
    nothing nothing
  refine ⟨known, others, fun id => (mem id).trans ?_⟩
  simp only [HoldsUp, List.map_nil, List.not_mem_nil, false_or]
  exact and_comm

theorem mem_stranded {id : String} :
    id ∈ (stranded env w).compatible.map Prod.fst ↔ HoldsUp env w id ∧ id ∉ doneIds w := stranded_spec.2.2 id

end Search

/-! ## One cycle -/

section Cycle
variable {env : Environment} {config : AutoRecoveryConfig} {now : Timestamp} {s : RecoveryWorld}

omit [Rfc3339] in
theorem idOrder_trans (a b c : String × CandidateParts) (ab : idOrder a b = true) (bc : idOrder b c = true) :
    idOrder a c = true := by
  simp only [idOrder, decide_eq_true_eq] at ab bc ⊢
  exact le_trans ab bc

omit [Rfc3339] in
theorem idOrder_total (a b : String × CandidateParts) : (idOrder a b || idOrder b a) = true := by
  simpa [idOrder] using le_total a.1 b.1

/-- The candidate made from what the search knows. -/
def candidateOf (s : RecoveryWorld) (id : String) (parts : CandidateParts) (lineageCompatible : Bool) :
    AutoRecoveryCandidate where
  dependency := {
    blockedTaskId := id
    queuedDependentIds := parts.queuedDependentIds.mergeSort fun a b => decide (a ≤ b)
    rootSpecId := parts.rootSpecId
    metadata := loadBlockedTaskMetadata s id }
  blockedRootSpecId := parts.blockedRootSpecId
  lineageCompatible := lineageCompatible

theorem Known.described {id : String} {parts : CandidateParts} (known : Known env s.workspace id parts)
    (lineageCompatible : Bool) : (candidateOf s id parts lineageCompatible).dependency.Described := by
  have perm := List.mergeSort_perm parts.queuedDependentIds fun a b => decide (a ≤ b)
  exact {
    waiting := fun none => known.waiting (perm.symm.trans (.of_eq none)).eq_nil
    dependents := fun dependent member => known.dependents dependent (perm.mem_iff.mp member)
    distinct := perm.nodup_iff.mpr known.distinct
    root := known.root
    metadata := fun metadata loaded => loaded_valid loaded }

theorem returns_buildAutoRecoveryCandidate {candidates : Candidates} (known : AllKnown env s.workspace candidates)
    {lineageCompatible : Bool} {Q : Option AutoRecoveryCandidate → RecoveryWorld → Prop} :
    Returns s (buildAutoRecoveryCandidate candidates lineageCompatible) Q ↔
      (candidates = [] ∧ Q none s) ∨ ∃ id parts, Sorting.first idOrder candidates = some (id, parts) ∧
        SafeIdentifier id ∧ Q (some (candidateOf s id parts lineageCompatible)) s := by
  unfold buildAutoRecoveryCandidate
  cases head : Sorting.first idOrder candidates with
  | none =>
    have empty := Sorting.first_eq_none.mp head
    simp [returns_pure, empty]
  | some least =>
    obtain ⟨id, parts⟩ := least
    have given : candidates ≠ [] := by
      rintro rfl
      cases head
    have described := (known _ (Sorting.first_mem head)).described (s := s) lineageCompatible
    dsimp only
    rw [returns_bind, returns_get, returns_bind, returns_requireContract, returns_pure]
    refine (and_congr_left fun _ => described.validateContract).trans ?_
    simp [given, candidateOf]

theorem returns_findAutoRecoveryCandidate {Q : Option AutoRecoveryCandidate → RecoveryWorld → Prop} :
    Returns s (findAutoRecoveryCandidate env) Q ↔ Passes env s.queue 0 ∧ Passes env s.queue 1 ∧
      Returns (s.advance 2) (do
        match ← buildAutoRecoveryCandidate (stranded env s.workspace).compatible true with
        | some candidate => return some candidate
        | none => buildAutoRecoveryCandidate (stranded env s.workspace).incompatible false) Q := by
  unfold findAutoRecoveryCandidate
  rw [returns_bind, returns_onQueues, returns_listMarkdownFiles]
  refine and_congr_right fun _ => ?_
  rw [returns_bind, returns_onQueues, returns_listMarkdownFiles]
  refine and_congr_right fun _ => ?_
  rw [returns_bind, returns_get]
  rfl

/-! ### When a task is handed back -/

/-- The configured wait for the next attempt has passed since the task was blocked. -/
def CooldownPassed (config : AutoRecoveryConfig) (metadata : BlockedItemMetadata) (autoAttempts : Nat)
    (now : Timestamp) : Prop :=
  ((cooldownFor config autoAttempts).toNat : Int) ≤ secondsSince metadata.blockedAt now

/-- The task holds up a queued one and may be retried now. -/
def Eligible (env : Environment) (config : AutoRecoveryConfig) (now : Timestamp) (s : RecoveryWorld) (id : String) :
    Prop :=
  HoldsUp env s.workspace id ∧ ∃ metadata, loadBlockedTaskMetadata s id = some metadata ∧
    metadata.allowsAutoRequeue = true ∧ autoRequeues s.workspace id < config.maxAutoRequeuesPerWorkItem ∧
    CooldownPassed config metadata (autoRequeues s.workspace id) now

/-- The cycle returns this task, which it has moved back to the queue. -/
def HandsBack (env : Environment) (config : AutoRecoveryConfig) (now : Timestamp) (s : RecoveryWorld) (id : String) :
    Prop :=
  Returns s (attemptStrandedDependencyAutoRecovery env config now) fun found t =>
    ∃ result, found = some result ∧ result.taskId = id ∧ MovedBack s.workspace t.workspace id

/-- The operations of a cycle that must go through: two listings, and those of the retry. -/
def cycleOperations : List Nat := [0, 1, 3, 5, 6, 7, 9, 11, 12, 13, 14, 15]

/-- The first task by id that holds up a queued one may be retried, and nothing stands in its way: it lies in no other
queue, its log can be read or no wait is configured for a first attempt, and no operation on the files fails. -/
structure FirstServed (env : Environment) (config : AutoRecoveryConfig) (now : Timestamp) (s : RecoveryWorld)
    (id : String) : Prop where
  eligible : Eligible env config now s id
  unfinished : id ∉ doneIds s.workspace
  first : ∀ other, HoldsUp env s.workspace other → other ∉ doneIds s.workspace → id ≤ other
  safe : SafeIdentifier id
  only : OnlyBlocked s.workspace id
  counting : Passes env s.queue 2 ∨ ∀ metadata, loadBlockedTaskMetadata s id = some metadata →
    autoRecoveryCooldownActive config metadata 0 now = false
  passes : ∀ n ∈ cycleOperations, Passes env s.queue n

/-- Of the tasks that hold up queued ones, the one with the first id. -/
theorem first_stranded {id : String} {parts : CandidateParts} {w : Workspace}
    (head : Sorting.first idOrder (stranded env w).compatible = some (id, parts)) :
    (HoldsUp env w id ∧ id ∉ doneIds w) ∧ ∀ other, HoldsUp env w other → other ∉ doneIds w → id ≤ other := by
  constructor
  · exact mem_stranded.mp (List.mem_map_of_mem (Sorting.first_mem head))
  · intro other holds unfinished
    obtain ⟨candidate, member, rfl⟩ := List.mem_map.mp (mem_stranded.mpr ⟨holds, unfinished⟩)
    exact of_decide_eq_true (Sorting.first_le idOrder_trans idOrder_total head candidate member)

/-- The retry of the task can go through, as `recoverCandidate` goes through it. -/
structure Retried (env : Environment) (config : AutoRecoveryConfig) (now : Timestamp) (s : RecoveryWorld)
    (id : String) : Prop where
  metadata : ∃ metadata, loadBlockedTaskMetadata s id = some metadata ∧ metadata.allowsAutoRequeue = true ∧
    counted env s id < config.maxAutoRequeuesPerWorkItem ∧
    autoRecoveryCooldownActive config metadata (counted env s id) now = false
  within : counted env (s.advance 2) id < config.maxAutoRequeuesPerWorkItem
  only : OnlyBlocked s.workspace id
  passes : ∀ n ∈ recoverOperations, Passes env s.queue n

omit [Rfc3339] in
theorem idle_runs {snapshot : RecoverySnapshot} (idle : mayRecover config snapshot = true) :
    snapshot.activeRunsByPlane = [] := by
  simp only [mayRecover, Bool.and_eq_true] at idle
  exact List.isEmpty_iff.mp idle.2

/-- What a retry asks for, for a candidate of a compatible root. -/
theorem returns_recoverKnown {id moving : String} {parts : CandidateParts} (known : Known env s.workspace id parts)
    (safe : SafeIdentifier id) (idle : s.snapshot.activeRunsByPlane = []) :
    Returns s (recoverCandidate env config now (candidateOf s id parts true)) (fun found t =>
        ∃ result, found = some result ∧ result.taskId = moving ∧ MovedBack s.workspace t.workspace moving) ↔
      id = moving ∧ Retried env config now s moving := by
  obtain ⟨task, read, rooted⟩ := known.blocked
  rw [returns_recoverCandidate rfl (known.described true) safe idle (toOption_eq_some.mp read) rooted rfl]
  refine and_congr_right fun _ => ?_
  constructor
  · rintro ⟨metadata, loaded, allows, within, cooled, again, only, passes⟩
    exact ⟨⟨metadata, loaded, allows, within, cooled⟩, again, only, passes⟩
  · rintro ⟨⟨metadata, loaded, allows, within, cooled⟩, again, only, passes⟩
    exact ⟨metadata, loaded, allows, within, cooled, again, only, passes⟩

/-- A candidate of another root is never handed back. -/
theorem returns_recoverOther {candidate : AutoRecoveryCandidate} (other : candidate.lineageCompatible = false)
    {Q : BlockedTaskRequeueResult → RecoveryWorld → Prop} :
    ¬ Returns s (recoverCandidate env config now candidate) fun found t => ∃ result, found = some result ∧ Q result t := by
  unfold recoverCandidate
  simp only [other, Bool.false_eq_true, not_false_eq_true, if_true]
  exact returns_skip

theorem handsBack_iff (idle : mayRecover config s.snapshot = true) {moving : String} :
    HandsBack env config now s moving ↔ Passes env s.queue 0 ∧ Passes env s.queue 1 ∧
      (∃ parts, Sorting.first idOrder (stranded env s.workspace).compatible = some (moving, parts)) ∧
      SafeIdentifier moving ∧ Retried env config now (s.advance 2) moving := by
  have known : AllKnown env s.workspace (stranded env s.workspace).compatible := stranded_spec.1
  have others : AllKnown env s.workspace (stranded env s.workspace).incompatible := stranded_spec.2.1
  unfold HandsBack attemptStrandedDependencyAutoRecovery
  rw [returns_bind, returns_get, returns_ite, returns_ite]
  simp only [idle, not_true_eq_false, false_implies, not_false_eq_true, true_implies, true_and]
  by_cases empty : s.snapshot.queueDepthExecution = 0 ∧ countMarkdownFiles s.workspace ⟨.task, .queue, none⟩ = 0
  · -- without queued tasks nothing is held up
    apply iff_of_false
    · rintro ⟨nothing, -⟩
      obtain ⟨_, ⟨⟩, _⟩ := returns_pure.mp (nothing empty)
    · rintro ⟨-, -, ⟨parts, head⟩, -⟩
      obtain ⟨⟨⟨path, member, -⟩, -⟩, -⟩ := first_stranded head
      rw [List.eq_nil_of_length_eq_zero empty.2] at member
      cases member
  · simp only [empty, false_implies, not_false_eq_true, true_implies, true_and]
    rw [returns_bind, returns_findAutoRecoveryCandidate, returns_bind,
      returns_buildAutoRecoveryCandidate (s := s.advance 2) known]
    refine and_congr_right fun _ => and_congr_right fun _ => ?_
    constructor
    · rintro (⟨-, incompatible⟩ | ⟨id, parts, head, safe, compatible⟩)
      · dsimp only at incompatible
        rw [returns_buildAutoRecoveryCandidate (s := s.advance 2) others] at incompatible
        rcases incompatible with ⟨-, none⟩ | ⟨id, parts, -, -, other⟩
        · obtain ⟨_, ⟨⟩, _⟩ := returns_pure.mp none
        · exact absurd other (returns_recoverOther rfl)
      · dsimp only at compatible
        rw [returns_pure] at compatible
        obtain ⟨rfl, retried⟩ := (returns_recoverKnown (s := s.advance 2) (known _ (Sorting.first_mem head)) safe
          (idle_runs idle)).mp compatible
        exact ⟨⟨parts, head⟩, safe, retried⟩
    · rintro ⟨⟨parts, head⟩, safe, retried⟩
      exact Or.inr ⟨moving, parts, head, safe, returns_pure.mpr ((returns_recoverKnown (s := s.advance 2)
        (known _ (Sorting.first_mem head)) safe (idle_runs idle)).mpr ⟨rfl, retried⟩)⟩

/-! ### When every candidate is found -/

omit [Rfc3339] in
theorem le_toInt64 (n : UInt64) : n.toInt64.toInt ≤ n.toNat := by
  show n.toBitVec.toInt ≤ n.toBitVec.toNat
  rw [BitVec.toInt_eq_toNat_cond]
  split <;> omega

theorem CooldownPassed.inactive {metadata : BlockedItemMetadata} {attempts : Nat}
    (passed : CooldownPassed config metadata attempts now) :
    autoRecoveryCooldownActive config metadata attempts now = false := by
  have bound := le_toInt64 (cooldownFor config attempts)
  unfold CooldownPassed at passed
  simp only [autoRecoveryCooldownActive, decide_eq_false_iff_not]
  omega

/-- The wait is over, also where the log cannot be read and the attempt passes for the first one. -/
theorem FirstServed.cooled {id : String} (served : FirstServed env config now s id) {metadata : BlockedItemMetadata}
    (loaded : loadBlockedTaskMetadata s id = some metadata)
    (passed : CooldownPassed config metadata (autoRequeues s.workspace id) now) :
    autoRecoveryCooldownActive config metadata (counted env (s.advance 2) id) now = false := by
  unfold counted
  split
  next => exact passed.inactive
  next unreadable => exact (served.counting.resolve_left unreadable) metadata loaded

theorem FirstServed.handsBack {id : String} (idle : mayRecover config s.snapshot = true)
    (served : FirstServed env config now s id) : HandsBack env config now s id := by
  obtain ⟨holdsUp, metadata, loaded, allows, budget, passed⟩ := served.eligible
  have within (n : Nat) : counted env (s.advance n) id < config.maxAutoRequeuesPerWorkItem :=
    (counted_le id).trans_lt budget
  rw [handsBack_iff idle]
  refine ⟨served.passes 0 (by decide), served.passes 1 (by decide), ?_, served.safe, ?_⟩
  · have member := mem_stranded.mpr ⟨holdsUp, served.unfinished⟩
    cases head : Sorting.first idOrder (stranded env s.workspace).compatible with
    | none =>
      rw [Sorting.first_eq_none.mp head] at member
      cases member
    | some least =>
      obtain ⟨other, parts⟩ := least
      obtain ⟨⟨otherHolds, otherUnfinished⟩, least⟩ := first_stranded head
      have same : other = id :=
        le_antisymm (least id holdsUp served.unfinished) (served.first other otherHolds otherUnfinished)
      exact ⟨parts, by rw [same]⟩
  · refine ⟨⟨metadata, loaded, allows, within 2, served.cooled loaded passed⟩, within 4, served.only, ?_⟩
    intro n listed
    have shifted : n + 2 ∈ cycleOperations := by
      revert n
      decide
    have passes := served.passes (n + 2) shifted
    unfold Passes at passes ⊢
    rwa [advance_step, Nat.add_assoc, Nat.add_comm 2 n]

theorem FirstServed.of_handsBack {id : String} (idle : mayRecover config s.snapshot = true)
    (eligible : Eligible env config now s id) (handed : HandsBack env config now s id) :
    FirstServed env config now s id := by
  obtain ⟨first, second, ⟨parts, head⟩, safe, retried⟩ := (handsBack_iff idle).mp handed
  obtain ⟨⟨-, unfinished⟩, least⟩ := first_stranded head
  obtain ⟨metadata, loaded, -, -, cooled⟩ := retried.metadata
  refine ⟨eligible, unfinished, least, safe, retried.only, ?_, ?_⟩
  · by_cases readable : Passes env s.queue 2
    · exact Or.inl readable
    · right
      intro found foundLoaded
      obtain rfl := Option.some.inj (loaded.symm.trans foundLoaded)
      have uncounted : counted env (s.advance 2) id = 0 := if_neg readable
      rwa [uncounted] at cooled
  · have later {n : Nat} (listed : n ∈ recoverOperations) : Passes env s.queue (n + 2) := by
      have passes := retried.passes n listed
      unfold Passes at passes ⊢
      rwa [advance_step, Nat.add_assoc, Nat.add_comm 2 n] at passes
    simp only [cycleOperations, List.forall_mem_cons]
    exact ⟨first, second, later (n := 1) (by decide), later (n := 3) (by decide), later (n := 4) (by decide),
      later (n := 5) (by decide), later (n := 7) (by decide), later (n := 9) (by decide), later (n := 10) (by decide),
      later (n := 11) (by decide), later (n := 12) (by decide), later (n := 13) (by decide), nofun⟩

theorem eligible_handed_back_iff (idle : mayRecover config s.snapshot = true) :
    ((∃ id, Eligible env config now s id) → ∃ id, Eligible env config now s id ∧ HandsBack env config now s id) ↔
      (∀ id, ¬ Eligible env config now s id) ∨ ∃ id, FirstServed env config now s id := by
  constructor
  · intro found
    by_cases some : ∃ id, Eligible env config now s id
    · obtain ⟨id, eligible, handed⟩ := found some
      exact Or.inr ⟨id, .of_handsBack idle eligible handed⟩
    · exact Or.inl (not_exists.mp some)
  · rintro (none | ⟨id, served⟩) ⟨other, eligible⟩
    · exact absurd eligible (none other)
    · exact ⟨id, served.eligible, served.handsBack idle⟩

end Cycle

end

/-! ## Two blocked tasks -/

section Concrete

local instance zonesOfStranded : Rfc3339 := twoZones

/-- A queued task that waits for two blocked ones. -/
def stalledTasks : Workspace :=
  ((Workspace.empty.insert (taskPath .blocked "a") (renderTaskDocument (plainTask "a" [] inAthens))).insert
    (taskPath .blocked "b") (renderTaskDocument (plainTask "b" [] inAthens))).insert (taskPath .queue "c")
      (renderTaskDocument (plainTask "c" ["a", "b"] inAthens))

theorem stalledTasks_file (state : ItemState) (taskId : String) : stalledTasks.file (taskPath state taskId) =
    if state = .queue ∧ taskId = "c" then some (renderTaskDocument (plainTask "c" ["a", "b"] inAthens))
    else if state = .blocked ∧ taskId = "b" then some (renderTaskDocument (plainTask "b" [] inAthens))
    else if state = .blocked ∧ taskId = "a" then some (renderTaskDocument (plainTask "a" [] inAthens))
    else none := by
  unfold stalledTasks
  rw [Workspace.file_insert_task, Workspace.file_insert_task, Workspace.file_insert_task, Workspace.file_empty]

theorem readTask_plain {env : Environment} {w : Workspace} {state : ItemState} {taskId : String} {dependsOn : List String}
    (file : w.file (taskPath state taskId) = some (renderTaskDocument (plainTask taskId dependsOn inAthens)))
    (safe : (plainTask taskId dependsOn inAthens).validate = .ok ()) (inline : InlineRelationships dependsOn) :
    readTaskDocumentOrNone env w (taskPath state taskId) = some (plainTask taskId dependsOn inAthens) := by
  unfold readTaskDocumentOrNone readTaskDocument
  rw [file]
  dsimp only
  rw [parseTaskDocument_render (plainTask_valid safe) (plainTask_canonical (by decide) inline)]
  rfl

/-- The network failed while the second task ran; nothing is known of the failure of the first one. -/
def networkFailure : BlockedItemMetadata where
  workItemId := "b"
  rootSpecId := none
  rootIdeaId := none
  blockedAt := inAthens
  failureClass := "network_unavailable"
  autoRequeueCandidate := true
  sourceRunId := none
  sourcePlane := none
  sourceStage := none
  terminalResult := none
  stageResultPath := none
  stdoutPath := none
  stderrPath := none

def stalled : RecoveryWorld where
  queue := ⟨stalledTasks, 0⟩
  metadata taskId := if taskId = "b" then some networkFailure else none
  snapshot := ⟨false, false, [], 1, 0, 0⟩
  saved := none
  diagnostics := []
  events := []

theorem stalled_holdsUp {id : String} (blocked : stalledTasks.file (taskPath .blocked id) =
      some (renderTaskDocument (plainTask id [] inAthens))) (listed : id ∈ ["a", "b"]) :
    HoldsUp calmEnvironment stalled.workspace id := by
  have queued : stalledTasks.file (taskPath .queue "c") = some (renderTaskDocument (plainTask "c" ["a", "b"] inAthens)) := by
    rw [stalledTasks_file]
    rfl
  have safe : ∀ blockedId ∈ ["a", "b"], (plainTask blockedId [] inAthens).validate = .ok () := by decide
  refine ⟨taskPath .queue "c", ?_, plainTask "c" ["a", "b"] inAthens, ?_, listed, _, readTask_plain blocked (safe id listed) (by decide), rfl⟩
  · exact (Workspace.mem_markdownFiles _ _ _).mpr ⟨rfl, by rw [show stalled.workspace = stalledTasks from rfl, queued]; rfl⟩
  · exact readTask_plain queued (by decide) (by decide)

theorem stalled_eligible : Eligible calmEnvironment .standard inLondon stalled "b" := by
  refine ⟨stalled_holdsUp (by rw [stalledTasks_file]; rfl) (by decide), networkFailure, by decide, by decide, by decide, ?_⟩
  unfold CooldownPassed
  decide

theorem eligible_handed_back_stalled :
    ((∃ id, Eligible calmEnvironment .standard inLondon stalled id) →
        ∃ id, Eligible calmEnvironment .standard inLondon stalled id ∧
          HandsBack calmEnvironment .standard inLondon stalled id) ↔
      (∀ id, ¬ Eligible calmEnvironment .standard inLondon stalled id) ∨
        ∃ id, FirstServed calmEnvironment .standard inLondon stalled id :=
  eligible_handed_back_iff (by decide)

/-- The second task may be retried, but the daemon looks at the first one and leaves both blocked. -/
theorem hidden_candidate_left_blocked :
    ¬ ∀ (env : Environment) (config : AutoRecoveryConfig) (now : Timestamp) (s : RecoveryWorld),
      mayRecover config s.snapshot = true → (∃ id, Eligible env config now s id) →
        ∃ id, Eligible env config now s id ∧ HandsBack env config now s id := by
  intro found
  obtain ⟨id, eligible, handed⟩ := found calmEnvironment .standard inLondon stalled (by decide) ⟨"b", stalled_eligible⟩
  have served := FirstServed.of_handsBack (by decide) eligible handed
  have before : id ≤ "a" := by
    refine served.first "a" (stalled_holdsUp (by rw [stalledTasks_file]; rfl) (by decide)) ?_
    intro done
    obtain ⟨⟨directory, stem⟩, member, rfl⟩ := List.mem_map.mp done
    obtain ⟨rfl, there⟩ := (Workspace.mem_markdownFiles _ _ _).mp member
    have unknown : stalledTasks.file (taskPath .done "a") = none := by
      rw [stalledTasks_file]
      rfl
    cases (congrArg Option.isSome unknown).symm.trans there
  obtain ⟨-, metadata, loaded, -⟩ := eligible
  have second : id = "b" := by
    by_contra other
    have none : loadBlockedTaskMetadata stalled id = none := by
      simp [loadBlockedTaskMetadata, stalled, other]
    rw [none] at loaded
    cases loaded
  revert before
  rw [second]
  decide

end Concrete

end Millrace.Recovery
