import Millrace.Closure.Readiness

/-! When the closure target of a claimed spec is there or is opened, and when that fails. -/

set_option autoImplicit false

namespace Millrace.Closure
open Millrace.Text Millrace.Contracts Millrace.WorkDocuments Millrace.Action

section Opening
variable [Rfc3339]

section
variable (met : Meeting) (targets : List ClosureTargetState) (spec : SpecDocument)

/-- The spec opens a root: it is the root spec of an idea. -/
def OpensRoot : Prop := spec.rootSpecId = some spec.specId ∧ spec.rootIdeaId.isSome = true

/-- No operation in this range fails. -/
def QuietBetween (n m : Nat) : Prop := ∀ k, n ≤ k → k < m → met.fault k = none

/-- The closure target of a spec is there or is opened, by the operations from `n` up to `m`. -/
inductive Opens (n : Nat) : Nat → Prop where
  | unrooted (rootless : ¬OpensRoot spec) : Opens n n
  | known {target : ClosureTargetState} (rooted : OpensRoot spec)
    (found : (targets.find? fun target => target.rootSpecId = spec.specId) = some target)
    (valid : target.validate = .ok ()) (quiet : QuietBetween met n (n + 1)) : Opens n (n + 1)
  | sourceless (rooted : OpensRoot spec) (unknown : ∀ target ∈ targets, target.rootSpecId ≠ spec.specId)
    (contracts : ∀ target ∈ targets, target.validate = .ok ()) (idle : ∀ target ∈ targets, target.actionable = false)
    (missing : met.rootIdeaFound spec = false) (quiet : QuietBetween met n (n + 3)) : Opens n (n + 3)
  | opened (rooted : OpensRoot spec) (unknown : ∀ target ∈ targets, target.rootSpecId ≠ spec.specId)
    (contracts : ∀ target ∈ targets, target.validate = .ok ()) (idle : ∀ target ∈ targets, target.actionable = false)
    (found : met.rootIdeaFound spec = true) (rootSpec : validateIdentifier "root_spec_id" spec.specId = .ok ())
    (rootIdea : ∀ rootIdeaId, spec.rootIdeaId = some rootIdeaId → validateIdentifier "root_idea_id" rootIdeaId = .ok ())
    (quiet : QuietBetween met n (n + 7)) : Opens n (n + 7)

end

variable {met : Meeting} {c : ClosureSession}

theorem fileOperation_asks : Ensues c (fileOperation met)
    (fun _ t => met.fault c.operations = none ∧ t = { c with operations := c.operations + 1 })
    (fun _ t => met.fault c.operations ≠ none ∧ t = { c with operations := c.operations + 1 }) := by
  rintro _ rfl
  rw [fileOperation_run]
  cases fault : met.fault _ with
  | none => exact ⟨rfl, rfl⟩
  | some message => exact ⟨nofun, rfl⟩

theorem checkContract_asks (target : ClosureTargetState) : Ensues c (checkContract target)
    (fun _ t => target.validate = .ok () ∧ t = c) (fun _ t => target.validate ≠ .ok () ∧ t = c) := by
  unfold checkContract
  cases target.validate with
  | ok => exact .pure ⟨rfl, rfl⟩
  | error source => exact .throw ⟨nofun, rfl⟩

theorem contracts_asks (targets : List ClosureTargetState) : Ensues c (targets.forM checkContract)
    (fun _ t => (∀ target ∈ targets, target.validate = .ok ()) ∧ t = c)
    (fun _ t => ¬(∀ target ∈ targets, target.validate = .ok ()) ∧ t = c) := by
  induction targets with
  | nil => exact .pure ⟨nofun, rfl⟩
  | cons first rest ih =>
    have head := (checkContract_asks (c := c) first).weaken (fun _ _ ends => ends) fun _ _ (ends : _ ∧ _) =>
      (⟨fun all => ends.1 (all first List.mem_cons_self), ends.2⟩ :
        ¬(∀ target ∈ first :: rest, target.validate = .ok ()) ∧ _ = c)
    apply Ensues.bind head
    rintro _ _ ⟨valid, rfl⟩
    exact ih.weaken (fun _ _ ends => ⟨List.forall_mem_cons.mpr ⟨valid, ends.1⟩, ends.2⟩)
      fun _ _ ends => ⟨fun all => ends.1 (List.forall_mem_cons.mp all).2, ends.2⟩

/-- The target that is actionable can be read off: nothing fails, every contract is met, and there are not two. -/
structure FindsActive (met : Meeting) (c : ClosureSession) (found : Option ClosureTargetState) : Prop where
  quiet : met.fault c.operations = none
  contracts : ∀ target ∈ c.targets, target.validate = .ok ()
  active : IsActive c found

theorem activeClosureTarget_asks : Ensues c (activeClosureTarget met)
    (fun found t => FindsActive met c found ∧ t = { c with operations := c.operations + 1 })
    (fun _ t => (∀ found, ¬FindsActive met c found) ∧ t = { c with operations := c.operations + 1 }) := by
  unfold activeClosureTarget openClosureTargets
  simp only [bind_assoc]
  apply Ensues.bind (fileOperation_asks.weaken (fun _ _ ends => ends)
    fun _ _ ends => ⟨fun found finds => ends.1 finds.quiet, ends.2⟩)
  rintro _ _ ⟨quiet, rfl⟩
  apply Ensues.get
  dsimp only
  apply Ensues.bind ((contracts_asks c.targets).weaken (fun _ _ ends => ends)
    fun _ _ ends => ⟨fun found finds => ends.1 finds.contracts, ends.2⟩)
  rintro _ _ ⟨contracts, rfl⟩
  simp only [pure_bind]
  have same := actionable_perm c.targets
  generalize actionableOpenClosureTargets ((c.targets.filter (·.closureOpen)).mergeSort
    fun a b => decide (a.rootSpecId ≤ b.rootSpecId)) = found at same ⊢
  match found with
  | [] => exact .pure ⟨⟨quiet, contracts, same.nil_eq⟩, rfl⟩
  | [target] => exact .pure ⟨⟨quiet, contracts, List.singleton_perm.mp same⟩, rfl⟩
  | first :: second :: rest =>
    refine .throw ⟨fun found finds => ?_, rfl⟩
    have length := same.length_eq
    rw [← finds.active] at length
    cases found <;> simp at length

theorem refuse_asks (condition : Bool) (message : String) : Ensues c (refuse condition message)
    (fun _ t => condition = false ∧ t = c) (fun _ t => condition = true ∧ t = c) :=
  .ite (fun holds => .throw ⟨holds, rfl⟩) fun fails => .pure ⟨by simpa using fails, rfl⟩

theorem saveClosureTargetState_asks (target : ClosureTargetState) : Ensues c (saveClosureTargetState met target)
    (fun _ t => (target.validate = .ok () ∧ met.fault c.operations = none) ∧ t.operations = c.operations + 1 ∧
      t.snapshot = c.snapshot ∧ t.saved = c.saved)
    (fun _ t => ¬(target.validate = .ok () ∧ met.fault c.operations = none) ∧ t.snapshot = c.snapshot ∧
      t.saved = c.saved) := by
  unfold saveClosureTargetState
  apply Ensues.bind ((checkContract_asks target).weaken (fun _ _ ends => ends)
    fun _ _ (ends : _ ∧ _) => ⟨fun both => ends.1 both.1, ends.2 ▸ rfl, ends.2 ▸ rfl⟩)
  rintro _ _ ⟨valid, rfl⟩
  apply Ensues.bind (fileOperation_asks.weaken (fun _ _ ends => ends)
    fun _ _ (ends : _ ∧ _) => ⟨fun both => ends.1 both.2, ends.2 ▸ rfl, ends.2 ▸ rfl⟩)
  rintro _ _ ⟨quiet, rfl⟩
  rintro _ rfl
  exact ⟨⟨valid, quiet⟩, rfl, rfl, rfl⟩

/-- The state that a search for a spec's target leaves. -/
structure Searched (c t : ClosureSession) : Prop where
  snapshot : t.snapshot = c.snapshot
  saved : t.saved = c.saved

section Inversion
variable {targets : List ClosureTargetState} {spec : SpecDocument} {n m : Nat}

theorem Opens.first (opens : Opens met targets spec n m) (rooted : OpensRoot spec) : met.fault n = none := by
  cases opens with
  | unrooted rootless => exact absurd rooted rootless
  | known _ _ _ quiet => exact quiet n (by omega) (by omega)
  | sourceless _ _ _ _ _ quiet => exact quiet n (by omega) (by omega)
  | opened _ _ _ _ _ _ _ quiet => exact quiet n (by omega) (by omega)

theorem Opens.valid (opens : Opens met targets spec n m) (rooted : OpensRoot spec) {target : ClosureTargetState}
    (found : (targets.find? fun target => target.rootSpecId = spec.specId) = some target) :
    target.validate = .ok () := by
  have known := List.find?_some found
  have member := List.mem_of_find?_eq_some found
  cases opens with
  | unrooted rootless => exact absurd rooted rootless
  | known _ found' valid => exact Option.some.inj (found'.symm.trans found) ▸ valid
  | sourceless _ unknown => exact absurd (by simpa using known) (unknown target member)
  | opened _ unknown => exact absurd (by simpa using known) (unknown target member)

theorem Opens.unique {m' : Nat} (opens : Opens met targets spec n m) (opens' : Opens met targets spec n m') : m = m' := by
  have absent {target : ClosureTargetState} (unknown : ∀ target ∈ targets, target.rootSpecId ≠ spec.specId)
      (found : (targets.find? fun target => target.rootSpecId = spec.specId) = some target) : False :=
    unknown target (List.mem_of_find?_eq_some found) (by simpa using List.find?_some found)
  cases opens with
  | unrooted rootless =>
    cases opens' with
    | unrooted => rfl
    | known rooted | sourceless rooted | opened rooted => exact absurd rooted rootless
  | known rooted found =>
    cases opens' with
    | unrooted rootless => exact absurd rooted rootless
    | known => rfl
    | sourceless _ unknown | opened _ unknown => exact (absent unknown found).elim
  | sourceless rooted unknown _ _ missing =>
    cases opens' with
    | unrooted rootless => exact absurd rooted rootless
    | known _ found => exact (absent unknown found).elim
    | sourceless => rfl
    | opened _ _ _ _ there =>
      rw [missing] at there
      cases there
  | opened rooted unknown _ _ there =>
    cases opens' with
    | unrooted rootless => exact absurd rooted rootless
    | known _ found => exact (absent unknown found).elim
    | sourceless _ _ _ _ missing =>
      rw [missing] at there
      cases there
    | opened => rfl

/-- What opening a target takes where there is none of the root. -/
structure OpensNew (met : Meeting) (targets : List ClosureTargetState) (spec : SpecDocument) (n : Nat) : Prop where
  contracts : ∀ target ∈ targets, target.validate = .ok ()
  idle : ∀ target ∈ targets, target.actionable = false
  quiet : QuietBetween met n (n + 3)
  rootSpec : met.rootIdeaFound spec = true → validateIdentifier "root_spec_id" spec.specId = .ok ()
  rootIdea : met.rootIdeaFound spec = true → ∀ rootIdeaId, spec.rootIdeaId = some rootIdeaId →
    validateIdentifier "root_idea_id" rootIdeaId = .ok ()
  later : met.rootIdeaFound spec = true → QuietBetween met n (n + 7)

theorem Opens.new (opens : Opens met targets spec n m) (rooted : OpensRoot spec)
    (unknown : ∀ target ∈ targets, target.rootSpecId ≠ spec.specId) : OpensNew met targets spec n := by
  cases opens with
  | unrooted rootless => exact absurd rooted rootless
  | known _ found =>
    have known := List.find?_some found
    exact absurd (by simpa using known) (unknown _ (List.mem_of_find?_eq_some found))
  | sourceless _ _ contracts idle missing quiet =>
    refine ⟨contracts, idle, quiet, ?_, ?_, ?_⟩ <;> (intro found; rw [missing] at found; cases found)
  | opened _ _ contracts idle found rootSpec rootIdea quiet =>
    exact ⟨contracts, idle, fun k above below => quiet k above (by omega), fun _ => rootSpec, fun _ => rootIdea,
      fun _ => quiet⟩

end Inversion

omit [Rfc3339] in
theorem opened_valid {target : ClosureTargetState} (closed : target.closedAt = none) (arbiter : target.lastArbiterRunId = none)
    (ids : target.blockingWorkIds = []) (refs : target.blockingWorkRefs = []) :
    target.validate = .ok () ↔ validateIdentifier "root_spec_id" target.rootSpecId = .ok () ∧
      validateIdentifier "root_idea_id" target.rootIdeaId = .ok () := by
  unfold ClosureTargetState.validate
  rw [closed, arbiter, ids, refs]
  constructor
  · intro valid
    obtain ⟨_, rootSpec, valid⟩ := bind_eq_ok.mp valid
    obtain ⟨_, rootIdea, _⟩ := bind_eq_ok.mp valid
    exact ⟨rootSpec, rootIdea⟩
  · intro ⟨rootSpec, rootIdea⟩
    rw [rootSpec, rootIdea]
    rfl

omit [Rfc3339] in
theorem actionable_eq_nil (targets : List ClosureTargetState) :
    actionableOpenClosureTargets ((targets.filter (·.closureOpen)).mergeSort
      fun a b => decide (a.rootSpecId ≤ b.rootSpecId)) = [] ↔ ∀ target ∈ targets, target.actionable = false := by
  constructor
  · exact none_actionable
  · intro idle
    have none : targets.filter (·.actionable) = [] := List.filter_eq_nil_iff.mpr fun target member => by simp [idle target member]
    have same := actionable_perm targets
    rw [none] at same
    exact same.eq_nil

theorem createClosureTargetForRootSpec_asks (spec : SpecDocument) : Ensues c (createClosureTargetForRootSpec met spec)
    (fun _ t => Opens met c.targets spec c.operations t.operations ∧ Searched c t)
    (fun _ t => (∀ m, ¬Opens met c.targets spec c.operations m) ∧ Searched c t) := by
  have searched : ∀ n, Searched c { c with operations := n } := fun n => ⟨rfl, rfl⟩
  -- an operation that fails is one that opening the target takes
  have operation {α : Type} {k : Nat} {f : Unit → ClosureM α} {Q : α → ClosureSession → Prop}
      (needed : ∀ m, Opens met c.targets spec c.operations m → met.fault (c.operations + k) = none)
      (rest : met.fault (c.operations + k) = none → Ensues { c with operations := c.operations + k + 1 } (f ()) Q
        fun _ t => (∀ m, ¬Opens met c.targets spec c.operations m) ∧ Searched c t) :
      Ensues { c with operations := c.operations + k } (fileOperation met >>= f) Q
        fun _ t => (∀ m, ¬Opens met c.targets spec c.operations m) ∧ Searched c t := by
    apply Ensues.bind (fileOperation_asks.weaken (fun _ _ ends => ends) fun _ _ (ends : _ ∧ _) =>
      ⟨fun m opens => ends.1 (needed m opens), ends.2 ▸ searched _⟩)
    rintro _ _ ⟨quiet, rfl⟩
    exact rest quiet
  unfold createClosureTargetForRootSpec
  by_cases rooted : OpensRoot spec
  case neg =>
    have done : Ensues c (return none : ClosureM (Option ClosureTargetState))
        (fun _ t => Opens met c.targets spec c.operations t.operations ∧ Searched c t)
        (fun _ t => (∀ m, ¬Opens met c.targets spec c.operations m) ∧ Searched c t) := .pure ⟨.unrooted rooted, ⟨rfl, rfl⟩⟩
    split
    case h_2 => exact done
    case h_1 rootSpecId rootIdeaId root idea =>
      have other : spec.specId ≠ rootSpecId := fun same => rooted ⟨same ▸ root, by simp [idea]⟩
      rw [if_pos other]
      exact done
  obtain ⟨rootIdeaId, idea⟩ := Option.isSome_iff_exists.mp rooted.2
  rw [rooted.1, idea]
  dsimp only
  rw [if_neg (by simp)]
  unfold findClosureTarget
  simp only [bind_assoc]
  apply operation (k := 0) fun m opens => opens.first rooted
  intro first
  apply Ensues.get
  dsimp only
  cases found : c.targets.find? fun target => target.rootSpecId = spec.specId with
  | some target =>
    simp only [bind_assoc, pure_bind]
    apply Ensues.bind ((checkContract_asks target).weaken (fun _ _ ends => ends) fun _ _ (ends : _ ∧ _) =>
      ⟨fun m opens => ends.1 (opens.valid rooted found), ends.2 ▸ searched _⟩)
    rintro _ _ ⟨valid, rfl⟩
    refine .pure ⟨.known rooted found valid fun k above below => ?_, searched _⟩
    rwa [show k = c.operations by omega]
  | none =>
    have unknown : ∀ target ∈ c.targets, target.rootSpecId ≠ spec.specId := by simpa using found
    have new : ∀ m, Opens met c.targets spec c.operations m → OpensNew met c.targets spec c.operations :=
      fun m opens => opens.new rooted unknown
    simp only [pure_bind]
    unfold openClosureTargets
    simp only [bind_assoc]
    apply operation (k := 1) fun m opens => (new m opens).quiet _ (by omega) (by omega)
    intro second
    apply Ensues.get
    dsimp only
    apply Ensues.bind ((contracts_asks c.targets).weaken (fun _ _ ends => ends) fun _ _ (ends : _ ∧ _) =>
      ⟨fun m opens => ends.1 (new m opens).contracts, ends.2 ▸ searched _⟩)
    rintro _ _ ⟨contracts, rfl⟩
    simp only [pure_bind]
    have idle_iff := actionable_eq_nil c.targets
    generalize actionableOpenClosureTargets ((c.targets.filter (·.closureOpen)).mergeSort
      fun a b => decide (a.rootSpecId ≤ b.rootSpecId)) = actionable at idle_iff ⊢
    apply Ensues.bind ((refuse_asks _ _).weaken (fun _ _ ends => ends) fun _ _ (ends : _ ∧ _) =>
      ⟨fun m opens => absurd ends.1 (by simp [idle_iff.mpr (new m opens).idle]), ends.2 ▸ searched _⟩)
    rintro _ _ ⟨-, rfl⟩
    apply Ensues.bind ((refuse_asks _ _).weaken (fun _ _ ends => ends) fun _ _ (ends : _ ∧ _) =>
      ⟨fun m opens => absurd ends.1 (by simp [idle_iff.mpr (new m opens).idle]), ends.2 ▸ searched _⟩)
    rintro _ _ ⟨unused, rfl⟩
    have idle := idle_iff.mp (by simpa using unused)
    apply operation (k := 2) fun m opens => (new m opens).quiet _ (by omega) (by omega)
    intro third
    cases source : met.rootIdeaFound spec with
    | false =>
      refine .pure ⟨.sourceless rooted unknown contracts idle source fun k above below => ?_, searched _⟩
      rcases (by omega : k = c.operations ∨ k = c.operations + 1 ∨ k = c.operations + 2) with rfl | rfl | rfl
      · exact first
      · exact second
      · exact third
    | true =>
      have late : ∀ m, Opens met c.targets spec c.operations m → ∀ k, k < 7 → met.fault (c.operations + k) = none :=
        fun m opens k small => (new m opens).later source _ (by omega) (by omega)
      simp only [Bool.not_true, Bool.false_eq_true, if_false]
      apply operation (k := 3) fun m opens => late m opens 3 (by omega)
      intro fourth
      apply operation (k := 4) fun m opens => late m opens 4 (by omega)
      intro fifth
      apply operation (k := 5) fun m opens => late m opens 5 (by omega)
      intro sixth
      -- the seventh writes the target, once its identifiers are valid
      have saves (m : Nat) (opens : Opens met c.targets spec c.operations m) :
          (validateIdentifier "root_spec_id" spec.specId = .ok () ∧
            validateIdentifier "root_idea_id" rootIdeaId = .ok ()) ∧ met.fault (c.operations + 6) = none :=
        ⟨⟨(new m opens).rootSpec source, (new m opens).rootIdea source _ idea⟩, late m opens 6 (by omega)⟩
      apply Ensues.bind ((saveClosureTargetState_asks _).weaken (fun _ _ ends => ends)
        fun _ _ (ends : _ ∧ _ ∧ _) => ⟨fun m opens => ends.1 (And.imp_left (opened_valid rfl rfl rfl rfl).mpr (saves m opens)),
          ⟨ends.2.1, ends.2.2⟩⟩)
      rintro _ t ⟨⟨valid, seventh⟩, operations, snapshot, saved⟩
      obtain ⟨rootSpec, rootIdea⟩ := (opened_valid rfl rfl rfl rfl).mp valid
      have quiet : QuietBetween met c.operations (c.operations + 7) := by
        intro k above below
        rcases (by omega : k = c.operations ∨ k = c.operations + 1 ∨ k = c.operations + 2 ∨ k = c.operations + 3 ∨
          k = c.operations + 4 ∨ k = c.operations + 5 ∨ k = c.operations + 6) with
          rfl | rfl | rfl | rfl | rfl | rfl | rfl <;> assumption
      refine .pure ⟨?_, snapshot, saved⟩
      rw [operations]
      exact .opened rooted unknown contracts idle source rootSpec
        (fun other same => Option.some.inj (idea.symm.trans same) ▸ rootIdea) quiet

/-- A claimed spec is read and its closure target is there or is opened, by the operations up to `n`. -/
inductive Provides (met : Meeting) (c : ClosureSession) (claim : ClosureClaim) : Nat → Prop where
  | other (family : claim.workItemKind ≠ .spec) : Provides met c claim c.operations
  | spec {spec : SpecDocument} {n : Nat} (family : claim.workItemKind = .spec) (quiet : met.fault c.operations = none)
    (document : claim.spec = some spec) (opens : Opens met c.targets spec (c.operations + 1) n) : Provides met c claim n

theorem Provides.unique {claim : ClosureClaim} {n n' : Nat} (provides : Provides met c claim n)
    (provides' : Provides met c claim n') : n = n' := by
  rcases provides with other | ⟨family, -, read, opens⟩
  · rcases provides' with - | ⟨family, -, -, -⟩
    · rfl
    · exact absurd family other
  · rcases provides' with other | ⟨-, -, read', opens'⟩
    · exact absurd family other
    · obtain rfl := Option.some.inj (read.symm.trans read')
      exact opens.unique opens'

theorem maybeCreateClosureTargetForClaim_asks (claim : ClosureClaim) :
    Ensues c (maybeCreateClosureTargetForClaim met claim)
      (fun _ t => Provides met c claim t.operations ∧ Searched c t)
      (fun _ t => (∀ n, ¬Provides met c claim n) ∧ Searched c t) := by
  unfold maybeCreateClosureTargetForClaim
  apply Ensues.ite
  · exact fun family => .pure ⟨.other family, rfl, rfl⟩
  intro family
  have family : claim.workItemKind = .spec := by simpa using family
  have quiet_of {n : Nat} (provides : Provides met c claim n) : met.fault c.operations = none := by
    rcases provides with other | ⟨-, quiet, -, -⟩
    · exact absurd family other
    · exact quiet
  apply Ensues.bind (fileOperation_asks.weaken (fun _ _ ends => ends) fun _ _ (ends : _ ∧ _) =>
    ⟨fun n provides => ends.1 (quiet_of provides), ends.2 ▸ ⟨rfl, rfl⟩⟩)
  rintro _ _ ⟨quiet, rfl⟩
  cases document : claim.spec with
  | none =>
    refine .throw ⟨?_, rfl, rfl⟩
    rintro n (other | ⟨-, -, read, -⟩)
    · exact other family
    · exact absurd (document.symm.trans read) nofun
  | some spec =>
    apply (createClosureTargetForRootSpec_asks spec).weaken
    · exact fun _ t ends => ⟨.spec family quiet document ends.1, ends.2.1, ends.2.2⟩
    · intro _ t ends
      refine ⟨?_, ends.2.1, ends.2.2⟩
      rintro n (other | ⟨-, -, read, opens⟩)
      · exact other family
      · obtain rfl := Option.some.inj (document.symm.trans read)
        exact ends.1 n opens

end Opening

end Millrace.Closure
