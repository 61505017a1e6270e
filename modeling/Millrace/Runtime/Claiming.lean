import Millrace.Runtime.Activation

/-! What a claim makes active, when it hands out an item and when it fails. -/

set_option autoImplicit false

namespace Millrace.Activation
open Millrace.Text Millrace.Contracts Millrace.WorkDocuments Millrace.Action Millrace.Queue Millrace.Blueprints
open Millrace.Planning (Selector PlanningClaim activePath ActiveWithin StartsNothing)
open Millrace.Runtime (EntryPlan)

section Files
variable [Rfc3339]

/-! ## Active files -/

/-- A file in the active directory of its kind. -/
inductive ActiveFile (files : DraftWorld) : WorkItemKind → String → Prop where
  | document {kind : WorkItemKind} {stem : String} (family : kind ≠ .blueprintDraft)
    (there : (files.world.workspace.file (activePath kind stem)).isSome) : ActiveFile files kind stem
  | draft {stem : String} (there : (files.file ⟨.active, stem⟩).isSome) : ActiveFile files .blueprintDraft stem

/-- A file of the plane has become active. -/
inductive Starts (plane : Plane) (s t : DraftWorld) : Prop where
  | mk (kind : WorkItemKind) (stem : String) (ofPlane : planeForBuiltinKind kind = plane)
    (before : ¬ActiveFile s kind stem) (now : ActiveFile t kind stem) : Starts plane s t

/-- Nothing has become active, and no draft was touched. -/
structure Still (s t : DraftWorld) : Prop where
  active : ActiveWithin s.world.workspace t.world.workspace
  drafts : t.drafts = s.drafts
  removals : t.removals = s.removals

theorem Still.of_same {s t : DraftWorld} (same : SameFiles s t) : Still s t :=
  ⟨same.workspace ▸ .refl _, same.drafts, same.removals⟩

theorem Still.trans {s t u : DraftWorld} (first : Still s t) (second : Still t u) : Still s u :=
  ⟨fun kind stem there => first.active kind stem (second.active kind stem there), second.drafts.trans first.drafts,
    second.removals.trans first.removals⟩

theorem Still.within {s t : DraftWorld} (still : Still s t) {kind : WorkItemKind} {stem : String}
    (active : ActiveFile t kind stem) : ActiveFile s kind stem := by
  cases active with
  | document family there => exact .document family (still.active _ _ there)
  | draft there =>
    unfold DraftWorld.file at there
    rw [still.drafts] at there
    exact .draft there

end Files

/-! ## Claims of documents -/

section Documents
variable [Rfc3339] {env : Environment} {s : World}

/-- Nothing becomes active unless a claim is handed out, and then a document of one of the families is. -/
def Fetches (families : List WorkItemKind) (x : StoreM (Option QueueClaim)) : Prop :=
  ∀ s : World, Ensues s x
    (fun claim t => (claim = none → ActiveWithin s.workspace t.workspace) ∧
      (claim ≠ none → ∃ kind ∈ families, ∃ stem, (t.workspace.file (activePath kind stem)).isSome))
    fun _ t => ActiveWithin s.workspace t.workspace

theorem startsNothing_ensues {α : Type} {x : StoreM α} (starts : StartsNothing x) {before : Workspace}
    (within : ActiveWithin before s.workspace) :
    Ensues s x (fun _ t => ActiveWithin before t.workspace) fun _ t => ActiveWithin before t.workspace :=
  Holds.given (fun _ same => same ▸ within) (starts before)

theorem Fetches.bind {α : Type} {families : List WorkItemKind} {x : StoreM α} {f : α → StoreM (Option QueueClaim)}
    (first : StartsNothing x) (rest : ∀ a, Fetches families (f a)) : Fetches families (x >>= f) := by
  intro s
  apply Ensues.bind (startsNothing_ensues first (.refl s.workspace))
  intro a t within
  apply (rest a t).weaken
  · exact fun _ _ ends => ⟨fun none kind stem there => within kind stem (ends.1 none kind stem there), ends.2⟩
  · exact fun _ _ later kind stem there => within kind stem (later kind stem there)

theorem Fetches.nothing (families : List WorkItemKind) : Fetches families (return none) :=
  fun _ => .pure ⟨fun _ => .refl _, fun claimed => absurd rfl claimed⟩

theorem Fetches.throw (families : List WorkItemKind) (error : QueueStoreError) :
    Fetches families (MonadExcept.throw error) := fun _ => .throw (.refl _)

theorem rename_present (source destination : DocumentPath) : Ensues s (rename env source destination)
    (fun _ t => (t.workspace.file destination).isSome) fun _ t => t.workspace = s.workspace := by
  unfold rename
  apply (fileOperation_ensues (fun _ _ _ => rfl) _).reads
  intro _ _
  apply currentWorkspace_ensues.reads
  rintro _ rfl
  cases s.tick.workspace.file source with
  | none => exact .throw rfl
  | some raw =>
    apply (modifyWorkspace_ensues _).weaken
    · rintro _ _ rfl
      show ((((s.workspace.erase source).insert destination raw)).file destination).isSome
      rw [Workspace.file_insert, if_pos rfl]
      rfl
    · exact fun _ _ same => same

theorem Fetches.rename {families : List WorkItemKind} {kind : WorkItemKind} (family : kind ∈ families)
    (source : DocumentPath) (stem : String) (claim : QueueClaim) : Fetches families (do
      Queue.rename env source (activePath kind stem)
      return some claim) := by
  intro s
  apply Ensues.bind ((rename_present source _).weaken (fun _ _ ends => ends) fun _ _ same => same ▸ .refl _)
  exact fun _ _ there => .pure ⟨nofun, fun _ => ⟨kind, family, stem, there⟩⟩

theorem readIfPresent_startsNothing (path : DocumentPath) : StartsNothing (readIfPresent env path) :=
  .bind (Planning.fileOperation_startsNothing env _) fun _ => .of_reads (.bind currentWorkspace_reads fun _ => .pure _)

theorem listMarkdownFiles_startsNothing (d : Directory) : StartsNothing (listMarkdownFiles env d) :=
  .bind (Planning.fileOperation_startsNothing env _) fun _ => .of_reads (.bind currentWorkspace_reads fun _ => .pure _)

/-! ### Selections -/

theorem collect_startsNothing (selector : Selector) (rootSpecId : Option String) (paths : List DocumentPath) :
    StartsNothing (selector.collect env rootSpecId paths) := by
  induction paths with
  | nil => exact .pure _
  | cons path rest ih =>
    apply StartsNothing.bind
    · apply StartsNothing.bind (readIfPresent_startsNothing path)
      rintro (_ | raw)
      · exact .pure _
      dsimp only
      split
      · exact .bind (Planning.quarantineInvalidArtifact_startsNothing env _ _) fun _ => .pure _
      · split
        · exact .bind (Planning.quarantineInvalidArtifact_startsNothing env _ _) fun _ => .pure _
        · split
          · exact .pure _
          · exact .pure _
    · exact fun _ => .bind ih fun _ => .pure _

theorem selectOldest_startsNothing (selector : Selector) (rootSpecId : Option String) :
    StartsNothing (selector.selectOldest env rootSpecId) :=
  .bind (listMarkdownFiles_startsNothing _) fun _ => .bind (collect_startsNothing selector _ _) fun _ => .pure _

theorem collectCandidates_startsNothing (completed : List String) (rootSpecId : Option String)
    (paths : List DocumentPath) : StartsNothing (collectCandidates env completed rootSpecId paths) := by
  induction paths with
  | nil => exact .pure _
  | cons path rest ih =>
    apply StartsNothing.bind
    · apply StartsNothing.bind (readIfPresent_startsNothing path)
      rintro (_ | raw)
      · exact .pure _
      dsimp only
      split
      · exact .bind (Planning.quarantineInvalidArtifact_startsNothing env _ _) fun _ => .pure _
      · split
        · exact .bind (Planning.quarantineInvalidArtifact_startsNothing env _ _) fun _ => .pure _
        · split
          · exact .pure _
          · exact .pure _
    · exact fun _ => .bind ih fun _ => .pure _

theorem selectOldestEligibleTask_startsNothing (rootSpecId : Option String) :
    StartsNothing (selectOldestEligibleTask env rootSpecId) :=
  .bind (listMarkdownFiles_startsNothing _) fun _ => .bind (listMarkdownFiles_startsNothing _) fun _ =>
    .bind (collectCandidates_startsNothing _ _ _) fun _ => .pure _

/-! ### Claims of documents -/

/-- A claim is handed out only where no file of the family is active. -/
theorem Fetches.whereIdle {kind : WorkItemKind} {rest : StoreM (Option QueueClaim)} (fetches : Fetches [kind] rest)
    (error : QueueStoreError) : Ensues s (do
        let active ← listMarkdownFiles env ⟨kind, .active, none⟩
        refuseIf (active.length > 1) error
        if active ≠ [] then return none else rest)
      (fun claim t => (claim = none → ActiveWithin s.workspace t.workspace) ∧ (claim ≠ none → ∃ stem,
        s.workspace.file (activePath kind stem) = none ∧ (t.workspace.file (activePath kind stem)).isSome))
      fun _ t => ActiveWithin s.workspace t.workspace := by
  have listed : Ensues s (listMarkdownFiles env ⟨kind, .active, none⟩)
      (fun paths t => paths = s.workspace.markdownFiles ⟨kind, .active, none⟩ ∧ t = s.tick)
      fun _ t => ActiveWithin s.workspace t.workspace := by
    unfold listMarkdownFiles
    apply (fileOperation_ensues (fun _ _ _ => .refl _) _).reads
    intro _ _
    apply currentWorkspace_ensues.reads
    rintro _ rfl
    exact .pure ⟨rfl, rfl⟩
  apply listed.reads
  rintro _ rfl
  have start : ActiveWithin s.workspace s.tick.workspace := .refl _
  apply Ensues.bind (startsNothing_ensues (Planning.refuseIf_startsNothing _ error) start)
  intro _ t within
  apply Ensues.ite
  · exact fun _ => .pure ⟨fun _ => within, fun claimed => absurd rfl claimed⟩
  intro none
  have idle := Planning.markdownFiles_eq_nil.mp (not_not.mp none)
  apply (fetches t).weaken
  · intro claim u ends
    refine ⟨fun unclaimed kind stem there => within kind stem (ends.1 unclaimed kind stem there), fun claimed => ?_⟩
    obtain ⟨kind', family, stem, there⟩ := ends.2 claimed
    obtain rfl := List.mem_singleton.mp family
    exact ⟨stem, idle stem, there⟩
  · exact fun _ _ later kind stem there => within kind stem (later kind stem there)

theorem selectedTask_fetches (rootSpecId : Option String) : Fetches [.task] (do
    match ← selectOldestEligibleTask env rootSpecId with
    | none => return none
    | some candidate =>
      rename env candidate.path (taskPath .active candidate.path.stem)
      return some { QueueClaim.forBuiltin .task candidate.taskId (taskPath .active candidate.path.stem) with
        sourceState := some "queue"
        sourcePath := some candidate.path
        claimPolicyId := some "execution.default"
        claimOrder := some 0 }) := by
  apply Fetches.bind (selectOldestEligibleTask_startsNothing _)
  rintro (_ | candidate)
  · exact .nothing _
  · exact .rename (List.mem_singleton_self _) _ _ _

theorem claimNextExecutionTask_claims (rootSpecId : Option String) :
    Ensues s (claimNextExecutionTask env rootSpecId)
      (fun claim t => (claim = none → ActiveWithin s.workspace t.workspace) ∧ (claim ≠ none → ∃ stem,
        s.workspace.file (activePath .task stem) = none ∧ (t.workspace.file (activePath .task stem)).isSome))
      fun _ t => ActiveWithin s.workspace t.workspace :=
  (selectedTask_fetches rootSpecId).whereIdle _

end Documents

/-! ## Claims for a plane -/

section Claims
variable [Rfc3339] [json : SerdeJson] {env : DraftEnvironment} {s : DraftWorld}

theorem claimNextLearningRequest_claims {s : World} :
    Ensues s (claimNextLearningRequest env)
      (fun claim t => (claim = none → ActiveWithin s.workspace t.workspace) ∧ (claim ≠ none → ∃ stem,
        s.workspace.file (activePath .learningRequest stem) = none ∧
          (t.workspace.file (activePath .learningRequest stem)).isSome))
      fun _ t => ActiveWithin s.workspace t.workspace := by
  unfold claimNextLearningRequest
  apply Fetches.whereIdle
  apply Fetches.bind (selectOldest_startsNothing learningRequestSelector none)
  rintro (_ | candidate)
  · exact .nothing _
  · exact .rename (List.mem_singleton_self _) _ _ _

/-- No removal that was asked for has failed. -/
def Removes (env : DraftEnvironment) (s t : DraftWorld) : Prop :=
  ∀ n, s.removals ≤ n → n < t.removals → env.removal n = none

/-- A claim that fails starts nothing, but where a draft was copied and could not be removed from its queue. -/
def Fails (env : DraftEnvironment) (plane : Plane) (s t : DraftWorld) : Prop :=
  (Removes env s t ∧ ∀ kind stem, ActiveFile t kind stem → ActiveFile s kind stem) ∨ (¬Removes env s t ∧ Starts plane s t)

omit json in
theorem Removes.of_same {s t : DraftWorld} (same : t.removals = s.removals) : Removes env s t := by
  intro n above below
  omega

omit json in
theorem Still.fails {s t : DraftWorld} (still : Still s t) (plane : Plane) : Fails env plane s t :=
  .inl ⟨.of_same still.removals, fun _ _ => still.within⟩

omit json in
/-- A claim of one family of documents, as one for the family's plane. -/
theorem onQueue_claims {kind : WorkItemKind} (family : kind ≠ .blueprintDraft) {x : StoreM (Option QueueClaim)}
    (claims : Ensues s.world x
      (fun claim t => (claim = none → ActiveWithin s.world.workspace t.workspace) ∧ (claim ≠ none → ∃ stem,
        s.world.workspace.file (activePath kind stem) = none ∧ (t.workspace.file (activePath kind stem)).isSome))
      fun _ t => ActiveWithin s.world.workspace t.workspace) :
    Ensues s (do return (← onQueue x).map PlanningClaim.document)
      (fun claim t => Removes env s t ∧ (claim ≠ none → Starts (planeForBuiltinKind kind) s t))
      fun _ t => Fails env (planeForBuiltinKind kind) s t := by
  have lifted : Ensues s (onQueue x)
      (fun claim t => Removes env s t ∧ (claim ≠ none → Starts (planeForBuiltinKind kind) s t))
      fun _ t => Fails env (planeForBuiltinKind kind) s t := by
    apply onPart_ensues claims
    · intro claim world ends
      refine ⟨.of_same rfl, fun claimed => ?_⟩
      obtain ⟨stem, before, now⟩ := ends.2 claimed
      refine ⟨kind, stem, rfl, fun active => ?_, .document family now⟩
      cases active with
      | document _ there => exact absurd there (by simp [before])
      | draft => exact family rfl
    · intro _ world within
      have still : Still s { s with world } := ⟨within, rfl, rfl⟩
      exact still.fails _
  apply Ensues.bind lifted
  rintro claim t ⟨removes, starts⟩
  exact .pure ⟨removes, fun claimed => starts (by rintro rfl; exact claimed rfl)⟩

/-! ### Drafts -/

/-- A draft has become active. -/
structure Copied (s t : DraftWorld) (stem : String) : Prop where
  before : s.file ⟨.active, stem⟩ = none
  now : (t.file ⟨.active, stem⟩).isSome

omit json in
theorem claimNextBlueprintDraft_claims (rootSpecId : Option String) : Ensues s (claimNextBlueprintDraft env rootSpecId)
    (fun claim t => (claim = none → SameFiles s t) ∧ (claim ≠ none → Removes env s t ∧ ∃ stem, Copied s t stem))
    fun _ t => SameFiles s t ∨ (¬Removes env s t ∧ ∃ stem, Copied s t stem) := by
  unfold claimNextBlueprintDraft
  apply Ensues.bind ((listJsonFiles_quiet (.refl s) .active).weaken (fun _ _ ends => ends)
    fun _ _ same => .inl same)
  rintro _ t ⟨rfl, same⟩
  apply Ensues.ite
  · exact fun _ => .throw (.inl same)
  intro _
  apply Ensues.ite
  · exact fun _ => .pure ⟨fun _ => same, fun claimed => absurd rfl claimed⟩
  intro _
  apply Ensues.bind ((selectNextEligibleDraft_quiet rootSpecId same).weaken (fun _ _ ends => ends)
    fun _ _ same => .inl same)
  rintro (_ | ⟨draft, source⟩) t ⟨selected, same⟩
  · exact .pure ⟨fun _ => same, fun claimed => absurd rfl claimed⟩
  obtain ⟨placed, -⟩ := selected
  dsimp only at placed ⊢
  subst placed
  apply Ensues.bind ((writeUniqueJsonDocument_ensues same ⟨.active, draft.draftId⟩ _).weaken (fun _ _ ends => ends)
    fun _ _ same => .inl same)
  rintro _ t ⟨rfl, free, written⟩
  have removal {u : DraftWorld} (counted : u.removals = s.removals + 1) :
      Removes env s u ↔ env.removal s.removals = none := by
    constructor
    · exact fun removes => removes _ (le_refl _) (by omega)
    · intro quiet n above below
      rwa [show n = s.removals by omega]
  have copied {u : DraftWorld} (same : SameFiles (s.insert ⟨.active, draft.draftId⟩ { draft with status := .active }).counted u) :
      Copied s u draft.draftId := by
    refine ⟨free, ?_⟩
    rw [same.file, DraftWorld.counted_file, DraftWorld.file_insert, if_pos rfl]
    rfl
  apply Ensues.bind ((removeFile_ensues written ⟨.queue, draft.draftId⟩).weaken (fun _ _ ends => ends) fun _ _ ends =>
    .inr ⟨fun removes => ends.1 ((removal ends.2.removals).mp removes), draft.draftId, copied ends.2⟩)
  rintro _ u ⟨quiet, moved⟩
  refine .pure ⟨nofun, fun _ => ⟨(removal moved.removals).mpr quiet, draft.draftId, free, ?_⟩⟩
  rw [moved.file, DraftWorld.counted_file, DraftWorld.file_erase, if_neg (by simp), DraftWorld.file_insert, if_pos rfl]
  rfl

/-! ### The planes -/

omit json in
/-- A document that a claim took was not active before, as nothing was. -/
theorem starts_of_takes (idle : Planning.Idle s) {selector : Selector} (family : selector.kind ∈ Planning.planningKinds)
    {item : Planning.Queued} {claim : QueueClaim} {t : DraftWorld}
    (takes : Planning.Takes s.world.workspace selector item claim t.world.workspace) : Starts .planning s t := by
  have document : selector.kind ≠ .blueprintDraft := by
    rintro same
    rw [same] at family
    simp [Planning.planningKinds] at family
  refine ⟨selector.kind, item.itemId, ?_, fun active => ?_, .document document takes.activates.1⟩
  · simp only [Planning.planningKinds, List.mem_cons, List.not_mem_nil, or_false] at family
    rcases family with kind | kind | kind <;> (rw [kind]; rfl)
  · generalize selector.kind = kind at family document active
    cases active with
    | document _ there => exact idle (.document _ _) ⟨family, there⟩
    | draft => exact document rfl

omit json in
theorem Still.of_aside {t : DraftWorld}
    (aside : Planning.SetAside env.toEnvironment s.world.workspace t.world.workspace) (drafts : t.drafts = s.drafts)
    (removals : t.removals = s.removals) : Still s t := by
  refine ⟨fun kind stem there => ?_, drafts, removals⟩
  rwa [activePath, aside.active] at there

omit json in
/-- A claim of documents after nothing was found so far. -/
theorem onQueue_claimed {x : StoreM (Option QueueClaim)} {family : List Selector} {rootSpecId : Option String}
    {t : DraftWorld} (still : Still s t)
    (ensues : Ensues t.world x
      (fun claim world => Planning.ClaimedFrom env.toEnvironment s.world.workspace family rootSpecId claim world.workspace)
      (Planning.Aside env.toEnvironment s.world.workspace)) :
    Ensues t (onQueue x)
      (fun claim t' => Planning.ClaimedFrom env.toEnvironment s.world.workspace family rootSpecId claim
        t'.world.workspace ∧ t'.drafts = s.drafts ∧ t'.removals = s.removals)
      fun _ t' => Still s t' := by
  apply onPart_ensues ensues
  · exact fun _ _ claimed => ⟨claimed, still.drafts, still.removals⟩
  · exact fun _ _ aside => .of_aside aside still.drafts still.removals

omit json in
theorem claimNextPlanningItem_claims (rootSpecId : Option String) :
    Ensues s (Planning.claimNextPlanningItem env rootSpecId)
      (fun claim t => Removes env s t ∧ (claim ≠ none → Starts .planning s t)) fun _ t => Fails env .planning s t := by
  have quietly {β : Type} {x : DraftM β} {t : DraftWorld} {Q : β → DraftWorld → Prop}
      (ensues : Ensues t x Q fun _ t' => SameFiles s t') : Ensues t x Q fun _ t' => Fails env .planning s t' :=
    ensues.weaken (fun _ _ ends => ends) fun _ _ same => (Still.of_same same).fails _
  unfold Planning.claimNextPlanningItem
  apply Ensues.bind (quietly (Planning.activePlanningFiles_quiet (.refl s) .spec))
  rintro _ t ⟨rfl, same⟩
  apply Ensues.bind (quietly (Planning.activePlanningFiles_quiet same .probe))
  rintro _ t ⟨rfl, same⟩
  apply Ensues.bind (quietly (Planning.activePlanningFiles_quiet same .incident))
  rintro _ t ⟨rfl, same⟩
  apply Ensues.bind (quietly (listJsonFiles_quiet same .active))
  rintro _ t ⟨rfl, same⟩
  have still : Still s t := .of_same same
  apply Ensues.ite
  · exact fun _ => .throw (still.fails _)
  intro _
  apply Ensues.ite
  · exact fun _ => .pure ⟨.of_same still.removals, fun claimed => absurd rfl claimed⟩
  intro unused
  have idle : Planning.Idle s := Planning.idle_iff.mpr unused
  have aside : Planning.SetAside env.toEnvironment s.world.workspace t.world.workspace :=
    .of_same (by rw [same.workspace])
  apply Ensues.bind ((onQueue_claimed still (Planning.claimIncident_ensues rootSpecId aside)).weaken
    (fun _ _ ends => ends) fun _ _ still => still.fails _)
  rintro (_ | claim) t ⟨claimed, drafts, removals⟩
  · -- no incident is eligible
    have aside := claimed.2
    have still : Still s t := .of_aside aside drafts removals
    have removes {u : DraftWorld} : Removes env s u ↔ Removes env t u := by
      unfold Removes
      rw [removals]
    have starts {u : DraftWorld} {stem : String} (copied : Copied t u stem) : Starts .planning s u := by
      refine ⟨.blueprintDraft, stem, rfl, fun active => ?_, .draft copied.now⟩
      cases active with
      | document family => exact family rfl
      | draft there => exact idle (.draft stem) there
    have failed : ∀ u, SameFiles t u ∨ (¬Removes env t u ∧ ∃ stem, Copied t u stem) → Fails env .planning s u := by
      rintro u (later | ⟨fails, _, copied⟩)
      · exact (still.trans (.of_same later)).fails _
      · exact .inr ⟨fun quiet => fails (removes.mp quiet), starts copied⟩
    apply Ensues.bind ((claimNextBlueprintDraft_claims rootSpecId).weaken (fun _ _ ends => ends) fun _ => failed)
    rintro (_ | claim) u ⟨nothing, claimed⟩
    · have later := nothing rfl
      have still : Still s u := still.trans (.of_same later)
      have aside : Planning.SetAside env.toEnvironment s.world.workspace u.world.workspace := later.workspace ▸ aside
      apply Ensues.bind ((onQueue_claimed still (Planning.claimProbeOrSpec_ensues rootSpecId aside)).weaken
        (fun _ _ ends => ends) fun _ _ still => still.fails _)
      rintro (_ | claim) v ⟨claimed, -, removals⟩
      · exact .pure ⟨.of_same removals, fun claimed => absurd rfl claimed⟩
      · obtain ⟨selector, member, item, -, takes, -⟩ := claimed
        refine .pure ⟨.of_same removals, fun _ => starts_of_takes idle ?_ takes⟩
        simp only [List.mem_cons, List.not_mem_nil, or_false] at member
        rcases member with rfl | rfl <;> simp [Planning.planningKinds, Planning.probeSelector, Planning.specSelector]
    · obtain ⟨quiet, stem, copied⟩ := claimed (Option.some_ne_none claim)
      exact .pure ⟨removes.mpr quiet, fun _ => starts copied⟩
  · obtain ⟨selector, member, item, -, takes, -⟩ := claimed
    obtain rfl := List.mem_singleton.mp member
    exact .pure ⟨.of_same removals, fun _ => starts_of_takes idle (by simp [Planning.planningKinds, Planning.incidentSelector]) takes⟩

/-- A claim for a plane makes a document of the plane active where it hands one out; where it fails, only if a draft
could not be removed from its queue. -/
theorem claimForPlane_claims (plan : EntryPlan) (plane : Plane) (rootSpecId : Option String) :
    Ensues s (claimForPlane env plan plane rootSpecId)
      (fun claim t => Removes env s t ∧ (claim ≠ none → Starts plane s t)) fun _ t => Fails env plane s t := by
  cases plane with
  | execution => exact onQueue_claims (by decide) (claimNextExecutionTask_claims rootSpecId)
  | planning => exact claimNextPlanningItem_claims rootSpecId
  | learning =>
    apply Ensues.ite
    · exact fun _ => .pure ⟨.of_same rfl, fun claimed => absurd rfl claimed⟩
    · exact fun _ => onQueue_claims (by decide) claimNextLearningRequest_claims

end Claims

end Millrace.Activation
