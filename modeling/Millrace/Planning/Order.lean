import Millrace.Planning.Exclusive
import Millrace.Runs

/-! Which planning item a claim takes, and when a probe or a spec that it takes is the oldest one. -/

set_option autoImplicit false

namespace Millrace.Planning
open Millrace.Text Millrace.Contracts Millrace.WorkDocuments Millrace.Action Millrace.Queue Millrace.Blueprints

section
variable [Rfc3339] {env : DraftEnvironment}

/-! ## Claims of one document -/

section Documents
variable {w : Workspace} {s : World}

/-- One document becomes active, at most. -/
def Activates (w w' : Workspace) (kind : WorkItemKind) (stem : String) : Prop :=
  (w'.file (activePath kind stem)).isSome ∧ ∀ kind' stem', (w'.file (activePath kind' stem')).isSome →
    (w.file (activePath kind' stem')).isSome ∨ (kind' = kind ∧ stem' = stem)

/-- The claim names the document, which is active now. -/
structure Takes (w : Workspace) (selector : Selector) (item : Queued) (claim : QueueClaim) (w' : Workspace) : Prop where
  kind : claim.workItemKind = selector.kind
  itemId : claim.workItemId = item.itemId
  activates : Activates w w' selector.kind item.itemId

theorem claimSelected_ensues {selector : Selector} (known : selector ∈ selectors) {rootSpecId : Option String}
    {item : Queued} (eligible : Eligible env.toEnvironment w selector rootSpecId item)
    (aside : SetAside env.toEnvironment w s.workspace) (sourceState : String) (claimOrder : Nat) :
    Ensues s (claimSelected env (selector.candidate item) sourceState claimOrder)
      (fun claim t => Takes w selector item claim t.workspace) (Aside env.toEnvironment w) := by
  have there := Selector.queued_file ((aside.queued_eq known _).trans eligible.queued)
  obtain ⟨raw, file⟩ := Option.isSome_iff_exists.mp there
  unfold claimSelected
  apply Ensues.bind (rename_ensues (fun _ _ _ => aside) _ file)
  rintro _ t rfl
  refine .pure ⟨rfl, rfl, ?_, fun kind stem there => ?_⟩
  · show (((s.workspace.erase _).insert (activePath selector.kind item.itemId) raw).file _).isSome
    rw [Workspace.file_insert, if_pos rfl]
    rfl
  · change (((s.workspace.erase _).insert (activePath selector.kind item.itemId) raw).file _).isSome at there
    rw [Workspace.file_insert] at there
    split at there
    next same => exact .inr (by simpa [activePath] using same)
    next =>
      rw [Workspace.file_erase] at there
      split at there
      next => cases there
      next =>
        rw [activePath, aside.active] at there
        exact .inl there

/-- What a claim among some families ends in. -/
def ClaimedFrom (env : Environment) (w : Workspace) (family : List Selector) (rootSpecId : Option String) :
    Option QueueClaim → Workspace → Prop
  | none, w' => (∀ selector ∈ family, ∀ item, ¬Eligible env w selector rootSpecId item) ∧ SetAside env w w'
  | some claim, w' => ∃ selector ∈ family, ∃ item, Eligible env w selector rootSpecId item ∧
      Takes w selector item claim w' ∧
      ∀ other ∈ family, ∀ item', Eligible env w other rootSpecId item' → item.timestamp.text ≤ item'.timestamp.text

theorem claimIncident_ensues (rootSpecId : Option String) (aside : SetAside env.toEnvironment w s.workspace) :
    Ensues s (claimIncident env rootSpecId)
      (fun claim t => ClaimedFrom env.toEnvironment w [incidentSelector] rootSpecId claim t.workspace)
      (Aside env.toEnvironment w) := by
  have known : incidentSelector ∈ selectors := by simp [selectors]
  unfold claimIncident
  apply Ensues.bind (selectOldest_ensues known rootSpecId aside)
  rintro (_ | candidate) t ⟨oldest, aside⟩
  · exact .pure ⟨oldest, aside⟩
  · obtain ⟨selector, member, item, rfl, eligible, first⟩ := oldest
    obtain rfl := List.mem_singleton.mp member
    apply Ensues.bind (claimSelected_ensues known eligible aside _ _)
    intro claim t takes
    exact .pure ⟨_, member, item, eligible, takes, first⟩

theorem claimProbeOrSpec_ensues (rootSpecId : Option String) (aside : SetAside env.toEnvironment w s.workspace) :
    Ensues s (claimProbeOrSpec env rootSpecId)
      (fun claim t => ClaimedFrom env.toEnvironment w [probeSelector, specSelector] rootSpecId claim t.workspace)
      (Aside env.toEnvironment w) := by
  unfold claimProbeOrSpec
  apply Ensues.bind (selectOldestProbeOrSpec_ensues rootSpecId aside)
  rintro (_ | candidate) t ⟨oldest, aside⟩
  · exact .pure ⟨oldest, aside⟩
  · obtain ⟨selector, member, item, rfl, eligible, first⟩ := oldest
    have known : selector ∈ selectors := by
      simp only [List.mem_cons, List.not_mem_nil, or_false] at member
      rcases member with rfl | rfl <;> simp [selectors]
    have both (claimOrder : Nat) : Ensues t (do
          return some (← claimSelected env (selector.candidate item) "queue" claimOrder))
        (fun claim t => ClaimedFrom env.toEnvironment w [probeSelector, specSelector] rootSpecId claim t.workspace)
        (Aside env.toEnvironment w) := by
      apply Ensues.bind (claimSelected_ensues known eligible aside _ _)
      intro claim t takes
      exact .pure ⟨selector, member, item, eligible, takes, first⟩
    simp only [List.mem_cons, List.not_mem_nil, or_false] at member
    rcases member with rfl | rfl
    · exact both 2
    · exact both 3

end Documents

/-! ## The next planning item -/

section Next
variable (env) (s : DraftWorld) (rootSpecId : Option String)

def NoIncident : Prop := ∀ item, ¬Eligible env.toEnvironment s.world.workspace incidentSelector rootSpecId item

def NoDraft : Prop := ∀ draft, ¬EligibleDraft s rootSpecId draft

/-- A queued probe or spec that belongs to the root. -/
structure EligibleWork (selector : Selector) (item : Queued) : Prop where
  family : selector ∈ [probeSelector, specSelector]
  eligible : Eligible env.toEnvironment s.world.workspace selector rootSpecId item

/-- An incident is taken where one is eligible, else a draft whose dependencies are completed, else a probe or a spec
that none comes before; and nothing only where something is active or nothing is eligible. -/
inductive InOrder (notAfter : Timestamp → Timestamp → Prop) : Option PlanningClaim → DraftWorld → Prop
  | busy (t : DraftWorld) (active : ¬Idle s) : InOrder notAfter none t
  | nothing (t : DraftWorld) (noIncident : NoIncident env s rootSpecId) (noDraft : NoDraft s rootSpecId)
    (noWork : ∀ selector item, ¬EligibleWork env s rootSpecId selector item) : InOrder notAfter none t
  | incident (t : DraftWorld) (item : Queued) (claim : QueueClaim) (idle : Idle s)
    (eligible : Eligible env.toEnvironment s.world.workspace incidentSelector rootSpecId item)
    (takes : Takes s.world.workspace incidentSelector item claim t.world.workspace) :
    InOrder notAfter (some (.document claim)) t
  | draft (t : DraftWorld) (draft : BlueprintDraftDocument) (claim : DraftClaim) (idle : Idle s)
    (noIncident : NoIncident env s rootSpecId) (eligible : EligibleDraft s rootSpecId draft)
    (takes : claim.workItemId = draft.draftId ∧ (t.file ⟨.active, draft.draftId⟩).isSome) :
    InOrder notAfter (some (.draft claim)) t
  | work (t : DraftWorld) (selector : Selector) (item : Queued) (claim : QueueClaim) (idle : Idle s)
    (noIncident : NoIncident env s rootSpecId) (noDraft : NoDraft s rootSpecId)
    (eligible : EligibleWork env s rootSpecId selector item)
    (takes : Takes s.world.workspace selector item claim t.world.workspace)
    (oldest : ∀ other item', EligibleWork env s rootSpecId other item' → notAfter item.timestamp item'.timestamp) :
    InOrder notAfter (some (.document claim)) t

end Next

/-- By the stored text. -/
def TextNotAfter (a b : Timestamp) : Prop := a.text ≤ b.text

/-- By the instant. -/
def NotAfter (a b : Timestamp) : Prop := a.instant.nanoseconds ≤ b.instant.nanoseconds

/-! ## What a claim does -/

section Walk
variable {s : DraftWorld}

theorem activePlanningFiles_quiet {t : DraftWorld} (same : SameFiles s t) (kind : WorkItemKind) :
    Ensues t (activePlanningFiles env kind)
      (fun paths t' => paths = s.world.workspace.markdownFiles ⟨kind, .active, none⟩ ∧ SameFiles s t')
      fun _ t' => SameFiles s t' := by
  have aside : SetAside env.toEnvironment t.world.workspace t.world.workspace := .refl _
  unfold activePlanningFiles
  apply onPart_ensues (E := fun _ world => world = t.world.tick)
  · unfold listMarkdownFiles
    apply (fileOperation_ensues (fun _ _ _ => rfl) _).reads
    intro _ _
    apply currentWorkspace_ensues.reads
    rintro _ rfl
    exact .pure (Q := fun paths world =>
      paths = s.world.workspace.markdownFiles ⟨kind, .active, none⟩ ∧ world = t.world.tick)
      ⟨by rw [World.tick_workspace, same.workspace], rfl⟩
  · rintro _ _ ⟨rfl, rfl⟩
    exact ⟨rfl, same.drafts, same.removals, same.workspace⟩
  · rintro _ _ rfl
    exact ⟨same.drafts, same.removals, same.workspace⟩

theorem markdownFiles_eq_nil {w : Workspace} {kind : WorkItemKind} :
    w.markdownFiles ⟨kind, .active, none⟩ = [] ↔ ∀ stem, w.file (activePath kind stem) = none := by
  rw [List.eq_nil_iff_forall_not_mem]
  constructor
  · intro empty stem
    have missing := empty (activePath kind stem)
    rw [Workspace.mem_markdownFiles] at missing
    simpa [activePath] using missing
  · rintro empty ⟨d, stem⟩ member
    obtain ⟨rfl, there⟩ := (Workspace.mem_markdownFiles _ _ _).mp member
    have none := empty stem
    unfold activePath at none
    rw [none] at there
    cases there

theorem jsonFiles_eq_nil : s.jsonFiles .active = [] ↔ ∀ stem, s.file ⟨.active, stem⟩ = none := by
  rw [List.eq_nil_iff_forall_not_mem]
  constructor
  · intro empty stem
    have missing := empty ⟨.active, stem⟩
    rw [DraftWorld.mem_jsonFiles] at missing
    simpa using missing
  · rintro empty ⟨state, stem⟩ member
    obtain ⟨rfl, there⟩ := (DraftWorld.mem_jsonFiles _ _ _).mp member
    rw [empty] at there
    cases there

theorem idle_iff : Idle s ↔ ¬(s.world.workspace.markdownFiles ⟨.spec, .active, none⟩ ≠ [] ∨
    s.world.workspace.markdownFiles ⟨.probe, .active, none⟩ ≠ [] ∨
    s.world.workspace.markdownFiles ⟨.incident, .active, none⟩ ≠ [] ∨ s.jsonFiles .active ≠ []) := by
  simp only [not_or, not_not, ne_eq, markdownFiles_eq_nil, jsonFiles_eq_nil]
  constructor
  · intro idle
    have missing {kind : WorkItemKind} (member : kind ∈ planningKinds) (stem : String) :
        s.world.workspace.file (activePath kind stem) = none := by
      rw [← Option.not_isSome_iff_eq_none]
      exact fun there => idle (.document kind stem) ⟨member, there⟩
    refine ⟨missing (by simp [planningKinds]), missing (by simp [planningKinds]), missing (by simp [planningKinds]), ?_⟩
    intro stem
    rw [← Option.not_isSome_iff_eq_none]
    exact fun there => idle (.draft stem) there
  · rintro ⟨specs, probes, incidents, drafts⟩ (⟨kind, stem⟩ | stem) active
    · obtain ⟨member, there⟩ := active
      simp only [planningKinds, List.mem_cons, List.not_mem_nil, or_false] at member
      rcases member with rfl | rfl | rfl
      · simp [specs] at there
      · simp [probes] at there
      · simp [incidents] at there
    · have there : (s.file ⟨.active, stem⟩).isSome := active
      simp [drafts] at there

/-- The drafts are the same and queued files may have been put aside. -/
structure Quiet (env : DraftEnvironment) (s t : DraftWorld) : Prop where
  drafts : t.drafts = s.drafts
  aside : SetAside env.toEnvironment s.world.workspace t.world.workspace

theorem Quiet.file {t : DraftWorld} (quiet : Quiet env s t) (path : DraftPath) : t.file path = s.file path := by
  unfold DraftWorld.file
  rw [quiet.drafts]

variable (env) in
theorem Quiet.of_same {t : DraftWorld} (same : SameFiles s t) : Quiet env s t :=
  ⟨same.drafts, .of_same (by rw [same.workspace])⟩

theorem Quiet.startsOne {t : DraftWorld} (quiet : Quiet env s t) : StartsOne s t := by
  refine .of_within (fun kind stem there => ?_) fun stem there => ?_
  · rwa [activePath, quiet.aside.active] at there
  · rwa [quiet.file] at there

theorem Quiet.eligibleDraft_iff {t : DraftWorld} (quiet : Quiet env s t) (rootSpecId : Option String)
    (draft : BlueprintDraftDocument) : EligibleDraft t rootSpecId draft ↔ EligibleDraft s rootSpecId draft := by
  have ready : Ready t draft ↔ Ready s draft := by
    unfold Ready
    simp only [quiet.file]
  constructor
  · exact fun eligible => ⟨quiet.file _ ▸ eligible.queued, eligible.ofRoot, ready.mp eligible.ready⟩
  · exact fun eligible => ⟨(quiet.file _).trans eligible.queued, eligible.ofRoot, ready.mpr eligible.ready⟩

/-- The document that a claim takes becomes the only active one. -/
theorem startsOne_of_takes (idle : Idle s) {selector : Selector} {item : Queued} {claim : QueueClaim} {world : World}
    (takes : Takes s.world.workspace selector item claim world.workspace) {t : DraftWorld} (drafts : t.drafts = s.drafts)
    (at' : t.world = world) : StartsOne s t := by
  refine ⟨.document selector.kind item.itemId, fun a active => ?_⟩
  cases a with
  | document kind stem =>
    obtain ⟨member, there⟩ := active
    rw [at'] at there
    rcases takes.activates.2 kind stem there with before | ⟨rfl, rfl⟩
    · exact .inl ⟨member, before⟩
    · exact .inr ⟨idle, rfl⟩
  | draft stem =>
    have there : (t.file ⟨.active, stem⟩).isSome := active
    unfold DraftWorld.file at there
    rw [drafts] at there
    exact .inl there

theorem startsOne_of_changed (idle : Idle s) {s' t : DraftWorld} (quiet : Quiet env s s')
    (changed : Changed env True s' t) : StartsOne s t := by
  obtain ⟨stem, within⟩ := active_of_changed changed
  refine ⟨.draft stem, fun a active => ?_⟩
  cases a with
  | document kind stem =>
    obtain ⟨member, there⟩ := active
    rw [changed_workspace changed, activePath, quiet.aside.active] at there
    exact .inl ⟨member, there⟩
  | draft stem' =>
    rcases within stem' active with before | ⟨-, rfl⟩
    · rw [quiet.file] at before
      exact .inl before
    · exact .inr ⟨idle, rfl⟩

theorem onQueue_claim {x : StoreM (Option QueueClaim)} {family : List Selector} {rootSpecId : Option String}
    {t : DraftWorld} (quiet : Quiet env s t)
    (ensues : Ensues t.world x
      (fun claim world => ClaimedFrom env.toEnvironment s.world.workspace family rootSpecId claim world.workspace)
      (Aside env.toEnvironment s.world.workspace)) :
    Ensues t (onQueue x)
      (fun claim t' => ClaimedFrom env.toEnvironment s.world.workspace family rootSpecId claim t'.world.workspace ∧
        t'.drafts = s.drafts) fun _ t' => Quiet env s t' := by
  apply onPart_ensues ensues
  · exact fun _ _ claimed => ⟨claimed, quiet.drafts⟩
  · exact fun _ _ aside => ⟨quiet.drafts, aside⟩

/-- A claim goes by the order of the texts, and starts at most one document. -/
theorem claimNextPlanningItem_ensues (rootSpecId : Option String) :
    Ensues s (claimNextPlanningItem env rootSpecId)
      (fun claim t => InOrder env s rootSpecId TextNotAfter claim t ∧ StartsOne s t) fun _ t => StartsOne s t := by
  have quietly {β : Type} {x : DraftM β} {t : DraftWorld} {Q : β → DraftWorld → Prop}
      (ensues : Ensues t x Q fun _ t' => SameFiles s t') : Ensues t x Q fun _ t' => StartsOne s t' :=
    ensues.weaken (fun _ _ ends => ends) fun _ _ same => (Quiet.of_same env same).startsOne
  unfold claimNextPlanningItem
  apply Ensues.bind (quietly (activePlanningFiles_quiet (.refl s) .spec))
  rintro _ t ⟨rfl, same⟩
  apply Ensues.bind (quietly (activePlanningFiles_quiet same .probe))
  rintro _ t ⟨rfl, same⟩
  apply Ensues.bind (quietly (activePlanningFiles_quiet same .incident))
  rintro _ t ⟨rfl, same⟩
  apply Ensues.bind (quietly (listJsonFiles_quiet same .active))
  rintro _ t ⟨rfl, same⟩
  have quiet : Quiet env s t := .of_same env same
  apply Ensues.ite
  · exact fun _ => .throw quiet.startsOne
  intro _
  apply Ensues.ite
  · exact fun some => .pure ⟨.busy t fun idle => idle_iff.mp idle some, quiet.startsOne⟩
  intro none
  have idle : Idle s := idle_iff.mpr none
  have incident := onQueue_claim quiet (claimIncident_ensues rootSpecId quiet.aside)
  apply Ensues.bind (incident.weaken (fun _ _ ends => ends) fun _ _ quiet => quiet.startsOne)
  rintro (_ | claim) t ⟨claimed, drafts⟩
  · -- no incident is eligible
    obtain ⟨noIncident, aside⟩ := claimed
    have noIncident : NoIncident env s rootSpecId := noIncident _ (List.mem_singleton_self _)
    have quiet : Quiet env s t := ⟨drafts, aside⟩
    apply Ensues.bind ((claimNextBlueprintDraft_ensues rootSpecId).weaken (fun _ _ ends => ends)
      fun _ _ changed => startsOne_of_changed idle quiet changed)
    rintro (_ | claim) t' ⟨changed, claimed⟩
    · obtain ⟨same, reason⟩ := claimed
      have noDraft : NoDraft s rootSpecId := by
        intro draft eligible
        rcases reason with one | none
        · have empty : t.jsonFiles .active = [] := by
            rw [jsonFiles_eq_nil]
            intro stem
            rw [quiet.file, ← Option.not_isSome_iff_eq_none]
            exact fun there => idle (.draft stem) there
          rw [empty] at one
          cases one
        · exact none draft ((quiet.eligibleDraft_iff rootSpecId draft).mpr eligible)
      have quiet' : Quiet env s t' :=
        ⟨same.drafts.trans quiet.drafts, quiet.aside.trans (.of_same (by rw [same.workspace]))⟩
      have work := onQueue_claim quiet' (claimProbeOrSpec_ensues rootSpecId quiet'.aside)
      apply Ensues.bind (work.weaken (fun _ _ ends => ends) fun _ _ quiet => quiet.startsOne)
      rintro (_ | claim) t'' ⟨claimed, drafts⟩
      · have none : ∀ selector item, ¬EligibleWork env s rootSpecId selector item := fun selector item work =>
          claimed.1 selector work.family item work.eligible
        have last : Quiet env s t'' := ⟨drafts, claimed.2⟩
        exact .pure ⟨.nothing t'' noIncident noDraft none, last.startsOne⟩
      · obtain ⟨selector, family, item, eligible, takes, first⟩ := claimed
        refine .pure ⟨.work t'' selector item claim idle noIncident noDraft ⟨family, eligible⟩ takes ?_,
          startsOne_of_takes idle takes drafts rfl⟩
        exact fun other item' work => first other work.family item' work.eligible
    · obtain ⟨-, draft, eligible, named, moved⟩ := claimed
      refine .pure ⟨.draft t' draft claim idle noIncident ((quiet.eligibleDraft_iff rootSpecId draft).mp eligible) ⟨named, ?_⟩,
        startsOne_of_changed idle quiet changed⟩
      rw [moved.file, DraftWorld.counted_file, DraftWorld.file_erase, if_neg (by simp), copy_file, if_pos rfl]
      rfl
  · obtain ⟨selector, member, item, eligible, takes, -⟩ := claimed
    obtain rfl := List.mem_singleton.mp member
    exact .pure ⟨.incident t item claim idle eligible takes, startsOne_of_takes idle takes drafts rfl⟩

end Walk

/-! ## Texts and instants -/

section Chronology
variable {s : DraftWorld} {rootSpecId : Option String}

variable (env s rootSpecId) in
/-- Where a probe or a spec is due, an eligible one whose timestamp text comes first is one that none is older than. -/
def TextsChronological : Prop :=
  Idle s → NoIncident env s rootSpecId → NoDraft s rootSpecId →
    ∀ selector item, EligibleWork env s rootSpecId selector item →
      (∀ other item', EligibleWork env s rootSpecId other item' → TextNotAfter item.timestamp item'.timestamp) →
        ∀ other item', EligibleWork env s rootSpecId other item' → NotAfter item.timestamp item'.timestamp

theorem timestamp_ext {a b : Timestamp} (same : a.text = b.text) : a = b := by
  cases a
  cases b
  simpa using same

/-- A claim names one document only. -/
theorem takes_unique {selector selector' : Selector} {item item' : Queued}
    (work : EligibleWork env s rootSpecId selector item) (work' : EligibleWork env s rootSpecId selector' item')
    {claim : QueueClaim} {t : Workspace} (takes : Takes s.world.workspace selector item claim t)
    (takes' : Takes s.world.workspace selector' item' claim t) : item = item' := by
  have kinds : selector.kind = selector'.kind := takes.kind.symm.trans takes'.kind
  have ids : item.itemId = item'.itemId := takes.itemId.symm.trans takes'.itemId
  have known {selector : Selector} (member : selector ∈ [probeSelector, specSelector]) : selector ∈ selectors := by
    simp only [List.mem_cons, List.not_mem_nil, or_false] at member
    rcases member with rfl | rfl <;> simp [selectors]
  obtain rfl := selector_of_directory (known work.family) (known work'.family) (by rw [Selector.directory, kinds]; rfl)
  have queued := work.eligible.queued
  rw [ids, work'.eligible.queued] at queued
  exact (Option.some.inj queued).symm

/-- A claim that goes by the texts takes the oldest probe or spec where the texts put it first. -/
theorem inOrder_iff {claim : Option PlanningClaim} {t : DraftWorld}
    (inOrder : InOrder env s rootSpecId TextNotAfter claim t) :
    InOrder env s rootSpecId NotAfter claim t ↔ TextsChronological env s rootSpecId := by
  cases inOrder with
  | busy t active => exact iff_of_true (.busy t active) fun idle => absurd idle active
  | nothing t noIncident noDraft noWork =>
    exact iff_of_true (.nothing t noIncident noDraft noWork) fun _ _ _ selector item work =>
      absurd work (noWork selector item)
  | incident t item claim idle eligible takes =>
    exact iff_of_true (.incident t item claim idle eligible takes) fun _ noIncident =>
      absurd eligible (noIncident item)
  | draft t draft claim idle noIncident eligible takes =>
    exact iff_of_true (.draft t draft claim idle noIncident eligible takes) fun _ _ noDraft =>
      absurd eligible (noDraft draft)
  | work t selector item claim idle noIncident noDraft work takes first =>
    constructor
    · intro ordered _ _ _ selector' item' work' first'
      have equal : item.timestamp = item'.timestamp :=
        timestamp_ext (le_antisymm (first selector' item' work') (first' selector item work))
      rw [← equal]
      cases ordered with
      | incident _ item _ _ eligible _ => exact absurd eligible (noIncident item)
      | work _ selector₁ item₁ _ _ _ _ work₁ takes₁ oldest =>
        obtain rfl := takes_unique work work₁ takes takes₁
        exact oldest
    · intro chronological
      exact .work t selector item claim idle noIncident noDraft work takes
        (chronological idle noIncident noDraft selector item work first)

end Chronology

/-! ## Runs -/

theorem step_startsOne (env : DraftEnvironment) (s : DraftWorld) (operation : PlanningOperation) :
    StartsOne s (operation.step env s) := by
  have moves (kind : WorkItemKind) {destination : ItemState} (inactive : destination ≠ .active) (itemId : String) :
      StartsOne s (after (onQueue (moveItem env.toEnvironment kind .active destination itemId)) s) :=
    queue_startsOne (moveItem_startsNothing _ kind .active inactive itemId) s
  have requeues (kind : WorkItemKind) (itemId reason : String) :
      StartsOne s (after (onQueue (requeueItem env.toEnvironment kind itemId reason)) s) :=
    queue_startsOne (requeueItem_startsNothing _ kind itemId reason) s
  cases operation with
  | claimNextPlanningItem rootSpecId =>
    exact ((claimNextPlanningItem_ensues rootSpecId).weaken (fun _ _ ends => ends.2) fun _ _ fails => fails).after
  | enqueueIncident document => exact queue_startsOne (enqueueDocument_startsNothing _ _ _ _ _) s
  | enqueueSpec document => exact queue_startsOne (enqueueDocument_startsNothing _ _ _ _ _) s
  | enqueueProbe document => exact queue_startsOne (enqueueDocument_startsNothing _ _ _ _ _) s
  | enqueueBlueprintDraft draft => exact draft_startsOne (enqueueBlueprintDraft_ensues draft)
  | markSpecDone specId => exact moves .spec (by decide) specId
  | markSpecBlocked specId => exact moves .spec (by decide) specId
  | markProbeDone probeId => exact moves .probe (by decide) probeId
  | markProbeBlocked probeId => exact moves .probe (by decide) probeId
  | markIncidentResolved incidentId => exact moves .incident (by decide) incidentId
  | markIncidentBlocked incidentId => exact moves .incident (by decide) incidentId
  | requeueSpec specId reason => exact requeues .spec specId reason
  | requeueProbe probeId reason => exact requeues .probe probeId reason
  | requeueIncident incidentId reason => exact requeues .incident incidentId reason
  | updateActiveBlueprintDraft draft => exact draft_startsOne (updateActiveBlueprintDraft_ensues draft)
  | approveActiveBlueprintDraft draftId =>
    exact draft_startsOne (moveBlueprintDraft_ensues draftId .active .approved (by decide))
  | blockActiveBlueprintDraft draftId =>
    exact draft_startsOne (moveBlueprintDraft_ensues draftId .active .blocked (by decide))
  | requeueActiveBlueprintDraft draftId =>
    exact draft_startsOne (moveBlueprintDraft_ensues draftId .active .queue (by decide))
  | cancelBlueprintDraft draftId => exact draft_startsOne (cancelBlueprintDraft_ensues draftId)
  | cancelWorkItem workItemId kind reason context =>
    exact queue_startsOne (cancelWorkItem_startsNothing _ workItemId kind reason context) s
  | cancelIncident incidentId reason context =>
    exact queue_startsOne (cancelIncident_startsNothing _ incidentId reason context) s
  | resolveIncidentByOperator incidentId reason context =>
    exact queue_startsOne (resolveIncidentByOperator_startsNothing _ incidentId reason context) s

/-- Every claim of the run that ends takes the next document in this order. -/
def ClaimsMeet (meets : DraftWorld → Option String → Option PlanningClaim → DraftWorld → Prop) (env : DraftEnvironment)
    (s : DraftWorld) (operation : PlanningOperation) : Prop :=
  ∀ rootSpecId claim t, operation = .claimNextPlanningItem rootSpecId →
    claimNextPlanningItem env rootSpecId s = .ok claim t → meets s rootSpecId claim t

/-- Along every run from an empty workspace, at most one planning document is active, and a claim takes an eligible
incident, else a ready draft, else the oldest probe or spec exactly where the texts of the timestamps put that one
first. -/
theorem planning_claims_iff (env : DraftEnvironment) (operations : List PlanningOperation) :
    Runs.Throughout (PlanningOperation.step env) Exclusive .empty operations ∧
      Runs.Along (PlanningOperation.step env)
        (ClaimsMeet (fun s rootSpecId claim t =>
          InOrder env s rootSpecId NotAfter claim t ↔ TextsChronological env s rootSpecId) env) .empty operations := by
  have every (s : DraftWorld) : Runs.Along (PlanningOperation.step env)
      (ClaimsMeet (fun s rootSpecId claim t =>
        InOrder env s rootSpecId NotAfter claim t ↔ TextsChronological env s rootSpecId) env) s operations := by
    induction operations generalizing s with
    | nil => exact trivial
    | cons operation operations ih =>
      refine ⟨fun rootSpecId claim t _ ran => ?_, ih _⟩
      exact inOrder_iff ((claimNextPlanningItem_ensues rootSpecId).of_ok ran).1
  exact ⟨Runs.throughout_iff.mpr fun before _ => Runs.after_keeps
    (fun s operation exclusive => (step_startsOne env s operation).exclusive exclusive) exclusive_empty before, every _⟩

end

/-! ## Two time zones -/

section Concrete

local instance zonesOfSpecs : Rfc3339 := twoZones

def plainSpec (specId : String) (createdAt : Timestamp) : SpecDocument where
  specId := specId
  title := "A spec"
  summary := "a summary"
  sourceType := .manual
  sourceId := none
  parentSpecId := none
  rootIdeaId := none
  rootSpecId := none
  rootIntakeKind := none
  rootIntakeId := none
  goals := ["a goal"]
  nonGoals := []
  scope := []
  constraints := ["none"]
  assumptions := []
  risks := []
  targetPaths := []
  entrypoints := []
  requiredSkills := []
  decompositionHints := []
  acceptance := ["it works"]
  references := ["docs/testing.md"]
  createdAt := createdAt
  createdBy := "tests"
  updatedAt := none

def plainProbe (probeId : String) (createdAt : Timestamp) : ProbeDocument where
  probeId := probeId
  title := "A probe"
  summary := ""
  request := "look into it"
  targetPaths := []
  constraints := []
  acceptance := []
  riskNotes := []
  references := []
  tags := []
  statusHint := none
  createdAt := createdAt
  createdBy := "tests"
  updatedAt := none

def calmDrafts : DraftEnvironment where
  root := "/workspace"
  reading _ := ⟨inLondon, 0, none⟩
  removal _ := none

/-- A probe that was created in Athens an hour before a spec in London. -/
def probeAndSpec : List PlanningOperation :=
  [.enqueueProbe (plainProbe "probe-a" inAthens), .enqueueSpec (plainSpec "spec-b" inLondon)]

def withProbeAndSpec : DraftWorld := Runs.after (PlanningOperation.step calmDrafts) .empty probeAndSpec

def claimedDocument : EStateM.Result QueueStoreError DraftWorld (Option PlanningClaim) → Option (WorkItemKind × String)
  | .ok (some (.document claim)) _ => some (claim.workItemKind, claim.workItemId)
  | _ => none

theorem withProbeAndSpec_claimed :
    claimedDocument (claimNextPlanningItem calmDrafts none withProbeAndSpec) = some (.spec, "spec-b") := by
  decide +kernel

theorem withProbeAndSpec_athens : probeSelector.queued calmDrafts.toEnvironment withProbeAndSpec.world.workspace
    "probe-a" = some ⟨inAthens, "probe-a", none⟩ := by decide +kernel

theorem plainSpec_canonical {specId : String} {createdAt : Timestamp} (oneLine : OneLineTimestamp createdAt) :
    (plainSpec specId createdAt).Canonical where
  title := (by decide +kernel : Inline "A spec".toList)
  summary := (by decide +kernel : Inline "a summary".toList)
  createdAt := oneLine
  createdBy := (by decide +kernel : Inline "tests".toList)
  updatedAt := fun t none => by cases none
  goals := (by decide +kernel : InlineItems ["a goal"])
  nonGoals := (by decide +kernel : InlineItems [])
  scope := (by decide +kernel : InlineItems [])
  constraints := (by decide +kernel : InlineItems ["none"])
  assumptions := (by decide +kernel : InlineItems [])
  risks := (by decide +kernel : InlineItems [])
  targetPaths := (by decide +kernel : InlineItems [])
  entrypoints := (by decide +kernel : InlineItems [])
  requiredSkills := (by decide +kernel : InlineItems [])
  decompositionHints := (by decide +kernel : InlineItems [])
  acceptance := (by decide +kernel : InlineItems ["it works"])
  references := (by decide +kernel : InlineItems ["docs/testing.md"])

theorem withProbeAndSpec_london : specSelector.queued calmDrafts.toEnvironment withProbeAndSpec.world.workspace
    "spec-b" = some ⟨inLondon, "spec-b", some "spec-b"⟩ :=
  specSelector_queued (d := plainSpec "spec-b" inLondon) ((SpecDocument.validate_iff _).mp (by decide +kernel))
    (plainSpec_canonical (by decide +kernel)) (by rfl)

/-- The spec from London is claimed, whose creation time has the smaller text, before the older probe from Athens. -/
theorem younger_spec_claimed :
    ¬ ∀ (env : DraftEnvironment) (operations : List PlanningOperation),
      Runs.Throughout (PlanningOperation.step env) Exclusive .empty operations ∧
        Runs.Along (PlanningOperation.step env)
          (ClaimsMeet (fun s rootSpecId => InOrder env s rootSpecId NotAfter) env) .empty operations := by
  intro ordered
  have claimed := withProbeAndSpec_claimed
  have along : Runs.Along _ _ _ (probeAndSpec ++ [.claimNextPlanningItem none]) := (ordered calmDrafts _).2
  have meets : ClaimsMeet _ calmDrafts withProbeAndSpec (.claimNextPlanningItem none) := along.2.2.1
  cases ran : claimNextPlanningItem calmDrafts none withProbeAndSpec with
  | error error t =>
    rw [ran] at claimed
    cases claimed
  | ok claim t =>
    have inOrder := meets none claim t rfl ran
    rw [ran] at claimed
    cases inOrder with
    | busy => cases claimed
    | nothing => cases claimed
    | draft => cases claimed
    | incident _ item claim _ _ takes =>
      have kind := congrArg Prod.fst (Option.some.inj claimed)
      cases takes.kind.symm.trans kind
    | work _ selector item claim _ _ _ work takes oldest =>
      obtain ⟨kind, named⟩ := Prod.mk.inj (Option.some.inj claimed)
      have spec : selector = specSelector := by
        have kinds := takes.kind.symm.trans kind
        have family := work.family
        simp only [List.mem_cons, List.not_mem_nil, or_false] at family
        rcases family with rfl | rfl
        · cases kinds
        · rfl
      subst spec
      have london := work.eligible.queued
      rw [takes.itemId.symm.trans named, withProbeAndSpec_london] at london
      obtain rfl := Option.some.inj london
      have notAfter := oldest probeSelector ⟨inAthens, "probe-a", none⟩ ⟨by simp, withProbeAndSpec_athens, rfl⟩
      revert notAfter
      unfold NotAfter
      decide +kernel

end Concrete

end Millrace.Planning
