import Millrace.Blueprints.Drafts
import Millrace.Runs
import Millrace.Workspace.Interventions

/-! What one operation does to the drafts, and what holds of them along every run. -/

set_option autoImplicit false

namespace Millrace.Blueprints
open Millrace.Text Millrace.Contracts Millrace.WorkDocuments Millrace.Action Millrace.Queue Millrace.Runs

section
variable [Rfc3339]

/-! ## File operations -/

/-- The files are the same; file operations may have been counted. -/
structure SameFiles (s t : DraftWorld) : Prop where
  drafts : t.drafts = s.drafts
  removals : t.removals = s.removals
  workspace : t.world.workspace = s.world.workspace

@[refl] theorem SameFiles.refl (s : DraftWorld) : SameFiles s s := ⟨rfl, rfl, rfl⟩

theorem SameFiles.file {s t : DraftWorld} (same : SameFiles s t) (path : DraftPath) : t.file path = s.file path := by
  unfold DraftWorld.file
  rw [same.drafts]

theorem SameFiles.jsonFiles {s t : DraftWorld} (same : SameFiles s t) (state : DraftState) :
    t.jsonFiles state = s.jsonFiles state := by
  unfold DraftWorld.jsonFiles
  rw [same.drafts]

theorem SameFiles.insert {s t : DraftWorld} (same : SameFiles s t) (path : DraftPath) (draft : BlueprintDraftDocument) :
    SameFiles (s.insert path draft) (t.insert path draft) := by
  refine ⟨?_, same.removals, same.workspace⟩
  unfold DraftWorld.insert
  rw [same.drafts]

def DraftWorld.counted (s : DraftWorld) : DraftWorld := { s with removals := s.removals + 1 }

@[simp] theorem DraftWorld.counted_file (s : DraftWorld) (path : DraftPath) : s.counted.file path = s.file path := rfl

section Primitives
variable {env : DraftEnvironment} {s₀ s : DraftWorld}

theorem fileOperation_quiet (same : SameFiles s₀ s) (relative : String) :
    Ensues s (onQueue (fileOperation env.toEnvironment relative)) (fun _ t => SameFiles s₀ t)
      fun _ t => SameFiles s₀ t := by
  apply onPart_ensues (fileOperation_ensues (E := fun _ world => world = s.world.tick) (fun _ _ _ => rfl) relative)
  · rintro _ world ⟨-, rfl⟩
    exact ⟨same.drafts, same.removals, same.workspace⟩
  · rintro _ world rfl
    exact ⟨same.drafts, same.removals, same.workspace⟩

theorem listJsonFiles_quiet (same : SameFiles s₀ s) (state : DraftState) :
    Ensues s (listJsonFiles env state) (fun paths t => paths = s₀.jsonFiles state ∧ SameFiles s₀ t)
      fun _ t => SameFiles s₀ t := by
  unfold listJsonFiles
  apply (fileOperation_quiet same _).bind
  intro _ t same
  apply Ensues.get
  exact .pure ⟨same.jsonFiles state, same⟩

theorem readBlueprintDraft_quiet (same : SameFiles s₀ s) (path : DraftPath) :
    Ensues s (readBlueprintDraft env path)
      (fun draft t => (s₀.file path = some draft ∧ draft.validateContract = .ok ()) ∧ SameFiles s₀ t)
      fun _ t => SameFiles s₀ t := by
  unfold readBlueprintDraft
  apply (fileOperation_quiet same _).bind
  intro _ t same
  apply Ensues.get
  cases found : t.file path with
  | none => exact .throw same
  | some draft =>
    dsimp only
    cases valid : draft.validateContract with
    | error error => exact .throw same
    | ok _ => exact .pure ⟨⟨(same.file path).symm.trans found, valid⟩, same⟩

theorem writeJsonDocument_ensues (same : SameFiles s₀ s) (path : DraftPath) (draft : BlueprintDraftDocument) :
    Ensues s (writeJsonDocument env path draft) (fun written t => written = path ∧ SameFiles (s₀.insert path draft) t)
      fun _ t => SameFiles s₀ t := by
  unfold writeJsonDocument
  cases draft.validateContract with
  | error error => exact .throw same
  | ok _ =>
    dsimp only
    apply (fileOperation_quiet same _).bind
    intro _ t same
    apply (fileOperation_quiet same _).bind
    intro _ t same
    apply (fileOperation_quiet same _).bind
    intro _ t same
    apply (Ensues.modify _).bind
    rintro _ _ rfl
    exact .pure ⟨rfl, same.insert path draft⟩

theorem writeUniqueJsonDocument_ensues (same : SameFiles s₀ s) (path : DraftPath) (draft : BlueprintDraftDocument) :
    Ensues s (writeUniqueJsonDocument env path draft)
      (fun written t => written = path ∧ s₀.file path = none ∧ SameFiles (s₀.insert path draft) t)
      fun _ t => SameFiles s₀ t := by
  unfold writeUniqueJsonDocument draftExists
  apply Ensues.bind (Q := fun there t => there = (s₀.file path).isSome ∧ SameFiles s₀ t)
  · apply Ensues.get
    exact .pure ⟨by rw [same.file], same⟩
  · rintro there t ⟨rfl, same⟩
    apply Ensues.ite
    · exact fun _ => .throw same
    · intro vacant
      apply (writeJsonDocument_ensues same path draft).weaken
      · rintro written t ⟨rfl, inserted⟩
        exact ⟨rfl, by simpa using vacant, inserted⟩
      · exact fun _ _ same => same

theorem removeFile_ensues (same : SameFiles s₀ s) (path : DraftPath) :
    Ensues s (removeFile env path)
      (fun _ t => env.removal s₀.removals = none ∧ SameFiles (s₀.erase path).counted t)
      fun _ t => env.removal s₀.removals ≠ none ∧ SameFiles s₀.counted t := by
  unfold removeFile
  apply Ensues.get
  apply Ensues.bind (Q := fun _ t => SameFiles s₀.counted t)
  · rintro t rfl
    refine ⟨same.drafts, ?_, same.workspace⟩
    show t.removals + 1 = s₀.removals + 1
    rw [same.removals]
  · intro _ t counted
    rw [same.removals]
    cases env.removal s₀.removals with
    | some message => exact .throw ⟨by simp, counted⟩
    | none =>
      apply (Ensues.modify _).weaken
      · rintro _ _ rfl
        refine ⟨rfl, ?_, counted.removals, counted.workspace⟩
        unfold DraftWorld.erase
        rw [counted.drafts]
        rfl
      · exact fun _ _ same => same

end Primitives

/-! ## What an operation changes -/

/-- The status that the documents of a directory carry. -/
def DraftState.status : DraftState → BlueprintDraftStatus
  | .queue => .queued
  | .active => .active
  | .approved => .approved
  | .blocked => .blocked
  | .canceled => .canceled
  | .superseded => .superseded

def completedStates : List DraftState := [.approved, .canceled, .superseded]

/-- Every dependency of the draft is approved, canceled or superseded. -/
def Ready (s : DraftWorld) (draft : BlueprintDraftDocument) : Prop :=
  ∀ draftId ∈ draft.dependsOnDraftIds, ∃ state ∈ completedStates, (s.file ⟨state, draftId⟩).isSome

def DraftWorld.copy (s : DraftWorld) (stem : String) (target : DraftState) (draft : BlueprintDraftDocument) :
    DraftWorld :=
  s.insert ⟨target, stem⟩ { draft with status := target.status }

/-- What one operation can do to the files: nothing, a new queued draft, new content for an active one, or a move to
another directory, of which the second half may fail. Only a claim moves a draft to the active ones. -/
inductive Changed (env : DraftEnvironment) (claims : Prop) (s t : DraftWorld) : Prop where
  | kept (same : SameFiles s t)
  | enqueued (draft : BlueprintDraftDocument) (fresh : ∀ state, s.file ⟨state, draft.draftId⟩ = none)
    (same : SameFiles (s.copy draft.draftId .queue draft) t)
  | updated (draft : BlueprintDraftDocument) (there : (s.file ⟨.active, draft.draftId⟩).isSome)
    (same : SameFiles (s.copy draft.draftId .active draft) t)
  | moved (draft : BlueprintDraftDocument) (stem : String) (source target : DraftState)
    (found : s.file ⟨source, stem⟩ = some draft) (free : s.file ⟨target, stem⟩ = none)
    (ready : target = .active → claims ∧ Ready s draft) (removed : env.removal s.removals = none)
    (same : SameFiles ((s.copy stem target draft).erase ⟨source, stem⟩).counted t)
  | copied (draft : BlueprintDraftDocument) (stem : String) (source target : DraftState)
    (found : s.file ⟨source, stem⟩ = some draft) (free : s.file ⟨target, stem⟩ = none)
    (ready : target = .active → claims ∧ Ready s draft) (stays : env.removal s.removals ≠ none)
    (same : SameFiles (s.copy stem target draft).counted t)

section Operations
variable {env : DraftEnvironment} {s : DraftWorld}

variable (env) in
/-- Both halves of a move. -/
theorem copyAndRemove_ensues {claims : Prop} {t : DraftWorld} (same : SameFiles s t) {draft : BlueprintDraftDocument}
    {stem : String} {source target : DraftState} (found : s.file ⟨source, stem⟩ = some draft)
    (ready : target = .active → claims ∧ Ready s draft) {α : Type} (result : DraftPath → α) :
    Ensues t (do
        let path ← writeUniqueJsonDocument env ⟨target, stem⟩ { draft with status := target.status }
        removeFile env ⟨source, stem⟩
        return result path)
      (fun a t' => a = result ⟨target, stem⟩ ∧
        SameFiles ((s.copy stem target draft).erase ⟨source, stem⟩).counted t' ∧ Changed env claims s t')
      fun _ t' => Changed env claims s t' := by
  apply Ensues.bind ((writeUniqueJsonDocument_ensues same _ _).weaken (fun _ _ ends => ends) fun _ _ same => .kept same)
  rintro _ t ⟨rfl, free, copied⟩
  apply Ensues.bind ((removeFile_ensues copied _).weaken (fun _ _ ends => ends) ?_)
  · rintro _ t ⟨removed, moved⟩
    exact .pure ⟨rfl, moved, .moved draft stem source target found free ready removed moved⟩
  · rintro _ t ⟨stays, same⟩
    exact .copied draft stem source target found free ready stays same

theorem enqueueBlueprintDraft_ensues (draft : BlueprintDraftDocument) :
    Ensues s (enqueueBlueprintDraft env draft) (fun _ t => Changed env False s t) fun _ t => Changed env False s t := by
  unfold enqueueBlueprintDraft
  apply Ensues.bind (Q := fun _ t => t = s ∧ ∀ state, s.file ⟨state, draft.draftId⟩ = none)
  · unfold ensureUniqueBlueprintDraft
    cases validateSafeIdentifier draft.draftId "draft_id" with
    | error error => exact .throw (.kept (.refl s))
    | ok _ =>
      dsimp only
      apply Ensues.get
      apply Ensues.ite
      · exact fun _ => .throw (.kept (.refl s))
      · intro vacant
        refine .pure ⟨rfl, fun state => ?_⟩
        cases state <;> simp_all
  · rintro _ t ⟨rfl, fresh⟩
    apply (writeUniqueJsonDocument_ensues (.refl t) _ _).weaken
    · rintro _ t' ⟨-, -, queued⟩
      exact .enqueued draft fresh queued
    · exact fun _ _ same => .kept same

theorem draftExists_ensues {E : QueueStoreError → DraftWorld → Prop} (path : DraftPath) :
    Ensues s (draftExists path) (fun there t => there = (s.file path).isSome ∧ t = s) E := by
  unfold draftExists
  apply Ensues.get
  exact .pure ⟨rfl, rfl⟩

theorem updateActiveBlueprintDraft_ensues (draft : BlueprintDraftDocument) :
    Ensues s (updateActiveBlueprintDraft env draft) (fun _ t => Changed env False s t) fun _ t => Changed env False s t := by
  unfold updateActiveBlueprintDraft
  apply Ensues.bind (draftExists_ensues ⟨.active, draft.draftId⟩)
  rintro _ t ⟨rfl, rfl⟩
  apply Ensues.ite
  · exact fun _ => .throw (.kept (.refl t))
  · intro present
    apply (writeJsonDocument_ensues (.refl t) _ _).weaken
    · rintro _ t' ⟨-, written⟩
      exact .updated draft (by simpa [Option.isSome_iff_ne_none] using present) written
    · exact fun _ _ same => .kept same

theorem moveBlueprintDraft_ensues (draftId : String) (source target : DraftState) (inactive : target ≠ .active) :
    Ensues s (moveBlueprintDraft env draftId source target target.status) (fun _ t => Changed env False s t)
      fun _ t => Changed env False s t := by
  unfold moveBlueprintDraft
  apply Ensues.bind (draftExists_ensues ⟨source, draftId⟩)
  rintro _ t ⟨rfl, rfl⟩
  apply Ensues.ite
  · exact fun _ => .throw (.kept (.refl t))
  intro _
  apply Ensues.bind (draftExists_ensues ⟨target, draftId⟩)
  rintro _ t ⟨rfl, rfl⟩
  apply Ensues.ite
  · exact fun _ => .throw (.kept (.refl t))
  intro _
  apply Ensues.bind ((readBlueprintDraft_quiet (.refl t) _).weaken (fun _ _ ends => ends) fun _ _ same => .kept same)
  rintro draft t' ⟨⟨found, -⟩, same⟩
  have ready : target = .active → False ∧ Ready t draft := fun active => absurd active inactive
  have moves := copyAndRemove_ensues env same found ready fun _ => (⟨target, draftId⟩ : DraftPath)
  exact moves.weaken (fun _ _ ends => ends.2.2) fun _ _ changed => changed

theorem cancelBlueprintDraft_ensues (draftId : String) :
    Ensues s (cancelBlueprintDraft env draftId) (fun _ t => Changed env False s t) fun _ t => Changed env False s t := by
  unfold cancelBlueprintDraft
  apply Ensues.get
  cases [DraftState.queue, .active, .blocked].find? fun state => (s.file ⟨state, draftId⟩).isSome with
  | none => exact .throw (.kept (.refl s))
  | some state => exact moveBlueprintDraft_ensues draftId state .canceled (by decide)

/-! ## The selection of a draft -/

/-- A queued draft that belongs to the root and is ready. -/
structure EligibleDraft (s : DraftWorld) (rootSpecId : Option String) (draft : BlueprintDraftDocument) : Prop where
  queued : s.file ⟨.queue, draft.draftId⟩ = some draft
  ofRoot : ∀ root, rootSpecId = some root → draft.rootSpecId = root
  ready : Ready s draft

theorem completedDependencyDraftIds_quiet {t : DraftWorld} (same : SameFiles s t) :
    Ensues t (completedDependencyDraftIds env)
      (fun completed t' => (∀ draftId, draftId ∈ completed ↔ ∃ state ∈ completedStates,
        (s.file ⟨state, draftId⟩).isSome) ∧ SameFiles s t') fun _ t' => SameFiles s t' := by
  unfold completedDependencyDraftIds
  apply Ensues.bind (listJsonFiles_quiet same .approved)
  rintro _ t ⟨rfl, same⟩
  apply Ensues.bind (listJsonFiles_quiet same .canceled)
  rintro _ t ⟨rfl, same⟩
  apply Ensues.bind (listJsonFiles_quiet same .superseded)
  rintro _ t ⟨rfl, same⟩
  refine .pure ⟨fun draftId => ?_, same⟩
  have listed (state : DraftState) : (∃ path ∈ s.jsonFiles state, path.stem = draftId) ↔
      (s.file ⟨state, draftId⟩).isSome := by
    constructor
    · rintro ⟨⟨state', stem⟩, member, rfl⟩
      obtain ⟨rfl, there⟩ := (DraftWorld.mem_jsonFiles _ _ _).mp member
      exact there
    · exact fun there => ⟨⟨state, draftId⟩, (DraftWorld.mem_jsonFiles _ _ _).mpr ⟨rfl, there⟩, rfl⟩
  simp only [List.mem_map, List.mem_append, or_and_right, exists_or, listed, completedStates, List.mem_cons,
    List.not_mem_nil, or_false, exists_eq_left, or_assoc]

theorem isEligibleDraft_iff {completed : List String} (rootSpecId : Option String) (draft : BlueprintDraftDocument)
    (complete : ∀ draftId, draftId ∈ completed ↔ ∃ state ∈ completedStates, (s.file ⟨state, draftId⟩).isSome) :
    isEligibleDraft completed rootSpecId draft = true ↔
      (∀ root, rootSpecId = some root → draft.rootSpecId = root) ∧ Ready s draft := by
  unfold isEligibleDraft Ready
  rw [Bool.and_eq_true, List.all_eq_true]
  apply and_congr
  · cases rootSpecId with
    | none => simp
    | some root => simp
  · simp only [List.contains_iff_mem, complete]

theorem collectDraftCandidates_quiet {completed : List String} {rootSpecId : Option String}
    (complete : ∀ draftId, draftId ∈ completed ↔ ∃ state ∈ completedStates, (s.file ⟨state, draftId⟩).isSome)
    (paths : List DraftPath) (queued : ∀ path ∈ paths, path.state = .queue) {t : DraftWorld} (same : SameFiles s t) :
    Ensues t (collectDraftCandidates env completed rootSpecId paths)
      (fun candidates t' => (∀ c, c ∈ candidates ↔ c.path = ⟨.queue, c.draft.draftId⟩ ∧ c.path ∈ paths ∧
        EligibleDraft s rootSpecId c.draft) ∧ SameFiles s t') fun _ t' => SameFiles s t' := by
  induction paths generalizing t with
  | nil => exact .pure ⟨by simp, same⟩
  | cons path rest ih =>
    unfold collectDraftCandidates
    apply Ensues.bind (readBlueprintDraft_quiet same path)
    rintro draft t ⟨⟨found, -⟩, same⟩
    apply Ensues.ite
    · exact fun _ => .throw same
    intro named
    apply Ensues.bind (ih (fun path member => queued path (List.mem_cons_of_mem _ member)) same)
    rintro later t ⟨collected, same⟩
    refine .pure ⟨fun c => ?_, same⟩
    have placed : path = ⟨.queue, draft.draftId⟩ := by
      rw [← not_not.mp named, ← queued path List.mem_cons_self]
    have eligible_iff : isEligibleDraft completed rootSpecId draft = true ↔ EligibleDraft s rootSpecId draft := by
      rw [isEligibleDraft_iff rootSpecId draft complete]
      exact ⟨fun ⟨ofRoot, ready⟩ => ⟨placed ▸ found, ofRoot, ready⟩, fun e => ⟨e.ofRoot, e.ready⟩⟩
    -- the head of the paths holds this draft and no other one
    have here : c.path = path → EligibleDraft s rootSpecId c.draft → c.path = ⟨.queue, c.draft.draftId⟩ →
        c = ⟨draft, path⟩ := by
      rintro same e at'
      have queued := e.queued
      rw [← at', same, found] at queued
      cases c
      simp_all
    by_cases eligible : EligibleDraft s rootSpecId draft
    · rw [if_pos (eligible_iff.mpr eligible), List.mem_cons, collected]
      constructor
      · rintro (rfl | ⟨at', member, e⟩)
        · exact ⟨placed, List.mem_cons_self, eligible⟩
        · exact ⟨at', List.mem_cons_of_mem _ member, e⟩
      · rintro ⟨at', member, e⟩
        rcases List.mem_cons.mp member with same | member
        · exact .inl (here same e at')
        · exact .inr ⟨at', member, e⟩
    · rw [if_neg (fun holds => eligible (eligible_iff.mp holds)), collected]
      constructor
      · rintro ⟨at', member, e⟩
        exact ⟨at', List.mem_cons_of_mem _ member, e⟩
      · rintro ⟨at', member, e⟩
        rcases List.mem_cons.mp member with same | member
        · obtain rfl := here same e at'
          exact absurd e eligible
        · exact ⟨at', member, e⟩

/-- The selection gives an eligible draft, and none only where there is none. -/
theorem selectNextEligibleDraft_quiet (rootSpecId : Option String) {t : DraftWorld} (same : SameFiles s t) :
    Ensues t (selectNextEligibleDraft env rootSpecId)
      (fun selected t' => (match selected with
        | none => ∀ draft, ¬EligibleDraft s rootSpecId draft
        | some c => c.path = ⟨.queue, c.draft.draftId⟩ ∧ EligibleDraft s rootSpecId c.draft) ∧ SameFiles s t')
      fun _ t' => SameFiles s t' := by
  unfold selectNextEligibleDraft
  apply Ensues.bind (completedDependencyDraftIds_quiet same)
  rintro completed t ⟨complete, same⟩
  apply Ensues.bind (listJsonFiles_quiet same .queue)
  rintro _ t ⟨rfl, same⟩
  apply Ensues.bind (collectDraftCandidates_quiet complete _
    (fun path member => ((DraftWorld.mem_jsonFiles _ _ _).mp member).1) same)
  rintro candidates t ⟨collected, same⟩
  refine .pure ⟨?_, same⟩
  cases head : (candidates.mergeSort DraftCandidate.before).head? with
  | none =>
    intro draft eligible
    have member : (⟨draft, ⟨.queue, draft.draftId⟩⟩ : DraftCandidate) ∈ candidates :=
      (collected _).mpr ⟨rfl, (DraftWorld.mem_jsonFiles _ _ _).mpr ⟨rfl, by simp [eligible.queued]⟩, eligible⟩
    rw [← List.mem_mergeSort, List.head?_eq_none_iff.mp head] at member
    cases member
  | some c =>
    obtain ⟨at', -, eligible⟩ := (collected c).mp (List.mem_mergeSort.mp (List.mem_of_head? head))
    exact ⟨at', eligible⟩

/-- A claim takes an eligible draft, if none is active and there is one. -/
theorem claimNextBlueprintDraft_ensues (rootSpecId : Option String) :
    Ensues s (claimNextBlueprintDraft env rootSpecId)
      (fun claim t => Changed env True s t ∧ match claim with
        | none => SameFiles s t ∧ ((s.jsonFiles .active).length = 1 ∨ ∀ draft, ¬EligibleDraft s rootSpecId draft)
        | some claim => s.jsonFiles .active = [] ∧ ∃ draft, EligibleDraft s rootSpecId draft ∧
          claim.workItemId = draft.draftId ∧
          SameFiles ((s.copy draft.draftId .active draft).erase ⟨.queue, draft.draftId⟩).counted t)
      fun _ t => Changed env True s t := by
  unfold claimNextBlueprintDraft
  apply Ensues.bind ((listJsonFiles_quiet (.refl s) .active).weaken (fun _ _ ends => ends) fun _ _ same => .kept same)
  rintro _ t ⟨rfl, same⟩
  apply Ensues.ite
  · exact fun _ => .throw (.kept same)
  intro few
  apply Ensues.ite
  · intro some
    have one : (s.jsonFiles .active).length = 1 := by
      have positive := List.length_pos_iff.mpr some
      omega
    exact .pure ⟨.kept same, same, .inl one⟩
  intro idle
  apply Ensues.bind ((selectNextEligibleDraft_quiet rootSpecId same).weaken (fun _ _ ends => ends)
    fun _ _ same => .kept same)
  rintro (_ | ⟨draft, source⟩) t ⟨selected, same⟩
  · exact .pure ⟨.kept same, same, .inr selected⟩
  obtain ⟨placed, eligible⟩ := selected
  dsimp only at placed eligible ⊢
  subst placed
  have ready : DraftState.active = .active → True ∧ Ready s draft := fun _ => ⟨trivial, eligible.ready⟩
  apply (copyAndRemove_ensues env same eligible.queued ready _).weaken
  · rintro _ t ⟨rfl, moved, changed⟩
    exact ⟨changed, by simpa using idle, draft, eligible, rfl, moved⟩
  · exact fun _ _ changed => changed

end Operations

/-! ## The invariant -/

/-- Each draft has one file, which has its name and the status of its directory. -/
structure Consistent (s : DraftWorld) : Prop where
  single : ∀ draftId state state', (s.file ⟨state, draftId⟩).isSome → (s.file ⟨state', draftId⟩).isSome → state = state'
  status : ∀ path draft, s.file path = some draft → draft.status = path.state.status
  named : ∀ path draft, s.file path = some draft → draft.draftId = path.stem

/-- Where a draft becomes active, its dependencies are completed, and none is queued, active or blocked. -/
def ReadyWhenClaimed (s t : DraftWorld) : Prop :=
  ∀ draft, t.file ⟨.active, draft.draftId⟩ = some draft → s.file ⟨.active, draft.draftId⟩ = none →
    ∀ draftId ∈ draft.dependsOnDraftIds, (∃ state ∈ completedStates, (s.file ⟨state, draftId⟩).isSome) ∧
      ∀ state ∈ [DraftState.queue, .active, .blocked], s.file ⟨state, draftId⟩ = none

theorem consistent_empty : Consistent .empty where
  single _ _ _ there _ := by simp at there
  status _ _ found := by simp at found
  named _ _ found := by simp at found

section Invariant
variable {env : DraftEnvironment} {s t : DraftWorld}

theorem Consistent.congr (consistent : Consistent s) (same : ∀ path, t.file path = s.file path) : Consistent t where
  single draftId state state' := by
    rw [same, same]
    exact consistent.single draftId state state'
  status path draft := by
    rw [same]
    exact consistent.status path draft
  named path draft := by
    rw [same]
    exact consistent.named path draft

theorem Consistent.ready (consistent : Consistent s) {draft : BlueprintDraftDocument} (ready : Ready s draft)
    {draftId : String} (depends : draftId ∈ draft.dependsOnDraftIds) :
    (∃ state ∈ completedStates, (s.file ⟨state, draftId⟩).isSome) ∧
      ∀ state ∈ [DraftState.queue, .active, .blocked], s.file ⟨state, draftId⟩ = none := by
  obtain ⟨completed, member, there⟩ := ready draftId depends
  refine ⟨⟨completed, member, there⟩, fun state open' => ?_⟩
  rw [← Option.not_isSome_iff_eq_none]
  intro there'
  obtain rfl := consistent.single draftId _ _ there there'
  cases completed <;> simp [completedStates] at member open'

/-- A file that is written under the id and with the status of its place. -/
theorem copy_file (stem : String) (target : DraftState) (draft : BlueprintDraftDocument) (path : DraftPath) :
    (s.copy stem target draft).file path =
      if path = ⟨target, stem⟩ then some { draft with status := target.status } else s.file path :=
  DraftWorld.file_insert _ _ _ _

theorem Consistent.copy (consistent : Consistent s) {draft : BlueprintDraftDocument} {target : DraftState}
    (alone : ∀ state, (s.file ⟨state, draft.draftId⟩).isSome → state = target) :
    Consistent (s.copy draft.draftId target draft) where
  single draftId state state' := by
    rw [copy_file, copy_file]
    intro there there'
    by_cases here : draftId = draft.draftId
    · subst here
      have placed {state : DraftState} (there : (if (⟨state, draft.draftId⟩ : DraftPath) = ⟨target, draft.draftId⟩ then
          some { draft with status := target.status } else s.file ⟨state, draft.draftId⟩).isSome) : state = target := by
        split at there
        next same => exact congrArg DraftPath.state same
        next => exact alone state there
      exact (placed there).trans (placed there').symm
    · rw [if_neg (by simp [here])] at there there'
      exact consistent.single draftId state state' there there'
  status path d := by
    rw [copy_file]
    split
    next same =>
      rintro found
      cases found
      rw [same]
    next => exact consistent.status path d
  named path d := by
    rw [copy_file]
    split
    next same =>
      rintro found
      cases found
      rw [same]
    next => exact consistent.named path d

theorem Consistent.erase (consistent : Consistent s) (path : DraftPath) : Consistent (s.erase path) where
  single draftId state state' := by
    rw [DraftWorld.file_erase, DraftWorld.file_erase]
    intro there there'
    split at there
    next => cases there
    split at there'
    next => cases there'
    exact consistent.single draftId state state' there there'
  status path' draft := by
    rw [DraftWorld.file_erase]
    intro found
    split at found
    next => cases found
    exact consistent.status path' draft found
  named path' draft := by
    rw [DraftWorld.file_erase]
    intro found
    split at found
    next => cases found
    exact consistent.named path' draft found

theorem Consistent.move (consistent : Consistent s) {draft : BlueprintDraftDocument} {stem : String}
    {source target : DraftState} (found : s.file ⟨source, stem⟩ = some draft) (free : s.file ⟨target, stem⟩ = none)
    (same : SameFiles ((s.copy stem target draft).erase ⟨source, stem⟩).counted t) : Consistent t := by
  obtain rfl : draft.draftId = stem := consistent.named _ draft found
  have apart : source ≠ target := by
    rintro rfl
    rw [free] at found
    cases found
  have moved : Consistent ((s.erase ⟨source, draft.draftId⟩).copy draft.draftId target draft) := by
    refine (consistent.erase _).copy fun state there => ?_
    rw [DraftWorld.file_erase] at there
    split at there
    next => cases there
    next elsewhere =>
      obtain rfl := consistent.single draft.draftId source state (by simp [found]) there
      exact absurd rfl elsewhere
  refine moved.congr fun path => ?_
  rw [same.file, DraftWorld.counted_file, DraftWorld.file_erase, copy_file, copy_file, DraftWorld.file_erase]
  by_cases here : path = ⟨target, draft.draftId⟩
  · subst here
    simp [Ne.symm apart]
  · simp [here]

/-- Whether one operation keeps the drafts consistent depends on the removal that it asks for. -/
theorem changed_consistent_iff {claims : Prop} (consistent : Consistent s) (changed : Changed env claims s t) :
    (Consistent t ∧ ReadyWhenClaimed s t) ↔ (s.removals < t.removals → env.removal s.removals = none) := by
  have unclaimed {stem : String} {state : DraftState} {draft : BlueprintDraftDocument} (inactive : state ≠ .active)
      (same : SameFiles (s.copy stem state draft) t) : ReadyWhenClaimed s t := by
    intro d now before
    rw [same.file, copy_file, if_neg (by simp [Ne.symm inactive]), before] at now
    cases now
  cases changed with
  | kept same =>
    refine iff_of_true ⟨consistent.congr same.file, fun d now before => ?_⟩ (fun more => ?_)
    · rw [same.file, before] at now
      cases now
    · have equal := same.removals
      omega
  | enqueued draft fresh same =>
    refine iff_of_true ⟨(consistent.copy fun state there => ?_).congr same.file, unclaimed (by decide) same⟩
      fun more => ?_
    · rw [fresh] at there
      cases there
    · have equal : t.removals = s.removals := same.removals
      omega
  | updated draft there same =>
    refine iff_of_true ⟨(consistent.copy fun state there' => ?_).congr same.file, fun d now before => ?_⟩ fun more => ?_
    · exact consistent.single draft.draftId state .active there' there
    · rw [same.file, copy_file] at now
      split at now
      next here =>
        rw [← here, before] at there
        cases there
      next =>
        rw [before] at now
        cases now
    · have equal : t.removals = s.removals := same.removals
      omega
  | moved draft stem source target found free ready removed same =>
    refine iff_of_true ⟨consistent.move found free same, fun d now before => ?_⟩ fun _ => removed
    rw [same.file, DraftWorld.counted_file, DraftWorld.file_erase] at now
    split at now
    next => cases now
    rw [copy_file] at now
    split at now
    next here =>
      have active : target = .active := (congrArg DraftPath.state here).symm
      cases now
      exact fun draftId depends => consistent.ready (ready active).2 depends
    next =>
      rw [before] at now
      cases now
  | copied draft stem source target found free _ stays same =>
    have more : s.removals < t.removals := by
      have equal : t.removals = s.removals + 1 := same.removals
      omega
    refine iff_of_false ?_ fun removed => stays (removed more)
    rintro ⟨kept, -⟩
    -- the draft lies in both directories
    have apart : source ≠ target := by
      rintro rfl
      rw [free] at found
      cases found
    refine apart (kept.single stem source target ?_ ?_)
    · rw [same.file, DraftWorld.counted_file, copy_file, if_neg (by simp [apart]), found]
      rfl
    · rw [same.file, DraftWorld.counted_file, copy_file, if_pos rfl]
      rfl

end Invariant

/-! ## Runs -/

inductive DraftOperation where
  | enqueueBlueprintDraft (draft : BlueprintDraftDocument)
  | claimNextBlueprintDraft (rootSpecId : Option String)
  | updateActiveBlueprintDraft (draft : BlueprintDraftDocument)
  | approveActiveBlueprintDraft (draftId : String)
  | blockActiveBlueprintDraft (draftId : String)
  | requeueActiveBlueprintDraft (draftId : String)
  | cancelBlueprintDraft (draftId : String)

section Runs
variable (env : DraftEnvironment)

/-- The files after the operation, whether it succeeded or failed. -/
def DraftOperation.step (s : DraftWorld) : DraftOperation → DraftWorld
  | .enqueueBlueprintDraft draft => Action.after (Blueprints.enqueueBlueprintDraft env draft) s
  | .claimNextBlueprintDraft rootSpecId => Action.after (Blueprints.claimNextBlueprintDraft env rootSpecId) s
  | .updateActiveBlueprintDraft draft => Action.after (Blueprints.updateActiveBlueprintDraft env draft) s
  | .approveActiveBlueprintDraft draftId => Action.after (Blueprints.approveActiveBlueprintDraft env draftId) s
  | .blockActiveBlueprintDraft draftId => Action.after (Blueprints.blockActiveBlueprintDraft env draftId) s
  | .requeueActiveBlueprintDraft draftId => Action.after (Blueprints.requeueActiveBlueprintDraft env draftId) s
  | .cancelBlueprintDraft draftId => Action.after (Blueprints.cancelBlueprintDraft env draftId) s

variable {env}

theorem changed_after {α : Type} {claims : Prop} {x : DraftM α} {s : DraftWorld}
    (ensues : Ensues s x (fun _ t => Changed env claims s t) fun _ t => Changed env claims s t) :
    Changed env claims s (Action.after x s) := ensues.after

theorem Changed.weaken {claims claims' : Prop} {s t : DraftWorld} (changed : Changed env claims s t)
    (allows : claims → claims') : Changed env claims' s t := by
  cases changed with
  | kept same => exact .kept same
  | enqueued draft fresh same => exact .enqueued draft fresh same
  | updated draft there same => exact .updated draft there same
  | moved draft stem source target found free ready removed same =>
    exact .moved draft stem source target found free (fun active => (ready active).imp_left allows) removed same
  | copied draft stem source target found free ready stays same =>
    exact .copied draft stem source target found free (fun active => (ready active).imp_left allows) stays same

theorem step_changed (s : DraftWorld) (operation : DraftOperation) : Changed env True s (operation.step env s) := by
  cases operation with
  | enqueueBlueprintDraft draft => exact (changed_after (enqueueBlueprintDraft_ensues draft)).weaken False.elim
  | claimNextBlueprintDraft rootSpecId =>
    exact changed_after ((claimNextBlueprintDraft_ensues rootSpecId).weaken (fun _ _ ends => ends.1) fun _ _ fails => fails)
  | updateActiveBlueprintDraft draft => exact (changed_after (updateActiveBlueprintDraft_ensues draft)).weaken False.elim
  | approveActiveBlueprintDraft draftId =>
    exact (changed_after (moveBlueprintDraft_ensues draftId .active .approved (by decide))).weaken False.elim
  | blockActiveBlueprintDraft draftId =>
    exact (changed_after (moveBlueprintDraft_ensues draftId .active .blocked (by decide))).weaken False.elim
  | requeueActiveBlueprintDraft draftId =>
    exact (changed_after (moveBlueprintDraft_ensues draftId .active .queue (by decide))).weaken False.elim
  | cancelBlueprintDraft draftId => exact (changed_after (cancelBlueprintDraft_ensues draftId)).weaken False.elim

theorem Changed.removals {claims : Prop} {s t : DraftWorld} (changed : Changed env claims s t) :
    t.removals = s.removals ∨ t.removals = s.removals + 1 := by
  cases changed with
  | kept same => exact .inl same.removals
  | enqueued _ _ same => exact .inl same.removals
  | updated _ _ same => exact .inl same.removals
  | moved _ _ _ _ _ _ _ _ same => exact .inr same.removals
  | copied _ _ _ _ _ _ _ _ same => exact .inr same.removals

theorem removals_le_after (s : DraftWorld) (operations : List DraftOperation) :
    s.removals ≤ (Runs.after (DraftOperation.step env) s operations).removals := by
  induction operations generalizing s with
  | nil => exact le_refl _
  | cons operation operations ih =>
    have changed : Changed env True s (operation.step env s) := step_changed s operation
    have one := changed.removals
    have rest := ih (operation.step env s)
    rw [Runs.after_cons]
    omega

theorem run_consistent_iff {s : DraftWorld} (consistent : Consistent s) (operations : List DraftOperation) :
    (Throughout (DraftOperation.step env) Consistent s operations ∧
        Along (DraftOperation.step env) (fun s operation => ReadyWhenClaimed s (operation.step env s)) s operations) ↔
      ∀ n, s.removals ≤ n → n < (Runs.after (DraftOperation.step env) s operations).removals → env.removal n = none := by
  induction operations generalizing s with
  | nil =>
    refine iff_of_true ⟨consistent, trivial⟩ fun n above below => ?_
    rw [Runs.after_nil] at below
    omega
  | cons operation operations ih =>
    have changed : Changed env True s (operation.step env s) := step_changed s operation
    have one := changed.removals
    have first_iff := changed_consistent_iff consistent changed
    have more : _ ≤ (Runs.after (DraftOperation.step env) (operation.step env s) operations).removals :=
      removals_le_after (operation.step env s) operations
    rw [Runs.after_cons]
    constructor
    · rintro ⟨⟨-, throughout⟩, ready, along⟩ n above below
      have kept := throughout.first
      by_cases here : n = s.removals
      · subst here
        by_cases asked : s.removals < (operation.step env s).removals
        · exact first_iff.mp ⟨kept, ready⟩ asked
        · exact (ih kept).mp ⟨throughout, along⟩ _ (by omega) below
      · exact (ih kept).mp ⟨throughout, along⟩ n (by omega) below
    · intro removed
      obtain ⟨kept, ready⟩ := first_iff.mpr fun asked => removed _ (le_refl _) (by omega)
      obtain ⟨throughout, along⟩ := (ih kept).mpr fun n above below => removed n (by omega) below
      exact ⟨⟨consistent, throughout⟩, ready, along⟩

/-- Along a run from an empty store, every draft has one file with its name and the status of its directory, and is
claimed only once its dependencies are completed, exactly where every file that the run removes is removed. -/
theorem drafts_consistent_iff (env : DraftEnvironment) (operations : List DraftOperation) :
    (Throughout (DraftOperation.step env) Consistent .empty operations ∧
        Along (DraftOperation.step env) (fun s operation => ReadyWhenClaimed s (operation.step env s)) .empty
          operations) ↔
      ∀ n < (Runs.after (DraftOperation.step env) .empty operations).removals, env.removal n = none := by
  rw [run_consistent_iff consistent_empty]
  exact ⟨fun removed n below => removed n (Nat.zero_le n) below, fun removed n _ below => removed n below⟩

end Runs

end

section Concrete

local instance zonesOfDrafts : Rfc3339 := twoZones

/-- A draft that depends on nothing. -/
def plainDraft (draftId : String) : BlueprintDraftDocument where
  schemaVersion := "1.0"
  kind := "blueprint_draft"
  draftId := draftId
  manifestId := "manifest"
  rootSpecId := "root"
  rootIdeaId := "idea"
  sourceSpecId := "spec"
  draftIndex := 1
  dependsOnDraftIds := []
  title := "title"
  summary := "summary"
  scope := []
  nonGoals := []
  targetPaths := ["src"]
  acceptanceIntent := ["works"]
  verificationIntent := []
  dependencyNotes := []
  integrationBoundaryNotes := []
  contextExcerpt := "context"
  currentRevision := 0
  latestBlueprintId := none
  latestCritiqueId := none
  status := .queued
  references := []
  createdAt := inLondon
  createdBy := "manager_blueprint"
  updatedAt := none

/-- Files can be read and written, but not removed. -/
def keepingEnvironment : DraftEnvironment where
  root := "/workspace"
  reading _ := ⟨inLondon, 0, none⟩
  removal _ := some "Operation not permitted (os error 1)"

/-- The claimed draft stays in the queue as well. -/
theorem claimed_and_queued :
    ¬ ∀ (env : DraftEnvironment) (operations : List DraftOperation),
      Throughout (DraftOperation.step env) Consistent .empty operations ∧
        Along (DraftOperation.step env) (fun s operation => ReadyWhenClaimed s (operation.step env s)) .empty
          operations := by
  intro claimed
  have kept := claimed keepingEnvironment [.enqueueBlueprintDraft (plainDraft "draft-a"), .claimNextBlueprintDraft none]
  have last := kept.1.last
  have both := last.single "draft-a" .queue .active (by decide +kernel) (by decide +kernel)
  cases both

end Concrete

end Millrace.Blueprints
