import Millrace.Runtime.Claiming
import Millrace.Runtime.StaleDetection
import Millrace.WorkDocuments.RoundTrip

/-! When a failed activation has left the claimed item in its queue. -/

set_option autoImplicit false

namespace Millrace.Activation
open Millrace.Text Millrace.Contracts Millrace.WorkDocuments Millrace.Action Millrace.Queue Millrace.Blueprints
open Millrace.Planning (Selector PlanningClaim activePath)
open Millrace.Closure (ClosureSession ClosureSnapshot ClosureTargetState Meeting GraphActivationDecision FindsActive
  Provides Searched)
open Millrace.Runtime (EntryPlan FrozenGraphPlanePlan entryPlane entryKeyForWorkItem)

section
variable [Rfc3339] [json : SerdeJson]

/-! ## The entry of an item -/

/-- The plan has an entry for the kind, at a stage of the plane. -/
def HasEntry (plan : EntryPlan) (kind : WorkItemKind) : Prop :=
  (plan.graph (entryPlane kind)).isSome ∧ ∃ entry,
    ((plan.compiledEntries (entryPlane kind)).find? fun entry => entry.entryKey == entryKeyForWorkItem kind) = some entry ∧
      (stageNameForPlane (entryPlane kind) entry.stageKindId).isOk

/-- The plan has a learning node of the stage, and the first node of that id has a learning stage. -/
def HasStage (plan : EntryPlan) (target : StageName) : Prop := ∃ graph, plan.graph .learning = some graph ∧ ∃ node,
  (graph.nodes.find? fun node => (stageNameForPlane .learning node.stageKindId).toOption == some target) = some node ∧
    ∃ named, (graph.nodes.find? fun other => other.nodeId == node.nodeId) = some named ∧
      (stageNameForPlane .learning named.stageKindId).isOk

omit [Rfc3339] json in
theorem stageOf_isOk (kind : WorkItemKind) (stageKindId : String) :
    (stageOf kind stageKindId).isOk = (stageNameForPlane (entryPlane kind) stageKindId).isOk := by
  unfold stageOf
  cases stageNameForPlane (entryPlane kind) stageKindId <;> rfl

omit [Rfc3339] json in
theorem workItemActivation_isOk (plan : EntryPlan) (kind : WorkItemKind) :
    (workItemActivationForGraph plan kind).isOk ↔ HasEntry plan kind := by
  unfold workItemActivationForGraph graphForKind HasEntry
  cases plan.graph (entryPlane kind) with
  | none => simp [Except.isOk, Except.toBool]
  | some graph =>
    simp only [Option.isSome_some, true_and, ok_bind]
    unfold activationFromEntry
    cases (plan.compiledEntries (entryPlane kind)).find? fun entry => entry.entryKey == entryKeyForWorkItem kind with
    | none => simp [Except.isOk, Except.toBool]
    | some entry =>
      have stage := stageOf_isOk kind entry.stageKindId
      simp only [Option.some.injEq, exists_eq_left', ← stage]
      cases stageOf kind entry.stageKindId <;> rfl

omit [Rfc3339] json in
theorem learningStageActivation_isOk (plan : EntryPlan) (target : StageName) :
    (learningStageActivationForGraph plan target).isOk ↔ HasStage plan target := by
  unfold learningStageActivationForGraph graphForKind HasStage
  show _ ↔ ∃ graph, plan.graph (entryPlane .learningRequest) = some graph ∧ _
  cases plan.graph (entryPlane .learningRequest) with
  | none => simp [Except.isOk, Except.toBool]
  | some graph =>
    simp only [ok_bind, Option.some.injEq, exists_eq_left']
    cases graph.nodes.find? fun node => (stageNameForPlane .learning node.stageKindId).toOption == some target with
    | none => simp [Except.isOk, Except.toBool]
    | some node =>
      simp only [Option.some.injEq, exists_eq_left']
      unfold activationFromNode
      cases graph.nodes.find? fun other => other.nodeId == node.nodeId with
      | none => simp [Except.isOk, Except.toBool]
      | some named =>
        have stage := stageOf_isOk .learningRequest named.stageKindId
        simp only [Option.some.injEq, exists_eq_left']
        rw [show Plane.learning = entryPlane .learningRequest from rfl, ← stage]
        cases stageOf .learningRequest named.stageKindId <;> rfl

/-! ## The steps after a claim -/

section Steps
variable (env : DraftEnvironment) (plan : EntryPlan) (met : Meeting)

/-- The claimed learning request can be read. -/
structure RequestRead (files : DraftWorld) (path : DocumentPath) (document : LearningRequestDocument) : Prop where
  quiet : (env.toEnvironment.reading files.world.step).fault = none
  document : ((files.world.workspace.file path).bind fun raw =>
    (parseLearningRequestDocumentWithSource raw (absolute env.toEnvironment path.relative)).toOption) = some document

/-- The plan has the entry of a claimed item: of a learning request that names its stage, the node of that stage. -/
inductive Enters (files : DraftWorld) : PlanningClaim → Prop where
  | request {claim : QueueClaim} {document : LearningRequestDocument} (family : claim.workItemKind = .learningRequest)
    (read : RequestRead env files claim.path document)
    (stage : ∀ target, document.targetStage = some target → HasStage plan (stageOfLearning target))
    (entry : document.targetStage = none → HasEntry plan claim.workItemKind) : Enters files (.document claim)
  | document {claim : QueueClaim} (family : claim.workItemKind ≠ .learningRequest)
    (entry : HasEntry plan claim.workItemKind) : Enters files (.document claim)
  | draft {claim : DraftClaim} (entry : HasEntry plan claim.workItemKind) : Enters files (.draft claim)

variable {env plan met} {s : ActivationSession}

/-- Only a file was looked at. -/
structure Looked (s t : ActivationSession) : Prop where
  files : SameFiles s.files t.files
  closure : t.closure = s.closure

omit json in
theorem onFiles_ensues {α : Type} {x : DraftM α} {Q : α → DraftWorld → Prop} {E : DraftWorld → Prop}
    (ensues : Ensues s.files x Q fun _ => E) : Ensues s (onFiles x) (fun a t => Q a t.files ∧ t.closure = s.closure)
      fun _ t => E t.files ∧ t.closure = s.closure :=
  adapt_ensues (onPart_ensues ensues (fun _ _ ends => ⟨ends, rfl⟩) fun _ _ ends => ⟨ends, rfl⟩)

omit json in
theorem onClosure_ensues {α : Type} {x : Closure.ClosureM α} {Q : α → ClosureSession → Prop}
    {E : ClosureSession → Prop} (ensues : Ensues s.closure x Q fun _ => E) :
    Ensues s (onClosure x) (fun a t => Q a t.closure ∧ t.files = s.files)
      fun _ t => E t.closure ∧ t.files = s.files :=
  adapt_ensues (onPart_ensues ensues (fun _ _ ends => ⟨ends, rfl⟩) fun _ _ ends => ⟨ends, rfl⟩)

omit json in
theorem readToString_asks {env : Environment} {s : World} (path : DocumentPath) : Ensues s (readToString env path)
    (fun raw t => ((env.reading s.step).fault = none ∧ s.workspace.file path = some raw) ∧ t.workspace = s.workspace)
    (fun _ t => ((env.reading s.step).fault = none → s.workspace.file path = none) ∧ t.workspace = s.workspace) := by
  unfold readToString readIfPresent fileOperation
  simp only [bind_assoc]
  apply reading_ensues.reads
  rintro answer rfl
  cases fault : (env.reading s.step).fault with
  | some message => exact .throw ⟨nofun, rfl⟩
  | none =>
    simp only [pure_bind]
    apply currentWorkspace_ensues.reads
    rintro _ rfl
    cases file : s.tick.workspace.file path with
    | none => exact .throw ⟨fun _ => file, rfl⟩
    | some raw => exact .pure ⟨⟨trivial, file⟩, rfl⟩

theorem readLearningRequest_asks (path : DocumentPath) : Ensues s (readLearningRequest env path)
    (fun document t => RequestRead env s.files path document ∧ Looked s t)
    (fun _ t => (∀ document, ¬RequestRead env s.files path document) ∧ Looked s t) := by
  have raw : Ensues s (onFiles (onQueue (readToString env.toEnvironment path)))
      (fun raw t => ((env.toEnvironment.reading s.files.world.step).fault = none ∧
        s.files.world.workspace.file path = some raw) ∧ Looked s t)
      (fun _ t => (∀ document, ¬RequestRead env s.files path document) ∧ Looked s t) := by
    have queue : Ensues s.files (onQueue (readToString env.toEnvironment path))
        (fun raw t => ((env.toEnvironment.reading s.files.world.step).fault = none ∧
          s.files.world.workspace.file path = some raw) ∧ SameFiles s.files t)
        (fun _ t => ((env.toEnvironment.reading s.files.world.step).fault = none →
          s.files.world.workspace.file path = none) ∧ SameFiles s.files t) :=
      onPart_ensues (readToString_asks path) (fun _ _ ends => ⟨ends.1, rfl, rfl, ends.2⟩)
        fun _ _ ends => ⟨ends.1, rfl, rfl, ends.2⟩
    apply (onFiles_ensues queue).weaken
    · exact fun _ _ ends => ⟨ends.1.1, ends.1.2, ends.2⟩
    · rintro _ t ⟨⟨missing, same⟩, closure⟩
      refine ⟨fun document read => ?_, same, closure⟩
      have document := read.document
      rw [missing read.quiet] at document
      cases document
  unfold readLearningRequest
  apply Ensues.bind raw
  rintro raw t ⟨⟨quiet, file⟩, looked⟩
  cases parsed : parseLearningRequestDocumentWithSource raw (absolute env.toEnvironment path.relative) with
  | error source =>
    refine .throw ⟨fun document read => ?_, looked⟩
    have document := read.document
    rw [file, Option.bind_some, parsed] at document
    cases document
  | ok document =>
    refine .pure ⟨⟨quiet, ?_⟩, looked⟩
    rw [file, Option.bind_some, parsed]
    rfl

omit json in
/-- A lookup in the plan that succeeds just where its condition holds. -/
theorem lookup_asks {x : Except ActivationError GraphActivationDecision} {P : Prop} (isOk : x.isOk ↔ P)
    {t : ActivationSession} (looked : Looked s t) :
    Ensues t (ofExcept x : ActivationM GraphActivationDecision) (fun _ u => P ∧ Looked s u) (fun _ u => ¬P ∧ Looked s u) := by
  apply ofExcept_ensues
  · exact fun _ same => ⟨isOk.mp (by rw [same]; rfl), looked⟩
  · intro _ same
    refine ⟨fun holds => ?_, looked⟩
    have ok := isOk.mpr holds
    rw [same] at ok
    cases ok

theorem activationForClaim_asks (claim : PlanningClaim) : Ensues s (activationForClaim env plan claim)
    (fun _ t => Enters env plan s.files claim ∧ Looked s t)
    (fun _ t => ¬Enters env plan s.files claim ∧ Looked s t) := by
  unfold activationForClaim
  cases claim with
  | draft claim =>
    apply (lookup_asks (workItemActivation_isOk plan claim.workItemKind) ⟨.refl _, rfl⟩).weaken
    · exact fun _ _ ends => ⟨.draft ends.1, ends.2⟩
    · rintro _ _ ⟨missing, looked⟩
      refine ⟨?_, looked⟩
      rintro (_ | _ | entry)
      exact missing entry
  | document claim =>
    apply Ensues.ite
    · intro family
      have document_of (entered : Enters env plan s.files (.document claim)) :
          ∃ document, RequestRead env s.files claim.path document ∧
            (∀ target, document.targetStage = some target → HasStage plan (stageOfLearning target)) ∧
              (document.targetStage = none → HasEntry plan claim.workItemKind) := by
        rcases entered with ⟨-, read, stage, entry⟩ | ⟨other, -⟩ | -
        · exact ⟨_, read, stage, entry⟩
        · exact absurd family other
      apply Ensues.bind ((readLearningRequest_asks claim.path).weaken (fun _ _ ends => ends) fun _ _ ends =>
        ⟨fun entered => let ⟨document, read, _⟩ := document_of entered; ends.1 document read, ends.2⟩)
      rintro document t ⟨read, looked⟩
      -- the request is read once, and there is one document of it
      have entered_iff : Enters env plan s.files (.document claim) ↔
          (∀ target, document.targetStage = some target → HasStage plan (stageOfLearning target)) ∧
            (document.targetStage = none → HasEntry plan claim.workItemKind) := by
        constructor
        · intro entered
          obtain ⟨other, read', stage, entry⟩ := document_of entered
          obtain rfl := Option.some.inj (read'.document.symm.trans read.document)
          exact ⟨stage, entry⟩
        · exact fun ⟨stage, entry⟩ => .request family read stage entry
      rw [entered_iff]
      cases stage : document.targetStage with
      | none =>
        apply (lookup_asks (workItemActivation_isOk plan claim.workItemKind) looked).weaken
        · exact fun _ _ ends => ⟨⟨nofun, fun _ => ends.1⟩, ends.2⟩
        · exact fun _ _ ends => ⟨fun entry => ends.1 (entry.2 rfl), ends.2⟩
      | some target =>
        apply (lookup_asks (learningStageActivation_isOk plan (stageOfLearning target)) looked).weaken
        · exact fun _ _ ends => ⟨⟨fun _ same => Option.some.inj same ▸ ends.1, nofun⟩, ends.2⟩
        · exact fun _ _ ends => ⟨fun entry => ends.1 (entry.1 _ rfl), ends.2⟩
    · intro family
      apply (lookup_asks (workItemActivation_isOk plan claim.workItemKind) ⟨.refl _, rfl⟩).weaken
      · exact fun _ _ ends => ⟨.document family ends.1, ends.2⟩
      · rintro _ _ ⟨missing, looked⟩
        refine ⟨?_, looked⟩
        rintro (⟨other, -, -, -⟩ | ⟨-, entry⟩ | -)
        · exact family other
        · exact missing entry

/-- What a claimed item takes to be activated: its closure target is there or is opened, the plan has its entry, and the
snapshot is saved. -/
structure Activates (env : DraftEnvironment) (plan : EntryPlan) (met : Meeting) (s : ActivationSession)
    (claim : PlanningClaim) : Prop where
  target : ∃ n, Provides met s.closure (closureClaim env claim s.files) n ∧ met.fault n = none
  entry : Enters env plan s.files claim

omit json in
theorem startRun_asks {c : ClosureSession} (run : Runtime.ActiveRunState) : Ensues c (Closure.startRun met run)
    (fun _ _ => met.fault c.operations = none) (fun _ t => met.fault c.operations ≠ none ∧ t.saved = c.saved) := by
  unfold Closure.startRun Closure.modifySnapshot Closure.saveSnapshot
  apply Ensues.bind (Ensues.modify _)
  rintro _ _ rfl
  apply Ensues.bind (Closure.fileOperation_asks.weaken (fun _ _ ends => ends) fun _ _ (ends : _ ∧ _) =>
    ⟨ends.1, ends.2 ▸ rfl⟩)
  rintro _ _ ⟨quiet, rfl⟩
  rintro _ rfl
  exact quiet

/-- What is left by an activation that failed: what was claimed, with the snapshot as it was saved before. -/
structure Left (s t : ActivationSession) : Prop where
  files : SameFiles s.files t.files
  saved : t.closure.saved = s.closure.saved

theorem activateClaim_asks (claim : PlanningClaim) : Ensues s (activateClaim env plan met claim)
    (fun _ _ => Activates env plan met s claim) (fun _ t => ¬Activates env plan met s claim ∧ Left s t) := by
  unfold activateClaim
  apply Ensues.get
  dsimp only
  have provides : Ensues s.closure (Closure.maybeCreateClosureTargetForClaim met (closureClaim env claim s.files)) _ _ :=
    Closure.maybeCreateClosureTargetForClaim_asks (closureClaim env claim s.files)
  have provided := onClosure_ensues provides
  apply Ensues.bind (provided.weaken (fun _ _ ends => ends) fun _ t (ends : (_ ∧ Searched _ _) ∧ _) =>
    ⟨fun activates => let ⟨n, provides, _⟩ := activates.target; ends.1.1 n provides, ends.2 ▸ .refl _, ends.1.2.saved⟩)
  rintro _ t ⟨⟨provides, searched⟩, files⟩
  apply Ensues.bind ((activationForClaim_asks claim).weaken (fun _ _ ends => ends) fun _ u (ends : _ ∧ Looked _ _) =>
    ⟨fun activates => ends.1 (files ▸ activates.entry), files ▸ ends.2.files, ends.2.closure ▸ searched.saved⟩)
  rintro activation u ⟨enters, looked⟩
  have starts : Ensues u.closure (Closure.startRun met (Closure.claimRun met activation (closureClaim env claim s.files))) _ _ :=
    startRun_asks (Closure.claimRun met activation (closureClaim env claim s.files))
  have asked := onClosure_ensues starts
  apply asked.weaken
  · rintro _ v ⟨quiet, -⟩
    rw [looked.closure] at quiet
    exact ⟨⟨_, provides, quiet⟩, files ▸ enters⟩
  · rintro _ v ⟨⟨fails, saved⟩, same⟩
    refine ⟨fun activates => ?_, same ▸ files ▸ looked.files, saved.trans (looked.closure ▸ searched.saved)⟩
    obtain ⟨n, provides', quiet⟩ := activates.target
    rw [looked.closure, ← provides'.unique provides] at fails
    exact fails quiet

end Steps

/-! ## Atomic activation -/

/-- Between two steps the snapshot is the saved one; a step counts its file operations from zero. -/
def ActivationSession.begun (s : ActivationSession) : ActivationSession :=
  { s with closure := { s.closure with saved := s.closure.snapshot, operations := 0 } }

/-- A run on the item's plane is that of the item. -/
def Owned (snapshot : ClosureSnapshot) (kind : WorkItemKind) (stem : String) : Prop :=
  ∃ run, snapshot.activeRunsByPlane (planeForBuiltinKind kind) = some run ∧ run.val.workItemKind = some kind ∧
    run.val.workItemId = some stem

/-- The root to which a claim for the plane is confined. -/
def rootOf (plane : Plane) (found : Option ClosureTargetState) : Option String :=
  if plane = .learning then none else found.map (·.rootSpecId)

/-- The claimed item is in the queue it was claimed from. -/
def InQueue (files : DraftWorld) : PlanningClaim → Prop
  | .document claim => ∀ path, claim.sourcePath = some path → (files.world.workspace.file path).isSome
  | .draft claim => (files.file claim.sourcePath).isSome

section
variable (env : DraftEnvironment) (plan : EntryPlan) (met : Meeting) (plane : Plane) (s : ActivationSession)

/-- The next item of the plane is this one, and the files are so once it is claimed. -/
def NextClaim (claim : PlanningClaim) (files : DraftWorld) : Prop := ∃ found, FindsActive met s.begun.closure found ∧
  claimForPlane env plan plane (rootOf plane found) s.files = .ok (some claim) files

/-- A failed activation has left no file active that no run owns, and what it claimed is in its queue. -/
def Atomic : Prop := ∀ error t, activateNextClaimForPlane env plan met plane s.begun = .error error t →
  (∀ kind stem, ActiveFile t.files kind stem → ActiveFile s.files kind stem ∨ Owned t.closure.saved kind stem) ∧
    ∀ claim files, NextClaim env plan met plane s claim files → InQueue t.files claim

/-- The plane is free, no draft that is claimed stays in its queue, and the next item can be activated. -/
structure Sound : Prop where
  removes : s.closure.snapshot.activeRunsByPlane plane = none → ∀ found, FindsActive met s.begun.closure found →
    Removes env s.files (after (claimForPlane env plan plane (rootOf plane found)) s.files)
  activates : s.closure.snapshot.activeRunsByPlane plane = none → ∀ claim files,
    NextClaim env plan met plane s claim files →
      Activates env plan met { files, closure := { s.begun.closure with operations := 1 } } claim

end

variable {env : DraftEnvironment} {plan : EntryPlan} {met : Meeting} {plane : Plane} {s : ActivationSession}

omit json in
theorem rootOf_unique {c : ClosureSession} {found found' : Option ClosureTargetState} (finds : FindsActive met c found)
    (finds' : FindsActive met c found') : found' = found := by
  have same : found'.toList = found.toList := finds'.active.trans finds.active.symm
  cases found with
  | none => cases found' <;> simp_all
  | some target => cases found' <;> simp_all

omit json in
/-- A file that the claim made active has no run: the plane is free in the saved snapshot. -/
theorem Starts.orphan (free : s.closure.snapshot.activeRunsByPlane plane = none) {t : ActivationSession}
    (starts : Starts plane s.files t.files) (saved : t.closure.saved = s.closure.snapshot) :
    ¬∀ kind stem, ActiveFile t.files kind stem → ActiveFile s.files kind stem ∨ Owned t.closure.saved kind stem := by
  intro owned
  obtain ⟨kind, stem, rfl, before, now⟩ := starts
  rcases owned kind stem now with active | ⟨run, held, -⟩
  · exact before active
  · rw [saved, free] at held
    cases held

omit json in
theorem Starts.of_same {s t u : DraftWorld} (starts : Starts plane s t) (same : SameFiles t u) : Starts plane s u := by
  obtain ⟨kind, stem, ofPlane, before, now⟩ := starts
  have back : SameFiles u t := ⟨same.drafts.symm, same.removals.symm, same.workspace.symm⟩
  exact ⟨kind, stem, ofPlane, before, (Still.of_same back).within now⟩

/-- The ends of an activation that fails: nothing was claimed, or what was claimed is active without a run. -/
def Ends (env : DraftEnvironment) (plan : EntryPlan) (met : Meeting) (plane : Plane) (s t : ActivationSession) : Prop :=
  (Sound env plan met plane s ∧ (∀ kind stem, ActiveFile t.files kind stem → ActiveFile s.files kind stem) ∧
      ∀ claim files, ¬NextClaim env plan met plane s claim files) ∨
    (¬Sound env plan met plane s ∧ ¬∀ kind stem, ActiveFile t.files kind stem →
      ActiveFile s.files kind stem ∨ Owned t.closure.saved kind stem)

section Claimed
variable {found : Option ClosureTargetState} {files : DraftWorld}

/-- Where the claim is known, the activation is sound just where that one can be activated. -/
theorem sound_iff_of_claim (free : s.closure.snapshot.activeRunsByPlane plane = none)
    (finds : FindsActive met s.begun.closure found) {claim : Option PlanningClaim}
    (ran : claimForPlane env plan plane (rootOf plane found) s.files = .ok claim files)
    (removes : Removes env s.files files) : Sound env plan met plane s ↔ ∀ item, claim = some item →
      Activates env plan met { files, closure := { s.begun.closure with operations := 1 } } item := by
  constructor
  · rintro sound item rfl
    exact sound.activates free item files ⟨found, finds, ran⟩
  · intro activates
    constructor
    · intro _ found' finds'
      obtain rfl := rootOf_unique finds finds'
      unfold after
      rwa [ran]
    · rintro _ item files' ⟨found', finds', ran'⟩
      obtain rfl := rootOf_unique finds finds'
      rw [ran] at ran'
      cases ran'
      exact activates item rfl

theorem failedClaim_ends (free : s.closure.snapshot.activeRunsByPlane plane = none)
    (finds : FindsActive met s.begun.closure found) {error : QueueStoreError}
    (ran : claimForPlane env plan plane (rootOf plane found) s.files = .error error files)
    (fails : Fails env plane s.files files) {t : ActivationSession} (here : t.files = files)
    (saved : t.closure.saved = s.closure.snapshot) : Ends env plan met plane s t := by
  have unclaimed (claim : PlanningClaim) (files' : DraftWorld) : ¬NextClaim env plan met plane s claim files' := by
    rintro ⟨found', finds', ran'⟩
    obtain rfl := rootOf_unique finds finds'
    rw [ran] at ran'
    cases ran'
  subst here
  rcases fails with ⟨removes, within⟩ | ⟨stays, starts⟩
  · refine .inl ⟨⟨fun _ found' finds' => ?_, fun _ claim files' next => absurd next (unclaimed claim files')⟩, within, unclaimed⟩
    obtain rfl := rootOf_unique finds finds'
    unfold after
    rwa [ran]
  · refine .inr ⟨fun sound => stays ?_, starts.orphan free saved⟩
    have removes := sound.removes free found finds
    unfold after at removes
    rwa [ran] at removes

theorem activatedClaim_ends (free : s.closure.snapshot.activeRunsByPlane plane = none)
    (finds : FindsActive met s.begun.closure found) {claim : PlanningClaim}
    (ran : claimForPlane env plan plane (rootOf plane found) s.files = .ok (some claim) files)
    (removes : Removes env s.files files) (starts : Starts plane s.files files) :
    Ensues { files, closure := { s.begun.closure with operations := 1 } } (activateClaim env plan met claim)
      (fun _ _ => Sound env plan met plane s) fun _ t => Ends env plan met plane s t := by
  have sound_iff := sound_iff_of_claim free finds ran removes
  apply (activateClaim_asks claim).weaken
  · exact fun _ _ activates => sound_iff.mpr fun item same => Option.some.inj same ▸ activates
  · intro _ t ⟨stuck, left⟩
    exact .inr ⟨fun sound => stuck (sound_iff.mp sound claim rfl), (starts.of_same left.files).orphan free left.saved⟩

end Claimed

omit [Rfc3339] json in
/-- What is ensured of a computation is ensured of the run that it makes. -/
theorem ensues_ran {ε σ α : Type} {x : EStateM ε σ α} {s : σ} {Q : α → σ → Prop} {E : ε → σ → Prop}
    (ensues : Ensues s x Q E) :
    Ensues s x (fun a t => x s = .ok a t ∧ Q a t) fun e t => x s = .error e t ∧ E e t := by
  rintro _ rfl
  cases ran : x _ with
  | ok a t => exact ⟨rfl, ensues.of_ok ran⟩
  | error e t => exact ⟨rfl, ensues.of_error ran⟩

/-- How an activation can end. -/
theorem activateNext_ends : Ensues s.begun (activateNextClaimForPlane env plan met plane)
    (fun _ _ => Sound env plan met plane s) fun _ t => Ends env plan met plane s t := by
  unfold activateNextClaimForPlane
  apply Ensues.get
  apply Ensues.ite
  · intro busy
    have taken : s.closure.snapshot.activeRunsByPlane plane ≠ none := Option.isSome_iff_ne_none.mp busy
    exact .pure ⟨fun free => absurd free taken, fun free => absurd free taken⟩
  intro idle
  have free : s.closure.snapshot.activeRunsByPlane plane = none := by
    rwa [Bool.not_eq_true, Option.isSome_eq_false_iff, Option.isNone_iff_eq_none] at idle
  have looks : Ensues s.begun.closure (Closure.activeClosureTarget met) _ _ := Closure.activeClosureTarget_asks
  have searched := onClosure_ensues looks
  have unfound {t : ActivationSession} (none : ∀ found, ¬FindsActive met s.begun.closure found)
      (files : t.files = s.files) : Ends env plan met plane s t := by
    refine .inl ⟨⟨fun _ found finds => absurd finds (none found), ?_⟩, fun _ _ active => files ▸ active, ?_⟩
    · exact fun _ _ _ ⟨found, finds, _⟩ => absurd finds (none found)
    · exact fun _ _ ⟨found, finds, _⟩ => none found finds
  apply Ensues.bind (searched.weaken (fun _ _ ends => ends) fun _ t (ends : (_ ∧ _) ∧ _) => unfound ends.1.1 ends.2)
  rintro found ⟨files, closure⟩ ⟨⟨finds, here⟩, same⟩
  dsimp only at here same
  subst here same
  -- the claim is followed as the run that it is, since the condition speaks of that
  have claims : Ensues s.begun.files (claimForPlane env plan plane (rootOf plane found)) _ _ :=
    claimForPlane_claims plan plane (rootOf plane found)
  have claimed : Ensues s.begun.files (claimForPlane env plan plane (rootOf plane found))
      (fun claim t => claimForPlane env plan plane (rootOf plane found) s.files = .ok claim t ∧
        Removes env s.files t ∧ (claim ≠ none → Starts plane s.files t))
      (fun _ t => ∃ error, claimForPlane env plan plane (rootOf plane found) s.files = .error error t ∧
        Fails env plane s.files t) :=
    (ensues_ran claims).weaken (fun _ _ ends => ends) fun error _ ends => ⟨error, ends⟩
  apply Ensues.bind ((onFiles_ensues (s := ⟨s.begun.files, { s.begun.closure with operations := 1 }⟩) claimed).weaken
    (fun _ _ ends => ends) fun _ t (ends : (∃ _, _ ∧ _) ∧ _) =>
      let ⟨⟨_, ran, fails⟩, closure⟩ := ends
      failedClaim_ends free finds ran fails rfl (closure ▸ rfl))
  rintro claim ⟨files, closure⟩ ⟨⟨ran, removes, starts⟩, same⟩
  dsimp only at ran removes starts same
  subst same
  cases claim with
  | none => exact .pure ((sound_iff_of_claim free finds ran removes).mpr fun item same => absurd same (Option.some_ne_none item).symm)
  | some claim =>
    apply Ensues.bind (activatedClaim_ends free finds ran removes (starts (Option.some_ne_none claim)))
    exact fun _ _ sound => .pure sound

/-- An activation is atomic just where its next item can be activated, and a claimed draft removed from its queue. -/
theorem atomic_iff (env : DraftEnvironment) (plan : EntryPlan) (met : Meeting) (plane : Plane) (s : ActivationSession) :
    Atomic env plan met plane s ↔ Sound env plan met plane s := by
  constructor
  · intro atomic
    cases ran : activateNextClaimForPlane env plan met plane s.begun with
    | ok => exact activateNext_ends.of_ok ran
    | error error t =>
      rcases activateNext_ends.of_error ran with ⟨sound, -⟩ | ⟨-, orphan⟩
      · exact sound
      · exact absurd (atomic error t ran).1 orphan
  · intro sound error t ran
    rcases activateNext_ends.of_error ran with ⟨-, within, unclaimed⟩ | ⟨unsound, -⟩
    · exact ⟨fun kind stem active => .inl (within kind stem active), fun claim files next => absurd next (unclaimed claim files)⟩
    · exact absurd sound unsound

end

section Concrete

local instance zonesOfActivation : Rfc3339 := twoZones
local instance objectsOfActivation : SerdeJson := twoObjects

def calmTick : Meeting where
  now := inLondon
  runId := "run-1"
  fault _ := none
  claim _ _ := none
  rootIdeaFound _ := true

/-- A draft that was queued under a plan with Blueprint stages. -/
def draftQueued : ActivationSession where
  files := after (enqueueBlueprintDraft Planning.calmDrafts (plainDraft "draft-a")) .empty
  closure := .start [] .empty

/-- The activation has failed, and the draft is active while the planning plane is free. -/
def orphaned : EStateM.Result ActivationError ActivationSession Bool → Bool
  | .error _ t => (t.files.file ⟨.active, "draft-a"⟩).isSome && (t.closure.saved.activeRunsByPlane .planning).isNone
  | .ok _ _ => false

/-- The standard plan, put in force while the draft is queued, has no entry for it. -/
theorem draft_orphaned : ¬∀ (env : DraftEnvironment) (plan : EntryPlan) (met : Meeting) (plane : Plane)
    (s : ActivationSession), Atomic env plan met plane s := by
  intro atomic
  have failed : orphaned (activateNextClaimForPlane Planning.calmDrafts Startup.standardEntries calmTick .planning
      draftQueued.begun) = true := by decide +kernel
  have unclaimed : draftQueued.files.file ⟨.active, "draft-a"⟩ = none := by decide +kernel
  cases ran : activateNextClaimForPlane Planning.calmDrafts Startup.standardEntries calmTick .planning draftQueued.begun with
  | ok a t =>
    rw [ran] at failed
    cases failed
  | error error t =>
    rw [ran] at failed
    obtain ⟨active, free⟩ := Bool.and_eq_true_iff.mp failed
    rcases (atomic Planning.calmDrafts Startup.standardEntries calmTick .planning draftQueued error t ran).1 .blueprintDraft "draft-a"
      (.draft active) with before | ⟨run, held, -⟩
    · cases before with
      | document family => exact family rfl
      | draft there => rw [unclaimed] at there; cases there
    · have free : t.closure.saved.activeRunsByPlane (planeForBuiltinKind .blueprintDraft) = none :=
        Option.isNone_iff_eq_none.mp free
      rw [free] at held
      cases held

end Concrete

end Millrace.Activation
