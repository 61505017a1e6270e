import Millrace.Blueprints.DraftInvariant
import Millrace.Blueprints.ManagerHandler

/-! An effect that answers before any mutation has left every file as it was. -/

set_option autoImplicit false

namespace Millrace.Blueprints
open Millrace.Text Millrace.Contracts Millrace.WorkDocuments Millrace.Action Millrace.Queue Millrace.Runtime
open Millrace.Application (blueprintFailure blueprintSuccess)

section
variable [Rfc3339]

/-! ## Stores with the same files -/

namespace BlueprintStore

structure SameFiles (s t : BlueprintStore) : Prop where
  drafts : Blueprints.SameFiles s.drafts t.drafts
  manifests : t.manifests = s.manifests
  packets : t.packets = s.packets
  markdown : t.markdown = s.markdown
  critiques : t.critiques = s.critiques
  evaluations : t.evaluations = s.evaluations
  promotions : t.promotions = s.promotions

instance sameFilesRefl : Std.Refl SameFiles where
  refl _ := ⟨⟨rfl, rfl, rfl⟩, rfl, rfl, rfl, rfl, rfl, rfl⟩

instance sameFilesTrans : IsTrans BlueprintStore SameFiles where
  trans _ _ _ first second := by
    constructor
    · exact ⟨second.drafts.drafts.trans first.drafts.drafts, second.drafts.removals.trans first.drafts.removals,
        second.drafts.workspace.trans first.drafts.workspace⟩
    · exact second.manifests.trans first.manifests
    · exact second.packets.trans first.packets
    · exact second.markdown.trans first.markdown
    · exact second.critiques.trans first.critiques
    · exact second.evaluations.trans first.evaluations
    · exact second.promotions.trans first.promotions

theorem restart_sameFiles (s : BlueprintStore) : SameFiles s s.restart := ⟨⟨rfl, rfl, rfl⟩, rfl, rfl, rfl, rfl, rfl, rfl⟩

end BlueprintStore

/-! ## What a step of an effect may do -/

/-- No path recorded so far. -/
def Unrecorded (s : EffectState) : Prop := s.created = []

def SameStore (s t : EffectState) : Prop := BlueprintStore.SameFiles s.store t.store

instance sameStoreRefl : Std.Refl SameStore where
  refl s := Std.Refl.refl (r := BlueprintStore.SameFiles) s.store

instance sameStoreTrans : IsTrans EffectState SameStore where
  trans _ _ _ first second := IsTrans.trans (r := BlueprintStore.SameFiles) _ _ _ first second

/-- The step reads. -/
def Reads (s t : EffectState) : Prop := t.created = s.created ∧ SameStore s t

instance readsRefl : Std.Refl Reads where
  refl s := ⟨rfl, Std.Refl.refl s⟩

instance readsTrans : IsTrans EffectState Reads where
  trans _ _ _ first second := ⟨second.1.trans first.1, IsTrans.trans _ _ _ first.2 second.2⟩

theorem Reads.traced {s t : EffectState} (reads : Reads s t) : Traced Unrecorded SameStore s t :=
  fun ends => ⟨reads.1.symm.trans ends, reads.2⟩

theorem Reads.grown {s t : EffectState} (reads : Reads s t) : Grown Unrecorded s t :=
  fun ends => reads.1.symm.trans ends

variable {ε α β : Type} {env : DraftEnvironment}

/-- Whatever is done to the store, the record stays. -/
theorem onStore_grows (x : EStateM ε BlueprintStore α) : Advances (Grown Unrecorded) (onStore x) :=
  Advances.onPart (T := fun _ _ => True) (fun _ s rfl => by cases x _ <;> trivial) fun _ _ _ recorded => recorded

theorem modifyStore_grows (f : BlueprintStore → BlueprintStore) :
    Advances (Grown Unrecorded) (modifyStore f : EffectM ε Unit) := Advances.modify fun _ recorded => recorded

theorem onDrafts_reads {x : DraftM α} (reads : Advances Blueprints.SameFiles x) : Advances Reads (onDrafts x) := by
  apply Advances.onPart (T := BlueprintStore.SameFiles)
  · apply Advances.onPart reads
    exact fun s _ same => ⟨same, rfl, rfl, rfl, rfl, rfl, rfl⟩
  · exact fun _ _ same => ⟨rfl, same⟩

theorem effectOperation_reads (relative : String) : Advances Reads (effectOperation env relative) :=
  onDrafts_reads fun s => fileOperation_quiet (.refl s) relative

theorem readBlueprintDraft_reads (path : DraftPath) : Advances Reads (onDrafts (readBlueprintDraft env path)) :=
  onDrafts_reads fun s => (readBlueprintDraft_quiet (.refl s) path).weaken (fun _ _ ends => ends.2) fun _ _ same => same

theorem activeDraft_reads (r : StageResultEnvelope) : Advances Reads (activeDraftForStageResult env r) := by
  unfold activeDraftForStageResult
  exact .ite (.throw _) (readBlueprintDraft_reads _)

theorem candidateFile_reads (blueprintId : String) : Advances Reads (candidateFile env blueprintId) := by
  unfold candidateFile
  apply Advances.get.bind
  intro s
  cases (s.store.packets .candidates)[blueprintId]? with
  | none => exact .pure _
  | some packet =>
    apply Advances.bind
    · apply Advances.onPart (T := BlueprintStore.SameFiles)
      · apply Advances.onPart (T := fun w v => v.workspace = w.workspace)
        · rintro w v rfl
          rfl
        · exact fun _ _ same => ⟨⟨rfl, rfl, same⟩, rfl, rfl, rfl, rfl, rfl, rfl⟩
      · exact fun _ _ same => ⟨rfl, same⟩
    · intro answer
      cases answer.fault <;> exact .pure _

theorem candidatePacket_reads (draft : BlueprintDraftDocument) : Advances Reads (candidatePacketForDraft env draft) := by
  unfold candidatePacketForDraft
  cases draft.latestBlueprintId with
  | none => exact .throw _
  | some blueprintId =>
    apply (candidateFile_reads blueprintId).bind
    intro file
    apply (Advances.ofExcept _).bind
    intro packet
    exact (Advances.ofExcept _).bind fun _ => .pure _

theorem evaluatedPacket_reads (r : StageResultEnvelope) (run : RunArtifacts) (failureClass : String) :
    Advances Reads (evaluatedPacket env r run failureClass) := by
  unfold evaluatedPacket
  apply (activeDraft_reads r).adapt.bind
  intro draft
  apply (candidatePacket_reads draft).adapt.bind
  intro packet
  exact (Advances.ofExcept _).bind fun _ => .pure _

/-! ## Writes -/

theorem pushCreated_marks (path : String) (s : EffectState) :
    Ensues s (pushCreated path : EffectM ε Unit) (fun _ t => ¬Unrecorded t) fun _ t => ¬Unrecorded t := by
  rintro t rfl
  exact List.append_ne_nil_of_right_ne_nil _ (List.cons_ne_nil _ _)

/-- A write keeps the record, and fails before it has changed a file. -/
def Writes (x : EffectM ε α) : Prop := ∀ s, Ensues s x (fun _ t => t.created = s.created) fun _ t => Reads s t

namespace Writes

theorem of_reads {x : EffectM ε α} (reads : Advances Reads x) : Writes x :=
  fun s => (reads s).weaken (fun _ _ same => same.1) fun _ _ same => same

theorem adapt {ε' : Type} {f : ε → ε'} {x : EffectM ε α} (writes : Writes x) : Writes (adapt f x) :=
  fun s => adapt_ensues (writes s)

theorem map {f : α → β} {x : EffectM ε α} (writes : Writes x) : Writes (f <$> x) := by
  intro s
  rw [← bind_pure_comp]
  exact (writes s).bind fun _ _ kept => .pure kept

theorem ite {condition : Prop} [Decidable condition] {x y : EffectM ε α} (yes : Writes x) (no : Writes y) :
    Writes (if condition then x else y) := fun s => .ite (fun _ => yes s) fun _ => no s

theorem after_reads {x : EffectM ε α} {f : α → EffectM ε β} (first : Advances Reads x) (rest : ∀ a, Writes (f a)) :
    Writes (x >>= f) := by
  intro s
  apply Ensues.bind (first s)
  intro a t reads
  exact (rest a t).weaken (fun _ _ kept => kept.trans reads.1) fun _ _ later => IsTrans.trans _ _ _ reads later

/-- The change itself comes last. -/
theorem change (f : BlueprintStore → BlueprintStore) (a : α) :
    Writes (modifyStore f >>= fun _ => (pure a : EffectM ε α)) := by
  rintro s t rfl
  rfl

theorem grows {x : EffectM ε α} (writes : Writes x) : Advances (Grown Unrecorded) x :=
  fun s => (writes s).weaken (fun _ _ kept ends => kept.symm.trans ends) fun _ _ reads => reads.grown

/-- A write, the record of its path, and what follows. -/
theorem marks {x : EffectM ε String} {f : String → EffectM ε β} (writes : Writes x)
    (rest : ∀ path, Advances (Grown Unrecorded) (f path)) :
    Marks Unrecorded SameStore (x >>= fun path => pushCreated path >>= fun _ => f path) := by
  apply Marks.write
  · exact fun s => (writes s).weaken (fun _ _ _ => trivial) fun _ _ reads => reads.traced
  · intro path s
    apply Ensues.bind (pushCreated_marks path s)
    intro _ t recorded
    exact (rest path t).weaken (fun _ _ grown unrecorded => recorded (grown unrecorded))
      fun _ _ grown unrecorded => recorded (grown unrecorded)

end Writes

theorem writeUnique_writes (directory : JsonDirectory α) (stem : String) (document : α) :
    Writes (directory.writeUnique env stem document) := by
  unfold JsonDirectory.writeUnique
  apply Writes.after_reads .get
  intro s
  apply Writes.ite (.of_reads (.throw _))
  cases directory.validateContract document with
  | error error => exact .of_reads (.throw _)
  | ok _ =>
    apply Writes.after_reads (effectOperation_reads _)
    intro _
    apply Writes.after_reads (effectOperation_reads _)
    intro _
    apply Writes.after_reads (effectOperation_reads _)
    exact fun _ => .change _ _

theorem movePacket_writes (blueprintId : String) (target : PacketState) :
    Writes (moveCandidateBlueprintPacket env blueprintId target) := by
  unfold moveCandidateBlueprintPacket
  apply Writes.after_reads .get
  intro s
  cases (s.store.packets .candidates)[blueprintId]? with
  | none => exact .of_reads (.throw _)
  | some packet =>
    apply Writes.ite (.of_reads (.throw _))
    apply Writes.after_reads (effectOperation_reads _)
    intro _
    apply Writes.after_reads (effectOperation_reads _)
    exact fun _ => .change _ _

theorem moveMarkdown_writes (blueprintId : String) (target : PacketState) :
    Writes (moveCandidateMarkdown env blueprintId target) := by
  unfold moveCandidateMarkdown
  apply Writes.after_reads .get
  intro s
  cases (s.store.markdown .candidates)[blueprintId]? with
  | none => exact .of_reads (.pure _)
  | some text =>
    apply Writes.ite (.of_reads (.throw _))
    apply Writes.after_reads (effectOperation_reads _)
    intro _
    apply Writes.after_reads (effectOperation_reads _)
    exact fun _ => .change _ _

theorem persistMarkdown_writes (run : RunArtifacts) (blueprintId : String) :
    Writes (persistCandidateMarkdown env run blueprintId) := by
  unfold persistCandidateMarkdown
  cases run.markdown with
  | none => exact .of_reads (.throw _)
  | some text =>
    apply Writes.after_reads .get
    intro s
    apply Writes.ite (.of_reads (.throw _))
    apply Writes.after_reads (effectOperation_reads _)
    intro _
    apply Writes.after_reads (effectOperation_reads _)
    intro _
    apply Writes.after_reads (effectOperation_reads _)
    exact fun _ => .change _ _

/-! ## The handlers -/

section Handlers
variable {r : StageResultEnvelope} {run : RunArtifacts}

/-- Reads, then a write that is recorded. -/
theorem marks_after_reads {x : EffectM ε α} {f : α → EffectM ε β} (first : Advances Reads x)
    (rest : ∀ a, Marks Unrecorded SameStore (f a)) : Marks Unrecorded SameStore (x >>= f) :=
  .after_traced (first.weaken fun _ _ => Reads.traced) rest

theorem grows_pushCreated (path : String) : Advances (Grown Unrecorded) (pushCreated path : EffectM ε Unit) :=
  fun s => (pushCreated_marks path s).weaken (fun _ _ recorded ends => absurd ends recorded)
    fun _ _ recorded ends => absurd ends recorded

theorem contractorSteps_marks : Marks Unrecorded SameStore (contractorSteps env r run) := by
  unfold contractorSteps
  apply marks_after_reads (activeDraft_reads r).adapt
  intro draft
  apply marks_after_reads (.ofExcept _)
  intro packet
  apply marks_after_reads (.ofExcept _)
  intro _
  apply marks_after_reads (.ofExcept _)
  intro _
  apply (writeUnique_writes _ _ _).adapt.marks
  intro packetPath
  apply (persistMarkdown_writes run packet.blueprintId).grows.adapt.bind
  intro markdownPath
  apply (grows_pushCreated markdownPath).bind
  intro _
  exact (onStore_grows _).adapt.bind fun _ => .pure _

theorem recordEvaluation_marks (evaluation : BlueprintEvaluationDocument) (packet : BlueprintPacketDocument)
    (target : PacketState) : Marks Unrecorded SameStore (recordEvaluation env evaluation packet target) := by
  unfold recordEvaluation
  apply (writeUnique_writes _ _ _).adapt.marks
  intro evaluationPath
  apply (movePacket_writes _ _).grows.adapt.bind
  intro packetPath
  apply (grows_pushCreated packetPath).bind
  intro _
  apply (moveMarkdown_writes _ _).grows.adapt.bind
  intro moved
  cases moved with
  | none => exact .pure _
  | some markdownPath => exact (grows_pushCreated markdownPath).bind fun _ => .pure _

theorem approvalSteps_marks : Marks Unrecorded SameStore (approvalSteps env r run) := by
  unfold approvalSteps
  apply marks_after_reads (evaluatedPacket_reads r run _)
  rintro ⟨draft, packet, evaluation⟩
  apply marks_after_reads (.ofExcept _)
  intro _
  apply marks_after_reads (.ofExcept _)
  intro generated
  apply marks_after_reads (.ofExcept _)
  intro _
  apply marks_after_reads
  · unfold ensureTaskIdUnused
    exact Advances.get.bind fun s => .ite (.throw _) (.pure _)
  intro _
  apply marks_after_reads
  · unfold ensurePromotionIdUnused
    exact Advances.get.bind fun s => .ite (.throw _) (.pure _)
  intro _
  apply (recordEvaluation_marks evaluation packet .approved).then_grows
  rintro ⟨evaluationPath, packetPath⟩
  apply (onStore_grows _).adapt.bind
  intro taskPath
  apply (grows_pushCreated _).bind
  intro _
  apply (writeUnique_writes _ _ _).grows.adapt.bind
  intro promotionPath
  exact (grows_pushCreated promotionPath).bind fun _ => .pure _

theorem rejectionSteps_marks : Marks Unrecorded SameStore (rejectionSteps env r run) := by
  unfold rejectionSteps
  apply marks_after_reads (evaluatedPacket_reads r run _)
  rintro ⟨draft, packet, evaluation⟩
  apply marks_after_reads (.ofExcept _)
  intro file
  apply marks_after_reads (.ofExcept _)
  intro critique
  apply marks_after_reads (.ofExcept _)
  intro _
  apply (recordEvaluation_marks evaluation packet .rejected).then_grows
  intro _
  apply (writeUnique_writes _ _ _).grows.adapt.bind
  intro critiquePath
  apply (grows_pushCreated critiquePath).bind
  intro _
  exact (onStore_grows _).adapt.bind fun _ => .pure _

/-! ### The manager -/

theorem readManifestFile_reads (stem : String) (manifest : BlueprintManifestDocument) :
    Advances Reads (readManifestFile env stem manifest) := by
  unfold readManifestFile
  apply (effectOperation_reads _).bind
  intro _
  cases manifest.validateContract with
  | error error => exact .throw _
  | ok _ => exact .pure _

theorem otherManifestEntries_reads (manifestId : String) (listed : List ManifestEntry) :
    Advances Reads (otherManifestEntries env manifestId listed) := by
  induction listed with
  | nil => exact .pure _
  | cons entry rest ih =>
    obtain ⟨stem, file⟩ := entry
    unfold otherManifestEntries
    apply (readManifestFile_reads stem file).attempt.bind
    intro read
    apply ih.bind
    intro later
    cases read.toOption.filter _ <;> exact .pure _

theorem canonicalManifestEntry_reads (manifestId : String) :
    Advances Reads (canonicalManifestEntry env manifestId) := by
  unfold canonicalManifestEntry
  apply Advances.get.bind
  intro s
  cases s.store.manifests[manifestId]? with
  | none => exact .pure _
  | some file => exact (readManifestFile_reads manifestId file).bind fun _ => .pure _

theorem manifestEntries_reads (manifestId : String) :
    Advances Reads (blueprintManifestEntriesForId env manifestId) := by
  unfold blueprintManifestEntriesForId
  cases validateSafeIdentifier manifestId "manifest_id" with
  | error error => exact .throw _
  | ok _ =>
    apply (canonicalManifestEntry_reads manifestId).bind
    intro canonical
    apply (effectOperation_reads _).bind
    intro _
    apply Advances.get.bind
    intro s
    exact (otherManifestEntries_reads manifestId _).bind fun _ => .pure _

theorem readManifest_reads (manifestId : String) : Advances Reads (readBlueprintManifest env manifestId) := by
  unfold readBlueprintManifest
  apply (manifestEntries_reads manifestId).bind
  intro entries
  cases entries with
  | nil => exact .throw _
  | cons entry rest => exact (Advances.ofExcept _).bind fun _ => .pure _

theorem manifestExists_reads (manifest : BlueprintManifestDocument) :
    Advances Reads (managerManifestExistsEquivalent env manifest) := by
  unfold managerManifestExistsEquivalent
  apply (readManifest_reads manifest.manifestId).attempt.bind
  intro read
  cases read with
  | ok existing => exact .ite (.pure _) (.throw _)
  | error error => exact .ite (.pure _) (.throw _)

theorem equivalentDraftFiles_reads (draft : BlueprintDraftDocument) (states : List DraftState) :
    Advances Reads (equivalentDraftFiles env draft states) := by
  induction states with
  | nil => exact .pure _
  | cons state rest ih =>
    unfold equivalentDraftFiles
    apply Advances.get.bind
    intro s
    apply Advances.ite ih
    apply (readBlueprintDraft_reads _).adapt.bind
    intro existing
    exact .ite (.throw _) (ih.bind fun _ => .pure _)

theorem existingDraftIds_reads (drafts : List BlueprintDraftDocument) :
    Advances Reads (existingDraftIds env drafts) := by
  induction drafts with
  | nil => exact .pure _
  | cons draft rest ih =>
    unfold existingDraftIds managerDraftExistsEquivalent
    apply Advances.bind
    · apply (equivalentDraftFiles_reads draft _).bind
      exact fun entries => .ite (.throw _) (.pure _)
    · exact fun there => ih.bind fun _ => .pure _

theorem writeManifest_writes (manifest : BlueprintManifestDocument) :
    Writes (writeBlueprintManifest env manifest) := by
  unfold writeBlueprintManifest
  apply Writes.after_reads (.ofExcept _)
  intro _
  apply Writes.after_reads (manifestEntries_reads manifest.manifestId)
  intro entries
  cases entries with
  | nil => exact writeUnique_writes _ _ _
  | cons entry rest =>
    apply Writes.after_reads (.ofExcept _)
    intro _
    apply Writes.ite (.of_reads (.throw _))
    apply Writes.after_reads .get
    exact fun s => .ite (.of_reads (.pure _)) (writeUnique_writes _ _ _)

theorem ensureUnique_kept {s : DraftWorld} (draftId : String) :
    Ensues s (ensureUniqueBlueprintDraft draftId) (fun _ t => t = s) fun _ t => Blueprints.SameFiles s t := by
  unfold ensureUniqueBlueprintDraft
  cases validateSafeIdentifier draftId "draft_id" with
  | error error => exact .throw (.refl s)
  | ok _ =>
    apply Ensues.get
    exact .ite (fun _ => .throw (.refl s)) fun _ => .pure rfl

theorem enqueueDraft_writes (draft : BlueprintDraftDocument) :
    Writes (onDrafts (enqueueBlueprintDraft env draft)) := by
  intro s
  unfold onDrafts onStore
  apply onPart_ensues (Q := fun _ _ => True) (E := fun _ => BlueprintStore.SameFiles s.store)
  · apply onPart_ensues (Q := fun _ _ => True) (E := fun _ => Blueprints.SameFiles s.store.drafts)
    · unfold enqueueBlueprintDraft
      apply Ensues.bind (ensureUnique_kept draft.draftId)
      rintro _ t rfl
      exact (writeUniqueJsonDocument_ensues (.refl _) _ _).weaken (fun _ _ _ => trivial) fun _ _ same => same
    · exact fun _ _ _ => trivial
    · exact fun _ _ same => ⟨same, rfl, rfl, rfl, rfl, rfl, rfl⟩
  · exact fun _ _ _ => rfl
  · exact fun _ _ same => ⟨rfl, same⟩

theorem managerWrite_marks {write : EffectM QueueStoreError String} (writes : Writes write) :
    Marks Unrecorded SameStore (managerWrite write) := by
  unfold managerWrite
  apply marks_after_reads .get
  intro s
  apply Marks.write
  · exact fun s => (writes.adapt s).weaken (fun _ _ _ => trivial) fun _ _ reads => reads.traced
  · exact fun path s => pushCreated_marks path s

theorem managerWrites_traced (manifest : BlueprintManifestDocument) (manifestExists : Bool) (existing : List String)
    (drafts : List BlueprintDraftDocument) :
    Advances (Traced Unrecorded SameStore) (managerWrites env manifest manifestExists existing drafts) := by
  have enqueued : Advances (Traced Unrecorded SameStore) (enqueueMissingDrafts env existing drafts) :=
    Advances.forM _ fun draft _ => (managerWrite_marks (enqueueDraft_writes draft).map).advances
  unfold managerWrites
  exact .ite enqueued ((managerWrite_marks (writeManifest_writes manifest)).advances.bind fun _ => enqueued)

theorem managerSteps_traced : Advances (Traced Unrecorded SameStore) (managerSteps env r run) := by
  unfold managerSteps
  apply (Advances.ofExcept _).bind
  intro manifest
  apply (Advances.ofExcept _).bind
  intro drafts
  apply (Advances.ofExcept _).bind
  intro _
  apply ((manifestExists_reads manifest).adapt.weaken fun _ _ => Reads.traced).bind
  intro manifestExists
  apply ((existingDraftIds_reads drafts).adapt.weaken fun _ _ => Reads.traced).bind
  intro existing
  apply Advances.bind
  · unfold managerSourceLifecycleState
    exact Advances.get.bind fun _ => .pure _
  · intro state
    split
    · exact .pure _
    · exact .pure _
    · exact (managerWrites_traced manifest manifestExists existing drafts).bind fun _ => .pure _
    · exact .throw _

end Handlers

/-! ## The answers -/

section Answers
variable {r : StageResultEnvelope} {run : RunArtifacts} {s : BlueprintStore}

/-- The answer reports every mutation, and a refusal reports whether there was one. -/
structure Honest (s : BlueprintStore) (answer : RuntimeEffectResult × BlueprintStore) : Prop where
  untouched : answer.1.mutationPhase = .preMutation → BlueprintStore.SameFiles s answer.2
  refusal : answer.1.decision = .requestBlockSource → answer.1.mutationPhase ≠ .unknown

theorem Honest.success {handlerId message : String} {decision : RuntimeEffectDecision} {created : List String}
    {intent : Option SourceLifecycleIntent} (t : BlueprintStore) (goesOn : decision ≠ .requestBlockSource) :
    Honest s (blueprintSuccess handlerId decision created intent message, t) where
  untouched phase := by cases phase
  refusal blocks := absurd blocks goesOn

theorem Honest.failure {handlerId failureClass message : String} {blocksSource : Bool} {t : EffectState}
    (traced : Traced Unrecorded SameStore ⟨s.restart, []⟩ t) :
    Honest s (blueprintFailure r handlerId failureClass message t.created blocksSource, t.store) where
  untouched phase := by
    by_cases unrecorded : t.created = []
    · exact IsTrans.trans _ _ _ s.restart_sameFiles (traced unrecorded).2
    · simp [blueprintFailure, unrecorded] at phase
  refusal _ := by
    by_cases unrecorded : t.created = [] <;> simp [blueprintFailure, unrecorded]

theorem handler_honest {handlerId : String} {answer : RuntimeEffectResult × BlueprintStore}
    (ran : runBlueprintEffectHandler env r run handlerId s = some answer) : Honest s answer := by
  unfold runBlueprintEffectHandler at ran
  split at ran
  · obtain rfl := Option.some.inj ran
    unfold managerBlueprintManifestToBlueprintDrafts
    cases steps : managerSteps env r run ⟨s.restart, []⟩ with
    | ok done t => exact .success _ (by decide)
    | error failure t => exact .failure (managerSteps_traced.of_error steps)
  split at ran
  · obtain rfl := Option.some.inj ran
    unfold contractorBlueprintCandidatePersist
    cases steps : contractorSteps env r run ⟨s.restart, []⟩ with
    | ok message t => exact .success _ (by decide)
    | error message t => exact .failure (contractorSteps_marks.advances.of_error steps)
  split at ran
  · obtain rfl := Option.some.inj ran
    unfold evaluatorBlueprintApprovedToTask
    cases steps : approvalSteps env r run ⟨s.restart, []⟩ with
    | ok done t => exact .success _ (by decide)
    | error error t => exact .failure (approvalSteps_marks.advances.of_error steps)
  split at ran
  · obtain rfl := Option.some.inj ran
    unfold evaluatorBlueprintRejectedToDraftRevision
    cases steps : rejectionSteps env r run ⟨s.restart, []⟩ with
    | ok message t => exact .success _ (by decide)
    | error error t => exact .failure (rejectionSteps_marks.advances.of_error steps)
  · cases ran

omit [Rfc3339] in
/-- A policy that runs a node again is passed over once something was written. -/
theorem routed_not_partial {policies : List RuntimeFailurePolicyDefinition} {failure : RuntimeEffectFailurePolicyInput}
    {resolution : RuntimeFailurePolicyInterpretation}
    (resolved : interpretRuntimeEffectFailurePolicy policies failure = some resolution)
    (routes : resolution.action = "route_to_node") : failure.mutationPhase ≠ .partialMutation := by
  unfold interpretRuntimeEffectFailurePolicy at resolved
  simp only [Option.bind_eq_bind, Option.bind_eq_some_iff, Option.pure_def, Option.some.injEq] at resolved
  obtain ⟨_, _, _, _, _, _, _, _, _, _, policy, found, rfl⟩ := resolved
  have matched := List.find?_some found
  intro written
  simp [written, show policy.action = "route_to_node" from routes] at matched

end Answers

/-- An effect that answers before any mutation has left every file as it was, and a policy runs a node again over
nothing else. -/
theorem preMutation_untouched (env : DraftEnvironment) (r : StageResultEnvelope) (run : RunArtifacts)
    (handlerId : String) (s t : BlueprintStore) (result : RuntimeEffectResult)
    (ran : runBlueprintEffectHandler env r run handlerId s = some (result, t)) :
    (result.mutationPhase = .preMutation → BlueprintStore.SameFiles s t) ∧
      ∀ session rule resolution,
        runtimeEffectFailurePolicyResolution session r (normalizeEffectFailurePhase result) rule = some resolution →
          resolution.action = "route_to_node" → BlueprintStore.SameFiles s t := by
  have honest := handler_honest ran
  refine ⟨honest.untouched, ?_⟩
  intro session rule resolution resolved routes
  unfold runtimeEffectFailurePolicyResolution at resolved
  split at resolved
  next => cases resolved
  next blocks =>
    have before := routed_not_partial resolved routes
    simp only [ne_eq, Decidable.not_not] at blocks
    unfold normalizeEffectFailurePhase at blocks before
    split at before
    next => exact absurd rfl before
    next normal =>
      rw [if_neg normal] at blocks
      have known := honest.refusal blocks
      apply honest.untouched
      cases phase : result.mutationPhase with
      | preMutation => rfl
      | partialMutation => exact absurd phase before
      | unknown => exact absurd phase known

end

section Concrete
local instance zonesOfEffects : Rfc3339 := twoZones

/-- The contractor answers for a draft. -/
def candidateReady : StageResultEnvelope where
  runId := "run-1"
  plane := .planning
  stage := .contractorBlueprint
  nodeId := "contractor_blueprint"
  stageKindId := "contractor_blueprint"
  workItemKind := .blueprintDraft
  workItemId := "draft-a"
  terminalResult := .planning .blueprintCandidateReady
  metadata := []
  ofPlane := rfl

def emptyRunDirectory : RunArtifacts where
  directory := "/workspace/runs/run-1"
  manifest := .missing
  drafts := .missing
  packet := .missing
  markdown := none
  evaluation := .missing
  critique := .ok .missing
  critiquePath := "/workspace/runs/run-1/blueprint_critique.json"
  generatedTask := .error ⟨"generated_task_missing", "required Blueprint artifact is missing: generated_task"⟩

/-- One active draft. -/
def activeDraft : BlueprintStore where
  drafts := DraftWorld.empty.insert ⟨.active, "draft-a"⟩ { plainDraft "draft-a" with status := .active }
  manifests := ∅
  packets _ := ∅
  markdown _ := ∅
  critiques := ∅
  evaluations := ∅
  promotions := ∅

/-- The contractor left no packet: it fails before any mutation. -/
theorem preMutation_untouched_contractor : ∃ result t,
    runBlueprintEffectHandler keepingEnvironment candidateReady emptyRunDirectory
      "contractor_blueprint_candidate_persist" activeDraft = some (result, t) ∧
      result.mutationPhase = .preMutation ∧ BlueprintStore.SameFiles activeDraft t := by
  have phase : ((runBlueprintEffectHandler keepingEnvironment candidateReady emptyRunDirectory
      "contractor_blueprint_candidate_persist" activeDraft).map (·.1.mutationPhase)) = some .preMutation := by
    decide +kernel
  obtain ⟨⟨result, t⟩, ran, before⟩ := Option.map_eq_some_iff.mp phase
  exact ⟨result, t, ran, before, (preMutation_untouched keepingEnvironment candidateReady emptyRunDirectory
    "contractor_blueprint_candidate_persist" activeDraft t result ran).1 before⟩

end Concrete

end Millrace.Blueprints
