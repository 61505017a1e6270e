import Millrace.Blueprints.DraftInvariant
import Millrace.Planning.Selection

/-! At most one document of the four planning families is active, along every run. -/

set_option autoImplicit false

namespace Millrace.Planning
open Millrace.Text Millrace.Contracts Millrace.WorkDocuments Millrace.Action Millrace.Queue Millrace.Blueprints

section
variable [Rfc3339] {α β : Type}

/-! ## Operations that make no document active -/

def activePath (kind : WorkItemKind) (stem : String) : DocumentPath := ⟨⟨kind, .active, none⟩, stem⟩

/-- What is active was active before. -/
def ActiveWithin (before w : Workspace) : Prop :=
  ∀ kind stem, (w.file (activePath kind stem)).isSome → (before.file (activePath kind stem)).isSome

theorem ActiveWithin.refl (w : Workspace) : ActiveWithin w w := fun _ _ there => there

theorem ActiveWithin.erase {before w : Workspace} (within : ActiveWithin before w) (path : DocumentPath) :
    ActiveWithin before (w.erase path) := by
  intro kind stem there
  rw [Workspace.file_erase] at there
  split at there
  next => cases there
  next => exact within kind stem there

theorem ActiveWithin.insert {before w : Workspace} (within : ActiveWithin before w) {path : DocumentPath} (raw : String)
    (inactive : ∀ kind, path.directory ≠ ⟨kind, .active, none⟩) : ActiveWithin before (w.insert path raw) := by
  intro kind stem there
  rw [Workspace.file_insert] at there
  split at there
  next same => exact absurd (congrArg DocumentPath.directory same).symm (inactive kind)
  next => exact within kind stem there

/-- Whether it succeeds or fails, nothing becomes active. -/
def StartsNothing (x : StoreM α) : Prop := ∀ before, Keeps (fun s => ActiveWithin before s.workspace) x

namespace StartsNothing

theorem of_reads {x : StoreM α} (reads : Reads x) : StartsNothing x := fun before => reads.keeps (P := ActiveWithin before)

theorem pure (a : α) : StartsNothing (Pure.pure a) := of_reads (.pure a)

theorem throw (error : QueueStoreError) : StartsNothing (MonadExcept.throw error : StoreM α) := of_reads (.throw error)

theorem bind {x : StoreM α} {f : α → StoreM β} (first : StartsNothing x) (rest : ∀ a, StartsNothing (f a)) :
    StartsNothing (x >>= f) := fun before => .bind (first before) fun a => rest a before

theorem modifyWorkspace {f : Workspace → Workspace}
    (keeps : ∀ before w, ActiveWithin before w → ActiveWithin before (f w)) : StartsNothing (Queue.modifyWorkspace f) :=
  fun before => Holds.modify fun s within => keeps before s.workspace within

end StartsNothing

variable (env : Environment)

theorem fileOperation_startsNothing (relative : String) : StartsNothing (fileOperation env relative) :=
  .of_reads (fileOperation_reads env relative)

theorem refuseIf_startsNothing (condition : Prop) [Decidable condition] (error : QueueStoreError) :
    StartsNothing (refuseIf condition error) := .of_reads (refuseIf_reads condition error)

theorem appendLine_startsNothing (relative : String) (line : LogLine) : StartsNothing (appendLine env relative line) :=
  .bind (fileOperation_startsNothing env _) fun _ => .modifyWorkspace fun _ _ within => within

theorem rename_startsNothing (source : DocumentPath) {destination : DocumentPath}
    (inactive : ∀ kind, destination.directory ≠ ⟨kind, .active, none⟩) : StartsNothing (rename env source destination) := by
  apply StartsNothing.bind (fileOperation_startsNothing env _)
  intro _
  apply StartsNothing.bind (.of_reads currentWorkspace_reads)
  intro w
  cases w.file source with
  | none => exact .throw _
  | some raw => exact .modifyWorkspace fun _ _ within => (within.erase source).insert raw inactive

theorem writeDocument_startsNothing {destination : DocumentPath} (raw : String)
    (inactive : ∀ kind, destination.directory ≠ ⟨kind, .active, none⟩) :
    StartsNothing (writeDocument env destination raw) :=
  .bind (fileOperation_startsNothing env _) fun _ => .bind (fileOperation_startsNothing env _) fun _ =>
    .modifyWorkspace fun _ _ within => within.insert raw inactive

theorem quarantineInvalidArtifact_startsNothing (path : DocumentPath) (error : String) :
    StartsNothing (quarantineInvalidArtifact env path error) := by
  apply StartsNothing.bind (fileOperation_startsNothing env _)
  intro _
  apply StartsNothing.bind (.of_reads currentWorkspace_reads)
  intro w
  cases w.file path with
  | none => exact .pure _
  | some raw =>
    apply StartsNothing.bind
    · exact .modifyWorkspace fun _ _ within => within.erase path
    · intro _
      apply StartsNothing.bind (.of_reads (currentTimestamp_reads env))
      exact fun _ => appendLine_startsNothing env _ _

theorem moveItem_startsNothing (kind : WorkItemKind) (source : ItemState) {destination : ItemState}
    (inactive : destination ≠ .active) (itemId : String) :
    StartsNothing (moveItem env kind source destination itemId) := by
  apply StartsNothing.bind (.of_reads (isFile_reads _))
  intro _
  apply StartsNothing.bind (refuseIf_startsNothing _ _)
  intro _
  apply StartsNothing.bind (fileOperation_startsNothing env _)
  intro _
  apply StartsNothing.bind (.of_reads (isFile_reads _))
  intro _
  apply StartsNothing.bind (refuseIf_startsNothing _ _)
  intro _
  apply StartsNothing.bind (rename_startsNothing env _ fun _ same => inactive (congrArg Directory.state same))
  exact fun _ => .pure _

theorem requeueItem_startsNothing (kind : WorkItemKind) (itemId reason : String) :
    StartsNothing (requeueItem env kind itemId reason) := by
  apply StartsNothing.bind (moveItem_startsNothing env kind .active (by decide) itemId)
  intro _
  apply StartsNothing.bind
  · apply StartsNothing.bind (refuseIf_startsNothing _ _)
    intro _
    apply StartsNothing.bind (fileOperation_startsNothing env _)
    intro _
    apply StartsNothing.bind (.of_reads (currentTimestamp_reads env))
    exact fun _ => appendLine_startsNothing env _ _
  · exact fun _ => .pure _

theorem ensureUniqueId_reads (kind : WorkItemKind) (itemId : String) (states : List ItemState) :
    Reads (ensureUniqueId kind itemId states) := by
  induction states with
  | nil => exact .pure _
  | cons state rest ih =>
    apply Frames.bind (isFile_reads _)
    intro _
    apply Frames.bind (refuseIf_reads _ _)
    exact fun _ => ih

theorem enqueueDocument_startsNothing (kind : WorkItemKind) (itemId : String)
    (validated : Except WorkDocumentError Unit) (rendered : String) :
    StartsNothing (enqueueDocument env kind itemId validated rendered) := by
  unfold enqueueDocument
  cases validated with
  | error error => exact .throw _
  | ok _ =>
    apply StartsNothing.bind (.of_reads (ensureUniqueId_reads kind itemId _))
    intro _
    apply StartsNothing.bind (writeDocument_startsNothing env rendered fun _ same => by cases same)
    exact fun _ => .pure _

theorem archiveLocatedItemUnder_startsNothing (parent : Option Directory) (located : LocatedInterventionItem)
    (options : ArchiveLocatedOptions) : StartsNothing (archiveLocatedItemUnder env parent located options) := by
  apply StartsNothing.bind (.of_reads (cleanReason_reads _))
  intro _
  apply StartsNothing.bind (.of_reads (interventionTimes_reads env _))
  intro _
  apply StartsNothing.bind (fileOperation_startsNothing env _)
  intro _
  apply StartsNothing.bind (.of_reads (reading_reads env))
  intro _
  apply StartsNothing.bind (.of_reads (isFile_reads _))
  intro _
  apply StartsNothing.bind (refuseIf_startsNothing _ _)
  intro _
  apply StartsNothing.bind (rename_startsNothing env _ fun _ same => by cases congrArg Directory.archive same)
  intro _
  apply StartsNothing.bind (.of_reads (buildInterventionRecord_reads _ _ _ _ _ _ _ _ _ _ _ _ _))
  intro _
  apply StartsNothing.bind (.bind (fileOperation_startsNothing env _) fun _ => appendLine_startsNothing env _ _)
  intro _
  apply StartsNothing.bind (.bind (fileOperation_startsNothing env _) fun _ => appendLine_startsNothing env _ _)
  exact fun _ => .pure _

theorem cancelWorkItem_startsNothing (workItemId : String) (kind : Option WorkItemKind) (reason : String)
    (context : OperatorInterventionContext) : StartsNothing (cancelWorkItem env workItemId kind reason context) := by
  apply StartsNothing.bind (.of_reads (requireIdentifier_reads _ _))
  intro _
  apply StartsNothing.bind (.of_reads (locateCancelableWorkItem_reads _ _))
  exact fun _ => archiveLocatedItemUnder_startsNothing env none _ _

theorem locateIncident_reads (incidentId : String) (states : List ItemState) :
    Reads (locateIncident incidentId states) := by
  apply Frames.bind currentWorkspace_reads
  intro w
  dsimp only
  split
  · exact .throw _
  · exact .pure _
  · exact .throw _

theorem cancelIncident_startsNothing (incidentId reason : String) (context : OperatorInterventionContext) :
    StartsNothing (cancelIncident env incidentId reason context) := by
  apply StartsNothing.bind (.of_reads (requireIdentifier_reads _ _))
  intro _
  apply StartsNothing.bind (.of_reads (locateIncident_reads _ _))
  exact fun _ => archiveLocatedItemUnder_startsNothing env none _ _

theorem resolveIncidentByOperator_startsNothing (incidentId reason : String) (context : OperatorInterventionContext) :
    StartsNothing (resolveIncidentByOperator env incidentId reason context) := by
  apply StartsNothing.bind (.of_reads (requireIdentifier_reads _ _))
  intro _
  apply StartsNothing.bind (.of_reads (locateIncident_reads _ _))
  exact fun _ => archiveLocatedItemUnder_startsNothing env _ _ _

/-! ## Active documents -/

/-- A document of one of the planning families. -/
inductive PlanningItem where
  | document (kind : WorkItemKind) (stem : String)
  | draft (stem : String)
  deriving DecidableEq

def planningKinds : List WorkItemKind := [.spec, .probe, .incident]

def Active (s : DraftWorld) : PlanningItem → Prop
  | .document kind stem => kind ∈ planningKinds ∧ (s.world.workspace.file (activePath kind stem)).isSome
  | .draft stem => (s.file ⟨.active, stem⟩).isSome

def Idle (s : DraftWorld) : Prop := ∀ item, ¬Active s item

/-- At most one document is active, over all planning families together. -/
def Exclusive (s : DraftWorld) : Prop := ∀ a b, Active s a → Active s b → a = b

/-- What is active afterwards was so before, but for one document where none was. -/
def StartsOne (s t : DraftWorld) : Prop := ∃ item, ∀ a, Active t a → Active s a ∨ (Idle s ∧ a = item)

theorem exclusive_empty : Exclusive .empty := by
  rintro (⟨kind, stem⟩ | stem) b active
  · have there : (Workspace.empty.file (activePath kind stem)).isSome := active.2
    simp at there
  · have there : (DraftWorld.empty.file ⟨.active, stem⟩).isSome := active
    simp at there

theorem StartsOne.exclusive {s t : DraftWorld} (starts : StartsOne s t) (exclusive : Exclusive s) : Exclusive t := by
  obtain ⟨item, starts⟩ := starts
  intro a b active active'
  rcases starts a active with before | ⟨idle, rfl⟩
  · rcases starts b active' with before' | ⟨idle, -⟩
    · exact exclusive a b before before'
    · exact absurd before (idle a)
  · rcases starts b active' with before' | ⟨-, rfl⟩
    · exact absurd before' (idle b)
    · rfl

theorem StartsOne.of_within {s t : DraftWorld} (within : ActiveWithin s.world.workspace t.world.workspace)
    (drafts : ∀ stem, (t.file ⟨.active, stem⟩).isSome → (s.file ⟨.active, stem⟩).isSome) : StartsOne s t := by
  refine ⟨.draft "", fun a active => .inl ?_⟩
  cases a with
  | document kind stem => exact ⟨active.1, within kind stem active.2⟩
  | draft stem => exact drafts stem active

/-- An operation of the queue that starts nothing leaves the drafts alone. -/
theorem queue_startsOne {x : StoreM α} (starts : StartsNothing x) (s : DraftWorld) :
    StartsOne s (after (onQueue x) s) := by
  have ends := starts s.world.workspace s.world (.refl _)
  unfold after onQueue onPart
  cases ran : x s.world with
  | ok a world =>
    rw [ran] at ends
    exact .of_within ends fun _ there => there
  | error e world =>
    rw [ran] at ends
    exact .of_within ends fun _ there => there

theorem active_of_changed {env : DraftEnvironment} {claims : Prop} {s t : DraftWorld} (changed : Changed env claims s t) :
    ∃ stem, ∀ stem', (t.file ⟨.active, stem'⟩).isSome → (s.file ⟨.active, stem'⟩).isSome ∨ (claims ∧ stem' = stem) := by
  cases changed with
  | kept same =>
    refine ⟨"", fun stem' there => .inl ?_⟩
    rwa [same.file] at there
  | enqueued draft fresh same =>
    refine ⟨"", fun stem' there => .inl ?_⟩
    rwa [same.file, copy_file, if_neg (by simp)] at there
  | updated draft there same =>
    refine ⟨"", fun stem' there' => .inl ?_⟩
    rw [same.file, copy_file] at there'
    split at there'
    next here => exact here ▸ there
    next => exact there'
  | moved draft stem source target found free ready removed same =>
    refine ⟨stem, fun stem' there => ?_⟩
    rw [same.file, DraftWorld.counted_file, DraftWorld.file_erase] at there
    split at there
    next => cases there
    rw [copy_file] at there
    split at there
    next here =>
      obtain ⟨rfl, rfl⟩ := DraftPath.mk.inj here
      exact .inr ⟨(ready rfl).1, rfl⟩
    next => exact .inl there
  | copied draft stem source target found free ready stays same =>
    refine ⟨stem, fun stem' there => ?_⟩
    rw [same.file, DraftWorld.counted_file, copy_file] at there
    split at there
    next here =>
      obtain ⟨rfl, rfl⟩ := DraftPath.mk.inj here
      exact .inr ⟨(ready rfl).1, rfl⟩
    next => exact .inl there

theorem changed_workspace {env : DraftEnvironment} {claims : Prop} {s t : DraftWorld} (changed : Changed env claims s t) :
    t.world.workspace = s.world.workspace := by
  cases changed with
  | kept same => exact same.workspace
  | enqueued _ _ same => exact same.workspace
  | updated _ _ same => exact same.workspace
  | moved _ _ _ _ _ _ _ _ same => exact same.workspace
  | copied _ _ _ _ _ _ _ _ same => exact same.workspace

/-- An operation on drafts other than a claim starts nothing. -/
theorem draft_startsOne {env : DraftEnvironment} {x : DraftM α} {s : DraftWorld}
    (ensues : Ensues s x (fun _ t => Changed env False s t) fun _ t => Changed env False s t) :
    StartsOne s (after x s) := by
  have changed := changed_after ensues
  obtain ⟨_, within⟩ := active_of_changed changed
  refine .of_within ?_ fun stem there => (within stem there).elim id fun claimed => claimed.1.elim
  rw [changed_workspace changed]
  exact .refl _

end
end Millrace.Planning
