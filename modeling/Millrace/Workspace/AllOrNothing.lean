import Millrace.Workspace.Dependencies

/-! Which interventions of an operator may be refused after they have changed something. -/

set_option autoImplicit false

namespace Millrace.Queue
open Millrace.Text Millrace.Contracts Millrace.WorkDocuments Millrace.Action

section
variable [Rfc3339]

/-! ## Refusals -/

/-- Where the operation is refused, it has changed nothing. -/
def RefusedUntouched {α : Type} (x : StoreM α) (s : World) : Prop :=
  ∀ message t, x s = .error (.invalidState message) t → t.workspace = s.workspace

section Fails
variable {faulty refused unreadable : Prop} {actor : String} {w w' : Workspace} {changed : Workspace → Prop}
  {e : QueueStoreError}

theorem Fails.untouched {message : String}
    (fails : Fails faulty actor refused unreadable w changed (.invalidState message) w')
    (signed : isBlank actor = false) : w' = w := by
  cases fails with
  | refused _ _ => rfl
  | unsigned _ _ blank _ _ =>
    rw [signed] at blank
    cases blank

/-- Without failing files, an accepted change fails only for want of an actor. -/
theorem Fails.changes (fails : Fails faulty actor refused unreadable w changed e w') (calm : ¬faulty)
    (accepted : ¬refused) (readable : ¬unreadable) : (∃ message, e = .invalidState message) ∧ changed w' := by
  cases fails with
  | refused _ refused => exact absurd refused accepted
  | unreadable _ _ unread => exact absurd unread readable
  | early _ _ faulty => exact absurd faulty calm
  | unsigned message _ _ changed _ => exact ⟨⟨message, rfl⟩, changed⟩
  | late _ _ _ faulty _ => exact absurd faulty calm

theorem Fails.refusal (fails : Fails faulty actor refused unreadable w changed e w') (calm : ¬faulty)
    (readable : ¬unreadable) : ∃ message, e = .invalidState message := by
  cases fails with
  | refused message _ => exact ⟨message, rfl⟩
  | unreadable _ _ unread => exact absurd unread readable
  | early _ _ faulty => exact absurd faulty calm
  | unsigned message _ _ _ _ => exact ⟨message, rfl⟩
  | late _ _ _ faulty _ => exact absurd faulty calm

end Fails

/-- Nothing fails, and every answer is the same. -/
def constantEnvironment (root : String) (now : Timestamp) (suffix : Nat) : Environment where
  root := root
  reading _ := ⟨now, suffix, none⟩

theorem constantEnvironment_calm {root : String} {now : Timestamp} {suffix step : Nat} :
    ¬FaultyFrom (constantEnvironment root now suffix) step := fun ⟨_, _, fault⟩ => fault rfl

/-! ## Archiving one document -/

/-- What an operation archives: an item, where it looks for it, and the archive. -/
structure Archiving where
  itemId : String
  candidates : Workspace → List LocatedInterventionItem
  explicitArchiveParent : Option Directory
  archiveName : String
  there : ∀ w, ∀ located ∈ candidates w, (w.file located.path).isSome

namespace Archiving
variable (archiving : Archiving) (env : Environment)

/-- A name that the archive may choose. -/
def MayChoose (context : OperatorInterventionContext) (located : LocatedInterventionItem) (destination : DocumentPath) :
    Prop :=
  ∃ appliedAt suffix, (∀ t, context.appliedAt = some t → appliedAt = t) ∧
    destination = archivePath (archiving.explicitArchiveParent.getD located.path.directory) located archiving.archiveName
      appliedAt suffix

/-- The operation is not refused before it moves the document to this name. -/
structure Proceeds (w : Workspace) (reason : String) (context : OperatorInterventionContext)
    (located : LocatedInterventionItem) (destination : DocumentPath) : Prop where
  identifier : SafeIdentifier archiving.itemId
  given : isBlank reason = false
  single : archiving.candidates w = [located]
  chosen : archiving.MayChoose context located destination
  free : w.file destination = none

/-- The operation, however it names the field of its identifier and looks for the item. -/
def operation (fieldName : String) (locate : StoreM LocatedInterventionItem) (options : ArchiveLocatedOptions) :
    StoreM OperatorInterventionResult := do
  requireIdentifier archiving.itemId fieldName
  let located ← locate
  archiveLocatedItemUnder env archiving.explicitArchiveParent located options

/-- The computation finds the candidates. -/
def Locates (locate : StoreM LocatedInterventionItem) : Prop :=
  ∀ (s : World) (E : QueueStoreError → World → Prop),
    ((∀ located, archiving.candidates s.workspace ≠ [located]) → ∀ message, E (.invalidState message) s) →
    Ensues s locate (fun located t => archiving.candidates s.workspace = [located] ∧ t = s) E

/-- The name that it chooses with the answers from this step on. -/
def destinationAt (step : Nat) (context : OperatorInterventionContext) (located : LocatedInterventionItem) :
    DocumentPath :=
  archiveDestination env step archiving.explicitArchiveParent located archiving.archiveName context

variable {archiving env} {s : World} {fieldName : String} {locate : StoreM LocatedInterventionItem}
  {options : ArchiveLocatedOptions}

theorem destinationAt_mayChoose (step : Nat) (context : OperatorInterventionContext)
    (located : LocatedInterventionItem) :
    archiving.MayChoose context located (archiving.destinationAt env step context located) := by
  refine ⟨_, _, fun t set => ?_, rfl⟩
  rw [set]
  rfl

/-- A name that the archive may choose is chosen with the right answers. -/
theorem MayChoose.answers {context : OperatorInterventionContext} {located : LocatedInterventionItem}
    {destination : DocumentPath} (mayChoose : archiving.MayChoose context located destination) :
    ∃ now suffix, ∀ (env : Environment) (step : Nat), (env.reading step).now = now →
      (env.reading (step + 2)).suffix = suffix → archiving.destinationAt env step context located = destination := by
  obtain ⟨appliedAt, suffix, applied, rfl⟩ := mayChoose
  refine ⟨appliedAt, suffix, fun env step now suffixed => ?_⟩
  unfold destinationAt archiveDestination
  rw [now, suffixed]
  congr 1
  cases set : context.appliedAt with
  | none => rfl
  | some t => exact (applied t set).symm

theorem operation_ensues (locates : archiving.Locates locate) (named : options.archiveName = archiving.archiveName) :
    Ensues s (archiving.operation env fieldName locate options)
      (fun _ t => isBlank options.context.actor = false ∧ (∃ located,
        archiving.Proceeds s.workspace options.reason options.context located
          (archiving.destinationAt env s.step options.context located) ∧
        Archived s.workspace located (archiving.destinationAt env s.step options.context located) t.workspace) ∧
        t.step = s.step + 8)
      (fun e t => Fails (FaultyFrom env s.step) options.context.actor
        (∀ located, ¬archiving.Proceeds s.workspace options.reason options.context located
          (archiving.destinationAt env s.step options.context located))
        False s.workspace
        (fun w' => ∃ located, archiving.Proceeds s.workspace options.reason options.context located
            (archiving.destinationAt env s.step options.context located) ∧
          Archived s.workspace located (archiving.destinationAt env s.step options.context located) w')
        e t.workspace) := by
  unfold operation
  apply (requireIdentifier_ensues _ fun invalid message => .refused message fun _ p => absurd p.identifier invalid).reads
  intro _ safe
  apply (locates s _ fun none message => .refused message fun located p => absurd p.single (none located)).reads
  intro located single
  have there := archiving.there s.workspace located (by simp [single])
  have archives : Ensues s (archiveLocatedItemUnder env archiving.explicitArchiveParent located options) _ _ :=
    archiveLocatedItemUnder_ensues there
  rw [named] at archives
  have proceeds (given : isBlank options.reason = false)
      (free : s.workspace.file (archiving.destinationAt env s.step options.context located) = none) :
      archiving.Proceeds s.workspace options.reason options.context located
        (archiving.destinationAt env s.step options.context located) :=
    ⟨safe, given, single, destinationAt_mayChoose _ _ _, free⟩
  apply archives.weaken
  · rintro result t ⟨signed, given, archived, step⟩
    exact ⟨signed, ⟨located, proceeds given archived.1, archived⟩, step⟩
  · intro e t fails
    generalize t.workspace = w' at fails
    cases fails with
    | refused message refused =>
      refine .refused message fun located' p => ?_
      obtain rfl : located' = located := by simpa using p.single.symm.trans single
      rcases refused with blank | taken
      · rw [p.given] at blank
        cases blank
      · have free := p.free
        unfold destinationAt at free
        rw [free] at taken
        cases taken
    | unreadable _ _ impossible => exact impossible.elim
    | early path message faulty => exact .early path message faulty
    | unsigned message _ blank changed kept =>
      exact .unsigned message _ blank ⟨located, proceeds changed.1 changed.2.1, changed.2⟩ kept
    | late path message _ faulty changed =>
      exact .late path message _ faulty ⟨located, proceeds changed.1 changed.2.1, changed.2⟩

theorem archived_ne {w w' : Workspace} {located : LocatedInterventionItem} {destination : DocumentPath}
    (archived : Archived w located destination w') : w' ≠ w := by
  rintro rfl
  obtain ⟨free, raw, file, files⟩ := archived
  have apart : located.path ≠ destination := by
    rintro same
    rw [same, free] at file
    cases file
  have gone := file_of_files files located.path
  rw [Workspace.file_insert, if_neg apart, Workspace.file_erase, if_pos rfl, file] at gone
  cases gone

/-- Whatever the files answer, a refused operation has changed nothing, exactly where it has an actor or never comes to
move its document. -/
theorem untouched_iff (root : String) (s : World) (locates : archiving.Locates locate)
    (named : options.archiveName = archiving.archiveName) :
    (∀ env, env.root = root → RefusedUntouched (archiving.operation env fieldName locate options) s) ↔
      ((∃ located destination, archiving.Proceeds s.workspace options.reason options.context located destination) →
        isBlank options.context.actor = false) := by
  constructor
  · rintro untouched ⟨located, destination, proceeds⟩
    obtain ⟨now, suffix, answers⟩ := proceeds.chosen.answers
    have chosen := answers (constantEnvironment root now suffix) s.step rfl rfl
    cases ran : archiving.operation (constantEnvironment root now suffix) fieldName locate options s with
    | ok result t => exact ((operation_ensues locates named).of_ok ran).1
    | error e t =>
      have fails := (operation_ensues locates named).of_error ran
      obtain ⟨⟨message, rfl⟩, located', -, archived⟩ := fails.changes constantEnvironment_calm
        (fun none => none located (chosen.symm ▸ proceeds)) not_false
      exact absurd (untouched _ rfl message t ran) (archived_ne archived)
  · intro signed env _ message t ran
    have fails := (operation_ensues locates named).of_error ran
    generalize t.workspace = w' at fails
    cases fails with
    | refused _ _ => rfl
    | unsigned _ _ blank changed _ =>
      obtain ⟨located, proceeds, -⟩ := changed
      rw [signed ⟨located, _, proceeds⟩] at blank
      cases blank

end Archiving

/-! ## The documents that operations archive -/

def exactTask (taskId archiveName : String) (states : List ItemState) : Archiving where
  itemId := taskId
  candidates w := itemCandidates w .task taskId states
  explicitArchiveParent := none
  archiveName := archiveName
  there w located member := by
    obtain ⟨state, -, there, rfl⟩ := mem_itemCandidates.mp member
    exact there

def incident (incidentId archiveName : String) (explicitArchiveParent : Option Directory) : Archiving where
  itemId := incidentId
  candidates w := itemCandidates w .incident incidentId [.queue, .active, .blocked]
  explicitArchiveParent := explicitArchiveParent
  archiveName := archiveName
  there w located member := by
    obtain ⟨state, -, there, rfl⟩ := mem_itemCandidates.mp member
    exact there

def cancelable (workItemId : String) (kind : Option WorkItemKind) : Archiving where
  itemId := workItemId
  candidates w := cancelCandidates w workItemId kind
  explicitArchiveParent := none
  archiveName := "cancelled"
  there _ _ := mem_cancelCandidates

theorem exactTask_locates (taskId archiveName : String) (states : List ItemState) :
    (exactTask taskId archiveName states).Locates (locateExactTask taskId states) := fun _ _ => locateExactTask_ensues

theorem incident_locates (incidentId archiveName : String) (explicitArchiveParent : Option Directory) :
    (incident incidentId archiveName explicitArchiveParent).Locates
      (locateIncident incidentId [.queue, .active, .blocked]) := fun _ _ => locateIncident_ensues

theorem cancelable_locates (workItemId : String) (kind : Option WorkItemKind) :
    (cancelable workItemId kind).Locates (locateCancelableWorkItem workItemId kind) := fun _ _ =>
  locateCancelableWorkItem_ensues

/-! ## Retargeting a dependency -/

section Retarget
variable (env : Environment) (w : Workspace) (context : OperatorInterventionContext)

/-- The queued document can be rewritten, and may then read differently from before. -/
def Rewrites (taskId old new reason : String) : Prop :=
  RetargetAccepted env w taskId old new reason ∧ ∃ raw d appliedAt, w.file (taskPath .queue taskId) = some raw ∧
    queuedDocument env w taskId = some d ∧ (∀ t, context.appliedAt = some t → appliedAt = t) ∧
    renderTaskDocument (retargetedTask d old new appliedAt) ≠ raw

variable {env w}

theorem queuedDocument_root {env' : Environment} (same : env'.root = env.root) (taskId : String) :
    queuedDocument env' w taskId = queuedDocument env w taskId := by
  unfold queuedDocument absolute
  rw [same]

theorem RetargetAccepted.root {env' : Environment} (same : env'.root = env.root) {taskId old new reason : String}
    (accepted : RetargetAccepted env w taskId old new reason) : RetargetAccepted env' w taskId old new reason :=
  { accepted with once := fun d read => accepted.once d (by rwa [queuedDocument_root same] at read) }

theorem insert_same {path : DocumentPath} {raw : String} (file : w.file path = some raw) :
    (w.insert path raw).files = w.files := by
  funext d
  unfold Workspace.insert
  dsimp only
  split
  next here =>
    rw [here]
    apply Std.ExtTreeMap.ext_getElem?
    intro stem
    rw [Std.ExtTreeMap.getElem?_insert]
    split
    next same =>
      obtain rfl : path.stem = stem := by simpa using same
      exact file.symm
    next => rfl
  next => rfl

theorem retarget_untouched_iff (s : World) (taskId old new reason : String) :
    (∀ env', env'.root = env.root →
        RefusedUntouched (retargetQueuedTaskDependency env' taskId old new reason context) s) ↔
      (Rewrites env s.workspace context taskId old new reason → isBlank context.actor = false) := by
  constructor
  · rintro untouched ⟨accepted, raw, d, appliedAt, file, read, applied, differs⟩
    obtain ⟨env', root, calm, now⟩ : ∃ env' : Environment, env'.root = env.root ∧ ¬FaultyFrom env' s.step ∧
        (env'.reading s.step).now = appliedAt :=
      ⟨constantEnvironment env.root appliedAt 0, rfl, constantEnvironment_calm, rfl⟩
    cases ran : retargetQueuedTaskDependency env' taskId old new reason context s with
    | ok result t => exact ((retargetQueuedTaskDependency_ensues taskId old new reason).of_ok ran).2.1
    | error e t =>
      have fails := (retargetQueuedTaskDependency_ensues taskId old new reason).of_error ran
      have accepted' : RetargetAccepted env' s.workspace taskId old new reason := accepted.root root
      have read' : queuedDocument env' s.workspace taskId = some d := (queuedDocument_root root taskId).trans read
      obtain ⟨⟨message, rfl⟩, -, d', read'', files⟩ := fails.changes calm (fun refused => refused accepted')
        (fun unread => by simp [read'] at unread)
      obtain rfl : d = d' := Option.some.inj (read'.symm.trans read'')
      have same : context.appliedAt.getD appliedAt = appliedAt := by
        cases set : context.appliedAt with
        | none => rfl
        | some t => exact (applied t set).symm
      have rewritten := file_of_files files (taskPath .queue taskId)
      rw [untouched env' root message t ran, Workspace.file_insert, if_pos rfl, file, now, same] at rewritten
      exact absurd (Option.some.inj rewritten).symm differs
  · intro signed env' root message t ran
    have fails := (retargetQueuedTaskDependency_ensues taskId old new reason).of_error ran
    generalize t.workspace = w' at fails
    cases fails with
    | refused _ _ => rfl
    | unsigned _ _ blank changed kept =>
      obtain ⟨accepted, d, read, files⟩ := changed
      have read' : queuedDocument env s.workspace taskId = some d := (queuedDocument_root root taskId).symm.trans read
      obtain ⟨raw, file, -⟩ := Option.bind_eq_some_iff.mp read'
      by_cases same : renderTaskDocument (retargetedTask d old new (context.appliedAt.getD (env'.reading s.step).now)) = raw
      · -- what is written is what was there
        rw [same, insert_same file] at files
        obtain ⟨log, quarantined⟩ := kept
        cases w'
        cases same : s.workspace
        simp_all
      · have rewrites : Rewrites env s.workspace context taskId old new reason :=
          ⟨accepted.root root.symm, raw, d, _, file, read', fun t set => by rw [set]; rfl, same⟩
        rw [signed rewrites] at blank
        cases blank

end Retarget

end
end Millrace.Queue
