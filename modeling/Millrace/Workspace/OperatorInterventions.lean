import Millrace.Workspace.Cascades

/-! Archiving an invalid incident artifact, and what all interventions of an operator have in common. -/

set_option autoImplicit false

namespace Millrace.Queue
open Millrace.Text Millrace.Contracts Millrace.WorkDocuments Millrace.Action

section
variable [Rfc3339]

/-! ## The directory of incoming incidents -/

def incomingIncidents : Directory := ⟨.incident, .queue, none⟩

def invalidArchive : Directory := ⟨.incident, .queue, some "invalid-archived"⟩

/-- The queue, the files among the incoming incidents that are no documents, and the archive of invalid artifacts. -/
structure ArtifactWorld where
  world : World
  artifacts : Documents
  archived : Documents

abbrev ArtifactM (α : Type) := EStateM QueueStoreError ArtifactWorld α

def onWorld {α : Type} : StoreM α → ArtifactM α := onPart ArtifactWorld.world fun s world => { s with world := world }

/-- The stem of a document's file name. -/
def documentStem (name : String) : Option String :=
  if ".md".toList <:+ name.toList then some (String.ofList (name.toList.take (name.toList.length - 3))) else none

namespace ArtifactWorld

/-- The file of this name among the incoming incidents. -/
def artifact (s : ArtifactWorld) (name : String) : Option String :=
  match documentStem name with
  | some stem => s.world.workspace.file ⟨incomingIncidents, stem⟩
  | none => s.artifacts[name]?

def erase (s : ArtifactWorld) (name : String) : ArtifactWorld :=
  match documentStem name with
  | some stem => { s with world := { s.world with workspace := s.world.workspace.erase ⟨incomingIncidents, stem⟩ } }
  | none => { s with artifacts := s.artifacts.erase name }

/-- The files and the logs are the same; file operations may have been counted. -/
def Untouched (s t : ArtifactWorld) : Prop :=
  t.world.workspace = s.world.workspace ∧ t.artifacts = s.artifacts ∧ t.archived = s.archived

theorem Untouched.artifact {s t : ArtifactWorld} (untouched : s.Untouched t) (name : String) :
    t.artifact name = s.artifact name := by
  unfold ArtifactWorld.artifact
  rw [untouched.1, untouched.2.1]

theorem artifact_erase (s : ArtifactWorld) (name : String) : (s.erase name).artifact name = none := by
  unfold ArtifactWorld.artifact ArtifactWorld.erase
  cases documentStem name with
  | some stem =>
    dsimp only
    rw [Workspace.file_erase, if_pos rfl]
  | none => exact Std.ExtTreeMap.getElem?_erase_self

end ArtifactWorld

/-! ## Archiving an artifact -/

def validateSingleRelativeFilename (filename : String) : Except QueueStoreError String :=
  let cleaned := trimmed filename
  if cleaned ≠ filename ∨ cleaned = "" ∨ cleaned.toList.head? = some '/' ∨ '/' ∈ cleaned.toList ∨
      '\\' ∈ cleaned.toList then
    .error (.invalidState "filename must be a single relative filename")
  else .ok cleaned

section Operation
variable (env : Environment)

/-- `json` is the text of a parsed line. -/
def lineMentions (json : List Char → Option (List Char)) (filename : String) (line : List Char) : Bool :=
  decide (filename.toList <:+: line) || (json line).any fun text => decide (filename.toList <:+: text)

def logMentions (json : List Char → Option (List Char)) (raw filename : String) : Bool :=
  ((lines raw.toList).filter fun line => trim line ≠ []).any (lineMentions json filename)

def invalidArtifactsLogMentions (json : List Char → Option (List Char)) (filename : String) : ArtifactM Bool := do
  match (← get).artifacts["invalid-artifacts.jsonl"]? with
  | none => return false
  | some raw =>
    onWorld (fileOperation env (invalidArtifactsLog incomingIncidents))
    return logMentions json raw filename

/-- The name of the artifact, or the log, says that it is invalid. -/
def isInvalidArtifact (json : List Char → Option (List Char)) (filename : String) : ArtifactM Bool :=
  if ".invalid".toList <:+ filename.toList then pure true else invalidArtifactsLogMentions env json filename

/-- The record of an intervention on files that need not be documents. -/
def buildInterventionRecordAt (action : OperatorInterventionAction) (kind : WorkItemKind)
    (workItemId sourceState destinationState sourcePath destinationPath reason : String)
    (context : OperatorInterventionContext) (issuedAt appliedAt : Timestamp) (replacementWorkItemId : Option String)
    (affectedDependents : List String) : StoreM OperatorInterventionRecord := do
  let actor ← cleanActor context.actor
  return {
    schemaVersion := "1.0"
    kind := "operator_intervention"
    action := action.asStr
    actor := actor
    reason := reason
    issuedAt := issuedAt
    appliedAt := appliedAt
    workItemKind := kind
    workItemId := workItemId
    sourceState := sourceState
    destinationState := destinationState
    sourcePath := sourcePath
    destinationPath := destinationPath
    replacementWorkItemId := replacementWorkItemId
    affectedDependents := affectedDependents }

theorem buildInterventionRecord_eq (action : OperatorInterventionAction) (kind : WorkItemKind)
    (workItemId sourceState destinationState : String) (sourcePath destinationPath : DocumentPath) (reason : String)
    (context : OperatorInterventionContext) (issuedAt appliedAt : Timestamp) (replacementWorkItemId : Option String)
    (affectedDependents : List String) :
    buildInterventionRecord action kind workItemId sourceState destinationState sourcePath destinationPath reason context
        issuedAt appliedAt replacementWorkItemId affectedDependents =
      buildInterventionRecordAt action kind workItemId sourceState destinationState sourcePath.relative
        destinationPath.relative reason context issuedAt appliedAt replacementWorkItemId affectedDependents := rfl

/-- The rest of the result repeats what the record says. -/
def archiveInvalidIncidentArtifact (json : List Char → Option (List Char)) (filename reason : String)
    (context : OperatorInterventionContext) : ArtifactM OperatorInterventionRecord := do
  match validateSingleRelativeFilename filename with
  | .error error => throw error
  | .ok sourceName =>
    onWorld (refuseIf (((← get).artifact sourceName).isNone)
      (.invalidState ("invalid incident artifact not found: " ++ sourceName)))
    onWorld (refuseIf ((← isInvalidArtifact env json sourceName) = false) (.invalidState
      "invalid incident artifact must end with .invalid or be listed in invalid-artifacts.jsonl"))
    let cleanedReason ← onWorld (cleanReason reason)
    let (issuedAt, appliedAt) ← onWorld (interventionTimes env context)
    onWorld (createDirAll env invalidArchive)
    let suffix := (← onWorld (reading env)).suffix
    let destination := sourceName ++ "." ++ compactTimestamp appliedAt.instant ++ "." ++ hexadecimal 8 suffix
    onWorld (refuseIf (((← get).archived)[destination]?.isSome) (.invalidState
      ("archive destination already exists: " ++ absolute env (invalidArchive.relative ++ "/" ++ destination))))
    onWorld (fileOperation env (incomingIncidents.relative ++ "/" ++ sourceName))
    modify fun s => match s.artifact sourceName with
      | none => s
      | some raw => { s.erase sourceName with archived := s.archived.insert destination raw }
    let record ← onWorld (buildInterventionRecordAt .archiveInvalidIncident .incident sourceName "incoming_invalid"
      "archived" (incomingIncidents.relative ++ "/" ++ sourceName) (invalidArchive.relative ++ "/" ++ destination)
      cleanedReason context issuedAt appliedAt none [])
    onWorld (appendInterventionRecord env invalidArchive record)
    onWorld (writeOperatorRuntimeEvent env "invalid_incident_artifact_archived" record)
    return record

section Ensues
variable {env} {json : List Char → Option (List Char)} {filename reason : String} {context : OperatorInterventionContext}
  {s : ArtifactWorld}

/-- The name that the archive chooses with the answers from this step on. -/
def artifactDestination (env : Environment) (step : Nat) (filename : String) (context : OperatorInterventionContext) :
    String :=
  filename ++ "." ++ compactTimestamp (context.appliedAt.getD (env.reading step).now).instant ++ "." ++
    hexadecimal 8 (env.reading (step + 2)).suffix

/-- The artifact is not refused before it is moved to this name. -/
structure ArtifactProceeds (json : List Char → Option (List Char)) (s : ArtifactWorld) (filename reason : String)
    (context : OperatorInterventionContext) (destination : String) : Prop where
  single : validateSingleRelativeFilename filename = .ok filename
  there : (s.artifact filename).isSome
  invalid : ".invalid".toList <:+ filename.toList ∨
    ∃ raw, s.artifacts["invalid-artifacts.jsonl"]? = some raw ∧ logMentions json raw filename = true
  given : isBlank reason = false
  chosen : ∃ appliedAt suffix, (∀ t, context.appliedAt = some t → appliedAt = t) ∧
    destination = filename ++ "." ++ compactTimestamp appliedAt.instant ++ "." ++ hexadecimal 8 suffix
  free : s.archived[destination]? = none

omit [Rfc3339] in
theorem validateSingleRelativeFilename_ok {filename sourceName : String}
    (valid : validateSingleRelativeFilename filename = .ok sourceName) : sourceName = filename := by
  unfold validateSingleRelativeFilename at valid
  dsimp only at valid
  split at valid
  next => cases valid
  next fits =>
    rw [← Except.ok.inj valid]
    by_contra differs
    exact fits (.inl differs)

omit [Rfc3339] in
theorem validateSingleRelativeFilename_error {filename : String} {e : QueueStoreError}
    (invalid : validateSingleRelativeFilename filename = .error e) : ∃ message, e = .invalidState message := by
  unfold validateSingleRelativeFilename at invalid
  dsimp only at invalid
  split at invalid
  next => exact ⟨_, (Except.error.inj invalid).symm⟩
  next => cases invalid

def ArtifactWorld.tick (s : ArtifactWorld) : ArtifactWorld := { s with world := s.world.tick }

section Steps
variable {E : QueueStoreError → ArtifactWorld → Prop}

theorem onWorld_refuseIf_ensues {condition : Prop} [Decidable condition] {error : QueueStoreError}
    (refused : condition → E error s) :
    Ensues s (onWorld (refuseIf condition error)) (fun _ t => ¬condition ∧ t = s) E := by
  apply onPart_ensues (refuseIf_ensues (E := fun e world => E e { s with world := world }) refused)
  · rintro _ world ⟨fails, rfl⟩
    exact ⟨fails, rfl⟩
  · exact fun _ _ fails => fails

theorem onWorld_fileOperation_ensues (faulty : ∀ path message t, Faulty env → E (.io path message) t)
    (relative : String) : Ensues s (onWorld (fileOperation env relative)) (fun _ t => True ∧ t = s.tick) E := by
  apply onPart_ensues (fileOperation_ensues (E := fun e world => E e { s with world := world })
    (fun path message fault => faulty path message _ ⟨_, fault⟩) relative)
  · rintro _ world ⟨-, rfl⟩
    exact ⟨trivial, rfl⟩
  · exact fun _ _ fails => fails

/-- The log is read, unless the file's name is enough. -/
theorem isInvalidArtifact_ensues (faulty : ∀ path message t, Faulty env → E (.io path message) t) :
    Ensues s (isInvalidArtifact env json filename)
      (fun listed t => (listed = true ↔ ".invalid".toList <:+ filename.toList ∨ ∃ raw,
        s.artifacts["invalid-artifacts.jsonl"]? = some raw ∧ logMentions json raw filename = true) ∧
        (t = s ∨ t = s.tick)) E := by
  unfold isInvalidArtifact
  split
  next ends => exact .pure ⟨iff_of_true rfl (.inl ends), .inl rfl⟩
  next open' =>
    unfold invalidArtifactsLogMentions
    apply Ensues.get
    cases found : s.artifacts["invalid-artifacts.jsonl"]? with
    | none =>
      refine .pure ⟨iff_of_false (by simp) ?_, .inl rfl⟩
      rintro (ends | ⟨raw, impossible, -⟩)
      · exact open' ends
      · cases impossible
    | some raw =>
      apply (onWorld_fileOperation_ensues faulty _).reads
      intro _ _
      refine .pure ⟨⟨fun mentions => .inr ⟨raw, rfl, mentions⟩, ?_⟩, .inr rfl⟩
      rintro (ends | ⟨_, same, mentions⟩)
      · exact absurd ends open'
      · rwa [Option.some.inj same]

section Records
variable {w : World}

theorem buildInterventionRecordAt_ensues {E : QueueStoreError → World → Prop} {action : OperatorInterventionAction}
    {kind : WorkItemKind}
    {workItemId sourceState destinationState sourcePath destinationPath reason : String} {issuedAt appliedAt : Timestamp}
    {replacementWorkItemId : Option String} {affectedDependents : List String}
    (unsigned : isBlank context.actor = true → ∀ message, E (.invalidState message) w) :
    Ensues w (buildInterventionRecordAt action kind workItemId sourceState destinationState sourcePath destinationPath
        reason context issuedAt appliedAt replacementWorkItemId affectedDependents)
      (fun _ t => isBlank context.actor = false ∧ t = w) E := by
  unfold buildInterventionRecordAt cleanActor
  apply Ensues.reads (P := fun _ => isBlank context.actor = false) (t := w)
  · apply (refuseIf_ensues fun blank => unsigned blank _).reads
    intro _ given
    exact .pure ⟨by simpa using given, rfl⟩
  · intro _ given
    exact .pure ⟨given, rfl⟩

theorem tolerates_faulty (t : World) :
    Tolerates env t fun e _ => ∃ path message, e = .io path message ∧ Faulty env :=
  fun path message fault => ⟨path, message, rfl, _, fault⟩

/-- A log line is written, or a file operation fails. -/
theorem appendInterventionRecord_ensues {d : Directory} {record : OperatorInterventionRecord} :
    Ensues w (appendInterventionRecord env d record) (fun _ _ => True)
      fun e _ => ∃ path message, e = .io path message ∧ Faulty env := by
  unfold appendInterventionRecord createDirAll
  apply (fileOperation_ensues (tolerates_faulty w) _).reads
  intro _ _
  apply (appendLine_ensues (tolerates_faulty w.tick) _ _).weaken
  · exact fun _ _ _ => trivial
  · exact fun _ _ fails => fails

theorem writeOperatorRuntimeEvent_ensues {eventType : String} {record : OperatorInterventionRecord} :
    Ensues w (writeOperatorRuntimeEvent env eventType record) (fun _ _ => True)
      fun e _ => ∃ path message, e = .io path message ∧ Faulty env := by
  unfold writeOperatorRuntimeEvent
  apply (fileOperation_ensues (tolerates_faulty w) _).reads
  intro _ _
  apply (appendLine_ensues (tolerates_faulty w.tick) _ _).weaken
  · exact fun _ _ _ => trivial
  · exact fun _ _ fails => fails

end Records
end Steps

theorem archiveInvalidIncidentArtifact_ensues {Q : OperatorInterventionRecord → ArtifactWorld → Prop}
    {E : QueueStoreError → ArtifactWorld → Prop}
    (refused : ∀ message t, s.Untouched t → (∃ step, ¬ArtifactProceeds json s filename reason context
      (artifactDestination env step filename context)) → E (.invalidState message) t)
    (faulty : ∀ path message t, Faulty env → E (.io path message) t)
    (unsigned : ∀ message destination t, ArtifactProceeds json s filename reason context destination →
      isBlank context.actor = true → t.artifact filename = none → E (.invalidState message) t)
    (done : ∀ record t, isBlank context.actor = false → Q record t) :
    Ensues s (archiveInvalidIncidentArtifact env json filename reason context) Q E := by
  unfold archiveInvalidIncidentArtifact
  cases valid : validateSingleRelativeFilename filename with
  | error e =>
    obtain ⟨message, rfl⟩ := validateSingleRelativeFilename_error valid
    refine .throw (refused message s ⟨rfl, rfl, rfl⟩ ⟨0, fun p => ?_⟩)
    rw [p.single] at valid
    cases valid
  | ok sourceName =>
    obtain rfl := validateSingleRelativeFilename_ok valid
    dsimp only
    apply Ensues.get
    apply (onWorld_refuseIf_ensues fun absent => refused _ s ⟨rfl, rfl, rfl⟩ ⟨0, fun p => by
      simp [Option.isSome_iff_ne_none.mp p.there] at absent⟩).reads
    intro _ present
    have there : (s.artifact sourceName).isSome := by simpa [Option.isSome_iff_ne_none] using present
    apply (isInvalidArtifact_ensues faulty).bind
    rintro listed s₁ ⟨mentioned, start⟩
    have untouched : s.Untouched s₁ := by
      rcases start with rfl | rfl <;> exact ⟨rfl, rfl, rfl⟩
    clear start
    apply (onWorld_refuseIf_ensues fun unlisted => refused _ s₁ untouched ⟨0, fun p => by
      simp [mentioned.mpr p.invalid] at unlisted⟩).reads
    intro _ isListed
    apply Ensues.reads (P := fun _ => isBlank reason = false) (t := s₁)
    · apply onPart_ensues (cleanReason_ensues (E := fun e world => E e { s₁ with world := world }) reason
        fun blank message => refused message s₁ untouched ⟨0, fun p => by simp [p.given] at blank⟩)
      · rintro _ world ⟨given, rfl⟩
        exact ⟨given, rfl⟩
      · exact fun _ _ fails => fails
    intro cleanedReason given
    apply Ensues.reads (P := fun times => times.2 = context.appliedAt.getD (env.reading s₁.world.step).now) (t := s₁.tick)
    · apply onPart_ensues (interventionTimes_ensues (E := fun e world => E e { s₁ with world := world }))
      · rintro _ world ⟨times, rfl⟩
        exact ⟨times, rfl⟩
      · exact fun _ _ fails => fails
    rintro ⟨issuedAt, appliedAt⟩ times
    obtain rfl : appliedAt = context.appliedAt.getD (env.reading s₁.world.step).now := times
    unfold createDirAll
    apply (onWorld_fileOperation_ensues faulty _).reads
    intro _ _
    apply Ensues.reads (P := fun answer => answer = env.reading (s₁.world.step + 2)) (t := s₁.tick.tick.tick)
    · apply onPart_ensues (reading_ensues (E := fun e world => E e { s₁.tick.tick with world := world }))
      · rintro _ world ⟨answer, rfl⟩
        exact ⟨answer, rfl⟩
      · exact fun _ _ fails => fails
    rintro answer rfl
    apply Ensues.get
    apply (onWorld_refuseIf_ensues (s := s₁.tick.tick.tick) fun taken =>
      refused _ s₁.tick.tick.tick untouched ⟨s₁.world.step, fun p => by
        have free : s₁.archived[artifactDestination env s₁.world.step sourceName context]? = none := by
          rw [untouched.2.2]
          exact p.free
        change (s₁.archived[artifactDestination env s₁.world.step sourceName context]?).isSome at taken
        rw [free] at taken
        cases taken⟩).reads
    intro _ vacant
    have free : s.archived[artifactDestination env s₁.world.step sourceName context]? = none := by
      have vacant' : ¬(s₁.archived[artifactDestination env s₁.world.step sourceName context]?).isSome := vacant
      rw [← untouched.2.2]
      exact Option.not_isSome_iff_eq_none.mp vacant'
    have proceeds : ArtifactProceeds json s sourceName reason context
        (artifactDestination env s₁.world.step sourceName context) := by
      refine ⟨valid, there, mentioned.mp (by simpa using isListed), given, ⟨_, _, fun t set => ?_, rfl⟩, free⟩
      rw [set]
      rfl
    apply (onWorld_fileOperation_ensues (s := s₁.tick.tick.tick) faulty _).reads
    intro _ _
    -- the artifact is moved, and everything after it keeps it where it is
    apply Ensues.bind (Q := fun _ t => t.artifact sourceName = none)
    · obtain ⟨raw, found⟩ := Option.isSome_iff_exists.mp there
      have found' : s₁.tick.tick.tick.tick.artifact sourceName = some raw :=
        (ArtifactWorld.Untouched.artifact (t := s₁.tick.tick.tick.tick) untouched sourceName).trans found
      apply (Ensues.modify _).weaken
      · rintro _ t rfl
        rw [found']
        exact ArtifactWorld.artifact_erase _ _
      · exact fun _ _ fails => fails
    rintro _ s₂ gone
    apply Ensues.reads (P := fun _ => isBlank context.actor = false) (t := s₂)
    · apply onPart_ensues (buildInterventionRecordAt_ensues (E := fun e world => E e { s₂ with world := world })
        fun blank message => unsigned message _ s₂ proceeds blank gone)
      · rintro _ world ⟨signed, rfl⟩
        exact ⟨signed, rfl⟩
      · exact fun _ _ fails => fails
    intro record signed
    apply Ensues.bind (Q := fun _ _ => True) (onPart_ensues appendInterventionRecord_ensues (fun _ _ ends => ends) ?_)
    · intro _ s₃ _
      apply Ensues.bind (Q := fun _ _ => True)
        (onPart_ensues writeOperatorRuntimeEvent_ensues (fun _ _ ends => ends) ?_)
      · exact fun _ s₄ _ => .pure (done record s₄ signed)
      · rintro _ world ⟨path, message, rfl, faults⟩
        exact faulty path message _ faults
    · rintro _ world ⟨path, message, rfl, faults⟩
      exact faulty path message _ faults

end Ensues
end Operation

/-! ## The interventions of an operator -/

inductive Intervention where
  | cancelWorkItem (workItemId : String) (kind : Option WorkItemKind)
  | archiveBlockedTask (taskId : String)
  | supersedeTask (oldTaskId replacementTaskId : String) (cascade : MailboxSupersedeCascade)
  | retargetQueuedTaskDependency (taskId oldDependencyId newDependencyId : String)
  | resolveIncidentByOperator (incidentId : String)
  | cancelIncident (incidentId : String)
  | archiveInvalidIncidentArtifact (filename : String)

/-- Where the computation is refused, it has changed nothing. -/
def AllOrNothing {α : Type} (x : ArtifactM α) (s : ArtifactWorld) : Prop :=
  ∀ message t, x s = .error (.invalidState message) t → s.Untouched t

section Interventions
variable (env : Environment) (json : List Char → Option (List Char)) (reason : String)
  (context : OperatorInterventionContext)

def Intervention.run : Intervention → ArtifactM OperatorInterventionRecord
  | .cancelWorkItem workItemId kind => onWorld ((·.record) <$> Queue.cancelWorkItem env workItemId kind reason context)
  | .archiveBlockedTask taskId => onWorld ((·.record) <$> Queue.archiveBlockedTask env taskId reason context)
  | .supersedeTask oldTaskId replacementTaskId cascade =>
    onWorld ((·.record) <$> Queue.supersedeTask env oldTaskId replacementTaskId reason cascade context)
  | .retargetQueuedTaskDependency taskId oldDependencyId newDependencyId =>
    onWorld ((·.record) <$>
      Queue.retargetQueuedTaskDependency env taskId oldDependencyId newDependencyId reason context)
  | .resolveIncidentByOperator incidentId =>
    onWorld ((·.record) <$> Queue.resolveIncidentByOperator env incidentId reason context)
  | .cancelIncident incidentId => onWorld ((·.record) <$> Queue.cancelIncident env incidentId reason context)
  | .archiveInvalidIncidentArtifact filename => Queue.archiveInvalidIncidentArtifact env json filename reason context

def blockedTask (taskId : String) : Archiving := exactTask taskId "cancelled" [.blocked]

def resolvedIncident (incidentId : String) : Archiving := incident incidentId "operator" (some ⟨.incident, .done, none⟩)

def cancelledIncident (incidentId : String) : Archiving := incident incidentId "cancelled" none

/-- Nothing refuses the intervention before its first change. -/
def Intervention.Proceeds (s : ArtifactWorld) : Intervention → Prop
  | .cancelWorkItem workItemId kind => ∃ located destination,
    (cancelable workItemId kind).Proceeds s.world.workspace reason context located destination
  | .archiveBlockedTask taskId => ∃ located destination,
    (blockedTask taskId).Proceeds s.world.workspace reason context located destination
  | .supersedeTask oldTaskId replacementTaskId _ => ∃ located destination,
    SupersedeProceeds s.world.workspace oldTaskId replacementTaskId reason context located destination
  | .retargetQueuedTaskDependency taskId oldDependencyId newDependencyId =>
    Rewrites env s.world.workspace context taskId oldDependencyId newDependencyId reason
  | .resolveIncidentByOperator incidentId => ∃ located destination,
    (resolvedIncident incidentId).Proceeds s.world.workspace reason context located destination
  | .cancelIncident incidentId => ∃ located destination,
    (cancelledIncident incidentId).Proceeds s.world.workspace reason context located destination
  | .archiveInvalidIncidentArtifact filename => ∃ destination,
    ArtifactProceeds json s filename reason context destination

/-- Nothing refuses a step of the cascade after the superseded task was archived. -/
def Intervention.Completes (s : ArtifactWorld) : Intervention → Prop
  | .supersedeTask oldTaskId replacementTaskId cascade =>
    ∀ located ∈ itemCandidates s.world.workspace .task oldTaskId [.blocked, .queue],
      CleanCascade env (s.world.workspace.erase located.path) oldTaskId replacementTaskId reason context cascade
        (dependentsOf env s.world.workspace oldTaskId)
  | _ => True

variable {env json reason context}

theorem onWorld_map_run {α β : Type} (f : α → β) (x : StoreM α) (s : ArtifactWorld) :
    onWorld (f <$> x) s = match x s.world with
      | .ok a world => .ok (f a) { s with world := world }
      | .error e world => .error e { s with world := world } := by
  show onWorld (EStateM.map f x) s = _
  unfold onWorld onPart EStateM.map
  cases x s.world <;> rfl

theorem allOrNothing_onWorld {α β : Type} (f : α → β) (x : StoreM α) (s : ArtifactWorld) :
    AllOrNothing (onWorld (f <$> x)) s ↔ RefusedUntouched x s.world := by
  have run := onWorld_map_run f x s
  constructor
  · intro allOrNothing message world ran
    rw [ran] at run
    exact (allOrNothing message _ run).1
  · intro untouched message t ran
    rw [ran] at run
    cases result : x s.world with
    | ok a world =>
      rw [result] at run
      cases run
    | error e world =>
      rw [result] at run
      injection run with same same'
      subst same same'
      exact ⟨untouched message world result, rfl, rfl⟩

theorem archiveInvalidIncidentArtifact_allOrNothing_iff (root filename : String) (s : ArtifactWorld) :
    (∀ env, env.root = root → AllOrNothing (archiveInvalidIncidentArtifact env json filename reason context) s) ↔
      ((∃ destination, ArtifactProceeds json s filename reason context destination) →
        isBlank context.actor = false) := by
  constructor
  · rintro allOrNothing ⟨destination, proceeds⟩
    by_contra unsigned
    obtain ⟨appliedAt, suffix, applied, chosen⟩ := proceeds.chosen
    obtain ⟨env, root, calm, now, suffixed⟩ : ∃ env : Environment, env.root = root ∧ ¬Faulty env ∧
        (∀ n, (env.reading n).now = appliedAt) ∧ ∀ n, (env.reading n).suffix = suffix :=
      ⟨constantEnvironment root appliedAt suffix, rfl, fun ⟨_, fault⟩ => fault rfl, fun _ => rfl, fun _ => rfl⟩
    have same (step : Nat) : artifactDestination env step filename context = destination := by
      unfold artifactDestination
      rw [chosen, now, suffixed]
      cases set : context.appliedAt with
      | none => rfl
      | some t => rw [applied t set]; rfl
    have refused : Ensues s (archiveInvalidIncidentArtifact env json filename reason context) (fun _ _ => False)
        fun e t => Refusal e ∧ t.artifact filename = none := by
      apply archiveInvalidIncidentArtifact_ensues
      · rintro _ _ - ⟨step, refused⟩
        rw [same] at refused
        exact absurd proceeds refused
      · exact fun _ _ _ faulty => absurd faulty calm
      · exact fun message _ t _ _ gone => ⟨⟨message, rfl⟩, gone⟩
      · exact fun _ _ signed => unsigned signed
    cases ran : archiveInvalidIncidentArtifact env json filename reason context s with
    | ok record t => exact refused.of_ok ran
    | error e t =>
      obtain ⟨⟨message, rfl⟩, gone⟩ := refused.of_error ran
      have there := proceeds.there
      rw [← (allOrNothing env root message t ran).artifact, gone] at there
      cases there
  · intro signed env _ message t ran
    have ends : Ensues s (archiveInvalidIncidentArtifact env json filename reason context) (fun _ _ => True)
        fun e t => Refusal e → s.Untouched t := by
      apply archiveInvalidIncidentArtifact_ensues
      · exact fun _ _ untouched _ _ => untouched
      · rintro _ _ _ - ⟨_, impossible⟩
        cases impossible
      · intro _ destination _ proceeds blank
        rw [signed ⟨destination, proceeds⟩] at blank
        cases blank
      · exact fun _ _ _ => trivial
    exact ends.of_error ran ⟨message, rfl⟩

section Operations

theorem archiveBlockedTask_eq (taskId : String) :
    archiveBlockedTask env taskId reason context =
      (blockedTask taskId).operation env "task_id" (locateExactTask taskId [.blocked]) {
        action := .archiveBlockedTask
        destinationState := "cancelled"
        archiveName := "cancelled"
        eventType := "blocked_task_archived"
        reason := reason
        context := context
        replacementWorkItemId := none
        affectedDependents := [] } := rfl

theorem resolveIncidentByOperator_eq (incidentId : String) :
    resolveIncidentByOperator env incidentId reason context =
      (resolvedIncident incidentId).operation env "incident_id"
        (locateIncident incidentId [.queue, .active, .blocked]) {
        action := .resolveIncident
        destinationState := "resolved"
        archiveName := "operator"
        eventType := "incident_resolved_by_operator"
        reason := reason
        context := context
        replacementWorkItemId := none
        affectedDependents := [] } := rfl

theorem cancelIncident_eq (incidentId : String) :
    cancelIncident env incidentId reason context =
      (cancelledIncident incidentId).operation env "incident_id"
        (locateIncident incidentId [.queue, .active, .blocked]) {
        action := .cancelIncident
        destinationState := "cancelled"
        archiveName := "cancelled"
        eventType := "incident_cancelled"
        reason := reason
        context := context
        replacementWorkItemId := none
        affectedDependents := [] } := rfl

end Operations

/-- Whatever the files answer, a refused intervention has changed nothing, exactly where it never comes to its first
change or else has an actor and, in a cascade, can be applied to every dependent. -/
theorem intervention_allOrNothing_iff (oneLine : OneLineTimestamps) (intervention : Intervention) (s : ArtifactWorld) :
    (∀ env', env'.root = env.root → AllOrNothing (intervention.run env' json reason context) s) ↔
      (intervention.Proceeds env json reason context s →
        isBlank context.actor = false ∧ intervention.Completes env reason context s) := by
  cases intervention with
  | cancelWorkItem workItemId kind =>
    simp only [Intervention.run, allOrNothing_onWorld, Intervention.Proceeds, Intervention.Completes, and_true]
    simp only [cancelWorkItem_eq]
    exact Archiving.untouched_iff env.root s.world (cancelable_locates workItemId kind) rfl
  | archiveBlockedTask taskId =>
    simp only [Intervention.run, allOrNothing_onWorld, Intervention.Proceeds, Intervention.Completes, and_true]
    simp only [archiveBlockedTask_eq]
    exact Archiving.untouched_iff env.root s.world (exactTask_locates taskId "cancelled" [.blocked]) rfl
  | supersedeTask oldTaskId replacementTaskId cascade =>
    simp only [Intervention.run, allOrNothing_onWorld, Intervention.Proceeds, Intervention.Completes]
    rw [supersede_untouched_iff oneLine]
    constructor
    · rintro fits ⟨located, destination, proceeds⟩
      obtain ⟨signed, clean⟩ := fits located destination proceeds
      refine ⟨signed, fun located' member => ?_⟩
      have single : itemCandidates s.world.workspace .task oldTaskId [.blocked, .queue] = [located] :=
        proceeds.archives.single
      obtain rfl : located' = located := by simpa [single] using member
      exact clean
    · intro fits located destination proceeds
      obtain ⟨signed, clean⟩ := fits ⟨located, destination, proceeds⟩
      have single : itemCandidates s.world.workspace .task oldTaskId [.blocked, .queue] = [located] :=
        proceeds.archives.single
      exact ⟨signed, clean located (by simp [single])⟩
  | retargetQueuedTaskDependency taskId oldDependencyId newDependencyId =>
    simp only [Intervention.run, allOrNothing_onWorld, Intervention.Proceeds, Intervention.Completes, and_true]
    exact retarget_untouched_iff context s.world taskId oldDependencyId newDependencyId reason
  | resolveIncidentByOperator incidentId =>
    simp only [Intervention.run, allOrNothing_onWorld, Intervention.Proceeds, Intervention.Completes, and_true]
    simp only [resolveIncidentByOperator_eq]
    exact Archiving.untouched_iff env.root s.world
      (incident_locates incidentId "operator" (some ⟨.incident, .done, none⟩)) rfl
  | cancelIncident incidentId =>
    simp only [Intervention.run, allOrNothing_onWorld, Intervention.Proceeds, Intervention.Completes, and_true]
    simp only [cancelIncident_eq]
    exact Archiving.untouched_iff env.root s.world (incident_locates incidentId "cancelled" none) rfl
  | archiveInvalidIncidentArtifact filename =>
    simp only [Intervention.run, Intervention.Proceeds, Intervention.Completes, and_true]
    exact archiveInvalidIncidentArtifact_allOrNothing_iff env.root filename s

end Interventions

end

section Concrete

local instance zonesOfInterventions : Rfc3339 := twoZones

def queuedSecond : LocatedInterventionItem := ⟨.task, "task-b", "queue", taskPath .queue "task-b"⟩

theorem dependentTasks_cancelable (context : OperatorInterventionContext) : ∃ located destination,
    (cancelable "task-b" (some .task)).Proceeds dependentTasks "obsolete" context located destination := by
  refine ⟨queuedSecond, _, by decide +kernel, by decide +kernel, ?_,
    @Archiving.destinationAt_mayChoose _ _ calmEnvironment 0 context queuedSecond, ?_⟩
  · have there := dependentTasks_file
    unfold taskPath at there
    show cancelCandidates dependentTasks "task-b" (some .task) = [queuedSecond]
    simp only [cancelCandidates, locateCancelableForKind, there, List.flatMap_singleton, List.filterMap_cons]
    rfl
  · unfold dependentTasks
    rw [Workspace.file_insert, if_neg (by simp [Archiving.destinationAt, archiveDestination, archivePath, taskPath]),
      Workspace.file_insert, if_neg (by simp [Archiving.destinationAt, archiveDestination, archivePath, taskPath]),
      Workspace.file_empty]

theorem intervention_allOrNothing_iff_dependentTasks :
    (Intervention.cancelWorkItem "task-b" (some .task)).Proceeds calmEnvironment (fun _ => none) "obsolete" byOperator
        ⟨⟨dependentTasks, 0⟩, ∅, ∅⟩ ∧
      ∀ env', env'.root = calmEnvironment.root → AllOrNothing ((Intervention.cancelWorkItem "task-b" (some .task)).run env'
        (fun _ => none) "obsolete" byOperator) ⟨⟨dependentTasks, 0⟩, ∅, ∅⟩ := by
  have signed : isBlank byOperator.actor = false := by decide +kernel
  exact ⟨dependentTasks_cancelable byOperator, (intervention_allOrNothing_iff twoZones_oneLine _ _).mpr fun _ =>
    ⟨signed, trivial⟩⟩

/-- The document of a task is moved before it turns out that no actor was named. -/
theorem cancelled_by_nobody :
    ¬ ∀ (env : Environment) (json : List Char → Option (List Char)) (intervention : Intervention) (reason : String)
      (context : OperatorInterventionContext) (s : ArtifactWorld),
      AllOrNothing (intervention.run env json reason context) s := by
  intro claimed
  have untouched : ∀ env, env.root = calmEnvironment.root →
      RefusedUntouched (cancelWorkItem env "task-b" (some .task) "obsolete" ⟨" ", none, none⟩) ⟨dependentTasks, 0⟩ :=
    fun env _ => (allOrNothing_onWorld OperatorInterventionResult.record _ ⟨⟨dependentTasks, 0⟩, ∅, ∅⟩).mp
      (claimed env (fun _ => none) (.cancelWorkItem "task-b" (some .task)) "obsolete" ⟨" ", none, none⟩ _)
  simp only [cancelWorkItem_eq] at untouched
  have signed := (Archiving.untouched_iff _ _ (cancelable_locates "task-b" (some .task)) rfl).mp untouched
    (dependentTasks_cancelable _)
  revert signed
  decide +kernel

end Concrete

end Millrace.Queue
