import Millrace.Application.Steps
import Millrace.Returns
import Millrace.Runs

/-! The incident of a handoff: its id, and the end of a handoff that is applied anew. -/

set_option autoImplicit false

namespace Millrace.Application
open Millrace.Text Millrace.Contracts Millrace.Action Millrace.Runtime Millrace.Runs
open Millrace.Queue (ItemState)

/-! ## The id of an incident -/

/-- The bytes of the SHA-256 digest of a text's UTF-8. -/
class Digest where
  finalize : String → Vector UInt8 32

def hexDigits (byte : UInt8) : List Char :=
  [Nat.digitChar (byte.toNat / 16), Nat.digitChar (byte.toNat % 16)]

section Ids
variable [Digest]

/-- The parts are hashed one after the other, with nothing between them. -/
def stableShortHash (r : StageResultEnvelope) (decision : RouterDecision) : String :=
  .ofList (((Digest.finalize (r.runId ++ r.workItemId ++ r.outcome ++ decision.reason)).toList.take 4).flatMap hexDigits)

def metadataString (r : StageResultEnvelope) (key : String) : Option String :=
  (r.metadataText key).filter fun value => !Runtime.isBlank value

/-- What an incident's id says it is about. -/
def incidentSubject (r : StageResultEnvelope) : String :=
  if isClosureTargetStageResult r then (metadataString r "closure_target_root_spec_id").getD r.workItemId
  else r.workItemId

def handoffIncidentId (r : StageResultEnvelope) (decision : RouterDecision) : String :=
  (if isClosureTargetStageResult r then "arbiter-gap-" else "incident-") ++ incidentSubject r ++ "-" ++
    stableShortHash r decision

theorem length_stableShortHash (r : StageResultEnvelope) (decision : RouterDecision) :
    (stableShortHash r decision).toList.length = 8 := by
  simp [stableShortHash, List.length_flatMap, hexDigits]

/-- The hash has a fixed length, so an id is read back from its end. -/
theorem handoffIncidentId_eq_iff {r r' : StageResultEnvelope} {decision decision' : RouterDecision} :
    handoffIncidentId r decision = handoffIncidentId r' decision' ↔
      isClosureTargetStageResult r = isClosureTargetStageResult r' ∧ incidentSubject r = incidentSubject r' ∧
        stableShortHash r decision = stableShortHash r' decision' := by
  constructor
  · intro same
    have chars := congrArg String.toList same
    unfold handoffIncidentId at chars
    simp only [String.toList_append, List.append_assoc] at chars
    have kinds : isClosureTargetStageResult r = isClosureTargetStageResult r' := by
      cases first : isClosureTargetStageResult r <;> cases second : isClosureTargetStageResult r' <;>
        simp [first, second] at chars ⊢
    rw [kinds] at chars
    obtain ⟨subjects, rest⟩ := List.append_inj' (List.append_cancel_left chars) (by
      simp [length_stableShortHash])
    exact ⟨kinds, String.toList_inj.mp subjects, String.toList_inj.mp (List.append_cancel_left rest)⟩
  · rintro ⟨kinds, subjects, hashes⟩
    unfold handoffIncidentId
    rw [kinds, subjects, hashes]

theorem handoffIncidentId_ne_workItemId {r : StageResultEnvelope} {decision : RouterDecision}
    (ofWorkItem : isClosureTargetStageResult r = false) : handoffIncidentId r decision ≠ r.workItemId := by
  intro same
  have lengths := congrArg (fun text => text.toList.length) same
  simp [handoffIncidentId, incidentSubject, ofWorkItem, length_stableShortHash] at lengths
  omega

end Ids

/-! ## Applying a handoff -/

section Handoffs
variable [Digest]

/-- A stage result with the decision that hands it off, and what applying it meets. -/
structure Handoff where
  app : AppliedResult
  decision : RouterDecision
  handsOff : decision.action = .handoff
  creates : decision.createIncident = true
  named : app.incidentId = handoffIncidentId app.result decision

namespace Handoff

def apply (handoff : Handoff) : ApplicationM Unit := applyRouterDecision handoff.app handoff.decision

/-- Its source is a work item, which the handoff blocks. -/
def OfWorkItem (handoff : Handoff) : Prop :=
  isClosureTargetStageResult handoff.app.result = false ∧ isReconStageResult handoff.app.result = false

/-- The same decision on the same result, whatever the application meets. -/
def Repeats (handoff earlier : Handoff) : Prop :=
  handoff.app.result = earlier.app.result ∧ handoff.decision = earlier.decision

def Differs (handoff earlier : Handoff) : Prop :=
  handoff.app.result.runId ≠ earlier.app.result.runId ∨
    (handoff.app.result.workItemKind, handoff.app.result.workItemId) ≠
      (earlier.app.result.workItemKind, earlier.app.result.workItemId) ∨
    handoff.decision.reason ≠ earlier.decision.reason

end Handoff

def incidents (documents : Documents) : List String :=
  [ItemState.queue, .active, .done, .blocked].flatMap (documents .incident)

/-- The application goes through, with one incident for the handoff and its source blocked. -/
def Completes (s : DispatchSession) (handoff : Handoff) : Prop :=
  Returns s handoff.apply fun _ t =>
    (incidents t.documents).count handoff.app.incidentId = 1 ∧
      handoff.app.result.workItemId ∈ t.documents handoff.app.result.workItemKind .blocked ∧
      handoff.app.result.workItemId ∉ t.documents handoff.app.result.workItemKind .active

/-- The incident is nowhere yet, and the plan and the queue let the source be blocked. -/
structure Unrepresented (s : DispatchSession) (handoff : Handoff) : Prop where
  nowhere : handoff.app.incidentId ∉ incidents s.documents
  active : handoff.app.result.workItemId ∈ s.documents handoff.app.result.workItemKind .active
  unblocked : handoff.app.result.workItemId ∉ s.documents handoff.app.result.workItemKind .blocked
  blocks : ∃ intent, compiledSourceLifecycleIntent handoff.app.plan handoff.app.result .block = .ok intent ∧
    ∃ kind, builtinKind intent = .ok kind

/-! ## Where nothing fails -/

section Quiet
variable {app : AppliedResult} {s : DispatchSession} {phase : Phase}

/-- No file operation of the application fails. -/
def Quiet (app : AppliedResult) : Prop := ∀ phase step, app.fails phase step = none

omit [Digest] in
theorem returns_fileStep (quiet : Quiet app) {step : FileStep} {Q : Unit → DispatchSession → Prop} :
    Returns s (fileStep app.fails phase step) Q ↔ Q () s := by
  unfold fileStep
  rw [quiet phase step]
  exact returns_pure

omit [Digest] in
theorem returns_refuse {condition : Bool} {error : ApplicationError} {Q : Unit → DispatchSession → Prop} :
    Returns s (refuse condition error) Q ↔ condition = false ∧ Q () s := by
  cases condition with
  | true => simp [refuse, returns_throw]
  | false => simp [refuse, returns_pure]

omit [Digest] in
theorem returns_clearRuntimeErrorContext (quiet : Quiet app) {Q : Unit → DispatchSession → Prop} :
    Returns s (clearRuntimeErrorContextIfConsumed app) Q ↔ Q () s := by
  unfold clearRuntimeErrorContextIfConsumed
  split
  · exact returns_fileStep quiet
  · exact returns_pure

omit [Digest] in
theorem returns_modifyDocuments {f : Documents → Documents} {Q : Unit → DispatchSession → Prop} :
    Returns s (modifyDocuments f) Q ↔ Q () { s with documents := f s.documents } := returns_modify

omit [Digest] in
theorem returns_enqueueDocument (quiet : Quiet app) {kind : WorkItemKind} {id : String}
    {Q : Unit → DispatchSession → Prop} :
    Returns s (enqueueDocument app.fails phase kind id) Q ↔
      (∀ state ∈ [ItemState.queue, .active, .done, .blocked], id ∉ s.documents kind state) ∧
        Q () { s with documents := s.documents.add kind .queue id } := by
  unfold enqueueDocument
  simp only [returns_bind, returns_get, returns_refuse, returns_fileStep quiet, returns_modifyDocuments]
  rw [List.any_eq_false]
  simp only [List.contains_iff_mem]

omit [Digest] in
theorem returns_endRun (quiet : Quiet app) {failureClass : Option String} {status : Option FileStep} {counted : Bool}
    {Q : Documents → Prop} :
    Returns s (endRun app phase failureClass status counted) (fun _ t => Q t.documents) ↔ Q s.documents := by
  unfold endRun concludeSnapshot saveSnapshot resetForwardProgressCounters modifySnapshot
  cases status <;> cases counted <;>
    simp [Option.forM, returns_bind, returns_modify, returns_fileStep quiet]

/-- The documents once an active item has gone to the blocked ones. -/
def Documents.block (documents : Documents) (kind : WorkItemKind) (id : String) : Documents :=
  (documents.remove kind .active id).add kind .blocked id

omit [Digest] in
theorem block_of_draft (documents : Documents) (kind : WorkItemKind) (id : String) :
    (documents.add kind .blocked id).remove kind .active id = documents.block kind id := by
  funext kind' state'
  unfold Documents.block Documents.add Documents.remove
  by_cases here : kind' = kind ∧ state' = .active
  · simp [here]
  · simp [here]

omit [Digest] in
theorem returns_moveActiveItem (quiet : Quiet app) {superseded : Bool} {phase' : Phase} {kind : WorkItemKind}
    {id : String} {Q : Documents → Prop} :
    Returns s (moveActiveItem app.fails superseded phase phase' kind .block id) (fun _ t => Q t.documents) ↔
      id ∈ s.documents kind .active ∧ id ∉ s.documents kind .blocked ∧ Q (s.documents.block kind id) := by
  unfold moveActiveItem
  simp only [returns_bind, returns_get, returns_refuse, returns_ite, returns_fileStep quiet, returns_modifyDocuments,
    returns_pure, lifecycleDestination, block_of_draft]
  rw [← Documents.block]
  by_cases draft : kind = .blueprintDraft <;> simp [draft]

omit [Digest] in
theorem compiledSourceLifecycleIntent_action {plan : CompiledRunPlan} {r : StageResultEnvelope}
    {expected : SourceLifecycleAction} {intent : SourceLifecycleIntent}
    (found : compiledSourceLifecycleIntent plan r expected = .ok intent) : intent.action = expected := by
  unfold compiledSourceLifecycleIntent at found
  obtain ⟨compiled, -, found⟩ := bind_eq_ok.mp found
  split at found
  next differs => cases found
  next same =>
    cases found
    exact not_not.mp same

omit [Digest] in
/-- The source leaves its active directory for the blocked one. -/
theorem returns_block (quiet : Quiet app) {holds : Documents → Prop} :
    Returns s (markActiveWorkItem app .block) (fun _ t => holds t.documents) ↔
      (∃ intent, compiledSourceLifecycleIntent app.plan app.result .block = .ok intent ∧
        ∃ kind, builtinKind intent = .ok kind) ∧
      app.result.workItemId ∈ s.documents app.result.workItemKind .active ∧
      app.result.workItemId ∉ s.documents app.result.workItemKind .blocked ∧
      holds (s.documents.block app.result.workItemKind app.result.workItemId) := by
  unfold markActiveWorkItem
  cases found : compiledSourceLifecycleIntent app.plan app.result .block with
  | error error => simp [returns_throw]
  | ok intent =>
    obtain ⟨names, same⟩ := compiledSourceLifecycleIntent_names found
    have blocks := compiledSourceLifecycleIntent_action found
    unfold applyLifecycleIntent
    cases builtin : builtinKind intent with
    | error message => simp [builtin, returns_throw]
    | ok kind =>
      obtain rfl := Option.some.inj (names.symm.trans (builtinKind_eq_ok builtin))
      simp [builtin, blocks, same, returns_bind, returns_refuse, returns_moveActiveItem quiet]

end Quiet

section Completing
variable {s : DispatchSession} {handoff : Handoff}

omit [Digest] in
theorem count_incidents_block {documents : Documents} {kind : WorkItemKind} {id other : String} (differs : other ≠ id) :
    (incidents (documents.block kind id)).count other = (incidents documents).count other := by
  have moved : ∀ state, ((documents.block kind id) .incident state).count other =
      (documents .incident state).count other := by
    intro state
    unfold Documents.block Documents.add Documents.remove
    split <;> split <;> simp [List.count_filter, differs, differs.symm]
  simp [incidents, moved]

omit [Digest] in
theorem count_incidents_add {documents : Documents} {id : String} (nowhere : id ∉ incidents documents) :
    (incidents (documents.add .incident .queue id)).count id = 1 := by
  simp only [incidents, List.flatMap_cons, List.flatMap_nil, List.append_nil, List.mem_append, not_or] at nowhere
  obtain ⟨queue, active, done, blocked⟩ := nowhere
  simp [incidents, Documents.add, List.count_eq_zero_of_not_mem, queue, active, done, blocked]

theorem apply_eq (ofWorkItem : handoff.OfWorkItem) :
    handoff.apply = (do
      clearRuntimeErrorContextIfConsumed handoff.app
      enqueueHandoffIncident handoff.app
      applyBlockedDecision handoff.app handoff.decision) := by
  unfold Handoff.apply applyRouterDecision applyHandoffDecision
  simp [ofWorkItem.1, ofWorkItem.2, handoff.handsOff, handoff.creates]

theorem returns_handoff (ofWorkItem : handoff.OfWorkItem) (quiet : Quiet handoff.app) {Q : Documents → Prop} :
    Returns s handoff.apply (fun _ t => Q t.documents) ↔
      Unrepresented s handoff ∧
        Q ((s.documents.add .incident .queue handoff.app.incidentId).block handoff.app.result.workItemKind
          handoff.app.result.workItemId) := by
  rw [apply_eq ofWorkItem]
  unfold enqueueHandoffIncident applyBlockedDecision persistBlockedMetadataAndEvent
  simp only [returns_bind, returns_clearRuntimeErrorContext quiet, returns_fileStep quiet,
    returns_enqueueDocument quiet, returns_endRun quiet, returns_block quiet, Documents.mem_add]
  have nowhere : (∀ state ∈ [ItemState.queue, .active, .done, .blocked],
      handoff.app.incidentId ∉ s.documents .incident state) ↔ handoff.app.incidentId ∉ incidents s.documents := by
    simp [incidents]
  rw [nowhere]
  constructor
  · rintro ⟨absent, blocks, present, unblocked, kept⟩
    exact ⟨⟨absent, by simpa using present, fun there => unblocked (.inl there), blocks⟩, kept⟩
  · rintro ⟨ready, kept⟩
    exact ⟨ready.nowhere, ready.blocks, .inl ready.active, by simpa using ready.unblocked, kept⟩

/-- A handoff that is applied where nothing fails completes exactly from where it has no incident yet. -/
theorem completes_iff_unrepresented (ofWorkItem : handoff.OfWorkItem) (quiet : Quiet handoff.app) :
    Completes s handoff ↔ Unrepresented s handoff := by
  unfold Completes
  rw [returns_handoff (Q := fun documents => (incidents documents).count handoff.app.incidentId = 1 ∧
    handoff.app.result.workItemId ∈ documents handoff.app.result.workItemKind .blocked ∧
    handoff.app.result.workItemId ∉ documents handoff.app.result.workItemKind .active) ofWorkItem quiet]
  apply and_iff_left_of_imp
  intro ready
  have other : handoff.app.incidentId ≠ handoff.app.result.workItemId :=
    handoff.named ▸ handoffIncidentId_ne_workItemId ofWorkItem.1
  rw [count_incidents_block other, count_incidents_add ready.nowhere]
  simp [Documents.block]

/-- Where the incident is, nothing is applied: the queue refuses the second one. -/
theorem handoff_refused (ofWorkItem : handoff.OfWorkItem) (there : handoff.app.incidentId ∈ incidents s.documents) :
    ∃ e t, handoff.apply s = .error e t ∧ t.documents = s.documents := by
  have step : ∀ {phase : Phase} {step : FileStep} {P : DispatchSession → Prop},
      Holds P (fileStep handoff.app.fails phase step) (fun _ => P) (fun _ => P) := by
    intro phase step P
    unfold fileStep
    split
    · exact .throw fun _ holds => holds
    · exact .pure fun _ holds => holds
  have refused : Holds (fun t => t.documents = s.documents) handoff.apply (fun _ _ => False)
      (fun _ t => t.documents = s.documents) := by
    rw [apply_eq ofWorkItem]
    apply Holds.bind (Q := fun _ t => t.documents = s.documents)
    · unfold clearRuntimeErrorContextIfConsumed
      exact .ite (fun _ => step) fun _ => .pure fun _ same => same
    · intro _
      apply Holds.bind (Q := fun _ _ => False)
      · unfold enqueueHandoffIncident
        apply Holds.bind step
        intro _
        apply Holds.bind (Q := fun _ _ => False)
        · unfold enqueueDocument
          intro t same
          have found : ([ItemState.queue, .active, .done, .blocked].any fun state =>
              (t.documents .incident state).contains handoff.app.incidentId) = true := by
            rw [same]
            simpa [incidents] using there
          simp only [bind_run, get_run, found, refuse, if_true, throw_run]
          exact same
        · exact fun _ _ never => never.elim
      · exact fun _ _ never => never.elim
  have ended := refused s rfl
  cases ran : handoff.apply s with
  | ok _ t =>
    rw [ran] at ended
    exact ended.elim
  | error e t =>
    rw [ran] at ended
    exact ⟨e, t, rfl, ended⟩

end Completing

/-! ## Histories -/

/-- The runtime's state with the handoffs applied so far, and those of them that failed after their incident. -/
structure HandoffHistory where
  session : DispatchSession
  applied : List Handoff
  unfinished : List Handoff

def HandoffHistory.begin (session : DispatchSession) : HandoffHistory := ⟨session, [], []⟩

/-- The application enqueues the incident and then fails. -/
def Handoff.stopsAfterIncident (handoff : Handoff) (s : DispatchSession) : Bool :=
  match handoff.apply s with
  | .ok _ _ => false
  | .error _ t =>
    !(incidents s.documents).contains handoff.app.incidentId && (incidents t.documents).contains handoff.app.incidentId

inductive HandoffStep where
  | handOff (handoff : Handoff)
  /-- Whatever else happens between two handoffs. -/
  | elsewhere (next : DispatchSession)

def HandoffStep.apply (s : HandoffHistory) : HandoffStep → HandoffHistory
  | .handOff handoff => {
      session := match handoff.apply s.session with
        | .ok _ t => t
        | .error _ t => t
      applied := handoff :: s.applied
      unfinished := if handoff.stopsAfterIncident s.session then handoff :: s.unfinished else s.unfinished }
  | .elsewhere next => { s with session := next }

/-- A handoff of a work item whose earlier application failed after its incident, with nothing in its way now. -/
def Handoff.Retries (handoff : Handoff) (s : HandoffHistory) : Prop :=
  handoff.OfWorkItem ∧ Quiet handoff.app ∧ ∃ earlier ∈ s.unfinished, handoff.Repeats earlier

/-- Retries complete, and different handoffs have different incidents. -/
def RetryableAndDistinct (s : HandoffHistory) : HandoffStep → Prop
  | .handOff handoff =>
    (handoff.Retries s → Completes s.session handoff) ∧
      ∀ earlier ∈ s.applied, handoff.Differs earlier → handoff.app.incidentId ≠ earlier.app.incidentId
  | .elsewhere _ => True

/-- The incident of a retry has been taken away before, and different handoffs have different subjects or hashes. -/
def TakenAwayAndHashedApart (s : HandoffHistory) : HandoffStep → Prop
  | .handOff handoff =>
    (handoff.Retries s → Unrepresented s.session handoff) ∧
      ∀ earlier ∈ s.applied, handoff.Differs earlier →
        (isClosureTargetStageResult handoff.app.result, incidentSubject handoff.app.result,
          stableShortHash handoff.app.result handoff.decision) ≠
        (isClosureTargetStageResult earlier.app.result, incidentSubject earlier.app.result,
          stableShortHash earlier.app.result earlier.decision)
  | .elsewhere _ => True

theorem retryableAndDistinct_iff (s : HandoffHistory) (step : HandoffStep) :
    RetryableAndDistinct s step ↔ TakenAwayAndHashedApart s step := by
  cases step with
  | elsewhere next => exact Iff.rfl
  | handOff handoff =>
    apply and_congr
    · constructor
      · intro completes retries
        exact (completes_iff_unrepresented retries.1 retries.2.1).mp (completes retries)
      · intro ready retries
        exact (completes_iff_unrepresented retries.1 retries.2.1).mpr (ready retries)
    · apply forall₃_congr
      intro earlier _ _
      rw [handoff.named, earlier.named, Ne, handoffIncidentId_eq_iff]
      simp

/-- In every history, the handoffs are retryable and distinct exactly where each retry finds the incident of its earlier
application taken away again and different handoffs are hashed apart. -/
theorem handoffs_retryable_iff (start : DispatchSession) (steps : List HandoffStep) :
    Along HandoffStep.apply RetryableAndDistinct (.begin start) steps ↔
      Along HandoffStep.apply TakenAwayAndHashedApart (.begin start) steps := by
  generalize HandoffHistory.begin start = s
  induction steps generalizing s with
  | nil => exact Iff.rfl
  | cons step steps ih => exact and_congr (retryableAndDistinct_iff s step) (ih _)

end Handoffs

/-! ## A handoff that is retried -/

/-- A digest of zeros. -/
local instance shownDigest : Digest where
  finalize _ := Vector.replicate 32 0

/-- The consultant hands the task to the planning plane; the application meets these failures. -/
def consultantHandoff (fails : Phase → FileStep → Option String) : Handoff where
  app := {
    taskResult .consultant "consultant" .needsPlanning fails with
    incidentId := handoffIncidentId (taskResult .consultant "consultant" .needsPlanning fails).result
      (handoffDecision "consultant_needs_planning" none) }
  decision := handoffDecision "consultant_needs_planning" none
  handsOff := rfl
  creates := rfl
  named := rfl

def consultedTask : DispatchSession :=
  { queuedTask with documents := fun kind state => if kind = .task ∧ state = .active then ["task-1"] else [] }

def eventFails : Phase → FileStep → Option String := fun phase step =>
  if phase = .decision ∧ step = .writeEvent then some "no space left on device" else none

/-- The event of the incident cannot be written, and the handoff is retried where nothing fails: the queue has the
incident already. -/
theorem retried_handoff_refused :
    ¬ ∀ (_ : Digest) (start : DispatchSession) (steps : List HandoffStep),
      Along HandoffStep.apply RetryableAndDistinct (.begin start) steps := by
  intro claim
  have along := claim shownDigest consultedTask
    [.handOff (consultantHandoff eventFails), .handOff (consultantHandoff fun _ _ => none)]
  have ofWorkItem : (consultantHandoff fun _ _ => none).OfWorkItem := ⟨rfl, rfl⟩
  have stopped : (HandoffStep.apply (.begin consultedTask) (.handOff (consultantHandoff eventFails))).unfinished =
      [consultantHandoff eventFails] := rfl
  have completes := along.2.1.1
    ⟨ofWorkItem, fun _ _ => rfl, consultantHandoff eventFails, stopped ▸ List.mem_singleton_self _, rfl, rfl⟩
  have ready := (completes_iff_unrepresented ofWorkItem fun _ _ => rfl).mp completes
  have queued : (incidents (HandoffStep.apply (.begin consultedTask)
      (.handOff (consultantHandoff eventFails))).session.documents).contains
      (consultantHandoff fun _ _ => none).app.incidentId = true := rfl
  exact ready.nowhere (List.contains_iff_mem.mp queued)

end Millrace.Application
