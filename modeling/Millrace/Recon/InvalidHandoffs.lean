import Millrace.Recon.Handoffs
import Millrace.Recon.RoundTrip

/-! What an invalid recon handoff leaves behind. -/

set_option autoImplicit false

namespace Millrace.Recon
open Millrace.Text Millrace.Contracts Millrace.Action Millrace.Runtime Millrace.Application
open Millrace.WorkDocuments (WorkDocumentError Rfc3339 InlineItems)
open Millrace.Queue (ItemState)

section Handoff
variable [Rfc3339]

/-! ## Blocking -/

/-- The packet that the run left in its directory. -/
def ReconHandoff.emitted (h : ReconHandoff) : Option ReconPacketDocument := (readReconPacket h.packetFile).toOption

/-- The packet that fits the router's decision and the result. -/
def ReconHandoff.accepted (h : ReconHandoff) : Except HandoffError ReconPacketDocument :=
  match h.app.result.terminalResult with
  | .planning terminal => do
    requireRouterAction h.decision terminal
    readAndValidateReconPacket h terminal
  | _ => .error (invalidState "recon stage results must use planning terminal results")

/-- The handoff fails and the probe is blocked for it. -/
def BlocksInvalid (h : ReconHandoff) (s t : ReconSession) : Prop :=
  ∃ error u, applyReconRouterDecisionInner h s = .error error u ∧
    onSession (blockInvalidReconHandoff h.app) u = .ok () t

/-- Nothing is left of the handoff but the blocked probe. -/
structure SideEffectFree (h : ReconHandoff) (s t : ReconSession) : Prop where
  packets : t.packets = s.packets
  queued : t.queued = s.queued
  tasks : t.session.documents .task .queue = s.session.documents .task .queue
  specs : t.session.documents .spec .queue = s.session.documents .spec .queue
  blocked : h.app.result.workItemId ∈ t.session.documents .probe .blocked
  inactive : h.app.result.workItemId ∉ t.session.documents .probe .active
  idle : t.session.snapshot.activeRunsByPlane h.app.result.plane = none
  reusable : ∀ packet, h.emitted = some packet → ∀ (later : AppliedResult) (packet' : ReconPacketDocument),
    packet'.reconPacketId = packet.reconPacketId → Quiet later → Returns t (persistReconPacket later packet') fun _ _ => True

/-- The packet that is kept: it fits, its id is new and its file can be written. -/
def ReconHandoff.kept (h : ReconHandoff) (s : ReconSession) : Option ReconPacketDocument :=
  h.accepted.toOption.filter fun packet =>
    s.packets packet.reconPacketId = none ∧ h.app.fails .decision .persistReconPacket = none

def ReconHandoff.packetsAfter (h : ReconHandoff) (s : ReconSession) : String → Option String :=
  match h.kept s with
  | none => s.packets
  | some packet => Function.update s.packets packet.reconPacketId (some (renderReconPacket packet))

/-- A document of this id can be queued. -/
def Queueable (h : ReconHandoff) (s : ReconSession) (kind : WorkItemKind) (id : String) : Prop :=
  (∀ state ∈ [ItemState.queue, .active, .done, .blocked], id ∉ s.session.documents kind state) ∧
    h.app.fails .decision .enqueueDocument = none

/-- The task or spec that a kept packet emits is generated, valid and queued. -/
def ReconHandoff.Queues (h : ReconHandoff) (s : ReconSession) (packet : ReconPacketDocument) : Prop :=
  (h.app.result.terminalResult = .planning .reconToExecution ∧
    ∃ task, generatedReconTask h packet = .ok task ∧ task.validate = .ok () ∧ Queueable h s .task task.taskId) ∨
  (h.app.result.terminalResult = .planning .reconToPlanning ∧
    ∃ spec, generatedReconSpec h packet = .ok spec ∧ spec.validate = .ok () ∧ Queueable h s .spec spec.specId)

/-- The probe is blocked; a packet that fits its run is kept; the queues are as before where the handoff did not fail
after its document was queued. -/
structure BlockedHandoff (h : ReconHandoff) (s t : ReconSession) : Prop where
  packets : t.packets = h.packetsAfter s
  queues : (∀ packet, h.kept s = some packet → ¬h.Queues s packet) →
    t.queued = s.queued ∧ t.session.documents .task .queue = s.session.documents .task .queue ∧
      t.session.documents .spec .queue = s.session.documents .spec .queue
  blocked : h.app.result.workItemId ∈ t.session.documents .probe .blocked
  inactive : h.app.result.workItemId ∉ t.session.documents .probe .active
  idle : t.session.snapshot.activeRunsByPlane h.app.result.plane = none
  reusable : ∀ packet, h.emitted = some packet →
    ((∀ (later : AppliedResult) (packet' : ReconPacketDocument), packet'.reconPacketId = packet.reconPacketId →
      Quiet later → Returns t (persistReconPacket later packet') fun _ _ => True) ↔
        h.packetsAfter s packet.reconPacketId = none)

section Invalid
variable {h : ReconHandoff} {s t u : ReconSession} {packet : ReconPacketDocument}

/-- What follows once the packet is kept. -/
def afterPacket (h : ReconHandoff) (packet : ReconPacketDocument) : HandoffM Unit :=
  match h.app.result.terminalResult with
  | .planning terminal => finishReconHandoff h packet terminal
  | _ => return ()

theorem inner_eq : applyReconRouterDecisionInner h = (do
    let packet ← ofExcept h.accepted
    persistReconPacket h.app packet
    afterPacket h packet) := by
  unfold applyReconRouterDecisionInner ReconHandoff.accepted afterPacket
  cases h.app.result.terminalResult with
  | planning terminal =>
    dsimp only
    cases requireRouterAction h.decision terminal with
    | error error => rfl
    | ok _ =>
      cases readAndValidateReconPacket h terminal with
      | error error => rfl
      | ok packet => rfl
  | execution terminal => rfl
  | learning terminal => rfl

theorem readReconPacket_ok {raw : String} (read : parseReconPacket raw = .ok packet) :
    readReconPacket (some raw) = .ok packet := by
  simp [readReconPacket, read, Except.mapError]

/-! ### What each part leaves alone -/

omit [Rfc3339] in
theorem onSession_frames {α τ : Type} {view : ReconSession → τ} {x : ApplicationM α}
    (apart : ∀ s session, view { s with session } = view s) : Frames view (onSession x) := by
  rintro v s rfl
  have ends := onPart_run (ε := HandoffError) (·.session) (fun s session => { s with session }) (adapt .application x) s
  unfold onSession
  rw [ends]
  cases adapt HandoffError.application x s.session with
  | ok a session => exact apart s session
  | error e session => exact apart s session

omit [Rfc3339] in
theorem ofExcept_frames {α τ : Type} {view : ReconSession → τ} (x : Except HandoffError α) :
    Frames view (ofExcept x : HandoffM α) := by
  cases x with
  | error e => exact .throw e
  | ok a => exact .pure a

theorem finish_frames_packets : Frames (·.packets) (afterPacket h packet) := by
  have session : ∀ (x : ApplicationM Unit), Frames (·.packets) (onSession x) := fun _ =>
    onSession_frames fun _ _ => rfl
  have enqueue : ∀ kind id text, Frames (·.packets) (enqueueText h.app kind id text) := by
    intro kind id text
    apply Frames.bind (session _)
    intro _ v
    exact .modify fun _ same => same
  unfold afterPacket
  split
  next terminal =>
    unfold finishReconHandoff
    split
    · apply Frames.bind (ofExcept_frames _)
      intro task
      exact .bind (.bind (ofExcept_frames _) fun _ => enqueue _ _ _) fun _ => session _
    · apply Frames.bind (ofExcept_frames _)
      intro spec
      exact .bind (.bind (ofExcept_frames _) fun _ => enqueue _ _ _) fun _ => session _
    · exact session _
    · exact session _
  next => exact .pure ()

/-! ### The blocked probe -/

section Blocked
variable {app : AppliedResult} {d : DispatchSession} {phase after : Phase}

omit [Rfc3339] in
theorem fileStep_ends {step : FileStep} :
    Ensues d (fileStep app.fails phase step) (fun _ t => t = d) fun _ _ => True := by
  unfold fileStep
  split
  · exact .throw trivial
  · exact .pure rfl

omit [Rfc3339] in
theorem refuse_ends {condition : Bool} {error : ApplicationError} :
    Ensues d (refuse condition error) (fun _ t => t = d) fun _ _ => True := by
  unfold refuse
  split
  · exact .throw trivial
  · exact .pure rfl

omit [Rfc3339] in
theorem moveActiveItem_blocks {superseded : Bool} {kind : WorkItemKind} {id : String} :
    Ensues d (moveActiveItem app.fails superseded phase after kind .block id)
      (fun _ t => t = { d with documents := d.documents.block kind id }) fun _ _ => True := by
  unfold moveActiveItem
  apply Ensues.get
  apply refuse_ends.bind
  rintro _ d rfl
  apply Ensues.ite
  · intro _
    apply refuse_ends.bind
    rintro _ d rfl
    apply fileStep_ends.bind
    rintro _ d rfl
    apply (Ensues.modify _).bind
    rintro _ d rfl
    apply fileStep_ends.bind
    rintro _ d rfl
    apply (Ensues.modify (E := fun _ _ => False) _).weaken
    · intro _ t same
      rw [same, ← block_of_draft]
      rfl
    · exact fun _ _ never => never.elim
  · intro _
    apply fileStep_ends.bind
    rintro _ d rfl
    apply refuse_ends.bind
    rintro _ d rfl
    apply fileStep_ends.bind
    rintro _ d rfl
    apply (Ensues.modify _).bind
    rintro _ d rfl
    apply Ensues.ite
    · intro completes
      exact absurd completes.2 (by decide)
    · intro _
      exact .ite (fun requeues => absurd requeues (by decide)) fun _ => .pure rfl

omit [Rfc3339] in
theorem applyLifecycleIntent_blocks {superseded : Bool} {intent : SourceLifecycleIntent} {kind : WorkItemKind}
    {id : String} (action : intent.action = .block) (names : intent.workItemKind = some kind)
    (same : intent.workItemId = id) :
    Ensues d (applyLifecycleIntent app.fails superseded phase after intent)
      (fun _ t => t = { d with documents := d.documents.block kind id }) fun _ _ => True := by
  subst same
  unfold applyLifecycleIntent
  cases found : builtinKind intent with
  | error message => exact .throw trivial
  | ok kind' =>
    obtain rfl := Option.some.inj (names.symm.trans (builtinKind_eq_ok found))
    apply refuse_ends.bind
    rintro _ d rfl
    rw [action]
    exact moveActiveItem_blocks

omit [Rfc3339] in
theorem fileStep_frames {τ : Type} {view : DispatchSession → τ} {step : FileStep} :
    Frames view (fileStep app.fails phase step) := by
  unfold fileStep
  split
  · exact .throw _
  · exact .pure ()

/-- The documents and the run of a plane. -/
def placed (plane : Plane) (d : DispatchSession) : Documents × Option ActiveRunState :=
  (d.documents, d.snapshot.activeRunsByPlane plane)

omit [Rfc3339] in
/-- Once the plane is cleared, the end of a run changes counters and files only. -/
theorem endRun_idles {failureClass : Option String} {status : Option FileStep} {counted : Bool} :
    Ensues d (endRun app phase failureClass status counted)
      (fun _ t => placed app.result.plane t = (d.documents, none)) fun _ _ => True := by
  have cleared : (resetSnapshotRouteCounters (Application.clearActivePlane app.result.plane failureClass
      d.snapshot)).activeRunsByPlane app.result.plane = none := by
    unfold resetSnapshotRouteCounters Application.clearActivePlane projectForegroundActiveRun
    split <;> simp
  have rest : Frames (placed app.result.plane) (do
      status.forM (fileStep app.fails phase)
      if counted then resetForwardProgressCounters app phase
      concludeSnapshot app phase : ApplicationM Unit) := by
    apply Frames.bind
    · cases status with
      | none => exact .pure _
      | some step => exact fileStep_frames
    · intro _
      have conclude : Frames (placed app.result.plane) (concludeSnapshot app phase) := by
        apply Frames.bind fileStep_frames
        intro _
        apply Frames.bind fileStep_frames
        intro _ v
        exact .modify fun _ same => same
      split
      · apply Frames.bind
        · apply Frames.bind fileStep_frames
          intro _
          apply Frames.bind fileStep_frames
          intro _ v
          exact .modify fun _ same => same
        · exact fun _ => conclude
      · exact conclude
  unfold endRun
  apply (Ensues.modify _).bind
  intro _ e same
  subst same
  apply Holds.weaken (rest (d.documents, none))
  · rintro _ rfl
    exact Prod.ext rfl cleared
  · exact fun _ _ kept => kept
  · exact fun _ _ _ => trivial

omit [Rfc3339] in
/-- Where the probe is blocked for its handoff, it has gone from the active directory to the blocked one. -/
theorem blockInvalid_ends :
    Ensues d (blockInvalidReconHandoff app)
      (fun _ t => placed app.result.plane t =
        (d.documents.block app.result.workItemKind app.result.workItemId, none)) fun _ _ => True := by
  unfold blockInvalidReconHandoff
  apply fileStep_ends.bind
  rintro _ d rfl
  apply fileStep_ends.bind
  rintro _ d rfl
  apply fileStep_ends.bind
  rintro _ d rfl
  apply (applyLifecycleIntent_blocks rfl rfl rfl).bind
  rintro _ e rfl
  have recorded : Ensues { d with
      documents := d.documents.block app.result.workItemKind app.result.workItemId }
      (persistBlockedMetadataAndEvent app .fallbackEnding)
      (fun _ t => t = { d with documents := d.documents.block app.result.workItemKind app.result.workItemId })
      fun _ _ => True := by
    apply fileStep_ends.bind
    rintro _ e rfl
    exact fileStep_ends
  apply recorded.bind
  rintro _ e rfl
  exact endRun_idles

end Blocked

/-! ### The outcome -/

omit [Rfc3339] in
theorem onSession_ok {α : Type} {x : ApplicationM α} {a : α} (ran : onSession x u = .ok a t) :
    ∃ d, x u.session = .ok a d ∧ t = { u with session := d } := by
  unfold onSession at ran
  rw [onPart_run] at ran
  unfold adapt at ran
  cases here : x u.session with
  | ok b d =>
    rw [here] at ran
    cases ran
    exact ⟨d, rfl, rfl⟩
  | error e d =>
    rw [here] at ran
    cases ran

theorem persist_run {app : AppliedResult} :
    persistReconPacket app packet s =
      if (s.packets packet.reconPacketId).isSome then
        .error (invalidState ("recon packet already exists: " ++ packet.reconPacketId)) s
      else match app.fails .decision .persistReconPacket with
        | some message => .error (.application (.io message)) s
        | none => .ok ()
            { s with packets := Function.update s.packets packet.reconPacketId (some (renderReconPacket packet)) } := by
  unfold persistReconPacket onSession fileStep
  rw [bind_run, get_run]
  dsimp only
  split
  · rfl
  · cases app.fails .decision .persistReconPacket <;> rfl

theorem returns_persist {app : AppliedResult} (quiet : Quiet app) :
    Returns s (persistReconPacket app packet) (fun _ _ => True) ↔ s.packets packet.reconPacketId = none := by
  unfold Returns
  rw [persist_run, quiet]
  cases s.packets packet.reconPacketId <;> simp

/-! ### What is queued -/

section Elsewhere
variable {app : AppliedResult} {phase after : Phase} {kind other : WorkItemKind}

/-- The documents of one family. -/
def family (kind : WorkItemKind) (d : DispatchSession) : ItemState → List String := d.documents kind

omit [Rfc3339] in
theorem get_frames {τ : Type} {view : DispatchSession → τ} : Frames view (get : ApplicationM DispatchSession) :=
  fun _ => Holds.get fun _ same => same

omit [Rfc3339] in
theorem refuse_frames {τ : Type} {view : DispatchSession → τ} {condition : Bool} {error : ApplicationError} :
    Frames view (refuse condition error) := Frames.ite (.throw error) (.pure ())

omit [Rfc3339] in
theorem modifyDocuments_frames {f : Documents → Documents} (apart : ∀ documents, f documents other = documents other) :
    Frames (family other) (modifyDocuments f) := by
  intro v
  apply Holds.modify
  rintro d rfl
  exact apart d.documents

omit [Rfc3339] in
theorem add_elsewhere (differs : other ≠ kind) (documents : Documents) (state : ItemState) (id : String) :
    documents.add kind state id other = documents other := by
  funext state'
  simp [Documents.add, differs]

omit [Rfc3339] in
theorem remove_elsewhere (differs : other ≠ kind) (documents : Documents) (state : ItemState) (id : String) :
    documents.remove kind state id other = documents other := by
  funext state'
  simp [Documents.remove, differs]

omit [Rfc3339] in
/-- An item that moves stays in its family. -/
theorem moveActiveItem_frames {superseded : Bool} {action : SourceLifecycleAction} {id : String}
    (differs : other ≠ kind) :
    Frames (family other) (moveActiveItem app.fails superseded phase after kind action id) := by
  unfold moveActiveItem
  apply Frames.bind get_frames
  intro d
  apply Frames.bind refuse_frames
  intro _
  apply Frames.ite
  · apply Frames.bind refuse_frames
    intro _
    apply Frames.bind fileStep_frames
    intro _
    apply Frames.bind (modifyDocuments_frames fun documents => add_elsewhere differs documents _ id)
    intro _
    apply Frames.bind fileStep_frames
    intro _
    exact modifyDocuments_frames fun documents => remove_elsewhere differs documents _ id
  · apply Frames.bind fileStep_frames
    intro _
    apply Frames.bind refuse_frames
    intro _
    apply Frames.bind fileStep_frames
    intro _
    apply Frames.bind (modifyDocuments_frames fun documents =>
      (add_elsewhere differs _ _ id).trans (remove_elsewhere differs documents _ id))
    intro _
    split
    next completes =>
      unfold retireStaleBlockedTaskDuplicateAfterDone
      apply Frames.bind get_frames
      intro d
      apply Frames.ite
      · apply Frames.bind fileStep_frames
        intro _
        exact modifyDocuments_frames fun documents => remove_elsewhere (completes.1 ▸ differs) documents _ id
      · exact .pure ()
    next => exact .ite fileStep_frames (.pure ())

omit [Rfc3339] in
theorem applyLifecycleIntent_frames {superseded : Bool} {intent : SourceLifecycleIntent}
    (names : intent.workItemKind = some kind) (differs : other ≠ kind) :
    Frames (family other) (applyLifecycleIntent app.fails superseded phase after intent) := by
  unfold applyLifecycleIntent
  cases found : builtinKind intent with
  | error message => exact .throw _
  | ok kind' =>
    obtain rfl := Option.some.inj (names.symm.trans (builtinKind_eq_ok found))
    exact Frames.bind refuse_frames fun _ => moveActiveItem_frames differs

omit [Rfc3339] in
theorem markActiveWorkItem_frames {action : SourceLifecycleAction} (differs : other ≠ app.result.workItemKind) :
    Frames (family other) (markActiveWorkItem app action) := by
  unfold markActiveWorkItem
  cases found : compiledSourceLifecycleIntent app.plan app.result action with
  | error error => exact .throw _
  | ok intent => exact applyLifecycleIntent_frames (compiledSourceLifecycleIntent_names found).1 differs

omit [Rfc3339] in
theorem endRun_frames {failureClass : Option String} {status : Option FileStep} {counted : Bool} :
    Frames (family other) (endRun app phase failureClass status counted) := by
  have changed : ∀ {f : DispatchSession → DispatchSession}, (∀ d, (f d).documents = d.documents) →
      Frames (family other) (modify f : ApplicationM Unit) := by
    intro f same v
    apply Holds.modify
    rintro d rfl
    exact congrFun (same d) other
  have conclude : Frames (family other) (concludeSnapshot app phase) :=
    .bind fileStep_frames fun _ => .bind fileStep_frames fun _ => changed fun _ => rfl
  have reset : Frames (family other) (resetForwardProgressCounters app phase) :=
    .bind fileStep_frames fun _ => .bind fileStep_frames fun _ => changed fun _ => rfl
  unfold endRun
  apply Frames.bind
  · exact changed fun _ => rfl
  · intro _
    apply Frames.bind
    · cases status with
      | none => exact .pure _
      | some step => exact fileStep_frames
    · intro _
      split
      · exact .bind reset fun _ => conclude
      · exact conclude

omit [Rfc3339] in
theorem applyIdleDecision_frames (differs : other ≠ app.result.workItemKind) :
    Frames (family other) (applyIdleDecision app) :=
  .bind (markActiveWorkItem_frames differs) fun _ => endRun_frames

omit [Rfc3339] in
theorem applyBlockedDecision_frames {decision : RouterDecision} (differs : other ≠ app.result.workItemKind) :
    Frames (family other) (applyBlockedDecision app decision) :=
  .bind (markActiveWorkItem_frames differs) fun _ =>
    .bind (.bind fileStep_frames fun _ => fileStep_frames) fun _ => endRun_frames

end Elsewhere

omit [Rfc3339] in
theorem enqueueDocument_run {app : AppliedResult} {d : DispatchSession} {kind : WorkItemKind} {id : String} :
    enqueueDocument app.fails .decision kind id d =
      if [ItemState.queue, .active, .done, .blocked].any fun state => (d.documents kind state).contains id then
        .error (.queueState (asStr kind ++ " " ++ id ++ " already exists")) d
      else match app.fails .decision .enqueueDocument with
        | some message => .error (.io message) d
        | none => .ok () { d with documents := d.documents.add kind .queue id } := by
  unfold enqueueDocument refuse fileStep
  rw [bind_run, get_run]
  dsimp only
  split
  · rfl
  · cases app.fails .decision .enqueueDocument <;> rfl

/-- A document that cannot be queued leaves the session as it was. -/
theorem enqueueText_refused {kind : WorkItemKind} {id text : String} (refused : ¬Queueable h s kind id) :
    ∃ error, enqueueText h.app kind id text s = .error error s := by
  unfold enqueueText onSession
  rw [bind_run, onPart_run]
  unfold adapt
  rw [enqueueDocument_run]
  by_cases found : ([ItemState.queue, .active, .done, .blocked].any fun state =>
      (s.session.documents kind state).contains id) = true
  · rw [if_pos found]
    exact ⟨_, rfl⟩
  · rw [if_neg found]
    cases writing : h.app.fails .decision .enqueueDocument with
    | some message => exact ⟨_, rfl⟩
    | none =>
      refine absurd ⟨fun state member there => found ?_, writing⟩ refused
      exact List.any_eq_true.mpr ⟨state, member, List.contains_iff_mem.mpr there⟩

/-- What a handoff leaves of the queues of tasks and specs. -/
def queues (s : ReconSession) : (WorkItemKind → String → Option String) × (ItemState → List String) ×
    (ItemState → List String) :=
  (s.queued, s.session.documents .task, s.session.documents .spec)

omit [Rfc3339] in
theorem onSession_frames_queues {α : Type} {x : ApplicationM α} (tasks : Frames (family .task) x)
    (specs : Frames (family .spec) x) : Frames queues (onSession x) := by
  rintro v s rfl
  have task := tasks (family .task s.session) s.session rfl
  have spec := specs (family .spec s.session) s.session rfl
  unfold onSession
  rw [onPart_run]
  unfold adapt
  cases ran : x s.session with
  | ok a d =>
    rw [ran] at task spec
    exact Prod.ext rfl (Prod.ext task spec)
  | error e d =>
    rw [ran] at task spec
    exact Prod.ext rfl (Prod.ext task spec)

theorem workItemKind_of_recon : h.app.result.workItemKind = .probe := by
  have recon := h.recon
  simp only [isReconStageResult, Bool.and_eq_true, beq_iff_eq] at recon
  exact recon.2

/-- An emitted document that is refused ends the handoff where it is. -/
theorem enqueue_fails {α : Type} {document : Except HandoffError α} {valid : α → Except WorkDocumentError Unit}
    {kind : WorkItemKind} {id text : α → String} {rest : HandoffM Unit} {error : HandoffError}
    (refused : ∀ d, document = .ok d → valid d = .ok () → ¬Queueable h s kind (id d))
    (failed : (do
      let d ← ofExcept document
      (do
        ofExcept ((valid d).mapError HandoffError.workDocument)
        enqueueText h.app kind (id d) (text d) : HandoffM Unit)
      rest) s = .error error u) : u = s := by
  cases document with
  | error e =>
    cases failed
    rfl
  | ok d =>
    have ends : ∃ e, (do
        ofExcept ((valid d).mapError HandoffError.workDocument)
        enqueueText h.app kind (id d) (text d) : HandoffM Unit) s = .error e s := by
      cases checked : valid d with
      | error e => exact ⟨.workDocument e, rfl⟩
      | ok _ => exact enqueueText_refused (refused d rfl checked)
    obtain ⟨e, stopped⟩ := ends
    change ((do
        ofExcept ((valid d).mapError HandoffError.workDocument)
        enqueueText h.app kind (id d) (text d) : HandoffM Unit) >>= fun _ => rest) s = _ at failed
    rw [bind_run, stopped] at failed
    cases failed
    rfl

theorem afterPacket_queues {error : HandoffError} (unqueued : ¬h.Queues s packet)
    (failed : afterPacket h packet s = .error error u) : queues u = queues s := by
  have task : (.task : WorkItemKind) ≠ h.app.result.workItemKind := by
    rw [workItemKind_of_recon]
    decide
  have spec : (.spec : WorkItemKind) ≠ h.app.result.workItemKind := by
    rw [workItemKind_of_recon]
    decide
  have leaves : ∀ {x : HandoffM Unit}, Frames queues x → x s = .error error u → queues u = queues s := by
    intro x frames ran
    have kept := frames (queues s) s rfl
    rw [ran] at kept
    exact kept
  cases planned : h.app.result.terminalResult with
  | planning terminal =>
    simp only [afterPacket, planned] at failed
    unfold finishReconHandoff at failed
    split at failed
    next =>
      rw [enqueue_fails (fun d generated valid queueable =>
        unqueued (.inl ⟨planned, d, generated, valid, queueable⟩)) failed]
    next =>
      rw [enqueue_fails (fun d generated valid queueable =>
        unqueued (.inr ⟨planned, d, generated, valid, queueable⟩)) failed]
    next =>
      exact leaves (onSession_frames_queues (applyIdleDecision_frames task) (applyIdleDecision_frames spec)) failed
    next =>
      exact leaves (onSession_frames_queues (applyBlockedDecision_frames task) (applyBlockedDecision_frames spec)) failed
  | execution terminal =>
    simp only [afterPacket, planned] at failed
    cases failed
  | learning terminal =>
    simp only [afterPacket, planned] at failed
    cases failed

theorem kept_iff : h.kept s = some packet ↔
    h.accepted = .ok packet ∧ s.packets packet.reconPacketId = none ∧
      h.app.fails .decision .persistReconPacket = none := by
  unfold ReconHandoff.kept
  rw [Option.filter_eq_some_iff, toOption_eq_some, decide_eq_true_eq]

/-- The packet is kept before anything else, and the state is otherwise what the rest of the handoff leaves. -/
theorem inner_fails {error : HandoffError} (failed : applyReconRouterDecisionInner h s = .error error u) :
    (h.kept s = none ∧ u = s) ∨
      ∃ packet, h.kept s = some packet ∧ afterPacket h packet { s with packets := h.packetsAfter s } = .error error u := by
  rw [inner_eq] at failed
  cases accepted : h.accepted with
  | error e =>
    rw [accepted] at failed
    cases failed
    refine .inl ⟨Option.eq_none_iff_forall_ne_some.mpr fun packet kept => ?_, rfl⟩
    exact absurd (accepted.symm.trans (kept_iff.mp kept).1) (by simp)
  | ok packet =>
    rw [accepted] at failed
    have stopped : (do
        persistReconPacket h.app packet
        afterPacket h packet) s = .error error u := failed
    rw [bind_run, persist_run] at stopped
    have same : ∀ {other}, h.kept s = some other → other = packet := fun kept =>
      Except.ok.inj ((kept_iff.mp kept).1.symm.trans accepted)
    cases there : s.packets packet.reconPacketId with
    | some text =>
      rw [there] at stopped
      cases stopped
      refine .inl ⟨Option.eq_none_iff_forall_ne_some.mpr fun other kept => ?_, rfl⟩
      obtain rfl := same kept
      exact absurd (there.symm.trans (kept_iff.mp kept).2.1) (by simp)
    | none =>
      cases writing : h.app.fails .decision .persistReconPacket with
      | some message =>
        rw [there, writing] at stopped
        cases stopped
        refine .inl ⟨Option.eq_none_iff_forall_ne_some.mpr fun other kept => ?_, rfl⟩
        exact absurd (writing.symm.trans (kept_iff.mp kept).2.2) (by simp)
      | none =>
        rw [there, writing] at stopped
        have kept : h.kept s = some packet := kept_iff.mpr ⟨accepted, there, writing⟩
        refine .inr ⟨packet, kept, ?_⟩
        unfold ReconHandoff.packetsAfter
        rw [kept]
        exact stopped

/-- What a handoff that is blocked as invalid leaves behind. -/
theorem invalid_handoff_blocked (h : ReconHandoff) (s t : ReconSession) (ends : BlocksInvalid h s t) :
    BlockedHandoff h s t := by
  obtain ⟨error, u, failed, blocking⟩ := ends
  obtain ⟨d, ran, rfl⟩ := onSession_ok blocking
  have placed := blockInvalid_ends.of_ok ran
  rw [workItemKind_of_recon] at placed
  obtain ⟨documents, idle⟩ := Prod.mk.inj placed
  have packets : u.packets = h.packetsAfter s := by
    obtain ⟨unkept, rfl⟩ | ⟨packet, -, stopped⟩ := inner_fails failed
    · simp [ReconHandoff.packetsAfter, unkept]
    · have kept := @finish_frames_packets _ h packet (h.packetsAfter s) { s with packets := h.packetsAfter s } rfl
      rw [stopped] at kept
      exact kept
  have unqueued : (∀ packet, h.kept s = some packet → ¬h.Queues s packet) → queues u = queues s := by
    intro none
    obtain ⟨-, rfl⟩ | ⟨packet, kept, stopped⟩ := inner_fails failed
    · rfl
    · exact afterPacket_queues (s := { s with packets := h.packetsAfter s }) (none packet kept) stopped
  have elsewhere : ∀ kind, kind ≠ .probe → d.documents kind = u.session.documents kind := by
    intro kind differs
    rw [documents]
    funext state
    simp [Documents.block, Documents.add, Documents.remove, differs]
  exact {
    packets := packets
    queues := fun none => by
      obtain ⟨queued, tasks, specs⟩ := Prod.mk.inj (unqueued none) |>.imp_right Prod.mk.inj
      refine ⟨queued, ?_, ?_⟩
      · exact congrFun ((elsewhere .task (by decide)).trans tasks) .queue
      · exact congrFun ((elsewhere .spec (by decide)).trans specs) .queue
    blocked := by
      show _ ∈ d.documents .probe .blocked
      rw [documents]
      simp [Documents.block]
    inactive := by
      show _ ∉ d.documents .probe .active
      rw [documents]
      simp [Documents.block]
    idle := idle
    reusable := by
      intro packet emitted
      rw [← packets]
      constructor
      · intro reuses
        have free := (returns_persist fun _ _ => rfl).mp
          (reuses { h.app with fails := fun _ _ => none } packet rfl fun _ _ => rfl)
        exact free
      · intro free later packet' same quiet
        exact (returns_persist quiet).mpr (same ▸ free) }

end Invalid

end Handoff

/-! ## Two invalid handoffs -/

section Concrete
attribute [local instance] utcOfPackets

/-- A packet that hands its probe on to execution. -/
def executionPacket : ReconPacketDocument :=
  { foundPacket "src/a.rs" with
    decision := .toExecution
    handoffTarget := .execution
    emittedTaskId := some "t1" }

theorem executionPacket_read : readReconPacket (some (renderReconPacket executionPacket)) = .ok executionPacket := by
  have none : InlineItems [] := fun item member => absurd member List.not_mem_nil
  have kept : InlineItems ["kept"] := by decide
  have finding : ∀ finding ∈ [(⟨"src/a.rs", "why"⟩ : ReconPathFinding)], finding.Canonical := by
    intro finding member
    rw [List.mem_singleton.mp member]
    exact ⟨by decide, by decide, by decide⟩
  have canonical : executionPacket.Canonical := ⟨by decide, by decide, by decide, finding, none,
    fun finding member => absurd member List.not_mem_nil, kept, none, none, none, none, none⟩
  exact readReconPacket_ok (parseReconPacket_render (by decide) canonical _)

/-- The probe's run ends with a handoff to execution, without a generated task. -/
def executionHandoff (packetFile : Option String) : ReconHandoff where
  app := { taskResult .recon "recon" .builderComplete fun _ _ => none with
    result := {
      runId := "run-1"
      plane := .planning
      stage := .recon
      nodeId := "recon"
      stageKindId := "recon"
      workItemKind := .probe
      workItemId := "p1"
      terminalResult := .planning .reconToExecution
      metadata := []
      ofPlane := rfl } }
  decision := idleDecision "recon_to_execution"
  packetFile := packetFile
  taskFile := none
  specFile := none
  parseTaskJsonImport _ := .error (.invalidDocument "not JSON")
  parseSpecJsonImport _ := .error (.invalidDocument "not JSON")
  recon := rfl

def activeProbe : ReconSession where
  session :=
    { queuedTask with documents := fun kind state => if kind = .probe ∧ state = .active then ["p1"] else [] }
  packets _ := none
  queued _ _ := none

theorem probe_blocked (packetFile : Option String) (s : ReconSession)
    (same : s.session.documents = activeProbe.session.documents) :
    ∃ t, onSession (blockInvalidReconHandoff (executionHandoff packetFile).app) s = .ok () t := by
  have quiet : Quiet (executionHandoff packetFile).app := fun _ _ => rfl
  have named : builtinKind ((SourceLifecycleIntent.forBuiltin "block_work_item" .block .probe "p1").withReason
      "runtime-owned invalid handoff block") = .ok .probe := by decide +kernel
  have blocks : Returns s.session (blockInvalidReconHandoff (executionHandoff packetFile).app)
      fun _ t => (fun _ => True) t.documents := by
    unfold blockInvalidReconHandoff applyLifecycleIntent persistBlockedMetadataAndEvent
    simp only [returns_bind, returns_fileStep quiet, returns_endRun (Q := fun _ => True) quiet]
    rw [show (executionHandoff packetFile).app.result.workItemKind = .probe from rfl,
      show (executionHandoff packetFile).app.result.workItemId = "p1" from rfl, named]
    simp only [returns_bind, returns_refuse]
    exact ⟨rfl, (returns_moveActiveItem (Q := fun _ => True) quiet).mpr (by
      rw [same]
      exact ⟨List.mem_singleton_self "p1", List.not_mem_nil, trivial⟩)⟩
  obtain ⟨_, d, ran, -⟩ := blocks
  refine ⟨{ s with session := d }, ?_⟩
  unfold onSession
  rw [onPart_run]
  unfold adapt
  rw [ran]

/-- The probe's packet cannot be read. -/
theorem unreadable_handoff_blocked : ∃ t, BlocksInvalid (executionHandoff none) activeProbe t ∧
    BlockedHandoff (executionHandoff none) activeProbe t := by
  obtain ⟨t, blocked⟩ := probe_blocked none activeProbe rfl
  have ends : BlocksInvalid (executionHandoff none) activeProbe t := ⟨.unreadablePacket, activeProbe, rfl, blocked⟩
  exact ⟨t, ends, invalid_handoff_blocked _ activeProbe t ends⟩

/-- The probe's packet is read, but its run has left no generated task. -/
def tasklessHandoff : ReconHandoff := executionHandoff (some (renderReconPacket executionPacket))

theorem taskless_accepted : tasklessHandoff.accepted = .ok executionPacket := by
  have read : readReconPacket tasklessHandoff.packetFile = .ok executionPacket := executionPacket_read
  show (do
    requireRouterAction tasklessHandoff.decision .reconToExecution
    readAndValidateReconPacket tasklessHandoff .reconToExecution) = _
  unfold readAndValidateReconPacket
  rw [read]
  rfl

/-- The state in which the task is missed. -/
def keptPacket : ReconSession :=
  { activeProbe with
    packets := Function.update activeProbe.packets executionPacket.reconPacketId
      (some (renderReconPacket executionPacket)) }

theorem taskless_fails :
    applyReconRouterDecisionInner tasklessHandoff activeProbe =
      .error (.application (.io "No such file or directory")) keptPacket := by
  rw [inner_eq, taskless_accepted]
  show (do
    persistReconPacket tasklessHandoff.app executionPacket
    afterPacket tasklessHandoff executionPacket) activeProbe = _
  rw [bind_run, persist_run]
  rfl

/-- The generated task is missing: the packet is kept, and its id is taken for the runs to come. -/
theorem missing_task_keeps_packet :
    ¬ ∀ (_ : Rfc3339) (h : ReconHandoff) (s t : ReconSession), BlocksInvalid h s t → SideEffectFree h s t := by
  intro claim
  obtain ⟨t, blocked⟩ := probe_blocked (some (renderReconPacket executionPacket)) keptPacket rfl
  have clean := claim _ tasklessHandoff activeProbe t ⟨_, keptPacket, taskless_fails, blocked⟩
  obtain ⟨d, -, rfl⟩ := onSession_ok blocked
  have kept : keptPacket.packets executionPacket.reconPacketId = some (renderReconPacket executionPacket) := by
    simp [keptPacket]
  rw [show keptPacket.packets = activeProbe.packets from clean.packets] at kept
  cases kept

end Concrete
end Millrace.Recon
