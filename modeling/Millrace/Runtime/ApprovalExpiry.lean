import Millrace.Runs
import Millrace.Runtime.Approvals

/-! When an expired approval authorises nothing. -/

set_option autoImplicit false

namespace Millrace.Approvals
open Millrace.Text Millrace.Contracts Millrace.WorkDocuments Millrace.Compiler Millrace.Action Millrace.Runs

theorem requireValue_eq_ok {fieldName value : String} : requireValue fieldName value = .ok () ↔ isBlank value = false := by
  unfold requireValue
  cases isBlank value <;> simp

theorem attempt_eq_ok {faults : Faults} {operation : StorageOperation} {path : String} :
    attempt faults operation path = .ok () ↔ faults operation = none := by
  unfold attempt
  cases faults operation <;> simp

theorem isBlank_trimmed (text : String) : isBlank (String.ofList (trim text.toList)) = isBlank text := by
  unfold isBlank
  rw [String.toList_ofList, trim_trim]

section
variable [Rfc3339]

/-- The approval has expired at this time. -/
def Expired (approval : Approval) (now : Timestamp) : Prop :=
  ∃ expires, approval.expiresAt = some expires ∧ expires.instant.nanoseconds ≤ now.instant.nanoseconds

/-- No approval was approved when it had expired. -/
def NoneLate (store : ApprovalStore) : Prop :=
  ∀ file ∈ store.resolved, file.2.status = .approved → ∀ decided, file.2.decidedAt = some decided → ¬Expired file.2 decided

theorem noneLate_empty : NoneLate ApprovalStore.empty := fun _ there => by cases there

theorem mem_putFile {name : String} {approval : Approval} {files : List (String × Approval)} {file : String × Approval} :
    file ∈ putFile name approval files ↔ file = (name, approval) ∨ (file ∈ files ∧ file.1 ≠ name) := by
  simp [putFile]

/-! ## Decisions -/

/-- The call comes to write this approval's decision. -/
structure Decides (faults : Faults) (approvalId decidedBy reason : String) (store : ApprovalStore) (approval : Approval) : Prop where
  named : isBlank approvalId = false
  decided : isBlank decidedBy = false
  reasoned : isBlank reason = false
  waits : findFile approvalId store.pending = some approval
  reads : faults .read = none
  valid : approval.validate = .ok ()
  writes : faults .write = none

theorem resolvedAs_valid {approval : Approval} {status : ApprovalStatus} {decidedBy reason : String} {now : Timestamp}
    (valid : approval.validate = .ok ()) (decided : isBlank decidedBy = false) (reasoned : isBlank reason = false) :
    (resolvedAs approval status decidedBy reason now).validate = .ok () := by
  unfold Approval.validate at valid ⊢
  obtain ⟨identity, rest⟩ := bind_unit_eq_ok.mp valid
  obtain ⟨-, grant⟩ := bind_unit_eq_ok.mp rest
  have decision : (resolvedAs approval status decidedBy reason now).validateDecision = .ok () := by
    unfold Approval.validateDecision resolvedAs
    simp only [Option.all_some, isBlank_trimmed, decided, reasoned]
    split <;> simp
  exact bind_unit_eq_ok.mpr ⟨identity, bind_unit_eq_ok.mpr ⟨decision, grant⟩⟩

section Resolve
variable {paths : ApprovalPaths} {faults : Faults} {approvalId decidedBy reason : String} {status : ApprovalStatus}
  {now : Timestamp} {store : ApprovalStore}

/-- The call writes a decision, or comes to none and leaves the store as it was. -/
def Resolved (faults : Faults) (approvalId decidedBy reason : String) (status : ApprovalStatus) (now : Timestamp)
    (store : ApprovalStore) (store' : ApprovalStore) : Prop :=
  (∃ approval, Decides faults approvalId decidedBy reason store approval ∧
    store'.resolved = putFile approvalId (resolvedAs approval status decidedBy reason now) store.resolved) ∨
  ((∀ approval, ¬Decides faults approvalId decidedBy reason store approval) ∧ store' = store)

theorem resolveApproval_after : Resolved faults approvalId decidedBy reason status now store
    (after (resolveApproval paths faults approvalId status decidedBy reason now) store) := by
  apply Ensues.after
  unfold resolveApproval
  refine .bind (ofExcept_ensues (Q := fun _ t => t = store ∧ isBlank approvalId = false)
    (fun _ ok => ⟨rfl, requireValue_eq_ok.mp ok⟩) fun _ failed => .inr ⟨fun approval decides => ?_, rfl⟩) ?_
  · cases failed.symm.trans (requireValue_eq_ok.mpr decides.named)
  rintro _ _ ⟨rfl, named⟩
  refine .bind (ofExcept_ensues (Q := fun _ t => t = _ ∧ isBlank decidedBy = false)
    (fun _ ok => ⟨rfl, requireValue_eq_ok.mp ok⟩) fun _ failed => .inr ⟨fun approval decides => ?_, rfl⟩) ?_
  · cases failed.symm.trans (requireValue_eq_ok.mpr decides.decided)
  rintro _ _ ⟨rfl, decided⟩
  refine .bind (ofExcept_ensues (Q := fun _ t => t = _ ∧ isBlank reason = false)
    (fun _ ok => ⟨rfl, requireValue_eq_ok.mp ok⟩) fun _ failed => .inr ⟨fun approval decides => ?_, rfl⟩) ?_
  · cases failed.symm.trans (requireValue_eq_ok.mpr decides.reasoned)
  rintro _ store ⟨rfl, reasoned⟩
  apply Ensues.get
  cases waits : findFile approvalId store.pending with
  | none =>
    refine .throw (.inr ⟨fun approval decides => ?_, rfl⟩)
    cases waits.symm.trans decides.waits
  | some approval =>
    dsimp only
    refine .bind (ofExcept_ensues (Q := fun _ t => t = store ∧ faults .read = none)
      (fun _ ok => ⟨rfl, attempt_eq_ok.mp ok⟩) fun _ failed => .inr ⟨fun approval decides => ?_, rfl⟩) ?_
    · cases failed.symm.trans (attempt_eq_ok.mpr decides.reads)
    rintro _ _ ⟨rfl, reads⟩
    refine .bind (ofExcept_ensues (Q := fun _ t => t = _ ∧ approval.validate = .ok ())
      (fun _ ok => ⟨rfl, ok⟩) fun _ failed => .inr ⟨fun other decides => ?_, rfl⟩) ?_
    · cases Option.some.inj (waits.symm.trans decides.waits)
      cases failed.symm.trans decides.valid
    rintro _ _ ⟨rfl, valid⟩
    refine .bind (ofExcept_ensues (Q := fun _ t => t = _) (fun _ _ => rfl) fun _ failed => ?_) ?_
    · cases failed.symm.trans (resolvedAs_valid valid decided reasoned)
    rintro _ _ rfl
    refine .bind (ofExcept_ensues (Q := fun _ t => t = _ ∧ faults .write = none)
      (fun _ ok => ⟨rfl, attempt_eq_ok.mp ok⟩) fun _ failed => .inr ⟨fun other decides => ?_, rfl⟩) ?_
    · cases failed.symm.trans (attempt_eq_ok.mpr decides.writes)
    rintro _ store ⟨rfl, writes⟩
    have decides : Decides faults approvalId decidedBy reason store approval :=
      ⟨named, decided, reasoned, waits, reads, valid, writes⟩
    refine .bind (.modify _) ?_
    rintro _ _ rfl
    refine .bind (ofExcept_ensues (Q := fun _ t => t = _) (fun _ _ => rfl) fun _ _ => .inl ⟨approval, decides, rfl⟩) ?_
    rintro _ _ rfl
    refine .bind (.modify _) ?_
    rintro _ _ rfl
    exact .pure (.inl ⟨approval, decides, rfl⟩)

end Resolve

/-! ## Gates -/

/-- What is found does not depend on which listing succeeds. -/
theorem findApprovalForGrant_agree {paths : ApprovalPaths} {faults : Faults} {first second first' second' : StorageOperation}
    {runId requestId grantId : String} {store : ApprovalStore} {found found' : Option Approval}
    (ran : findApprovalForGrant paths faults first second runId requestId grantId store = .ok found)
    (ran' : findApprovalForGrant paths faults first' second' runId requestId grantId store = .ok found') : found = found' := by
  unfold findApprovalForGrant listExecutionCapabilityApprovals at ran ran'
  simp only [bind_eq_ok, pure_eq_ok] at ran ran'
  obtain ⟨_, ⟨-, -, pending, listed, -, -, resolved, decided, rfl⟩, rfl⟩ := ran
  obtain ⟨_, ⟨-, -, pending', listed', -, -, resolved', decided', rfl⟩, rfl⟩ := ran'
  cases listed.symm.trans listed'
  cases decided.symm.trans decided'
  rfl

section Gate
variable [ApprovalDigest] [Rfc3339Writer] {paths : ApprovalPaths} {faults : Faults} {request : StageRunRequest}
  {grant : ExecutionCapabilityGrant} {now : Timestamp} {store store' : ApprovalStore} {approval : Approval}

/-- The approval that the store has for the grant. -/
abbrev found (paths : ApprovalPaths) (faults : Faults) (request : StageRunRequest) (grant : ExecutionCapabilityGrant)
    (store : ApprovalStore) : Except ApprovalStorageError (Option Approval) :=
  findApprovalForGrant paths faults .listPending .listResolved request.runId request.requestId grant.grantId store

theorem ensureApproval_ensues (absent : found paths faults request grant store = .ok none) :
    Ensues store (ensureExecutionCapabilityApproval paths faults request grant now)
      (fun approval t => t.resolved = store.resolved ∧ approval.status = .pending) fun _ t => t.resolved = store.resolved := by
  unfold ensureExecutionCapabilityApproval
  apply Ensues.get
  refine .bind (ofExcept_ensues (Q := fun again t => t = store ∧ again = none)
    (fun _ ok => ⟨rfl, (findApprovalForGrant_agree absent ok).symm⟩) fun _ _ => rfl) ?_
  rintro _ _ ⟨rfl, rfl⟩
  dsimp only
  refine .bind (ofExcept_ensues (Q := fun _ t => t = _) (fun _ _ => rfl) fun _ _ => rfl) ?_
  rintro expiresAt _ rfl
  refine .bind (ofExcept_ensues (Q := fun _ t => t = _) (fun _ _ => rfl) fun _ _ => rfl) ?_
  rintro _ _ rfl
  refine .bind (ofExcept_ensues (Q := fun _ t => t = _) (fun _ _ => rfl) fun _ _ => rfl) ?_
  rintro _ _ rfl
  refine .bind (.modify _) ?_
  rintro _ _ rfl
  exact .pure ⟨rfl, rfl⟩

theorem approvalForRequest_ensues : Ensues store (approvalForRequest paths faults request grant now)
    (fun approval t => t.resolved = store.resolved ∧
      (found paths faults request grant store = .ok (some approval) ∨ approval.status = .pending))
    fun _ t => t.resolved = store.resolved := by
  unfold approvalForRequest
  apply Ensues.get
  refine .bind (ofExcept_ensues (Q := fun looked t => t = store ∧ found paths faults request grant store = .ok looked)
    (fun _ ok => ⟨rfl, ok⟩) fun _ _ => rfl) ?_
  rintro looked _ ⟨rfl, here⟩
  cases looked with
  | some existing => exact .pure ⟨rfl, .inl here⟩
  | none => exact (ensureApproval_ensues here).weaken (fun _ _ ends => ⟨ends.1, .inr ends.2⟩) fun _ _ fails => fails

theorem approvalForRequest_of_found (here : found paths faults request grant store = .ok (some approval)) :
    approvalForRequest paths faults request grant now store = .ok approval store := by
  have ends : Ensues store (approvalForRequest paths faults request grant now) (fun existing t => existing = approval ∧ t = store)
      fun _ _ => False := by
    unfold approvalForRequest
    apply Ensues.get
    refine .bind (ofExcept_ensues (Q := fun looked t => looked = some approval ∧ t = store)
      (fun _ ok => ⟨Except.ok.inj (ok.symm.trans here), rfl⟩) fun _ failed => ?_) ?_
    · cases failed.symm.trans here
    rintro _ _ ⟨rfl, rfl⟩
    exact .pure ⟨rfl, rfl⟩
  have ended := ends store rfl
  cases ran : approvalForRequest paths faults request grant now store with
  | ok existing t =>
    rw [ran] at ended
    obtain ⟨rfl, rfl⟩ := ended
    rfl
  | error e t =>
    rw [ran] at ended
    cases ended

/-- The round lets the grant pass. -/
def Passes (paths : ApprovalPaths) (faults : Faults) (request : StageRunRequest) (grant : ExecutionCapabilityGrant)
    (now : Timestamp) (store : ApprovalStore) : Prop :=
  ∃ approvalId store', approvalRequiredBranch paths faults request grant now store = .ok (approvalId, none) store'

theorem passes_iff : Passes paths faults request grant now store ↔
    ∃ approval store', approvalForRequest paths faults request grant now store = .ok approval store' ∧
      approval.status = .approved := by
  unfold Passes approvalRequiredBranch
  cases ran : approvalForRequest paths faults request grant now store with
  | error e t => simp [bind, EStateM.bind, ran]
  | ok approval t =>
    by_cases approved : approval.status = .approved
    · simp [bind, EStateM.bind, ran, approved, pure, EStateM.pure]
    · simp [bind, EStateM.bind, ran, approved, pure, EStateM.pure]

theorem gate_resolved : (after (approvalRequiredBranch paths faults request grant now) store).resolved = store.resolved := by
  have ends : Ensues store (approvalRequiredBranch paths faults request grant now) (fun _ t => t.resolved = store.resolved)
      fun _ t => t.resolved = store.resolved := by
    unfold approvalRequiredBranch
    refine .bind (approvalForRequest_ensues.weaken (fun _ _ ends => ends.1) fun _ _ fails => fails) ?_
    intro approval t kept
    exact .ite (fun _ => .pure kept) fun _ => .pure kept
  exact Ensues.after (P := fun t : ApprovalStore => t.resolved = store.resolved) ends

end Gate

/-! ## Histories -/

section Histories
variable [ApprovalDigest] [Rfc3339Writer] (paths : ApprovalPaths)

/-- A gate that comes to a grant at the expiry of its approval or later does not let it pass. -/
def GateKeeps (store : ApprovalStore) : ApprovalEvent → Prop
  | .gate request grant now faults =>
    ∀ approval store', approvalForRequest paths faults request grant now store = .ok approval store' → Expired approval now →
      ¬Passes paths faults request grant now store
  | _ => True

/-- The event comes before the expiry of the approval that it uses or decides on. -/
def InTime (store : ApprovalStore) : ApprovalEvent → Prop
  | .gate request grant now faults =>
    ∀ approval, found paths faults request grant store = .ok (some approval) → approval.status = .approved →
      ¬Expired approval now
  | .approve approvalId decidedBy reason now faults =>
    ∀ approval, Decides faults approvalId decidedBy reason store approval → ¬Expired approval now
  | .deny .. => True

/-- Over the whole history no approval is approved once it has expired, and no gate lets a grant pass on one. -/
def ExpiryHolds (events : List ApprovalEvent) : Prop :=
  Throughout (step paths) NoneLate ApprovalStore.empty events ∧ Along (step paths) (GateKeeps paths) ApprovalStore.empty events

variable {paths} {store : ApprovalStore}

theorem gateKeeps_iff {request : StageRunRequest} {grant : ExecutionCapabilityGrant} {now : Timestamp} {faults : Faults} :
    GateKeeps paths store (.gate request grant now faults) ↔ InTime paths store (.gate request grant now faults) := by
  constructor
  · intro keeps approval here approved expired
    have ran : approvalForRequest paths faults request grant now store = .ok approval store := approvalForRequest_of_found here
    exact keeps approval store ran expired (passes_iff.mpr ⟨approval, store, ran, approved⟩)
  · intro inTime approval store' ran expired passes
    obtain ⟨other, store'', ran', approved⟩ := passes_iff.mp passes
    cases ran.symm.trans ran'
    obtain ⟨-, here | waits⟩ := approvalForRequest_ensues.of_ok ran
    · exact inTime approval here approved expired
    · cases approved.symm.trans waits

theorem noneLate_approve_iff {approvalId decidedBy reason : String} {now : Timestamp} {faults : Faults} (none : NoneLate store) :
    NoneLate (step paths store (.approve approvalId decidedBy reason now faults)) ↔
      InTime paths store (.approve approvalId decidedBy reason now faults) := by
  have resolves : Resolved faults approvalId decidedBy reason .approved now store
      (Action.after (resolveApproval paths faults approvalId .approved decidedBy reason now) store) := resolveApproval_after
  rcases resolves with ⟨approval, decides, written⟩ | ⟨never, same⟩
  · constructor
    · intro late other decides' expired
      cases Option.some.inj (decides.waits.symm.trans decides'.waits)
      have there : (approvalId, resolvedAs approval .approved decidedBy reason now) ∈
          (step paths store (.approve approvalId decidedBy reason now faults)).resolved := by
        change _ ∈ (Action.after _ store).resolved
        rw [written]
        exact mem_putFile.mpr (.inl rfl)
      exact late _ there rfl now rfl expired
    · intro inTime file there approved decided at'
      change file ∈ (Action.after _ store).resolved at there
      rw [written] at there
      rcases mem_putFile.mp there with rfl | ⟨before, -⟩
      · cases at'
        exact inTime approval decides
      · exact none file before approved decided at'
  · refine iff_of_true ?_ fun approval decides => absurd decides (never approval)
    change NoneLate (Action.after _ store)
    rw [same]
    exact none

theorem noneLate_deny {approvalId decidedBy reason : String} {now : Timestamp} {faults : Faults} (none : NoneLate store) :
    NoneLate (step paths store (.deny approvalId decidedBy reason now faults)) := by
  change NoneLate (Action.after (resolveApproval paths faults approvalId .denied decidedBy reason now) store)
  have resolves : Resolved faults approvalId decidedBy reason .denied now store
      (Action.after (resolveApproval paths faults approvalId .denied decidedBy reason now) store) := resolveApproval_after
  rcases resolves with ⟨approval, decides, written⟩ | ⟨-, same⟩
  · intro file there approved decided at'
    rw [written] at there
    rcases mem_putFile.mp there with rfl | ⟨before, -⟩
    · cases approved
    · exact none file before approved decided at'
  · rw [same]
    exact none

theorem noneLate_gate {request : StageRunRequest} {grant : ExecutionCapabilityGrant} {now : Timestamp} {faults : Faults}
    (none : NoneLate store) : NoneLate (step paths store (.gate request grant now faults)) := by
  intro file there
  change file ∈ (Action.after _ store).resolved at there
  rw [gate_resolved] at there
  exact none file there

/-- One event keeps what expiry asks for just where it comes in time. -/
theorem event_iff (none : NoneLate store) (event : ApprovalEvent) :
    (NoneLate (step paths store event) ∧ GateKeeps paths store event) ↔ InTime paths store event := by
  cases event with
  | gate request grant now faults =>
    rw [gateKeeps_iff]
    exact and_iff_right (noneLate_gate none)
  | approve approvalId decidedBy reason now faults =>
    rw [noneLate_approve_iff none]
    exact and_iff_left trivial
  | deny approvalId decidedBy reason now faults => exact iff_of_true ⟨noneLate_deny none, trivial⟩ trivial

/-- An expired approval authorises nothing just in the histories whose events all come in time. -/
theorem expiryHolds_iff (paths : ApprovalPaths) (events : List ApprovalEvent) :
    ExpiryHolds paths events ↔ Along (step paths) (InTime paths) ApprovalStore.empty events := by
  unfold ExpiryHolds
  have none : NoneLate ApprovalStore.empty := noneLate_empty
  generalize ApprovalStore.empty = store at none
  induction events generalizing store with
  | nil => exact iff_of_true ⟨none, trivial⟩ trivial
  | cons event events ih =>
    constructor
    · intro ⟨⟨_, later⟩, keeps, kept⟩
      exact ⟨(event_iff none event).mp ⟨later.first, keeps⟩, (ih _ later.first).mp ⟨later, kept⟩⟩
    · intro ⟨inTime, later⟩
      obtain ⟨none', keeps⟩ := (event_iff none event).mpr inTime
      obtain ⟨throughout, kept⟩ := (ih _ none').mpr later
      exact ⟨⟨none, throughout⟩, keeps, kept⟩

end Histories

end

section Concrete
local instance readerOfApprovals : Rfc3339 := morning.reader
local instance writerOfApprovals : Rfc3339Writer := morning.writer
local instance digestOfApprovals : ApprovalDigest := { digits _ _ _ := "0" }

def ApprovalEvent.time : ApprovalEvent → Int
  | .gate _ _ now _ => now.instant.nanoseconds
  | .approve _ _ _ now _ => now.instant.nanoseconds
  | .deny _ _ _ now _ => now.instant.nanoseconds

def plainPaths : ApprovalPaths where
  workspaceId := "w"
  pendingDir := "pending"
  resolvedDir := "resolved"

/-- A grant whose approval expires after an hour. -/
def hourlyGrant : ExecutionCapabilityGrant where
  grantId := "g"
  requestId := "r"
  capabilityId := "git.mutate"
  access := "mutate"
  scope := { kind := "git_action", value := "push" }
  required := true
  decisionState := .approvalRequired
  enforcementMode := .notApplicable
  approvalPolicyRef := some
    { policyId := "p", gateScope := "stage", expirationSeconds := some 3600, requiredDecision := "approved" }
  evidenceRequirements := []
  evidenceStatus := .notRequired
  decisionReason := "risky"
  resolvedBy := "mode"

def builderRequest : StageRunRequest where
  runId := "run-1"
  requestId := "q-1"
  plane := .execution
  nodeId := "builder"
  stageKindId := "builder"
  activeWorkItemKind := some .task
  activeWorkItemId := some "task-a"

def faultless : Faults := fun _ => none

/-- What a gate at nine asks for, to be answered until ten. -/
def hourlyApproval : Approval := pendingApproval plainPaths builderRequest hourlyGrant nine (some ten)

/-- A gate asks at nine, an operator approves at two, and a gate comes back at three. -/
def lateApproval : List ApprovalEvent := [
  .gate builderRequest hourlyGrant nine faultless,
  .approve "approval-g-0" "op" "fine" fourteen faultless,
  .gate builderRequest hourlyGrant fifteen faultless]

theorem hourlyApproval_valid : hourlyApproval.validate = .ok () := by
  decide +kernel

theorem hourlyApproval_asked :
    (step plainPaths ApprovalStore.empty (.gate builderRequest hourlyGrant nine faultless)).pending =
      [("approval-g-0", hourlyApproval)] := by
  decide +kernel

/-- An approval that expired at ten is approved at two. -/
theorem lateApproval_approved : ¬∀ (paths : ApprovalPaths) (events : List ApprovalEvent),
    (events.map ApprovalEvent.time).Pairwise (· < ·) → ExpiryHolds paths events := by
  intro holds
  obtain ⟨⟨-, before, after, -⟩, -⟩ := holds plainPaths lateApproval (by decide)
  have waits : findFile "approval-g-0" (step plainPaths ApprovalStore.empty
      (.gate builderRequest hourlyGrant nine faultless)).pending = some hourlyApproval := by
    rw [hourlyApproval_asked]
    rfl
  have decides : Decides faultless "approval-g-0" "op" "fine"
      (step plainPaths ApprovalStore.empty (.gate builderRequest hourlyGrant nine faultless)) hourlyApproval :=
    ⟨by decide, by decide, by decide, waits, rfl, hourlyApproval_valid, rfl⟩
  have inTime := (noneLate_approve_iff before).mp after
  exact inTime hourlyApproval decides ⟨ten, rfl, by decide⟩

end Concrete

end Millrace.Approvals
