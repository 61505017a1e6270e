import Mathlib.Data.List.Nodup
import Millrace.Runs

/-! # Pause sources: operator commands between usage-governance evaluations -/

set_option autoImplicit false

namespace Millrace.Runtime

inductive PauseSource where
  | operator | usageGovernance
deriving DecidableEq, Repr

structure UsageGovernanceBlocker where
  ruleId : String
  autoResumePossible : Bool
deriving DecidableEq, Repr

structure UsageGovernanceState where
  autoResume : Bool
  activeBlockers : List UsageGovernanceBlocker
  pausedByGovernance : Bool
deriving DecidableEq, Repr

structure UsageGovernanceConfig where
  enabled : Bool
  autoResume : Bool
deriving DecidableEq, Repr

/-- The pause fields of the snapshot, and the usage-governance state file. -/
structure PauseWorkspace where
  paused : Bool
  pauseSources : List PauseSource
  usageGovernanceStateFile : Option UsageGovernanceState
deriving DecidableEq, Repr

/-! ## Equal neighbours -/

/-- `Vec::dedup`: each run of equal neighbours is cut to one. -/
def dedup {α : Type} [DecidableEq α] : List α → List α
  | [] => []
  | [a] => [a]
  | a :: b :: rest => if a = b then dedup (b :: rest) else a :: dedup (b :: rest)

/-- No entry comes back once a different one has followed it. -/
def Grouped {α : Type} : List α → Prop
  | [] => True
  | a :: rest => (a ∈ rest → rest.head? = some a) ∧ Grouped rest

section Dedup
variable {α : Type} [DecidableEq α]

theorem mem_dedup (a : α) (l : List α) : a ∈ dedup l ↔ a ∈ l := by
  induction l using dedup.induct with
  | case1 => simp [dedup]
  | case2 b => simp [dedup]
  | case3 b rest ih => simp [dedup, ih]
  | case4 b c rest differ ih => simp [dedup, differ, ih]

theorem dedup_eq_nil_iff (l : List α) : dedup l = [] ↔ l = [] := by
  simp only [List.eq_nil_iff_forall_not_mem, mem_dedup]

theorem dedup_of_nodup {l : List α} (nodup : l.Nodup) : dedup l = l := by
  induction l using dedup.induct with
  | case1 => rfl
  | case2 b => rfl
  | case3 b rest ih => simp at nodup
  | case4 b c rest differ ih => simp [dedup, differ, ih nodup.of_cons]

theorem dedup_cons_head (a : α) (l : List α) : ∃ rest, dedup (a :: l) = a :: rest := by
  induction l with
  | nil => exact ⟨[], rfl⟩
  | cons b l ih =>
    by_cases same : a = b
    · subst same
      rwa [dedup, if_pos rfl]
    · exact ⟨dedup (b :: l), by rw [dedup, if_neg same]⟩

theorem dedup_dedup (l : List α) : dedup (dedup l) = dedup l := by
  induction l using dedup.induct with
  | case1 => rfl
  | case2 b => rfl
  | case3 b rest ih => rw [dedup, if_pos rfl, ih]
  | case4 b c rest differ ih =>
    obtain ⟨rest', head⟩ := dedup_cons_head c rest
    rw [dedup, if_neg differ, head, dedup, if_neg differ, ← head, ih]

theorem nodup_dedup_iff (l : List α) : (dedup l).Nodup ↔ Grouped l := by
  induction l using dedup.induct with
  | case1 => simp [dedup, Grouped]
  | case2 b => simp [dedup, Grouped]
  | case3 b rest ih =>
    rw [dedup, if_pos rfl, ih]
    exact ⟨fun grouped => ⟨fun _ => rfl, grouped⟩, And.right⟩
  | case4 b c rest differ ih =>
    rw [dedup, if_neg differ, List.nodup_cons, mem_dedup, ih]
    have apart : (b ∈ c :: rest → (c :: rest).head? = some b) ↔ b ∉ c :: rest :=
      ⟨fun next again => differ (Option.some.inj (next again)).symm, fun absent again => absurd again absent⟩
    rw [← apart]
    exact Iff.rfl

end Dedup

/-! ## Loading and saving -/

def PauseWorkspace.normalizePauseSources (w : PauseWorkspace) : PauseWorkspace :=
  let sources := dedup w.pauseSources
  if !sources.isEmpty then { w with paused := true, pauseSources := sources }
  else if w.paused then { w with pauseSources := sources ++ [.operator] }
  else { w with pauseSources := sources }

def disabledUsageGovernanceState : UsageGovernanceState :=
  { autoResume := true, activeBlockers := [], pausedByGovernance := false }

def loadUsageGovernanceState (w : PauseWorkspace) : UsageGovernanceState :=
  w.usageGovernanceStateFile.getD disabledUsageGovernanceState

/-! ## Operator commands -/

/-- The mailbox command `Pause`, applied to the session's snapshot. -/
def mailboxPause (w : PauseWorkspace) : PauseWorkspace :=
  let sources := if w.pauseSources.contains .operator then w.pauseSources else w.pauseSources ++ [.operator]
  { w with pauseSources := sources, paused := true }

def mailboxResume (w : PauseWorkspace) : PauseWorkspace :=
  let sources := w.pauseSources.filter (· ≠ .operator)
  { w with pauseSources := sources, paused := !sources.isEmpty }

def orderedPauseSources (sources : List PauseSource) : List PauseSource :=
  (if sources.contains .operator then [.operator] else []) ++
    (if sources.contains .usageGovernance then [.usageGovernance] else [])

def pauseDirect (w : PauseWorkspace) : PauseWorkspace :=
  { w with pauseSources := orderedPauseSources (w.pauseSources ++ [.operator]), paused := true }

def resumeDirect (w : PauseWorkspace) : PauseWorkspace :=
  let governanceBlocked := w.pauseSources.contains .usageGovernance ||
    !(loadUsageGovernanceState w).activeBlockers.isEmpty
  let sources := if governanceBlocked then orderedPauseSources (w.pauseSources ++ [.usageGovernance])
    else w.pauseSources
  let sources := orderedPauseSources (sources.filter (· ≠ .operator))
  { w with pauseSources := sources, paused := !sources.isEmpty }

/-! ## Usage governance -/

def hasGovernancePauseSource (w : PauseWorkspace) : Bool :=
  w.pauseSources.contains .usageGovernance

def addGovernancePauseSource (w : PauseWorkspace) : PauseWorkspace :=
  let sources := if w.pauseSources.contains .usageGovernance then w.pauseSources
    else w.pauseSources ++ [.usageGovernance]
  { w with pauseSources := orderedPauseSources sources, paused := true }

def removeGovernancePauseSource (w : PauseWorkspace) : PauseWorkspace :=
  let sources := orderedPauseSources (w.pauseSources.filter (· ≠ .usageGovernance))
  { w with pauseSources := sources, paused := !sources.isEmpty }

/-- The new state and the state file; `blockers` are those the ledger and the quota give under this configuration. -/
def evaluateUsageGovernance (config : UsageGovernanceConfig) (blockers : List UsageGovernanceBlocker)
    (pausedByGovernance : Bool) (file : Option UsageGovernanceState) :
    UsageGovernanceState × Option UsageGovernanceState :=
  if !config.enabled then
    let state := { disabledUsageGovernanceState with autoResume := config.autoResume }
    (state, if file.isSome || pausedByGovernance then some state else file)
  else
    let state := { autoResume := config.autoResume, activeBlockers := blockers,
                   pausedByGovernance := pausedByGovernance || !blockers.isEmpty }
    (state, some state)

def shouldEvaluateUsageGovernance (config : UsageGovernanceConfig) (w : PauseWorkspace) : Bool :=
  config.enabled || w.usageGovernanceStateFile.isSome || hasGovernancePauseSource w

/-- What an evaluation does to the pause fields. -/
def applyUsageGovernance (config : UsageGovernanceConfig) (state : UsageGovernanceState) (w : PauseWorkspace) :
    PauseWorkspace :=
  if !config.enabled then
    if hasGovernancePauseSource w then removeGovernancePauseSource w else w
  else if !state.activeBlockers.isEmpty then addGovernancePauseSource w
  else if hasGovernancePauseSource w && config.autoResume then removeGovernancePauseSource w
  else w

/-- The state file is written again where the pause fields turned out otherwise than it says. -/
def recordGovernancePause (state : UsageGovernanceState) (w : PauseWorkspace) : PauseWorkspace :=
  if state.pausedByGovernance ≠ hasGovernancePauseSource w then
    { w with usageGovernanceStateFile := some { state with pausedByGovernance := hasGovernancePauseSource w } }
  else w

def evaluateAndApplyUsageGovernance (config : UsageGovernanceConfig) (blockers : List UsageGovernanceBlocker)
    (w : PauseWorkspace) : PauseWorkspace :=
  if !shouldEvaluateUsageGovernance config w then w
  else
    let (state, file) :=
      evaluateUsageGovernance config blockers (hasGovernancePauseSource w) w.usageGovernanceStateFile
    recordGovernancePause state (applyUsageGovernance config state { w with usageGovernanceStateFile := file })

/-! ## Runs -/

/-- What edits the pause fields; `reopen` is a session that reads the saved snapshot. -/
inductive PauseStep where
  | reopen
  | mailboxPause | mailboxResume
  | pauseDirect | resumeDirect
  | evaluate (config : UsageGovernanceConfig) (blockers : List UsageGovernanceBlocker)
deriving DecidableEq, Repr

/-- A direct command reads the saved snapshot and saves what it makes of it; the mailbox works on the session's. -/
def PauseStep.apply : PauseStep → PauseWorkspace → PauseWorkspace
  | .reopen, w => w.normalizePauseSources
  | .mailboxPause, w => Runtime.mailboxPause w
  | .mailboxResume, w => Runtime.mailboxResume w
  | .pauseDirect, w => (Runtime.pauseDirect w.normalizePauseSources).normalizePauseSources
  | .resumeDirect, w => (Runtime.resumeDirect w.normalizePauseSources).normalizePauseSources
  | .evaluate config blockers, w => evaluateAndApplyUsageGovernance config blockers w

def PauseStep.isOperator : PauseStep → Bool
  | .mailboxPause | .mailboxResume | .pauseDirect | .resumeDirect => true
  | .reopen | .evaluate .. => false

def pauseRun (w : PauseWorkspace) (steps : List PauseStep) : PauseWorkspace :=
  Runs.after (fun w step => step.apply w) w steps

/-! ## What every step keeps -/

/-- The flag says whether there is a source, and no source is listed twice. -/
structure PauseWorkspace.Consistent (w : PauseWorkspace) : Prop where
  flag : w.paused = true ↔ w.pauseSources ≠ []
  nodup : w.pauseSources.Nodup

/-- What a step from `w` to `w'` leaves alone. -/
structure PauseStep.Respects (step : PauseStep) (w w' : PauseWorkspace) : Prop where
  operatorKept : ∀ config blockers, step = .evaluate config blockers →
    (.operator ∈ w'.pauseSources ↔ .operator ∈ w.pauseSources)
  governanceKept : step.isOperator = true → .usageGovernance ∈ w.pauseSources → .usageGovernance ∈ w'.pauseSources
  governanceHeld : ∀ config blockers, step = .evaluate config blockers → config.enabled = true →
    config.autoResume = false → .usageGovernance ∈ w.pauseSources → .usageGovernance ∈ w'.pauseSources

@[simp] theorem mem_orderedPauseSources (source : PauseSource) (sources : List PauseSource) :
    source ∈ orderedPauseSources sources ↔ source ∈ sources := by
  cases source <;> simp [orderedPauseSources]

theorem nodup_orderedPauseSources (sources : List PauseSource) : (orderedPauseSources sources).Nodup := by
  unfold orderedPauseSources
  split <;> split <;> decide

theorem ne_nil_of_mem {source : PauseSource} {sources : List PauseSource} (member : source ∈ sources) :
    sources ≠ [] := by
  rintro rfl
  cases member

theorem not_isEmpty_iff (sources : List PauseSource) : (!sources.isEmpty) = true ↔ sources ≠ [] := by
  cases sources <;> simp

theorem PauseWorkspace.Consistent.normalized {w : PauseWorkspace} (consistent : w.Consistent) :
    w.normalizePauseSources = w := by
  obtain ⟨paused, sources, file⟩ := w
  have same : dedup sources = sources := dedup_of_nodup consistent.nodup
  have flag := consistent.flag
  simp only [normalizePauseSources, same]
  cases sources with
  | nil =>
    have running : paused = false := by simpa using flag
    simp [running]
  | cons source rest =>
    have stopped : paused = true := by simpa using flag
    simp [stopped]

/-- The two workspaces differ at most in the usage-governance state file. -/
structure SameFields (w w' : PauseWorkspace) : Prop where
  paused : w'.paused = w.paused
  sources : w'.pauseSources = w.pauseSources

theorem SameFields.consistent {w w' : PauseWorkspace} (same : SameFields w w') (consistent : w.Consistent) :
    w'.Consistent where
  flag := by rw [same.paused, same.sources, consistent.flag]
  nodup := same.sources ▸ consistent.nodup

section Operator
variable {w : PauseWorkspace}

theorem mailboxPause_consistent (consistent : w.Consistent) : (mailboxPause w).Consistent := by
  unfold mailboxPause
  split
  next listed => exact ⟨iff_of_true rfl (ne_nil_of_mem (List.contains_iff_mem.mp listed)), consistent.nodup⟩
  next absent =>
    refine ⟨iff_of_true rfl (by simp), List.nodup_append.mpr ⟨consistent.nodup, List.nodup_singleton _, ?_⟩⟩
    intro a listed b is same
    rw [List.mem_singleton.mp is] at same
    exact absent (List.contains_iff_mem.mpr (same ▸ listed))

theorem mailboxResume_consistent (consistent : w.Consistent) : (mailboxResume w).Consistent :=
  ⟨not_isEmpty_iff _, consistent.nodup.filter _⟩

theorem operator_mem_pauseDirect (w : PauseWorkspace) : .operator ∈ (pauseDirect w).pauseSources := by
  simp [pauseDirect]

theorem pauseDirect_consistent : (pauseDirect w).Consistent :=
  ⟨iff_of_true rfl (ne_nil_of_mem (operator_mem_pauseDirect w)), nodup_orderedPauseSources _⟩

theorem resumeDirect_consistent : (resumeDirect w).Consistent :=
  ⟨not_isEmpty_iff _, nodup_orderedPauseSources _⟩

theorem mem_mailboxPause (source : PauseSource) :
    source ∈ (mailboxPause w).pauseSources ↔ source ∈ w.pauseSources ∨ source = .operator := by
  unfold mailboxPause
  split
  next listed =>
    have member : PauseSource.operator ∈ w.pauseSources := List.contains_iff_mem.mp listed
    exact ⟨Or.inl, fun given => given.elim id (· ▸ member)⟩
  next => simp

theorem governance_mem_resumeDirect (listed : .usageGovernance ∈ w.pauseSources) :
    .usageGovernance ∈ (resumeDirect w).pauseSources := by
  have blocked : w.pauseSources.contains .usageGovernance = true := List.contains_iff_mem.mpr listed
  simp [resumeDirect, listed]

end Operator

section Governance
variable {w : PauseWorkspace}

theorem addGovernancePauseSource_consistent : (addGovernancePauseSource w).Consistent := by
  have listed : .usageGovernance ∈ (addGovernancePauseSource w).pauseSources := by
    unfold addGovernancePauseSource
    split <;> simp_all
  exact ⟨iff_of_true rfl (ne_nil_of_mem listed), nodup_orderedPauseSources _⟩

theorem removeGovernancePauseSource_consistent : (removeGovernancePauseSource w).Consistent :=
  ⟨not_isEmpty_iff _, nodup_orderedPauseSources _⟩

theorem mem_addGovernancePauseSource (source : PauseSource) :
    source ∈ (addGovernancePauseSource w).pauseSources ↔ source ∈ w.pauseSources ∨ source = .usageGovernance := by
  unfold addGovernancePauseSource
  split
  next listed =>
    have member : PauseSource.usageGovernance ∈ w.pauseSources := List.contains_iff_mem.mp listed
    rw [mem_orderedPauseSources]
    exact ⟨Or.inl, fun given => given.elim id (· ▸ member)⟩
  next => simp

theorem mem_removeGovernancePauseSource (source : PauseSource) :
    source ∈ (removeGovernancePauseSource w).pauseSources ↔ source ∈ w.pauseSources ∧ source ≠ .usageGovernance := by
  simp [removeGovernancePauseSource]

variable (config : UsageGovernanceConfig) (state : UsageGovernanceState) (blockers : List UsageGovernanceBlocker)

theorem recordGovernancePause_fields (w : PauseWorkspace) : SameFields w (recordGovernancePause state w) := by
  unfold recordGovernancePause
  split
  · exact ⟨rfl, rfl⟩
  · exact ⟨rfl, rfl⟩

/-- The pause fields are left as they are, gain the governance source or lose it. -/
theorem applyUsageGovernance_cases (w : PauseWorkspace) (config : UsageGovernanceConfig) (state : UsageGovernanceState) :
    applyUsageGovernance config state w = w ∨ applyUsageGovernance config state w = addGovernancePauseSource w ∨
      ((config.enabled = true → config.autoResume = true) ∧
        applyUsageGovernance config state w = removeGovernancePauseSource w) := by
  unfold applyUsageGovernance
  cases config.enabled with
  | false =>
    cases hasGovernancePauseSource w with
    | false => exact .inl rfl
    | true => exact .inr (.inr ⟨nofun, rfl⟩)
  | true =>
    cases state.activeBlockers.isEmpty with
    | false => exact .inr (.inl rfl)
    | true =>
      cases hasGovernancePauseSource w with
      | false => exact .inl rfl
      | true =>
        cases config.autoResume with
        | false => exact .inl rfl
        | true => exact .inr (.inr ⟨fun _ => rfl, rfl⟩)

/-- An evaluation leaves the pause fields as they are, adds the governance source or removes it. -/
theorem evaluateAndApplyUsageGovernance_cases (w : PauseWorkspace) (config : UsageGovernanceConfig)
    (blockers : List UsageGovernanceBlocker) :
    SameFields w (evaluateAndApplyUsageGovernance config blockers w) ∨
      SameFields (addGovernancePauseSource w) (evaluateAndApplyUsageGovernance config blockers w) ∨
      ((config.enabled = true → config.autoResume = true) ∧
        SameFields (removeGovernancePauseSource w) (evaluateAndApplyUsageGovernance config blockers w)) := by
  unfold evaluateAndApplyUsageGovernance
  split
  · exact .inl ⟨rfl, rfl⟩
  · -- The state file is written before and after, the pause fields only between.
    obtain ⟨state, file⟩ :=
      evaluateUsageGovernance config blockers (hasGovernancePauseSource w) w.usageGovernanceStateFile
    have recorded := recordGovernancePause_fields state
      (applyUsageGovernance config state { w with usageGovernanceStateFile := file })
    obtain same | same | ⟨resumes, same⟩ :=
      applyUsageGovernance_cases { w with usageGovernanceStateFile := file } config state
    · exact .inl ⟨by rw [recorded.paused, same], by rw [recorded.sources, same]⟩
    · exact .inr (.inl ⟨by rw [recorded.paused, same]; rfl, by rw [recorded.sources, same]; rfl⟩)
    · exact .inr (.inr ⟨resumes, by rw [recorded.paused, same]; rfl, by rw [recorded.sources, same]; rfl⟩)

theorem evaluate_consistent (consistent : w.Consistent) :
    (evaluateAndApplyUsageGovernance config blockers w).Consistent := by
  obtain same | same | ⟨-, same⟩ := evaluateAndApplyUsageGovernance_cases w config blockers
  · exact same.consistent consistent
  · exact same.consistent addGovernancePauseSource_consistent
  · exact same.consistent removeGovernancePauseSource_consistent

theorem operator_mem_evaluate :
    .operator ∈ (evaluateAndApplyUsageGovernance config blockers w).pauseSources ↔ .operator ∈ w.pauseSources := by
  obtain same | same | ⟨-, same⟩ := evaluateAndApplyUsageGovernance_cases w config blockers
  · rw [same.sources]
  · simp [same.sources, mem_addGovernancePauseSource]
  · simp [same.sources, mem_removeGovernancePauseSource]

theorem governance_mem_evaluate (enabled : config.enabled = true) (manual : config.autoResume = false)
    (listed : .usageGovernance ∈ w.pauseSources) :
    .usageGovernance ∈ (evaluateAndApplyUsageGovernance config blockers w).pauseSources := by
  obtain same | same | ⟨resumes, same⟩ := evaluateAndApplyUsageGovernance_cases w config blockers
  · rwa [same.sources]
  · exact same.sources ▸ (mem_addGovernancePauseSource _).mpr (.inl listed)
  · rw [resumes enabled] at manual
    cases manual

end Governance

/-! ## Runs of commands and evaluations -/

theorem pauseStep_consistent {w : PauseWorkspace} (step : PauseStep) (consistent : w.Consistent) :
    (step.apply w).Consistent := by
  cases step with
  | reopen =>
    rw [PauseStep.apply, consistent.normalized]
    exact consistent
  | mailboxPause => exact mailboxPause_consistent consistent
  | mailboxResume => exact mailboxResume_consistent consistent
  | pauseDirect =>
    rw [PauseStep.apply, pauseDirect_consistent.normalized]
    exact pauseDirect_consistent
  | resumeDirect =>
    rw [PauseStep.apply, resumeDirect_consistent.normalized]
    exact resumeDirect_consistent
  | evaluate config blockers => exact evaluate_consistent config blockers consistent

theorem pauseStep_respects {w : PauseWorkspace} (step : PauseStep) (consistent : w.Consistent) :
    step.Respects w (step.apply w) := by
  cases step with
  | reopen => exact ⟨nofun, nofun, nofun⟩
  | mailboxPause => exact ⟨nofun, fun _ listed => (mem_mailboxPause _).mpr (.inl listed), nofun⟩
  | mailboxResume => exact ⟨nofun, fun _ listed => by simpa [PauseStep.apply, mailboxResume] using listed, nofun⟩
  | pauseDirect =>
    refine ⟨nofun, fun _ listed => ?_, nofun⟩
    rw [PauseStep.apply, pauseDirect_consistent.normalized, consistent.normalized]
    simp [pauseDirect, listed]
  | resumeDirect =>
    refine ⟨nofun, fun _ listed => ?_, nofun⟩
    rw [PauseStep.apply, resumeDirect_consistent.normalized, consistent.normalized]
    exact governance_mem_resumeDirect listed
  | evaluate config blockers =>
    refine ⟨fun _ _ _ => operator_mem_evaluate config blockers, nofun, ?_⟩
    intro _ _ same enabled manual listed
    cases same
    exact governance_mem_evaluate config blockers enabled manual listed

theorem pauseRun_consistent {w : PauseWorkspace} (consistent : w.Consistent) (steps : List PauseStep) :
    (pauseRun w steps).Consistent :=
  Runs.after_keeps (fun _ step => pauseStep_consistent step) consistent steps

theorem normalizePauseSources_consistent_iff {w : PauseWorkspace} (flag : w.paused = true ↔ w.pauseSources ≠ []) :
    w.normalizePauseSources.Consistent ↔ Grouped w.pauseSources := by
  rw [← nodup_dedup_iff]
  have emptied := dedup_eq_nil_iff w.pauseSources
  cases sources : w.pauseSources with
  | nil =>
    have running : w.paused = false := by simpa [sources] using flag
    refine iff_of_true ?_ List.nodup_nil
    simp only [PauseWorkspace.normalizePauseSources, sources, dedup, running]
    exact ⟨by simp, List.nodup_nil⟩
  | cons source rest =>
    rw [sources] at emptied
    have kept : (dedup (source :: rest)).isEmpty = false := by simpa using emptied
    simp only [PauseWorkspace.normalizePauseSources, sources, kept]
    exact ⟨And.right ∘ fun c => ⟨c.flag, c.nodup⟩, fun nodup => ⟨by simpa using emptied, nodup⟩⟩

/-- Whatever commands and evaluations follow in whatever order, the pause sources of a saved snapshot stay consistent
and every step leaves the other side's source alone, exactly when the saved list holds no source a second time behind
another one (`Vec::dedup` drops equal neighbours only). -/
theorem pause_sources_kept_iff (w : PauseWorkspace) (flag : w.paused = true ↔ w.pauseSources ≠ []) :
    (∀ steps, (pauseRun w.normalizePauseSources steps).Consistent ∧
      ∀ step : PauseStep, step.Respects (pauseRun w.normalizePauseSources steps)
        (step.apply (pauseRun w.normalizePauseSources steps))) ↔
      Grouped w.pauseSources := by
  rw [← normalizePauseSources_consistent_iff flag]
  constructor
  · intro kept
    exact (kept []).1
  · intro consistent steps
    have reached := pauseRun_consistent consistent steps
    exact ⟨reached, fun step => pauseStep_respects step reached⟩

theorem pause_sources_kept_running :
    (∀ steps, (pauseRun (PauseWorkspace.normalizePauseSources ⟨true, [.operator, .operator], none⟩) steps).Consistent ∧
      ∀ step : PauseStep, step.Respects (pauseRun (PauseWorkspace.normalizePauseSources ⟨true, [.operator, .operator], none⟩) steps)
        (step.apply (pauseRun (PauseWorkspace.normalizePauseSources ⟨true, [.operator, .operator], none⟩) steps))) ↔
      Grouped [PauseSource.operator, .operator] :=
  pause_sources_kept_iff ⟨true, [.operator, .operator], none⟩ (by decide)

/-- Saved with the operator's source on both sides of the governance source, the list keeps its duplicate. -/
theorem operator_paused_twice :
    let w : PauseWorkspace := ⟨true, [.operator, .usageGovernance, .operator], none⟩
    (w.paused = true ↔ w.pauseSources ≠ []) ∧
      (pauseRun w.normalizePauseSources [.mailboxPause]).pauseSources =
        [.operator, .usageGovernance, .operator] ∧
      ¬ (pauseRun w.normalizePauseSources [.mailboxPause]).pauseSources.Nodup := by
  decide

end Millrace.Runtime
