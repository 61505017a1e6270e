import Millrace.Blueprints.Contracts
import Millrace.Governance.Moments
import Millrace.Words

/-! The token rules and quota rules of usage governance, and the blockers they raise. -/

set_option autoImplicit false

namespace Millrace.Governance
open Millrace.Text Millrace.Contracts Millrace.WorkDocuments Millrace.Words

/-! ## The ledger and the rules -/

inductive RuntimeTokenWindow where
  | rolling5h | calendarWeek | daemonSession | perRun
  deriving DecidableEq, Repr

def RuntimeTokenWindow.asStr : RuntimeTokenWindow → String
  | .rolling5h => "rolling_5h"
  | .calendarWeek => "calendar_week"
  | .daemonSession => "daemon_session"
  | .perRun => "per_run"

inductive RuntimeTokenMetric where
  | totalTokens
  deriving DecidableEq, Repr

inductive SubscriptionWindow where
  | fiveHour | weekly
  deriving DecidableEq, Repr

def SubscriptionWindow.asStr : SubscriptionWindow → String
  | .fiveHour => "five_hour"
  | .weekly => "weekly"

inductive DegradedPolicy where
  | failOpen | failClosed
  deriving DecidableEq, Repr

inductive QuotaTelemetryState where
  | disabled | healthy | degraded
  deriving DecidableEq, Repr

inductive BlockerSource where
  | runtimeToken | subscriptionQuota
  deriving DecidableEq, Repr

structure TokenUsage where
  inputTokens : UInt64
  cachedInputTokens : UInt64
  outputTokens : UInt64
  thinkingTokens : UInt64
  totalTokens : UInt64
  deriving DecidableEq, Repr

structure RuntimeTokenRule where
  ruleId : String
  window : RuntimeTokenWindow
  metric : RuntimeTokenMetric
  threshold : UInt64
  deriving DecidableEq, Repr

structure RuntimeTokenRules where
  enabled : Bool
  rules : List RuntimeTokenRule
  deriving DecidableEq, Repr

structure SubscriptionQuotaRule where
  ruleId : String
  window : SubscriptionWindow
  pauseAtPercentUsed : ℚ
  deriving DecidableEq

structure SubscriptionQuotaRules where
  enabled : Bool
  degradedPolicy : DegradedPolicy
  rules : List SubscriptionQuotaRule
  deriving DecidableEq

section
variable [Rfc3339]

structure LedgerEntry where
  dedupeKey : String
  countedAt : Timestamp
  stageCompletedAt : Timestamp
  plane : Plane
  runId : String
  stageId : String
  workItemKind : WorkItemKind
  workItemId : String
  tokenUsage : TokenUsage
  stageResultPath : String
  daemonSessionId : Option String
  deriving DecidableEq

def requireNonBlank (fieldName value : String) : Except Blueprints.RuntimeJsonError Unit :=
  if trim value.toList = [] then .error (.invalidField fieldName "is required") else .ok ()

/-- The timestamps were checked when the entry was read, and a token usage has nothing to check. -/
def LedgerEntry.validateContract (entry : LedgerEntry) : Except Blueprints.RuntimeJsonError Unit := do
  requireNonBlank "dedupe_key" entry.dedupeKey
  requireNonBlank "run_id" entry.runId
  requireNonBlank "stage_id" entry.stageId
  requireNonBlank "work_item_id" entry.workItemId
  requireNonBlank "stage_result_path" entry.stageResultPath
  if entry.dedupeKey ≠ entry.stageResultPath then throw (.invalidDocument "dedupe_key must match stage_result_path")

structure QuotaWindowReading where
  percentUsed : ℚ
  resetsAt : Option Timestamp
  deriving DecidableEq

structure SubscriptionQuotaStatus where
  state : QuotaTelemetryState
  detail : Option String
  windows : SubscriptionWindow → Option QuotaWindowReading

/-- A blocker; its numbers are kept as they are before they become floating-point ones. -/
structure Blocker where
  source : BlockerSource
  ruleId : String
  window : String
  observed : ℚ
  threshold : ℚ
  metric : Option RuntimeTokenMetric
  autoResumePossible : Bool
  nextAutoResumeAt : Option Timestamp
  detail : String
  deriving DecidableEq

/-- An evaluation fails with an error, or panics. -/
inductive Fault where
  | statusMarker (message : String)
  | panic
  deriving DecidableEq, Repr

abbrev Evaluation (α : Type) := Except Fault α

def orPanic {α : Type} : Option α → Evaluation α
  | some a => .ok a
  | none => .error .panic

def LedgerEntry.completed (entry : LedgerEntry) : Moment := entry.stageCompletedAt.instant.moment

def fiveHours : Int := 5 * 3600 * second

/-! ## Windows -/

/-- The earliest instant that counts; the years that RFC 3339 reads leave room for it. -/
def cutoff (window : RuntimeTokenWindow) (now : Moment) : Option Int :=
  match window with
  | .rolling5h => some (now.nanoseconds - fiveHours)
  | .calendarWeek => some now.weekStart.nanoseconds
  | .daemonSession | .perRun => none

/-- The recorded timestamps were parsed when the entry was read, so that parsing them again cannot fail. -/
def entriesForRuntimeWindow (entries : List LedgerEntry) (window : RuntimeTokenWindow) (now : Moment)
    (daemonSessionId : Option String) : List LedgerEntry :=
  entries.filter fun entry =>
    !(window == .daemonSession && entry.daemonSessionId != daemonSessionId) &&
      (cutoff window now).all fun cutoff => decide (cutoff ≤ entry.completed.nanoseconds)

def metricValue (metric : RuntimeTokenMetric) (entry : LedgerEntry) : UInt64 :=
  match metric with
  | .totalTokens => entry.tokenUsage.totalTokens

def observedMetric (overflow : Overflow) (entries : List LedgerEntry) (metric : RuntimeTokenMetric) : Evaluation UInt64 :=
  orPanic (sum overflow (entries.map (metricValue metric)))

/-! ## Resume times -/

variable [Rfc3339Writer]

def timestampFromOffset (fieldName : String) (moment : Moment) : Evaluation Timestamp :=
  match Rfc3339Writer.format moment with
  | .error message => .error (.statusMarker (fieldName ++ ": " ++ message))
  | .ok rendered => (Timestamp.parse fieldName rendered).mapError fun error => .statusMarker error.display

def byText (a b : LedgerEntry) : Bool := decide (a.stageCompletedAt.text ≤ b.stageCompletedAt.text)

/-- The moment at which enough entries have left the window, taking them in their order. -/
def nextUnder (metric : RuntimeTokenMetric) (threshold : UInt64) : UInt64 → List LedgerEntry → Evaluation (Option Moment)
  | _, [] => .ok none
  | remaining, entry :: rest => do
    let remaining := saturatingSub remaining (metricValue metric entry)
    let candidate ← orPanic (entry.completed.later fiveHours)
    if remaining < threshold then return some candidate else nextUnder metric threshold remaining rest

def runtimeRuleNextResume (overflow : Overflow) (entries : List LedgerEntry) (window : RuntimeTokenWindow)
    (metric : RuntimeTokenMetric) (threshold : UInt64) (now : Moment) : Evaluation (Option Timestamp) :=
  match window with
  | .rolling5h => do
    let remaining ← observedMetric overflow entries metric
    match ← nextUnder metric threshold remaining (entries.mergeSort byText) with
    | some candidate => some <$> timestampFromOffset "next_auto_resume_at" candidate
    | none => return none
  | .calendarWeek => do
    let resume ← orPanic (now.weekStart.later (7 * day))
    some <$> timestampFromOffset "next_auto_resume_at" resume
  | .daemonSession | .perRun => return none

/-! ## Evaluation -/

def RuntimeTokenWindow.resumes : RuntimeTokenWindow → Bool
  | .rolling5h | .calendarWeek => true
  | .daemonSession | .perRun => false

/-- One round of the loop of `evaluate_runtime_token_rules`. -/
def evaluateRuntimeTokenRule (overflow : Overflow) (entries : List LedgerEntry) (now : Timestamp)
    (daemonSessionId : Option String) (rule : RuntimeTokenRule) : Evaluation (Option Blocker) := do
  let windowEntries := entriesForRuntimeWindow entries rule.window now.instant.moment daemonSessionId
  let observed ← observedMetric overflow windowEntries rule.metric
  if observed < rule.threshold then return none
  else do
    let nextResume ← runtimeRuleNextResume overflow windowEntries rule.window rule.metric rule.threshold now.instant.moment
    return some {
      source := .runtimeToken
      ruleId := rule.ruleId
      window := rule.window.asStr
      observed := observed.toNat
      threshold := rule.threshold.toNat
      metric := some rule.metric
      autoResumePossible := rule.window.resumes
      nextAutoResumeAt := nextResume
      detail := "" }

def evaluateRuntimeTokenRules (overflow : Overflow) (entries : List LedgerEntry) (config : RuntimeTokenRules)
    (now : Timestamp) (daemonSessionId : Option String) : Evaluation (List Blocker) := do
  return (← config.rules.mapM (evaluateRuntimeTokenRule overflow entries now daemonSessionId)).reduceOption

omit [Rfc3339Writer] in
/-- What the quota telemetry says of one rule. -/
def evaluateQuotaRule (status : SubscriptionQuotaStatus) (rule : SubscriptionQuotaRule) : Option Blocker :=
  match status.windows rule.window with
  | none => none
  | some reading =>
    if reading.percentUsed < rule.pauseAtPercentUsed then none
    else some {
      source := .subscriptionQuota
      ruleId := rule.ruleId
      window := rule.window.asStr
      observed := reading.percentUsed
      threshold := rule.pauseAtPercentUsed
      metric := none
      autoResumePossible := reading.resetsAt.isSome
      nextAutoResumeAt := reading.resetsAt
      detail := "" }

def quotaUnavailableDetail : String := "quota_telemetry_unavailable"

def evaluateSubscriptionQuotaRules (status : SubscriptionQuotaStatus) (config : SubscriptionQuotaRules) : List Blocker :=
  if !config.enabled then []
  else if status.state = .degraded then
    if config.degradedPolicy ≠ .failClosed then []
    else [{
      source := .subscriptionQuota
      ruleId := "subscription-quota-degraded-fail-closed"
      window := "degraded"
      observed := 100
      threshold := 100
      metric := none
      autoResumePossible := false
      nextAutoResumeAt := none
      detail := status.detail.getD quotaUnavailableDetail }]
  else config.rules.filterMap (evaluateQuotaRule status)

/-- The blockers of one evaluation, with those of the token rules before those of the quota rules. -/
def activeBlockers (overflow : Overflow) (entries : List LedgerEntry) (tokenRules : RuntimeTokenRules)
    (status : SubscriptionQuotaStatus) (quotaRules : SubscriptionQuotaRules) (now : Timestamp)
    (daemonSessionId : Option String) : Evaluation (List Blocker) := do
  let runtime ←
    if tokenRules.enabled then evaluateRuntimeTokenRules overflow entries tokenRules now daemonSessionId else return []
  return runtime ++ evaluateSubscriptionQuotaRules status quotaRules

/-- The first of the earliest moments. -/
def earliest : Moment → List Moment → Moment
  | m, [] => m
  | m, m' :: rest => earliest (if m'.nanoseconds < m.nanoseconds then m' else m) rest

def nextAutoResumeAt (blockers : List Blocker) : Evaluation (Option Timestamp) :=
  if blockers = [] ∨ ∃ blocker ∈ blockers, blocker.autoResumePossible = false then return none
  else
    match blockers.mapM (·.nextAutoResumeAt) with
    | none => return none
    | some candidates =>
      match candidates.map (·.instant.moment) with
      | [] => return none
      | first :: rest => some <$> timestampFromOffset "next_auto_resume_at" (earliest first rest)

end

end Millrace.Governance
