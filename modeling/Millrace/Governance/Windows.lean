import Millrace.Governance.Clock
import Millrace.Governance.Rules
import Millrace.Action

/-! What the token rules count in each window: when the sum is exact, and when one run raises a per-run rule. -/

set_option autoImplicit false

namespace Millrace.Governance
open Millrace.Text Millrace.Contracts Millrace.WorkDocuments Millrace.Words Millrace.Action

section
variable [Rfc3339]

/-! ## Sums -/

/-- The tokens of some entries, as a number without a bound. -/
def tokens (metric : RuntimeTokenMetric) (entries : List LedgerEntry) : Nat := totalOf (entries.map (metricValue metric))

section Tokens
variable (metric : RuntimeTokenMetric)

@[simp] theorem tokens_nil : tokens metric [] = 0 := rfl

@[simp] theorem tokens_cons (entry : LedgerEntry) (entries : List LedgerEntry) :
    tokens metric (entry :: entries) = (metricValue metric entry).toNat + tokens metric entries := rfl

@[simp] theorem tokens_append (entries entries' : List LedgerEntry) :
    tokens metric (entries ++ entries') = tokens metric entries + tokens metric entries' := by
  simp [tokens]

theorem tokens_perm {entries entries' : List LedgerEntry} (same : entries.Perm entries') :
    tokens metric entries = tokens metric entries' := totalOf_perm (same.map _)

theorem tokens_sublist {entries entries' : List LedgerEntry} (within : entries.Sublist entries') :
    tokens metric entries ≤ tokens metric entries' := totalOf_sublist (within.map _)

end Tokens

section Observed
variable (overflow : Overflow) {entries : List LedgerEntry} {metric : RuntimeTokenMetric}

theorem observedMetric_of_fits (fits : tokens metric entries < limit) :
    ∃ observed, observedMetric overflow entries metric = .ok observed ∧ observed.toNat = tokens metric entries := by
  obtain ⟨total, ran, value⟩ := sum_of_fits overflow fits
  exact ⟨total, by rw [observedMetric, ran]; rfl, value⟩

theorem observedMetric_panics (large : limit ≤ tokens metric entries) :
    observedMetric .panics entries metric = .error .panic := by
  rw [observedMetric, sum_panics large]
  rfl

theorem observedMetric_wraps : ∃ observed, observedMetric .wraps entries metric = .ok observed ∧
    observed.toNat = tokens metric entries % limit := by
  obtain ⟨total, ran, value⟩ := sum_wraps (entries.map (metricValue metric))
  exact ⟨total, by rw [observedMetric, ran]; rfl, value⟩

end Observed

variable [Rfc3339Writer] {overflow : Overflow} {entries : List LedgerEntry} {now : Timestamp}
  {daemonSessionId : Option String} {rule : RuntimeTokenRule}

/-- The rule raises a blocker. -/
def Raises (overflow : Overflow) (entries : List LedgerEntry) (now : Timestamp) (daemonSessionId : Option String)
    (rule : RuntimeTokenRule) : Prop :=
  ∃ blocker, evaluateRuntimeTokenRule overflow entries now daemonSessionId rule = .ok (some blocker)

/-- The entries that a rule counts. -/
abbrev counted (entries : List LedgerEntry) (now : Timestamp) (daemonSessionId : Option String) (rule : RuntimeTokenRule) :
    List LedgerEntry :=
  entriesForRuntimeWindow entries rule.window now.instant.moment daemonSessionId

theorem raises_iff : Raises overflow entries now daemonSessionId rule ↔ ∃ observed,
    observedMetric overflow (counted entries now daemonSessionId rule) rule.metric = .ok observed ∧
      rule.threshold.toNat ≤ observed.toNat ∧
        (runtimeRuleNextResume overflow (counted entries now daemonSessionId rule) rule.window rule.metric rule.threshold
          now.instant.moment).isOk := by
  unfold Raises evaluateRuntimeTokenRule
  dsimp only
  cases observedMetric overflow (counted entries now daemonSessionId rule) rule.metric with
  | error fault => simp [bind, Except.bind]
  | ok observed =>
    simp only [ok_bind, Except.ok.injEq, exists_eq_left']
    by_cases below : observed < rule.threshold
    · have less := UInt64.lt_iff_toNat_lt.mp below
      simp only [if_pos below]
      constructor
      · rintro ⟨_, ran⟩
        cases ran
      · intro ⟨reaches, _⟩
        omega
    · have reaches : rule.threshold.toNat ≤ observed.toNat := UInt64.le_iff_toNat_le.mp (UInt64.not_lt.mp below)
      simp only [if_neg below]
      cases runtimeRuleNextResume overflow (counted entries now daemonSessionId rule) rule.window rule.metric
          rule.threshold now.instant.moment with
      | error fault => simp [Except.isOk, Except.toBool]
      | ok nextResume => simp [Except.isOk, Except.toBool, reaches, pure, Except.pure]

/-! ## One run -/

/-- The tokens of one run. -/
def tokensOf (metric : RuntimeTokenMetric) (entries : List LedgerEntry) (runId : String) : Nat :=
  tokens metric (entries.filter (·.runId = runId))

omit [Rfc3339Writer] in
@[simp] theorem tokensOf_nil (metric : RuntimeTokenMetric) (runId : String) : tokensOf metric [] runId = 0 := rfl

omit [Rfc3339Writer] in
theorem tokensOf_cons (metric : RuntimeTokenMetric) (entry : LedgerEntry) (entries : List LedgerEntry) (runId : String) :
    tokensOf metric (entry :: entries) runId =
      (if entry.runId = runId then (metricValue metric entry).toNat else 0) + tokensOf metric entries runId := by
  unfold tokensOf
  by_cases own : entry.runId = runId
  · simp [own]
  · simp [own]

omit [Rfc3339Writer] in
theorem tokensOf_le (metric : RuntimeTokenMetric) (entries : List LedgerEntry) (runId : String) :
    tokensOf metric entries runId ≤ tokens metric entries := tokens_sublist metric List.filter_sublist

/-- Some run reaches the threshold by itself. -/
def RunReaches (entries : List LedgerEntry) (rule : RuntimeTokenRule) : Prop :=
  ∃ runId, rule.threshold.toNat ≤ tokensOf rule.metric entries runId

/-- A per-run rule raises a blocker just where some run reaches its threshold. -/
def AboutOneRun (overflow : Overflow) (entries : List LedgerEntry) (now : Timestamp) (daemonSessionId : Option String)
    (rule : RuntimeTokenRule) : Prop :=
  rule.window = .perRun → (Raises overflow entries now daemonSessionId rule ↔ RunReaches entries rule)

/-- Some run reaches the threshold where all runs together do; where those overflow, none does and the sum panics, or
the wrapped sum happens to agree. -/
def RunsAgree (overflow : Overflow) (entries : List LedgerEntry) (rule : RuntimeTokenRule) : Prop :=
  rule.window = .perRun →
    (tokens rule.metric entries < limit → rule.threshold.toNat ≤ tokens rule.metric entries → RunReaches entries rule) ∧
      (limit ≤ tokens rule.metric entries →
        match overflow with
        | .panics => ¬RunReaches entries rule
        | .wraps => rule.threshold.toNat ≤ tokens rule.metric entries % limit ↔ RunReaches entries rule)

omit [Rfc3339Writer] in
theorem counted_perRun (perRun : rule.window = .perRun) : counted entries now daemonSessionId rule = entries := by
  unfold counted entriesForRuntimeWindow
  rw [perRun]
  simp [cutoff]

theorem perRun_raises_iff (perRun : rule.window = .perRun) : Raises overflow entries now daemonSessionId rule ↔
    ∃ observed, observedMetric overflow entries rule.metric = .ok observed ∧ rule.threshold.toNat ≤ observed.toNat := by
  rw [raises_iff, counted_perRun perRun, perRun]
  simp [runtimeRuleNextResume, Except.isOk, Except.toBool, pure, Except.pure]

/-- A per-run rule is about one run just where no runs reach its threshold together that do not reach it alone. -/
theorem aboutOneRun_iff (overflow : Overflow) (entries : List LedgerEntry) (now : Timestamp)
    (daemonSessionId : Option String) (rule : RuntimeTokenRule) :
    AboutOneRun overflow entries now daemonSessionId rule ↔ RunsAgree overflow entries rule := by
  unfold AboutOneRun RunsAgree
  apply imp_congr_right
  intro perRun
  rw [perRun_raises_iff perRun]
  by_cases fits : tokens rule.metric entries < limit
  · obtain ⟨observed, ran, value⟩ := observedMetric_of_fits overflow fits
    have alone : RunReaches entries rule → rule.threshold.toNat ≤ tokens rule.metric entries := by
      rintro ⟨runId, reaches⟩
      exact reaches.trans (tokensOf_le _ _ _)
    simp only [ran, Except.ok.injEq, exists_eq_left', value]
    constructor
    · exact fun same => ⟨fun _ => same.mp, fun large => absurd fits (Nat.not_lt.mpr large)⟩
    · exact fun agree => ⟨agree.1 fits, alone⟩
  · have large : limit ≤ tokens rule.metric entries := Nat.not_lt.mp fits
    cases overflow with
    | panics =>
      simp [observedMetric_panics large, fits, large]
    | wraps =>
      obtain ⟨observed, ran, value⟩ := @observedMetric_wraps _ entries rule.metric
      simp only [ran, Except.ok.injEq, exists_eq_left', value]
      exact ⟨fun same => ⟨fun below => absurd below fits, fun _ => same⟩, fun agree => agree.2 large⟩

end

section Concrete
local instance readerOfWindows : Rfc3339 := morning.reader
local instance writerOfWindows : Rfc3339Writer := morning.writer

/-- What the builder of a run is counted with. -/
def ledgerEntry (runId : String) (total : UInt64) (completed : Timestamp) : LedgerEntry where
  dedupeKey := "runs/" ++ runId ++ "/r.json"
  countedAt := completed
  stageCompletedAt := completed
  plane := .execution
  runId := runId
  stageId := "builder"
  workItemKind := .task
  workItemId := "task-a"
  tokenUsage := { inputTokens := 0, cachedInputTokens := 0, outputTokens := total, thinkingTokens := 0, totalTokens := total }
  stageResultPath := "runs/" ++ runId ++ "/r.json"
  daemonSessionId := none

def hundredPerRun : RuntimeTokenRule where
  ruleId := "per-run-default"
  window := .perRun
  metric := .totalTokens
  threshold := 100

def twoRuns : List LedgerEntry := [ledgerEntry "run-1" 60 nine, ledgerEntry "run-2" 60 ten]

@[simp] theorem ledgerEntry_runId (runId : String) (total : UInt64) (completed : Timestamp) :
    (ledgerEntry runId total completed).runId = runId := rfl

@[simp] theorem metricValue_ledgerEntry (metric : RuntimeTokenMetric) (runId : String) (total : UInt64) (completed : Timestamp) :
    metricValue metric (ledgerEntry runId total completed) = total := by
  cases metric
  rfl

theorem tokensOf_twoRuns (runId : String) : tokensOf .totalTokens twoRuns runId ≤ 60 := by
  have sixty : (60 : UInt64).toNat = 60 := rfl
  unfold twoRuns
  rw [tokensOf_cons, tokensOf_cons, tokensOf_nil]
  simp only [ledgerEntry_runId, metricValue_ledgerEntry, sixty]
  by_cases first : "run-1" = runId
  · have second : ¬"run-2" = runId := by
      rw [← first]
      decide
    rw [if_pos first, if_neg second]
  · rw [if_neg first]
    split <;> omega

/-- Two runs that stay below the threshold raise the rule together. -/
theorem twoRuns_raise : ¬∀ (overflow : Overflow) (entries : List LedgerEntry) (now : Timestamp)
    (daemonSessionId : Option String) (rule : RuntimeTokenRule), AboutOneRun overflow entries now daemonSessionId rule := by
  intro about
  have raises : Raises .panics twoRuns ten none hundredPerRun := by
    apply (perRun_raises_iff rfl).mpr
    exact ⟨120, rfl, by decide⟩
  obtain ⟨runId, reaches⟩ := (about .panics twoRuns ten none hundredPerRun rfl).mp raises
  have bound := tokensOf_twoRuns runId
  have threshold : hundredPerRun.threshold.toNat = 100 := by decide
  have metric : hundredPerRun.metric = .totalTokens := rfl
  rw [threshold, metric] at reaches
  omega

end Concrete

end Millrace.Governance
