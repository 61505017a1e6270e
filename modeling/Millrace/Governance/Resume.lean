import Millrace.Governance.Windows

/-! The search for a resume time, and when the time that a rule reports is the one at which it stops to block. -/

set_option autoImplicit false

namespace Millrace.Governance
open Millrace.Text Millrace.Contracts Millrace.WorkDocuments Millrace.Words Millrace.Action

section
variable [Rfc3339]

/-! ## The search -/

/-- The end of the five hours of an entry can be represented. -/
def LedgerEntry.Expires (entry : LedgerEntry) : Prop := entry.completed.localTime + fiveHours < Moment.endOfTime

theorem later_of_expires {entry : LedgerEntry} (expires : entry.Expires) :
    entry.completed.later fiveHours = some (entry.completed.shifted fiveHours) :=
  Moment.later_eq_some.mpr ⟨expires, rfl⟩

theorem later_of_not_expires {entry : LedgerEntry} (stays : ¬entry.Expires) : entry.completed.later fiveHours = none := by
  rw [← Option.not_isSome_iff_eq_none, Moment.later_isSome]
  exact stays

section Search
variable (metric : RuntimeTokenMetric) (threshold remaining : Nat)

/-- The entry at which the tokens that remain fall below the threshold, with those before it. -/
def Crosses (entries before : List LedgerEntry) (entry : LedgerEntry) : Prop :=
  ∃ after, entries = before ++ entry :: after ∧ threshold ≤ remaining - tokens metric before ∧
    remaining - tokens metric (before ++ [entry]) < threshold

/-- Each entry that the search comes to can expire. -/
def Searchable (entries : List LedgerEntry) : Prop :=
  ∀ before entry after, entries = before ++ entry :: after → threshold ≤ remaining - tokens metric before → entry.Expires

variable {metric threshold remaining}

theorem crosses_head {entry : LedgerEntry} {rest : List LedgerEntry} (reaches : threshold ≤ remaining)
    (below : remaining - (metricValue metric entry).toNat < threshold) :
    Crosses metric threshold remaining (entry :: rest) [] entry :=
  ⟨rest, rfl, by simpa using reaches, by simpa using below⟩

theorem crosses_cons {head entry : LedgerEntry} {rest before : List LedgerEntry}
    (crosses : Crosses metric threshold (remaining - (metricValue metric head).toNat) rest before entry) :
    Crosses metric threshold remaining (head :: rest) (head :: before) entry := by
  obtain ⟨after, split, reaches, below⟩ := crosses
  refine ⟨after, by rw [split]; rfl, ?_, ?_⟩
  · rw [tokens_cons]
    omega
  · rw [List.cons_append, tokens_cons]
    omega

theorem searchable_cons {head : LedgerEntry} {rest : List LedgerEntry}
    (searchable : Searchable metric threshold remaining (head :: rest)) :
    Searchable metric threshold (remaining - (metricValue metric head).toNat) rest := by
  intro before entry after split reaches
  apply searchable (head :: before) entry after (by rw [split]; rfl)
  rw [tokens_cons]
  omega

theorem searchable_of_expires {entries : List LedgerEntry} (expires : ∀ entry ∈ entries, entry.Expires) :
    Searchable metric threshold remaining entries := by
  intro before entry after split _
  apply expires
  rw [split]
  exact List.mem_append_right _ List.mem_cons_self

end Search

section NextUnder
variable {metric : RuntimeTokenMetric} {threshold remaining : UInt64} {entries before : List LedgerEntry} {entry : LedgerEntry}

theorem nextUnder_of_crosses (searchable : Searchable metric threshold.toNat remaining.toNat entries)
    (crosses : Crosses metric threshold.toNat remaining.toNat entries before entry) :
    nextUnder metric threshold remaining entries = .ok (some (entry.completed.shifted fiveHours)) := by
  induction entries generalizing remaining before with
  | nil =>
    obtain ⟨after, split, -⟩ := crosses
    simp at split
  | cons head rest ih =>
    obtain ⟨after, split, reaches, below⟩ := crosses
    have left := toNat_saturatingSub remaining (metricValue metric head)
    have here : head.Expires := searchable [] head rest rfl (by
      rw [tokens_nil]
      omega)
    unfold nextUnder
    rw [later_of_expires here]
    cases before with
    | nil =>
      obtain ⟨rfl, rfl⟩ := List.cons_eq_cons.mp split
      have under : saturatingSub remaining (metricValue metric head) < threshold := by
        rw [UInt64.lt_iff_toNat_lt, left]
        simpa using below
      simp only [orPanic, ok_bind]
      rw [if_pos under]
      rfl
    | cons first before =>
      obtain ⟨rfl, rfl⟩ := List.cons_eq_cons.mp split
      rw [tokens_cons] at reaches
      rw [List.cons_append, tokens_cons] at below
      have above : ¬saturatingSub remaining (metricValue metric head) < threshold := by
        rw [UInt64.lt_iff_toNat_lt, left]
        omega
      simp only [orPanic, ok_bind]
      rw [if_neg above]
      apply ih (left ▸ searchable_cons searchable)
      exact ⟨after, rfl, by rw [left]; omega, by rw [left]; omega⟩

theorem nextUnder_of_none (reaches : threshold.toNat ≤ remaining.toNat)
    (searchable : Searchable metric threshold.toNat remaining.toNat entries)
    (stays : ∀ before entry, ¬Crosses metric threshold.toNat remaining.toNat entries before entry) :
    nextUnder metric threshold remaining entries = .ok none := by
  induction entries generalizing remaining with
  | nil => rfl
  | cons head rest ih =>
    have left := toNat_saturatingSub remaining (metricValue metric head)
    have here : head.Expires := searchable [] head rest rfl (by
      rw [tokens_nil]
      omega)
    have above : threshold.toNat ≤ remaining.toNat - (metricValue metric head).toNat :=
      Nat.not_lt.mp fun below => stays [] head (crosses_head reaches below)
    have above' : ¬saturatingSub remaining (metricValue metric head) < threshold := by
      rw [UInt64.lt_iff_toNat_lt, left]
      omega
    unfold nextUnder
    rw [later_of_expires here]
    simp only [orPanic, ok_bind]
    rw [if_neg above']
    apply ih (by rw [left]; exact above) (left ▸ searchable_cons searchable)
    intro before entry crosses
    rw [left] at crosses
    exact stays (head :: before) entry (crosses_cons crosses)

theorem nextUnder_panics (reaches : threshold.toNat ≤ remaining.toNat)
    (unsearchable : ¬Searchable metric threshold.toNat remaining.toNat entries) :
    nextUnder metric threshold remaining entries = .error .panic := by
  induction entries generalizing remaining with
  | nil =>
    refine absurd ?_ unsearchable
    intro before entry after split
    simp at split
  | cons head rest ih =>
    have left := toNat_saturatingSub remaining (metricValue metric head)
    unfold nextUnder
    by_cases here : head.Expires
    · -- Where the head expires, a later entry is the one that the search cannot pass.
      have rest' : ¬Searchable metric threshold.toNat (remaining.toNat - (metricValue metric head).toNat) rest := by
        intro searchable
        apply unsearchable
        intro before entry after split above
        cases before with
        | nil =>
          obtain ⟨rfl, rfl⟩ := List.cons_eq_cons.mp split
          exact here
        | cons first before =>
          obtain ⟨rfl, rfl⟩ := List.cons_eq_cons.mp split
          apply searchable before entry after rfl
          rw [tokens_cons] at above
          omega
      have above : threshold.toNat ≤ remaining.toNat - (metricValue metric head).toNat := by
        by_contra under
        apply rest'
        intro before entry after split above
        omega
      have above' : ¬saturatingSub remaining (metricValue metric head) < threshold := by
        rw [UInt64.lt_iff_toNat_lt, left]
        omega
      rw [later_of_expires here]
      simp only [orPanic, ok_bind]
      rw [if_neg above']
      exact ih (by rw [left]; exact above) (by rw [left]; exact rest')
    · rw [later_of_not_expires here]
      rfl

end NextUnder

/-! ## Blocking -/

section Reckoned
variable (overflow : Overflow) (metric : RuntimeTokenMetric) (entries : List LedgerEntry)

/-- The sum as it is computed, `none` where that panics. -/
def reckoned : Option Nat :=
  match overflow with
  | .panics => if tokens metric entries < limit then some (tokens metric entries) else none
  | .wraps => some (tokens metric entries % limit)

theorem reckoned_of_fits (fits : tokens metric entries < limit) : reckoned overflow metric entries = some (tokens metric entries) := by
  cases overflow with
  | panics => exact if_pos fits
  | wraps => exact congrArg some (Nat.mod_eq_of_lt fits)

theorem observedMetric_reckoned :
    (∃ observed, observedMetric overflow entries metric = .ok observed ∧ reckoned overflow metric entries = some observed.toNat) ∨
      (observedMetric overflow entries metric = .error .panic ∧ reckoned overflow metric entries = none) := by
  by_cases fits : tokens metric entries < limit
  · obtain ⟨observed, ran, value⟩ := observedMetric_of_fits overflow fits
    exact .inl ⟨observed, ran, by rw [reckoned_of_fits overflow metric entries fits, value]⟩
  · cases overflow with
    | panics => exact .inr ⟨observedMetric_panics (Nat.not_lt.mp fits), if_neg fits⟩
    | wraps =>
      obtain ⟨observed, ran, value⟩ := @observedMetric_wraps _ entries metric
      exact .inl ⟨observed, ran, congrArg some value.symm⟩

end Reckoned

/-- The computed sum is below a threshold. -/
def Below (overflow : Overflow) (metric : RuntimeTokenMetric) (threshold : UInt64) (entries : List LedgerEntry) : Prop :=
  ∃ total, reckoned overflow metric entries = some total ∧ total < threshold.toNat

section Blocking
variable [Rfc3339Writer] {overflow : Overflow} {entries : List LedgerEntry} {now : Timestamp}
  {daemonSessionId : Option String} {rule : RuntimeTokenRule}

theorem silent_iff : evaluateRuntimeTokenRule overflow entries now daemonSessionId rule = .ok none ↔
    Below overflow rule.metric rule.threshold (counted entries now daemonSessionId rule) := by
  unfold evaluateRuntimeTokenRule Below
  dsimp only
  rcases observedMetric_reckoned overflow rule.metric (counted entries now daemonSessionId rule) with
    ⟨observed, ran, value⟩ | ⟨ran, value⟩
  · rw [ran, ok_bind, value]
    by_cases below : observed < rule.threshold
    · rw [if_pos below]
      simpa [pure, Except.pure] using UInt64.lt_iff_toNat_lt.mp below
    · rw [if_neg below]
      have reaches := UInt64.le_iff_toNat_le.mp (UInt64.not_lt.mp below)
      constructor
      · intro silent
        obtain ⟨resume, -, silent⟩ := bind_eq_ok.mp silent
        cases silent
      · rintro ⟨_, same, under⟩
        cases same
        omega
  · rw [ran, value]
    simp [bind, Except.bind]

theorem observed_of_blocker {blocker : Blocker}
    (blocks : evaluateRuntimeTokenRule overflow entries now daemonSessionId rule = .ok (some blocker)) :
    ∃ observed, observedMetric overflow (counted entries now daemonSessionId rule) rule.metric = .ok observed ∧
      rule.threshold.toNat ≤ observed.toNat ∧
        runtimeRuleNextResume overflow (counted entries now daemonSessionId rule) rule.window rule.metric rule.threshold
          now.instant.moment = .ok blocker.nextAutoResumeAt ∧ blocker.autoResumePossible = rule.window.resumes := by
  unfold evaluateRuntimeTokenRule at blocks
  obtain ⟨observed, ran, blocks⟩ := bind_eq_ok.mp blocks
  split at blocks
  next => cases blocks
  next above =>
    obtain ⟨resume, found, blocks⟩ := bind_eq_ok.mp blocks
    cases blocks
    exact ⟨observed, ran, UInt64.le_iff_toNat_le.mp (UInt64.not_lt.mp above), found, rfl⟩

/-! ## Resume times -/

theorem timestampFromOffset_of_printable (lawful : Rfc3339Writer.Lawful) (fieldName : String) {m : Moment}
    (printable : m.Printable) : ∃ t, timestampFromOffset fieldName m = .ok t ∧ t.instant.moment = m := by
  obtain ⟨t, written, read⟩ := lawful.writes m printable
  refine ⟨t, ?_, read⟩
  unfold timestampFromOffset
  rw [written]
  dsimp only
  rw [Timestamp.parse_text]
  rfl

theorem expiry_printable (lawful : Rfc3339Writer.Lawful) {entry : LedgerEntry} (expires : entry.Expires) :
    (entry.completed.shifted fiveHours).Printable := by
  have completed := lawful.reads entry.stageCompletedAt
  apply Moment.Printable.later completed _ (later_of_expires expires)
  have start := completed.start
  have hours : 0 ≤ fiveHours := by decide
  omega

theorem weekEnd_printable (lawful : Rfc3339Writer.Lawful) (now : Timestamp)
    (fits : now.instant.moment.weekStart.localTime + 7 * day < Moment.endOfTime) :
    (now.instant.moment.weekStart.shifted (7 * day)).Printable := by
  have printable := lawful.reads now
  have after := now.instant.moment.weekStart_after
  have start := printable.start
  exact ⟨by rw [Moment.shifted_localTime]; omega, by rwa [Moment.shifted_localTime], printable.minutes, printable.within⟩

/-- Each moment that the search for a resume time computes can be represented. -/
def Resumable (rule : RuntimeTokenRule) (total : Nat) (entries : List LedgerEntry) (now : Moment) : Prop :=
  match rule.window with
  | .rolling5h => Searchable rule.metric rule.threshold.toNat total (entries.mergeSort byText)
  | .calendarWeek => now.weekStart.localTime + 7 * day < Moment.endOfTime
  | .daemonSession | .perRun => True

theorem nextResume_isOk_iff (lawful : Rfc3339Writer.Lawful) {window : List LedgerEntry} {observed : UInt64}
    (ran : observedMetric overflow window rule.metric = .ok observed) (reaches : rule.threshold.toNat ≤ observed.toNat) :
    (runtimeRuleNextResume overflow window rule.window rule.metric rule.threshold now.instant.moment).isOk ↔
      Resumable rule observed.toNat window now.instant.moment := by
  unfold runtimeRuleNextResume Resumable
  cases rule.window with
  | rolling5h =>
    dsimp only
    rw [ran, ok_bind]
    by_cases searchable : Searchable rule.metric rule.threshold.toNat observed.toNat (window.mergeSort byText)
    · refine iff_of_true ?_ searchable
      by_cases crossing : ∃ before entry, Crosses rule.metric rule.threshold.toNat observed.toNat (window.mergeSort byText) before entry
      · obtain ⟨before, entry, crosses⟩ := crossing
        have expires : entry.Expires := by
          obtain ⟨after, split, above, -⟩ := crosses
          exact searchable before entry after split above
        obtain ⟨t, written, -⟩ := timestampFromOffset_of_printable lawful "next_auto_resume_at" (expiry_printable lawful expires)
        rw [nextUnder_of_crosses searchable crosses, ok_bind]
        dsimp only
        rw [written]
        rfl
      · rw [nextUnder_of_none reaches searchable fun before entry crosses => crossing ⟨before, entry, crosses⟩]
        rfl
    · refine iff_of_false ?_ searchable
      rw [nextUnder_panics reaches searchable]
      simp [bind, Except.bind, Except.isOk, Except.toBool]
  | calendarWeek =>
    dsimp only
    by_cases fits : now.instant.moment.weekStart.localTime + 7 * day < Moment.endOfTime
    · obtain ⟨t, written, -⟩ := timestampFromOffset_of_printable lawful "next_auto_resume_at" (weekEnd_printable lawful now fits)
      rw [Moment.later_eq_some.mpr ⟨fits, rfl⟩]
      simp only [orPanic, ok_bind]
      rw [written]
      exact iff_of_true rfl fits
    · refine iff_of_false ?_ fits
      have none : now.instant.moment.weekStart.later (7 * day) = none := by
        rw [← Option.not_isSome_iff_eq_none, Moment.later_isSome]
        exact fits
      rw [none]
      simp [orPanic, bind, Except.bind, Except.isOk, Except.toBool]
  | daemonSession => exact iff_of_true rfl trivial
  | perRun => exact iff_of_true rfl trivial

/-- A rule raises a blocker where the computed sum reaches its threshold and its resume time can be represented. -/
theorem raises_iff_reckoned (lawful : Rfc3339Writer.Lawful) : Raises overflow entries now daemonSessionId rule ↔ ∃ total,
    reckoned overflow rule.metric (counted entries now daemonSessionId rule) = some total ∧
      rule.threshold.toNat ≤ total ∧ Resumable rule total (counted entries now daemonSessionId rule) now.instant.moment := by
  rw [raises_iff]
  rcases observedMetric_reckoned overflow rule.metric (counted entries now daemonSessionId rule) with
    ⟨observed, ran, value⟩ | ⟨ran, value⟩
  · rw [ran, value]
    constructor
    · rintro ⟨_, same, reaches, resumes⟩
      cases same
      exact ⟨_, rfl, reaches, (nextResume_isOk_iff lawful ran reaches).mp resumes⟩
    · rintro ⟨_, same, reaches, resumable⟩
      cases same
      exact ⟨_, rfl, reaches, (nextResume_isOk_iff lawful ran reaches).mpr resumable⟩
  · rw [ran, value]
    simp

/-! ## Exact sums -/

section Rules
variable {config : RuntimeTokenRules}

/-- The blocker of a rule is among those of all rules. -/
def Blocks (overflow : Overflow) (entries : List LedgerEntry) (config : RuntimeTokenRules) (now : Timestamp)
    (daemonSessionId : Option String) (rule : RuntimeTokenRule) : Prop :=
  ∃ blockers, evaluateRuntimeTokenRules overflow entries config now daemonSessionId = .ok blockers ∧
    ∃ blocker ∈ blockers, evaluateRuntimeTokenRule overflow entries now daemonSessionId rule = .ok (some blocker)

/-- Each rule observes the exact sum of its entries, and blocks where that reaches its threshold. -/
def ExactTotals (overflow : Overflow) (entries : List LedgerEntry) (config : RuntimeTokenRules) (now : Timestamp)
    (daemonSessionId : Option String) : Prop :=
  ∀ rule ∈ config.rules,
    (∃ observed, observedMetric overflow (counted entries now daemonSessionId rule) rule.metric = .ok observed ∧
      observed.toNat = tokens rule.metric (counted entries now daemonSessionId rule)) ∧
    (rule.threshold.toNat ≤ tokens rule.metric (counted entries now daemonSessionId rule) →
      Blocks overflow entries config now daemonSessionId rule)

/-- The exact sum of a rule fits, and the times that it computes can be represented. -/
def SumFits (entries : List LedgerEntry) (now : Timestamp) (daemonSessionId : Option String) (rule : RuntimeTokenRule) : Prop :=
  let total := tokens rule.metric (counted entries now daemonSessionId rule)
  total < limit ∧ (rule.threshold.toNat ≤ total →
    Resumable rule total (counted entries now daemonSessionId rule) now.instant.moment)

theorem evaluateRules_eq_ok {blockers : List Blocker}
    (ran : evaluateRuntimeTokenRules overflow entries config now daemonSessionId = .ok blockers) :
    (∀ rule ∈ config.rules, ∃ raised, evaluateRuntimeTokenRule overflow entries now daemonSessionId rule = .ok raised ∧
      ∀ blocker, raised = some blocker → blocker ∈ blockers) ∧
    ∀ blocker ∈ blockers, ∃ rule ∈ config.rules,
      evaluateRuntimeTokenRule overflow entries now daemonSessionId rule = .ok (some blocker) := by
  unfold evaluateRuntimeTokenRules at ran
  obtain ⟨raised, evaluated, kept⟩ := bind_eq_ok.mp ran
  cases kept
  clear ran
  generalize config.rules = rules at evaluated
  induction rules generalizing raised with
  | nil =>
    cases evaluated
    simp
  | cons rule rules ih =>
    rw [List.mapM_cons] at evaluated
    obtain ⟨first, here, evaluated⟩ := bind_eq_ok.mp evaluated
    obtain ⟨others, there, evaluated⟩ := bind_eq_ok.mp evaluated
    cases evaluated
    obtain ⟨each, from'⟩ := ih others there
    constructor
    · intro other listed
      rcases List.mem_cons.mp listed with rfl | later
      · exact ⟨first, here, fun blocker same => by simp [same, List.reduceOption]⟩
      · obtain ⟨found, ran, kept⟩ := each other later
        refine ⟨found, ran, fun blocker same => ?_⟩
        rw [List.reduceOption_mem_iff] at *
        exact List.mem_cons_of_mem _ (List.reduceOption_mem_iff.mp (kept blocker same))
    · intro blocker listed
      rw [List.reduceOption_mem_iff] at listed
      rcases List.mem_cons.mp listed with same | later
      · exact ⟨rule, List.mem_cons_self, same ▸ here⟩
      · obtain ⟨other, there, ran⟩ := from' blocker (List.reduceOption_mem_iff.mpr later)
        exact ⟨other, List.mem_cons_of_mem _ there, ran⟩

variable (overflow) in
theorem evaluateRules_isOk (each : ∀ rule ∈ config.rules,
    ∃ raised, evaluateRuntimeTokenRule overflow entries now daemonSessionId rule = .ok raised) :
    ∃ blockers, evaluateRuntimeTokenRules overflow entries config now daemonSessionId = .ok blockers := by
  have evaluated : ∃ raised, config.rules.mapM (evaluateRuntimeTokenRule overflow entries now daemonSessionId) = .ok raised := by
    generalize config.rules = rules at each
    induction rules with
    | nil => exact ⟨[], rfl⟩
    | cons rule rules ih =>
      obtain ⟨first, here⟩ := each rule List.mem_cons_self
      obtain ⟨others, there⟩ := ih fun other listed => each other (List.mem_cons_of_mem _ listed)
      exact ⟨first :: others, by rw [List.mapM_cons, here, ok_bind, there]; rfl⟩
  obtain ⟨raised, ran⟩ := evaluated
  exact ⟨raised.reduceOption, by rw [evaluateRuntimeTokenRules, ran]; rfl⟩

variable (overflow) in
theorem evaluates_of_fits (lawful : Rfc3339Writer.Lawful) (fits : SumFits entries now daemonSessionId rule) :
    ∃ raised, evaluateRuntimeTokenRule overflow entries now daemonSessionId rule = .ok raised ∧
      (rule.threshold.toNat ≤ tokens rule.metric (counted entries now daemonSessionId rule) → raised.isSome) := by
  have value := reckoned_of_fits overflow rule.metric (counted entries now daemonSessionId rule) fits.1
  by_cases reaches : rule.threshold.toNat ≤ tokens rule.metric (counted entries now daemonSessionId rule)
  · obtain ⟨blocker, ran⟩ := (raises_iff_reckoned lawful).mpr ⟨_, value, reaches, fits.2 reaches⟩
    exact ⟨some blocker, ran, fun _ => rfl⟩
  · exact ⟨none, silent_iff.mpr ⟨_, value, Nat.not_le.mp reaches⟩, fun above => absurd above reaches⟩

/-- The rules observe exact sums just where each sum fits a word and each resume time a date. -/
theorem exactTotals_iff (lawful : Rfc3339Writer.Lawful) (overflow : Overflow) (entries : List LedgerEntry)
    (config : RuntimeTokenRules) (now : Timestamp) (daemonSessionId : Option String) :
    ExactTotals overflow entries config now daemonSessionId ↔
      ∀ rule ∈ config.rules, SumFits entries now daemonSessionId rule := by
  constructor
  · intro exact rule listed
    obtain ⟨⟨observed, ran, value⟩, blocks⟩ := exact rule listed
    have fits : tokens rule.metric (counted entries now daemonSessionId rule) < limit := value ▸ toNat_lt observed
    refine ⟨fits, fun reaches => ?_⟩
    obtain ⟨blockers, -, blocker, -, raised⟩ := blocks reaches
    obtain ⟨total, reckons, -, resumable⟩ := (raises_iff_reckoned lawful).mp ⟨blocker, raised⟩
    rw [reckoned_of_fits overflow _ _ fits] at reckons
    cases reckons
    exact resumable
  · intro fit rule listed
    refine ⟨observedMetric_of_fits overflow (fit rule listed).1, fun reaches => ?_⟩
    obtain ⟨blockers, ran⟩ := evaluateRules_isOk overflow fun other there =>
      (evaluates_of_fits overflow lawful (fit other there)).imp fun _ evaluated => evaluated.1
    obtain ⟨raised, here, kept⟩ := (evaluateRules_eq_ok ran).1 rule listed
    obtain ⟨raised', here', some⟩ := evaluates_of_fits overflow lawful (fit rule listed)
    cases here.symm.trans here'
    obtain ⟨blocker, rfl⟩ := Option.isSome_iff_exists.mp (some reaches)
    exact ⟨blockers, ran, blocker, kept blocker rfl, here⟩

end Rules

end Blocking

end

section Concrete
local instance readerOfResumes : Rfc3339 := morning.reader
local instance writerOfResumes : Rfc3339Writer := morning.writer

def hundredInFiveHours : RuntimeTokenRule where
  ruleId := "rolling-5h-default"
  window := .rolling5h
  metric := .totalTokens
  threshold := 100

def onlyRolling : RuntimeTokenRules := { enabled := true, rules := [hundredInFiveHours] }

theorem fromNine_expires : ∀ entry ∈ [ledgerEntry "run-1" 160 nine], entry.Expires := by
  unfold LedgerEntry.Expires
  decide

theorem exactTotals_fromNine : ExactTotals .wraps [ledgerEntry "run-1" 160 nine] onlyRolling ten none := by
  apply (exactTotals_iff morning.lawful .wraps [ledgerEntry "run-1" 160 nine] onlyRolling ten none).mpr
  intro rule listed
  cases List.mem_singleton.mp listed
  have window : counted [ledgerEntry "run-1" 160 nine] ten none hundredInFiveHours = [ledgerEntry "run-1" 160 nine] := rfl
  unfold SumFits
  rw [window]
  refine ⟨by decide, fun _ => searchable_of_expires ?_⟩
  rw [List.mergeSort_singleton]
  exact fromNine_expires

/-- Two entries that the contract accepts and whose sum does not fit a word. -/
def hugeEntries : List LedgerEntry := [ledgerEntry "run-1" 18446744073709551615 nine, ledgerEntry "run-2" 1 ten]

theorem hugeEntries_valid : ∀ entry ∈ hugeEntries, entry.validateContract = .ok () := by
  decide

theorem hugeEntries_inexact (overflow : Overflow) : ¬ExactTotals overflow hugeEntries onlyRolling ten none := by
  intro exact
  obtain ⟨⟨observed, -, value⟩, -⟩ := exact hundredInFiveHours List.mem_cons_self
  have window : counted hugeEntries ten none hundredInFiveHours = hugeEntries := rfl
  have bound := toNat_lt observed
  rw [value, window] at bound
  exact absurd bound (by decide)

/-- A sum of accepted entries overflows, which panics or wraps around. -/
theorem totals_overflow : ¬∀ (overflow : Overflow) (entries : List LedgerEntry) (config : RuntimeTokenRules)
    (now : Timestamp) (daemonSessionId : Option String), (∀ entry ∈ entries, entry.validateContract = .ok ()) →
      ExactTotals overflow entries config now daemonSessionId := by
  intro exact
  exact hugeEntries_inexact .wraps (exact .wraps hugeEntries onlyRolling ten none hugeEntries_valid)

end Concrete

end Millrace.Governance
