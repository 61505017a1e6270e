import Millrace.Governance.Relief

/-! The common resume time of several blockers. -/

set_option autoImplicit false

namespace Millrace.Governance
open Millrace.Text Millrace.Contracts Millrace.WorkDocuments Millrace.Words Millrace.Action

/-! ## The earliest moment -/

section Earliest
variable (m : Moment) (rest : List Moment)

theorem earliest_mem : earliest m rest ∈ m :: rest := by
  induction rest generalizing m with
  | nil => exact List.mem_cons_self
  | cons m' rest ih =>
    unfold earliest
    split
    next => exact List.mem_cons_of_mem _ (ih m')
    next =>
      rcases List.mem_cons.mp (ih m) with same | later
      · rw [same]
        exact List.mem_cons_self
      · exact List.mem_cons_of_mem _ (List.mem_cons_of_mem _ later)

theorem earliest_le : ∀ m' ∈ m :: rest, (earliest m rest).nanoseconds ≤ m'.nanoseconds := by
  induction rest generalizing m with
  | nil =>
    intro m' there
    rw [List.mem_singleton.mp there]
    exact le_refl _
  | cons head rest ih =>
    intro m' there
    unfold earliest
    split
    next sooner =>
      have least := ih head
      rcases List.mem_cons.mp there with rfl | there
      · exact (least head List.mem_cons_self).trans sooner.le
      · exact least m' there
    next later =>
      have least := ih m
      rcases List.mem_cons.mp there with rfl | there
      · exact least m' List.mem_cons_self
      · rcases List.mem_cons.mp there with rfl | there
        · exact (least m List.mem_cons_self).trans (not_lt.mp later)
        · exact least m' (List.mem_cons_of_mem _ there)

variable {m rest}

theorem earliest_of_same (same : ∀ m' ∈ rest, m'.nanoseconds = m.nanoseconds) : earliest m rest = m := by
  induction rest with
  | nil => rfl
  | cons head rest ih =>
    have first := same head List.mem_cons_self
    unfold earliest
    rw [if_neg (by omega)]
    exact ih fun m' there => same m' (List.mem_cons_of_mem _ there)

end Earliest

section
variable [Rfc3339]

/-! ## The common time -/

/-- The blocker says when it resumes. -/
def Resumes (blocker : Blocker) : Prop := blocker.autoResumePossible = true ∧ blocker.nextAutoResumeAt.isSome

theorem candidates_of_resumes {blockers : List Blocker} (resume : ∀ blocker ∈ blockers, Resumes blocker) :
    ∃ candidates, blockers.mapM (·.nextAutoResumeAt) = some candidates ∧
      blockers.map (·.nextAutoResumeAt) = candidates.map some := by
  induction blockers with
  | nil => exact ⟨[], rfl, rfl⟩
  | cons blocker blockers ih =>
    obtain ⟨candidates, collected, listed⟩ := ih fun other there => resume other (List.mem_cons_of_mem _ there)
    obtain ⟨own, reports⟩ := Option.isSome_iff_exists.mp (resume blocker List.mem_cons_self).2
    refine ⟨own :: candidates, ?_, by rw [List.map_cons, List.map_cons, listed, reports]⟩
    rw [List.mapM_cons, reports, collected]
    rfl

variable [Rfc3339Writer]

theorem nextAutoResumeAt_resumes {blockers : List Blocker} {resume : Timestamp}
    (common : nextAutoResumeAt blockers = .ok (some resume)) : ∀ blocker ∈ blockers, Resumes blocker := by
  unfold nextAutoResumeAt at common
  split at common
  next => cases common
  next every =>
    intro blocker there
    refine ⟨?_, ?_⟩
    · by_contra never
      exact every (.inr ⟨blocker, there, Bool.eq_false_iff.mpr never⟩)
    · by_contra unknown
      have missing : blockers.mapM (·.nextAutoResumeAt) = none := by
        clear every common
        induction blockers with
        | nil => cases there
        | cons head blockers ih =>
          rw [List.mapM_cons]
          rcases List.mem_cons.mp there with rfl | there
          · rw [Option.not_isSome_iff_eq_none.mp unknown]
            rfl
          · rw [ih there]
            cases head.nextAutoResumeAt <;> rfl
      rw [missing] at common
      cases common

/-- What the common time is, where each blocker reports one. -/
theorem nextAutoResumeAt_earliest (lawful : Rfc3339Writer.Lawful) {first : Blocker} {rest : List Blocker}
    (every : ∀ blocker ∈ first :: rest, Resumes blocker) :
    ∃ (own : Timestamp) (owns : List Timestamp) (resume : Timestamp), first.nextAutoResumeAt = some own ∧ rest.map (·.nextAutoResumeAt) = owns.map some ∧
      nextAutoResumeAt (first :: rest) = .ok (some resume) ∧
        resume.instant.moment = earliest own.instant.moment (owns.map (·.instant.moment)) := by
  obtain ⟨candidates, collected, listed⟩ := candidates_of_resumes every
  cases candidates with
  | nil => simp at listed
  | cons own owns =>
    rw [List.map_cons, List.map_cons, List.cons_eq_cons] at listed
    have printable : (earliest own.instant.moment (owns.map (·.instant.moment))).Printable := by
      have member : earliest own.instant.moment (owns.map (·.instant.moment)) ∈ (own :: owns).map (·.instant.moment) :=
        earliest_mem _ _
      obtain ⟨t, -, same⟩ := List.mem_map.mp member
      rw [← same]
      exact lawful.reads t
    obtain ⟨resume, written, moment⟩ := timestampFromOffset_of_printable lawful "next_auto_resume_at" printable
    refine ⟨own, owns, resume, listed.1, listed.2, ?_, moment⟩
    have all : ¬(first :: rest = [] ∨ ∃ blocker ∈ first :: rest, blocker.autoResumePossible = false) := by
      rintro (none | ⟨blocker, there, never⟩)
      · cases none
      · exact absurd ((every blocker there).1.symm.trans never) (by decide)
    unfold nextAutoResumeAt
    rw [if_neg all, collected]
    dsimp only
    rw [List.map_cons]
    dsimp only
    rw [written]
    rfl

/-! ## Recovery -/

section Recovery
variable (overflow : Overflow) (entries : List LedgerEntry) (tokenRules : RuntimeTokenRules) (status : SubscriptionQuotaStatus)
  (quotaRules : SubscriptionQuotaRules) (now : Timestamp) (daemonSessionId : Option String)

/-- The rule does not block at some later moment, though the ledger stays as it is. -/
def ClearsLater (rule : RuntimeTokenRule) : Prop :=
  ∃ t : Timestamp, now.instant.moment.nanoseconds < t.instant.moment.nanoseconds ∧
    evaluateRuntimeTokenRule overflow entries t daemonSessionId rule = .ok none

/-- No blocker resumes later than the common time, and the rules that clear by themselves are clear then. The quota
rules do not look at the time, so that none of them clears while its telemetry stays as it is. -/
def ClearsAll : Prop :=
  ∀ blockers resume, activeBlockers overflow entries tokenRules status quotaRules now daemonSessionId = .ok blockers →
    nextAutoResumeAt blockers = .ok (some resume) →
      (∀ blocker ∈ blockers, ∀ own, blocker.nextAutoResumeAt = some own →
        own.instant.moment.nanoseconds ≤ resume.instant.moment.nanoseconds) ∧
      ∀ rule ∈ tokenRules.rules, tokenRules.enabled = true → Raises overflow entries now daemonSessionId rule →
        ClearsLater overflow entries now daemonSessionId rule →
          evaluateRuntimeTokenRule overflow entries resume daemonSessionId rule = .ok none

/-- Where each blocker reports a time, all report that of the first, at which the rules that clear later are below their
thresholds. -/
def ResumeTogether : Prop :=
  ∀ first rest, activeBlockers overflow entries tokenRules status quotaRules now daemonSessionId = .ok (first :: rest) →
    (∀ blocker ∈ first :: rest, Resumes blocker) → ∀ own, first.nextAutoResumeAt = some own →
      (∀ blocker ∈ rest, ∀ other, blocker.nextAutoResumeAt = some other →
        other.instant.moment.nanoseconds = own.instant.moment.nanoseconds) ∧
      ∀ rule ∈ tokenRules.rules, tokenRules.enabled = true → Raises overflow entries now daemonSessionId rule →
        ClearsLater overflow entries now daemonSessionId rule →
          Below overflow rule.metric rule.threshold (counted entries own daemonSessionId rule)

variable {overflow entries daemonSessionId}

theorem silent_of_moment {t t' : Timestamp} (same : t.instant.moment = t'.instant.moment) {rule : RuntimeTokenRule} :
    evaluateRuntimeTokenRule overflow entries t daemonSessionId rule = .ok none ↔
      Below overflow rule.metric rule.threshold (counted entries t' daemonSessionId rule) := by
  rw [silent_iff, counted, counted, same]

end Recovery

end

section Concrete
local instance readerOfRecovery : Rfc3339 := morning.reader
local instance writerOfRecovery : Rfc3339Writer := morning.writer

def hundredInAWeek : RuntimeTokenRule where
  ruleId := "calendar-week-default"
  window := .calendarWeek
  metric := .totalTokens
  threshold := 100

def onlyWeekly : RuntimeTokenRules := { enabled := true, rules := [hundredInAWeek] }

def rollingAndWeekly : RuntimeTokenRules := { enabled := true, rules := [hundredInFiveHours, hundredInAWeek] }

def noQuota : SubscriptionQuotaStatus := { state := .disabled, detail := none, windows _ := none }

def noQuotaRules : SubscriptionQuotaRules := { enabled := false, degradedPolicy := .failOpen, rules := [] }

def raisedBy (rule : RuntimeTokenRule) (resume : Timestamp) : Blocker where
  source := .runtimeToken
  ruleId := rule.ruleId
  window := rule.window.asStr
  observed := 160
  threshold := 100
  metric := some .totalTokens
  autoResumePossible := true
  nextAutoResumeAt := some resume
  detail := ""

end Concrete

end Millrace.Governance
