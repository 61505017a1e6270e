import Millrace.Governance.Resume

/-! When a rolling rule reports the moment at which it stops to block. -/

set_option autoImplicit false

namespace Millrace.Governance
open Millrace.Text Millrace.Contracts Millrace.WorkDocuments Millrace.Words Millrace.Action

section
variable [Rfc3339]

/-! ## Rolling windows -/

/-- The entries that were completed at an instant or after it. -/
def since (entries : List LedgerEntry) (instant : Int) : List LedgerEntry :=
  entries.filter fun entry => decide (instant ≤ entry.completed.nanoseconds)

theorem since_since {entries : List LedgerEntry} {earlier later : Int} (order : earlier ≤ later) :
    since (since entries earlier) later = since entries later := by
  unfold since
  rw [List.filter_filter]
  apply List.filter_congr
  intro entry _
  by_cases counts : later ≤ entry.completed.nanoseconds
  · simp [counts, order.trans counts]
  · simp [counts]

theorem since_sublist {entries : List LedgerEntry} {earlier later : Int} (order : earlier ≤ later) :
    (since entries later).Sublist (since entries earlier) := by
  rw [← since_since order]
  exact List.filter_sublist

theorem counted_rolling {rule : RuntimeTokenRule} (rolling : rule.window = .rolling5h) (entries : List LedgerEntry)
    (now : Timestamp) (daemonSessionId : Option String) :
    counted entries now daemonSessionId rule = since entries (now.instant.moment.nanoseconds - fiveHours) := by
  unfold counted entriesForRuntimeWindow since
  rw [rolling]
  apply List.filter_congr
  intro entry _
  simp [cutoff]

/-! ## The order of the search -/

def searched (entries : List LedgerEntry) : List LedgerEntry := entries.mergeSort byText

theorem byText_trans (a b c : LedgerEntry) (ab : byText a b = true) (bc : byText b c = true) : byText a c = true := by
  unfold byText at *
  exact decide_eq_true ((of_decide_eq_true ab).trans (of_decide_eq_true bc))

theorem byText_total (a b : LedgerEntry) : (byText a b || byText b a) = true := by
  unfold byText
  rcases le_total a.stageCompletedAt.text b.stageCompletedAt.text with le | ge
  · simp [le]
  · simp [ge]

theorem searched_perm (entries : List LedgerEntry) : (searched entries).Perm entries := List.mergeSort_perm _ _

theorem searched_split {entries before after : List LedgerEntry} {entry : LedgerEntry}
    (split : searched entries = before ++ entry :: after) :
    (∀ e ∈ before, e.stageCompletedAt.text ≤ entry.stageCompletedAt.text) ∧
      ∀ e ∈ after, entry.stageCompletedAt.text ≤ e.stageCompletedAt.text := by
  have ordered : (searched entries).Pairwise (byText · ·) := List.pairwise_mergeSort byText_trans byText_total entries
  rw [split] at ordered
  obtain ⟨-, later, across⟩ := List.pairwise_append.mp ordered
  constructor
  · intro e there
    exact of_decide_eq_true (across e there entry List.mem_cons_self)
  · intro e there
    exact of_decide_eq_true ((List.pairwise_cons.mp later).1 e there)

/-- Entries with one text were completed at one moment. -/
theorem completed_of_text {a b : LedgerEntry} (same : a.stageCompletedAt.text = b.stageCompletedAt.text) :
    a.completed = b.completed := by
  have stamps : a.stageCompletedAt = b.stageCompletedAt := by
    cases a' : a.stageCompletedAt
    cases b' : b.stageCompletedAt
    rw [a', b'] at same
    cases same
    rfl
  unfold LedgerEntry.completed
  rw [stamps]

/-- A later window has its crossing no later in the order of the texts. -/
theorem searchable_of_within {metric : RuntimeTokenMetric} {threshold : Nat} {entries entries' before : List LedgerEntry}
    {entry : LedgerEntry} (within : entries'.Sublist entries)
    (searchable : Searchable metric threshold (tokens metric entries) (searched entries))
    (crosses : Crosses metric threshold (tokens metric entries) (searched entries) before entry) :
    Searchable metric threshold (tokens metric entries') (searched entries') := by
  obtain ⟨after, split, above, below⟩ := crosses
  obtain ⟨front, back⟩ := searched_split split
  have total := tokens_perm metric (searched_perm entries)
  rw [split, tokens_append, tokens_cons] at total
  have under : tokens metric after < threshold := by
    rw [tokens_append, tokens_cons, tokens_nil] at below
    omega
  intro before' entry' after' split' above'
  obtain ⟨-, back'⟩ := searched_split split'
  have total' := tokens_perm metric (searched_perm entries')
  rw [split', tokens_append, tokens_cons] at total'
  have kept : entry' ∈ before ++ entry :: after := by
    rw [← split]
    apply (searched_perm entries).mem_iff.mpr
    apply within.subset
    apply (searched_perm entries').mem_iff.mp
    rw [split']
    exact List.mem_append_right _ List.mem_cons_self
  rcases lt_trichotomy entry'.stageCompletedAt.text entry.stageCompletedAt.text with earlier | same | later
  · -- Such an entry was passed by the search in the larger window, too.
    rcases List.mem_append.mp kept with passed | ahead
    · obtain ⟨front', rest', passed⟩ := List.append_of_mem passed
      apply searchable front' entry' (rest' ++ entry :: after) (by rw [split, passed, List.append_assoc, List.cons_append])
      rw [passed, tokens_append] at above
      omega
    · rcases List.mem_cons.mp ahead with rfl | ahead
      · exact absurd earlier (lt_irrefl _)
      · exact absurd (back entry' ahead) (not_le_of_gt earlier)
  · have expires : entry.Expires := searchable before entry after split above
    unfold LedgerEntry.Expires at *
    rwa [completed_of_text same]
  · -- All that is left from here on comes after the crossing of the larger window, and is below the threshold.
    exfalso
    let beyond : LedgerEntry → Bool := fun e => decide (entry.stageCompletedAt.text < e.stageCompletedAt.text)
    have rest : (entry' :: after').filter beyond = entry' :: after' := by
      apply List.filter_eq_self.mpr
      intro e there
      rcases List.mem_cons.mp there with rfl | there
      · exact decide_eq_true later
      · exact decide_eq_true (later.trans_le (back' e there))
    have passed : before.filter beyond = [] := by
      apply List.filter_eq_nil_iff.mpr
      intro e there held
      exact absurd (of_decide_eq_true held) (not_lt_of_ge (front e there))
    have left : ((before ++ entry :: after).filter beyond).Sublist after := by
      have itself : ¬beyond entry = true := fun held => absurd (of_decide_eq_true held) (lt_irrefl _)
      rw [List.filter_append, passed, List.nil_append, List.filter_cons_of_neg itself]
      exact List.filter_sublist
    have tail : (entry' :: after').Sublist ((searched entries').filter beyond) := by
      rw [split', List.filter_append, rest]
      exact List.sublist_append_right _ _
    have counts : tokens metric (entry' :: after') ≤ tokens metric after := calc
      tokens metric (entry' :: after') ≤ tokens metric ((searched entries').filter beyond) := tokens_sublist metric tail
      _ = tokens metric (entries'.filter beyond) := tokens_perm metric ((searched_perm entries').filter beyond)
      _ ≤ tokens metric (entries.filter beyond) := tokens_sublist metric (within.filter beyond)
      _ = tokens metric ((searched entries).filter beyond) := (tokens_perm metric ((searched_perm entries).filter beyond)).symm
      _ ≤ tokens metric after := by
        rw [split]
        exact tokens_sublist metric left
    rw [tokens_cons] at counts
    omega

/-! ## The reported moment -/

variable [Rfc3339Writer]

/-- The rule reports the first moment at which it does not block any more. -/
def ExactResume (overflow : Overflow) (entries : List LedgerEntry) (now : Timestamp) (daemonSessionId : Option String)
    (rule : RuntimeTokenRule) : Prop :=
  rule.window = .rolling5h → ∀ blocker, evaluateRuntimeTokenRule overflow entries now daemonSessionId rule = .ok (some blocker) →
    ∃ resume, blocker.nextAutoResumeAt = some resume ∧
      evaluateRuntimeTokenRule overflow entries resume daemonSessionId rule = .ok none ∧
        ∀ t : Timestamp, now.instant.moment.nanoseconds < t.instant.moment.nanoseconds →
          t.instant.moment.nanoseconds < resume.instant.moment.nanoseconds → Raises overflow entries t daemonSessionId rule

omit [Rfc3339Writer] in
/-- The computed sum of the entries since a moment reaches the threshold, and its search can be made. -/
def Full (overflow : Overflow) (entries : List LedgerEntry) (rule : RuntimeTokenRule) (instant : Int) (total : Nat) : Prop :=
  reckoned overflow rule.metric (since entries instant) = some total ∧ rule.threshold.toNat ≤ total ∧
    Searchable rule.metric rule.threshold.toNat total (searched (since entries instant))

/-- Where the rule blocks, its sum falls below the threshold at an entry which is, with those completed at its moment or
later, below the threshold, but not with those completed a nanosecond before. Sums that do not fit a word can rise
again, so that they have to be looked at for each moment in between. -/
def Relieved (overflow : Overflow) (entries : List LedgerEntry) (now : Timestamp) (rule : RuntimeTokenRule) : Prop :=
  rule.window = .rolling5h → ∀ total, Full overflow entries rule (now.instant.moment.nanoseconds - fiveHours) total →
    ∃ before entry,
      Crosses rule.metric rule.threshold.toNat total (searched (since entries (now.instant.moment.nanoseconds - fiveHours)))
        before entry ∧
      Below overflow rule.metric rule.threshold (since entries entry.completed.nanoseconds) ∧
      if tokens rule.metric (since entries (now.instant.moment.nanoseconds - fiveHours)) < limit then
        rule.threshold.toNat ≤ tokens rule.metric (since entries (entry.completed.nanoseconds - 1))
      else
        ∀ t : Timestamp, now.instant.moment.nanoseconds < t.instant.moment.nanoseconds →
          t.instant.moment.nanoseconds < entry.completed.nanoseconds + fiveHours →
            ∃ total, Full overflow entries rule (t.instant.moment.nanoseconds - fiveHours) total

section Relief
variable {overflow : Overflow} {entries before : List LedgerEntry} {entry : LedgerEntry} {now : Timestamp}
  {daemonSessionId : Option String} {rule : RuntimeTokenRule}

theorem rolling_raises_iff (lawful : Rfc3339Writer.Lawful) (rolling : rule.window = .rolling5h) :
    Raises overflow entries now daemonSessionId rule ↔
      ∃ total, Full overflow entries rule (now.instant.moment.nanoseconds - fiveHours) total := by
  rw [raises_iff_reckoned lawful, counted_rolling rolling]
  unfold Full Resumable
  rw [rolling]
  rfl

theorem rolling_silent_iff (rolling : rule.window = .rolling5h) :
    evaluateRuntimeTokenRule overflow entries now daemonSessionId rule = .ok none ↔
      Below overflow rule.metric rule.threshold (since entries (now.instant.moment.nanoseconds - fiveHours)) := by
  rw [silent_iff, counted_rolling rolling]

/-- What a rolling blocker reports. -/
theorem rolling_blocker (lawful : Rfc3339Writer.Lawful) (rolling : rule.window = .rolling5h) {blocker : Blocker}
    (blocks : evaluateRuntimeTokenRule overflow entries now daemonSessionId rule = .ok (some blocker)) :
    ∃ total, Full overflow entries rule (now.instant.moment.nanoseconds - fiveHours) total ∧
      ((∀ before entry, ¬Crosses rule.metric rule.threshold.toNat total
          (searched (since entries (now.instant.moment.nanoseconds - fiveHours))) before entry) →
        blocker.nextAutoResumeAt = none) ∧
      ∀ before entry, Crosses rule.metric rule.threshold.toNat total
          (searched (since entries (now.instant.moment.nanoseconds - fiveHours))) before entry →
        ∃ resume, blocker.nextAutoResumeAt = some resume ∧ resume.instant.moment = entry.completed.shifted fiveHours := by
  obtain ⟨observed, ran, reaches, resumes, -⟩ := observed_of_blocker blocks
  have full : ∃ total, Full overflow entries rule (now.instant.moment.nanoseconds - fiveHours) total :=
    (rolling_raises_iff lawful rolling).mp ⟨blocker, blocks⟩
  obtain ⟨total, full⟩ := full
  refine ⟨total, full, ?_⟩
  have value : total = observed.toNat := by
    have reckons := full.1
    rcases observedMetric_reckoned overflow rule.metric (counted entries now daemonSessionId rule) with
      ⟨observed', ran', value⟩ | ⟨ran', -⟩
    · cases ran.symm.trans ran'
      rw [counted_rolling rolling, reckons] at value
      exact Option.some.inj value
    · cases ran.symm.trans ran'
  obtain ⟨-, -, searchable⟩ := full
  subst value
  unfold runtimeRuleNextResume at resumes
  rw [rolling] at resumes
  dsimp only at resumes
  rw [ran, ok_bind, counted_rolling rolling] at resumes
  change (nextUnder rule.metric rule.threshold observed (searched _) >>= _) = _ at resumes
  constructor
  · intro stays
    rw [nextUnder_of_none reaches searchable stays, ok_bind] at resumes
    exact (Except.ok.inj resumes).symm
  · intro before entry crosses
    have expires : entry.Expires := by
      obtain ⟨after, split, above, -⟩ := crosses
      exact searchable before entry after split above
    obtain ⟨t, written, moment⟩ := timestampFromOffset_of_printable lawful "next_auto_resume_at" (expiry_printable lawful expires)
    rw [nextUnder_of_crosses searchable crosses, ok_bind] at resumes
    dsimp only at resumes
    rw [written] at resumes
    exact ⟨t, (Except.ok.inj resumes).symm, moment⟩

omit [Rfc3339Writer] in
theorem full_of_fits {instant : Int} (fits : tokens rule.metric (since entries instant) < limit)
    (reaches : rule.threshold.toNat ≤ tokens rule.metric (since entries instant))
    (searchable : Searchable rule.metric rule.threshold.toNat (tokens rule.metric (since entries instant))
      (searched (since entries instant))) :
    Full overflow entries rule instant (tokens rule.metric (since entries instant)) :=
  ⟨reckoned_of_fits overflow _ _ fits, reaches, searchable⟩

/-- Sums that fit only fall, so that the last nanosecond speaks for each moment in between. -/
theorem full_between_iff (lawful : Rfc3339Writer.Lawful) {total : Nat}
    (full : Full overflow entries rule (now.instant.moment.nanoseconds - fiveHours) total)
    (crosses : Crosses rule.metric rule.threshold.toNat total
      (searched (since entries (now.instant.moment.nanoseconds - fiveHours))) before entry)
    (fits : tokens rule.metric (since entries (now.instant.moment.nanoseconds - fiveHours)) < limit) :
    (∀ t : Timestamp, now.instant.moment.nanoseconds < t.instant.moment.nanoseconds →
      t.instant.moment.nanoseconds < entry.completed.nanoseconds + fiveHours →
        ∃ total, Full overflow entries rule (t.instant.moment.nanoseconds - fiveHours) total) ↔
      rule.threshold.toNat ≤ tokens rule.metric (since entries (entry.completed.nanoseconds - 1)) := by
  obtain ⟨reckons, reaches, searchable⟩ := full
  rw [reckoned_of_fits overflow _ _ fits] at reckons
  cases reckons
  constructor
  · intro each
    by_cases between : now.instant.moment.nanoseconds < entry.completed.nanoseconds + fiveHours - 1
    · have expires : entry.Expires := by
        obtain ⟨after, split, above, -⟩ := crosses
        exact searchable before entry after split above
      have last : (entry.completed.shifted (fiveHours - 1)).Printable := by
        have printable := expiry_printable lawful expires
        have completed := lawful.reads entry.stageCompletedAt
        have start : 0 ≤ entry.completed.localTime := completed.start
        have hours : 0 ≤ fiveHours - 1 := by decide
        have before := printable.before
        rw [Moment.shifted_localTime] at before
        exact ⟨by rw [Moment.shifted_localTime]; omega, by rw [Moment.shifted_localTime]; omega, completed.minutes, completed.within⟩
      obtain ⟨t, -, moment⟩ := lawful.writes _ last
      have nanoseconds := congrArg Moment.nanoseconds moment
      rw [Moment.shifted_nanoseconds] at nanoseconds
      obtain ⟨total, reckons, above, -⟩ := each t (by omega) (by omega)
      have cutoff : t.instant.moment.nanoseconds - fiveHours = entry.completed.nanoseconds - 1 := by omega
      have smaller : tokens rule.metric (since entries (entry.completed.nanoseconds - 1)) < limit :=
        (tokens_sublist rule.metric (since_sublist (by omega))).trans_lt fits
      rw [cutoff, reckoned_of_fits overflow _ _ smaller] at reckons
      cases reckons
      exact above
    · exact reaches.trans (tokens_sublist rule.metric (since_sublist (by omega)))
  · intro above t later sooner
    have within : (since entries (t.instant.moment.nanoseconds - fiveHours)).Sublist
        (since entries (now.instant.moment.nanoseconds - fiveHours)) := since_sublist (by omega)
    have more : tokens rule.metric (since entries (entry.completed.nanoseconds - 1)) ≤
        tokens rule.metric (since entries (t.instant.moment.nanoseconds - fiveHours)) :=
      tokens_sublist rule.metric (since_sublist (by omega))
    exact ⟨_, full_of_fits ((tokens_sublist rule.metric within).trans_lt fits) (above.trans more)
      (searchable_of_within within searchable crosses)⟩

/-- The reported moment is exact just where the rule does not block, or is relieved at the entry where its sum falls
below the threshold. -/
theorem exactResume_iff (lawful : Rfc3339Writer.Lawful) (overflow : Overflow) (entries : List LedgerEntry)
    (now : Timestamp) (daemonSessionId : Option String) (rule : RuntimeTokenRule) :
    ExactResume overflow entries now daemonSessionId rule ↔ Relieved overflow entries now rule := by
  unfold ExactResume Relieved
  apply imp_congr_right
  intro rolling
  constructor
  · intro exact total full
    have raises : Raises overflow entries now daemonSessionId rule := (rolling_raises_iff lawful rolling).mpr ⟨total, full⟩
    obtain ⟨blocker, blocks⟩ := raises
    obtain ⟨total', full', none, some⟩ := rolling_blocker lawful rolling blocks
    cases Option.some.inj (full.1.symm.trans full'.1)
    obtain ⟨resume, reported, relieved, blocked⟩ := exact blocker blocks
    by_cases crossing : ∃ before entry, Crosses rule.metric rule.threshold.toNat total
        (searched (since entries (now.instant.moment.nanoseconds - fiveHours))) before entry
    · obtain ⟨before, entry, crosses⟩ := crossing
      obtain ⟨resume', reported', moment⟩ := some before entry crosses
      cases Option.some.inj (reported.symm.trans reported')
      have nanoseconds := congrArg Moment.nanoseconds moment
      rw [Moment.shifted_nanoseconds] at nanoseconds
      have each : ∀ t : Timestamp, now.instant.moment.nanoseconds < t.instant.moment.nanoseconds →
          t.instant.moment.nanoseconds < entry.completed.nanoseconds + fiveHours →
            ∃ total, Full overflow entries rule (t.instant.moment.nanoseconds - fiveHours) total := by
        intro t later sooner
        exact (rolling_raises_iff lawful rolling).mp (blocked t later (by omega))
      refine ⟨before, entry, crosses, ?_, ?_⟩
      · rw [rolling_silent_iff rolling, nanoseconds, Int.add_sub_cancel] at relieved
        exact relieved
      · split
        next fits => exact (full_between_iff lawful full crosses fits).mp each
        next => exact each
    · rw [none fun before entry crosses => crossing ⟨before, entry, crosses⟩] at reported
      cases reported
  · intro relieved blocker blocks
    obtain ⟨total, full, -, some⟩ := rolling_blocker lawful rolling blocks
    obtain ⟨before, entry, crosses, below, between⟩ := relieved total full
    obtain ⟨resume, reported, moment⟩ := some before entry crosses
    have nanoseconds := congrArg Moment.nanoseconds moment
    rw [Moment.shifted_nanoseconds] at nanoseconds
    refine ⟨resume, reported, ?_, ?_⟩
    · rw [rolling_silent_iff rolling, nanoseconds, Int.add_sub_cancel]
      exact below
    · intro t later sooner
      rw [rolling_raises_iff lawful rolling]
      split at between
      next fits => exact (full_between_iff lawful full crosses fits).mpr between t later (by omega)
      next => exact between t later (by omega)

/-- Where the texts of the entries are in the order of their moments, the rule still blocks at the moment it reports. -/
theorem not_exactResume_of_chronological (lawful : Rfc3339Writer.Lawful) (rolling : rule.window = .rolling5h)
    (chronological : ∀ a ∈ entries, ∀ b ∈ entries, a.stageCompletedAt.text ≤ b.stageCompletedAt.text →
      a.completed.nanoseconds ≤ b.completed.nanoseconds)
    (fits : tokens rule.metric entries < limit) (raises : Raises overflow entries now daemonSessionId rule) :
    ¬ExactResume overflow entries now daemonSessionId rule := by
  intro exact
  obtain ⟨blocker, blocks⟩ := raises
  obtain ⟨total, full, none, some⟩ := rolling_blocker lawful rolling blocks
  obtain ⟨resume, reported, relieved, -⟩ := exact rolling blocker blocks
  have smaller : tokens rule.metric (since entries (now.instant.moment.nanoseconds - fiveHours)) < limit :=
    (tokens_sublist rule.metric List.filter_sublist).trans_lt fits
  have value := full.1
  rw [reckoned_of_fits overflow _ _ smaller] at value
  cases value
  by_cases crossing : ∃ before entry, Crosses rule.metric rule.threshold.toNat
      (tokens rule.metric (since entries (now.instant.moment.nanoseconds - fiveHours)))
      (searched (since entries (now.instant.moment.nanoseconds - fiveHours))) before entry
  · obtain ⟨before, entry, crosses⟩ := crossing
    obtain ⟨resume', reported', moment⟩ := some before entry crosses
    cases Option.some.inj (reported.symm.trans reported')
    have nanoseconds := congrArg Moment.nanoseconds moment
    rw [Moment.shifted_nanoseconds] at nanoseconds
    rw [rolling_silent_iff rolling, nanoseconds, Int.add_sub_cancel] at relieved
    obtain ⟨left, reckons, under⟩ := relieved
    have left' : tokens rule.metric (since entries entry.completed.nanoseconds) < limit :=
      (tokens_sublist rule.metric List.filter_sublist).trans_lt fits
    rw [reckoned_of_fits overflow _ _ left'] at reckons
    cases reckons
    obtain ⟨after, split, above, -⟩ := crosses
    have total := tokens_perm rule.metric (searched_perm (since entries (now.instant.moment.nanoseconds - fiveHours)))
    rw [split, tokens_append] at total
    -- The crossing entry and those behind it are all completed at its moment or later.
    have member : ∀ e ∈ entry :: after, e ∈ entries := by
      intro e there
      have kept : e ∈ searched (since entries (now.instant.moment.nanoseconds - fiveHours)) := by
        rw [split]
        exact List.mem_append_right _ there
      exact List.mem_of_mem_filter ((searched_perm _).mem_iff.mp kept)
    have late : (entry :: after).filter (fun e => decide (entry.completed.nanoseconds ≤ e.completed.nanoseconds)) =
        entry :: after := by
      apply List.filter_eq_self.mpr
      intro e there
      apply decide_eq_true
      apply chronological entry (member entry List.mem_cons_self) e (member e there)
      rcases List.mem_cons.mp there with rfl | behind
      · exact le_refl _
      · exact (searched_split split).2 e behind
    have counts : tokens rule.metric (entry :: after) ≤ tokens rule.metric (since entries entry.completed.nanoseconds) := calc
      tokens rule.metric (entry :: after) = tokens rule.metric (since (entry :: after) entry.completed.nanoseconds) := by
        rw [since, late]
      _ ≤ tokens rule.metric (since (searched (since entries (now.instant.moment.nanoseconds - fiveHours)))
          entry.completed.nanoseconds) := by
        rw [split]
        exact tokens_sublist rule.metric ((List.sublist_append_right _ _).filter _)
      _ = tokens rule.metric (since (since entries (now.instant.moment.nanoseconds - fiveHours)) entry.completed.nanoseconds) :=
        tokens_perm rule.metric ((searched_perm _).filter _)
      _ ≤ tokens rule.metric (since entries entry.completed.nanoseconds) :=
        tokens_sublist rule.metric (List.filter_sublist.filter _)
    omega
  · rw [none fun before entry crosses => crossing ⟨before, entry, crosses⟩] at reported
    cases reported

end Relief

end

section Concrete
local instance readerOfRelief : Rfc3339 := morning.reader
local instance writerOfRelief : Rfc3339Writer := morning.writer

/-- An entry of nine o'clock, and one from just before it whose text comes later. -/
def aNanosecondApart : List LedgerEntry := [ledgerEntry "run-1" 60 nine, ledgerEntry "run-2" 60 justBeforeNine]

theorem aNanosecondApart_searched : searched aNanosecondApart = aNanosecondApart :=
  List.mergeSort_of_pairwise (by decide)

theorem aNanosecondApart_exact : ExactResume .wraps aNanosecondApart ten none hundredInFiveHours := by
  apply (exactResume_iff morning.lawful .wraps aNanosecondApart ten none hundredInFiveHours).mpr
  intro rolling total full
  have window : since aNanosecondApart (ten.instant.moment.nanoseconds - fiveHours) = aNanosecondApart := rfl
  have value := full.1
  rw [window] at value ⊢
  rw [aNanosecondApart_searched]
  cases value
  refine ⟨[], ledgerEntry "run-1" 60 nine, ⟨_, rfl, by decide, by decide⟩, ⟨60, rfl, by decide⟩, ?_⟩
  rw [if_pos (by decide)]
  decide

/-- A rolling rule with one entry still blocks at the moment that it reports. -/
theorem resume_blocks : ¬∀ (overflow : Overflow) (entries : List LedgerEntry) (now : Timestamp)
    (daemonSessionId : Option String) (rule : RuntimeTokenRule), ExactResume overflow entries now daemonSessionId rule := by
  intro exact
  have chronological : ∀ a ∈ [ledgerEntry "run-1" 160 nine], ∀ b ∈ [ledgerEntry "run-1" 160 nine],
      a.stageCompletedAt.text ≤ b.stageCompletedAt.text → a.completed.nanoseconds ≤ b.completed.nanoseconds := by
    intro a first b second _
    rw [List.mem_singleton.mp first, List.mem_singleton.mp second]
  have raises : Raises .panics [ledgerEntry "run-1" 160 nine] ten none hundredInFiveHours := by
    apply (rolling_raises_iff morning.lawful rfl).mpr
    have window : since [ledgerEntry "run-1" 160 nine] (ten.instant.moment.nanoseconds - fiveHours) =
        [ledgerEntry "run-1" 160 nine] := rfl
    refine ⟨160, rfl, by decide, ?_⟩
    rw [window, searched, List.mergeSort_singleton]
    exact searchable_of_expires fromNine_expires
  exact not_exactResume_of_chronological morning.lawful rfl chronological (by decide) raises
    (exact .panics [ledgerEntry "run-1" 160 nine] ten none hundredInFiveHours)

end Concrete

end Millrace.Governance
