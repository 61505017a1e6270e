import Millrace.Governance.Ledger
import Millrace.Governance.Windows
import Millrace.Runs

/-! Runs of the two writers of the token ledger: each result file is counted once. -/

set_option autoImplicit false

namespace Millrace.Governance
open Millrace.Action Millrace.Contracts Millrace.WorkDocuments Millrace.Runs Millrace.Text

section
variable [Rfc3339]

/-! ## Runs -/

/-- The ledger, and beside it the path that each of its entries was recorded for. -/
structure LedgerHistory where
  files : FileSystem
  ledger : List LedgerEntry
  sources : List WorkspacePath
  /-- The last step was a reconciliation to its end. -/
  reconciled : Bool

/-- The steps of a run; restarts between them change nothing that is stored. -/
inductive LedgerStep where
  /-- The runs write, change and remove files. -/
  | files (files : FileSystem)
  | record (result : StageResultEnvelope) (path : WorkspacePath) (countedAt : Timestamp) (daemonSessionId : Option String)
  | reconcile (countedAt : Timestamp) (daemonSessionId : Option String)
  /-- A reconciliation that is stopped after so many files. -/
  | interrupt (visited : Nat) (countedAt : Timestamp) (daemonSessionId : Option String)

namespace LedgerHistory

/-- The ledger that a step leaves, the new entries being those of these paths. -/
def extend (h : LedgerHistory) (ledger : List LedgerEntry) (paths : List WorkspacePath) (reconciled : Bool) : LedgerHistory where
  files := h.files
  ledger
  sources := h.sources ++ (ledger.drop h.ledger.length).filterMap fun entry =>
    paths.find? fun path => stageResultDedupeKey h.files path = entry.dedupeKey
  reconciled

def visit (config : UsageGovernanceConfig) (h : LedgerHistory) (countedAt : Timestamp) (daemonSessionId : Option String)
    (paths : List WorkspacePath) : List LedgerEntry :=
  after (reconcilePaths h.files config countedAt daemonSessionId paths (h.ledger.map (·.dedupeKey)) 0) h.ledger

def step (config : UsageGovernanceConfig) (h : LedgerHistory) : LedgerStep → LedgerHistory
  | .files files => { h with files, reconciled := false }
  | .record result path countedAt daemonSessionId =>
    h.extend (after (recordStageResultUsage h.files config result path countedAt daemonSessionId) h.ledger) [path] false
  | .reconcile countedAt daemonSessionId =>
    h.extend (after (reconcileUsageLedgerFromStageResults h.files config countedAt daemonSessionId) h.ledger)
      (stageResultPaths h.files) true
  | .interrupt visited countedAt daemonSessionId =>
    let paths := (stageResultPaths h.files).take visited
    h.extend (h.visit config countedAt daemonSessionId paths) paths false

end LedgerHistory

/-! ## What is claimed -/

/-- The file can be read and carries these token counts. -/
def Carries (files : FileSystem) (path : WorkspacePath) (usage : TokenUsage) : Prop :=
  ∃ result, files.stageResult path = some result ∧ result.tokenUsage = some usage

/-- No two entries were recorded for one file that is there. -/
def LedgerHistory.AtMostOnce (h : LedgerHistory) : Prop := (h.sources.filterMap h.files.canonicalize).Nodup

/-- Every result file that carries tokens has one entry, with its counts. -/
def LedgerHistory.ExactlyOnce (h : LedgerHistory) : Prop :=
  ∀ path ∈ stageResultPaths h.files, ∀ usage, Carries h.files path usage →
    (h.ledger.filter fun entry => entry.stageResultPath = stageResultDedupeKey h.files path).map (·.tokenUsage) = [usage]

def LedgerHistory.CountsOnce (h : LedgerHistory) : Prop := h.AtMostOnce ∧ (h.reconciled = true → h.ExactlyOnce)

/-! ## Sound steps -/

/-- Some character of the text is not blank. -/
def Solid (text : String) : Prop := trim text.toList ≠ []

instance (text : String) : Decidable (Solid text) := inferInstanceAs (Decidable (trim text.toList ≠ []))

/-- The ledger takes in an entry of this result. -/
def Countable (key : String) (result : StageResultEnvelope) : Prop :=
  Solid key ∧ Solid result.runId ∧ Solid result.stageKindId ∧ Solid result.workItemId

/-- Files with the same key carry the same counts, and the recorded ones keep their counts and their keys; a recorded
result is that of its file; a reconciliation meets no new result that the ledger refuses. -/
def Sound (h : LedgerHistory) : LedgerStep → Prop
  | .files files =>
    (∀ path path' usage usage', Carries files path usage → Carries files path' usage' →
      stageResultDedupeKey files path = stageResultDedupeKey files path' → usage = usage') ∧
    (∀ entry ∈ h.ledger, ∀ path usage, Carries files path usage →
      stageResultDedupeKey files path = entry.dedupeKey → entry.tokenUsage = usage) ∧
    List.Forall₂ (fun entry path => (files.canonicalize path).isSome → stageResultDedupeKey files path = entry.dedupeKey)
      h.ledger h.sources
  | .record result path _ _ => ∀ path' usage, Carries h.files path' usage →
      stageResultDedupeKey h.files path' = stageResultDedupeKey h.files path → result.tokenUsage = some usage
  | .reconcile _ _ => ∀ path ∈ stageResultPaths h.files, ∀ result, h.files.stageResult path = some result →
      result.tokenUsage ≠ none → stageResultDedupeKey h.files path ∉ h.ledger.map (·.dedupeKey) →
      Countable (stageResultDedupeKey h.files path) result
  | .interrupt _ _ _ => True

/-! ## What every step keeps -/

/-- Keys are distinct, each entry names its file by its key, and the ledger agrees with the files that are there. -/
structure LedgerHistory.Agrees (h : LedgerHistory) : Prop where
  distinct : FirstWins.Distinct LedgerEntry.dedupeKey h.ledger
  named : ∀ entry ∈ h.ledger, entry.stageResultPath = entry.dedupeKey
  keyed : List.Forall₂ (fun entry path => (h.files.canonicalize path).isSome →
    stageResultDedupeKey h.files path = entry.dedupeKey) h.ledger h.sources
  apart : ∀ path path' usage usage', Carries h.files path usage → Carries h.files path' usage' →
    stageResultDedupeKey h.files path = stageResultDedupeKey h.files path' → usage = usage'
  counted : ∀ entry ∈ h.ledger, ∀ path usage, Carries h.files path usage →
    stageResultDedupeKey h.files path = entry.dedupeKey → entry.tokenUsage = usage

namespace LedgerHistory.Agrees
variable {h : LedgerHistory}

theorem stageResultDedupeKey_of_same {files : FileSystem} {path path' file : WorkspacePath}
    (here : files.canonicalize path = some file) (there : files.canonicalize path' = some file) :
    stageResultDedupeKey files path = stageResultDedupeKey files path' := by
  unfold stageResultDedupeKey
  simp only [here, there, Option.getD_some]

/-- Distinct keys are distinct files. -/
theorem sources_nodup {ledger : List LedgerEntry} {sources : List WorkspacePath}
    (distinct : FirstWins.Distinct LedgerEntry.dedupeKey ledger)
    (keyed : List.Forall₂ (fun entry path => (h.files.canonicalize path).isSome →
      stageResultDedupeKey h.files path = entry.dedupeKey) ledger sources) :
    (sources.filterMap h.files.canonicalize).Nodup := by
  induction keyed with
  | nil => exact List.nodup_nil
  | @cons entry path ledger sources known rest ih =>
    obtain ⟨fresh, distinct⟩ := List.nodup_cons.mp distinct
    cases here : h.files.canonicalize path with
    | none =>
      rw [List.filterMap_cons_none here]
      exact ih distinct
    | some file =>
      rw [List.filterMap_cons_some here]
      refine List.nodup_cons.mpr ⟨?_, ih distinct⟩
      intro again
      obtain ⟨path', later, there⟩ := List.mem_filterMap.mp again
      obtain ⟨entry', member, known'⟩ : ∃ entry' ∈ ledger, (h.files.canonicalize path').isSome →
          stageResultDedupeKey h.files path' = entry'.dedupeKey := by
        obtain ⟨index, bound, rfl⟩ := List.mem_iff_getElem.mp later
        have paired := List.forall₂_iff_get.mp rest
        exact ⟨ledger.get ⟨index, paired.1.symm ▸ bound⟩, List.get_mem _ _, paired.2 index _ bound⟩
      have same : entry.dedupeKey = entry'.dedupeKey := by
        rw [← known (by simp [here]), ← known' (by simp [there])]
        exact stageResultDedupeKey_of_same here there
      exact fresh (same ▸ List.mem_map_of_mem member)

theorem atMostOnce (agrees : h.Agrees) : h.AtMostOnce := sources_nodup agrees.distinct agrees.keyed

/-- A file whose key is known has the one entry that tells its counts. -/
theorem once (agrees : h.Agrees) {path : WorkspacePath} {usage : TokenUsage} (carries : Carries h.files path usage)
    (known : stageResultDedupeKey h.files path ∈ h.ledger.map (·.dedupeKey)) :
    (h.ledger.filter fun entry => entry.stageResultPath = stageResultDedupeKey h.files path).map (·.tokenUsage) =
      [usage] := by
  obtain ⟨entry, member, same⟩ := List.mem_map.mp known
  have named : (h.ledger.filter fun e => e.stageResultPath = stageResultDedupeKey h.files path) =
      h.ledger.filter fun e => e.dedupeKey = entry.dedupeKey := by
    apply List.filter_congr
    intro e there
    rw [agrees.named e there, same]
  rw [named, agrees.distinct.filter_eq member, List.map_singleton, agrees.counted entry member path usage carries same.symm]

end LedgerHistory.Agrees

/-! ## What the writers append -/

/-- An entry for one of these paths, with the counts of every file of its key. -/
structure RecordedFor (files : FileSystem) (paths : List WorkspacePath) (entry : LedgerEntry) : Prop where
  named : entry.stageResultPath = entry.dedupeKey
  source : ∃ path ∈ paths, stageResultDedupeKey files path = entry.dedupeKey
  counted : ∀ path usage, Carries files path usage → stageResultDedupeKey files path = entry.dedupeKey →
    entry.tokenUsage = usage

/-- The ledger has grown by entries for these paths. -/
def Grows (files : FileSystem) (paths : List WorkspacePath) (ledger later : List LedgerEntry) : Prop :=
  FirstWins.Distinct LedgerEntry.dedupeKey later ∧
    ∃ added, later = ledger ++ added ∧ ∀ entry ∈ added, RecordedFor files paths entry

theorem Grows.refl {files : FileSystem} {paths : List WorkspacePath} {ledger : List LedgerEntry}
    (distinct : FirstWins.Distinct LedgerEntry.dedupeKey ledger) : Grows files paths ledger ledger :=
  ⟨distinct, [], (List.append_nil ledger).symm, fun _ member => absurd member List.not_mem_nil⟩

theorem RecordedFor.among {files : FileSystem} {paths paths' : List WorkspacePath} {entry : LedgerEntry}
    (recorded : RecordedFor files paths entry) (within : ∀ path ∈ paths, path ∈ paths') : RecordedFor files paths' entry where
  named := recorded.named
  source := by
    obtain ⟨path, member, same⟩ := recorded.source
    exact ⟨path, within path member, same⟩
  counted := recorded.counted

theorem Grows.after {files : FileSystem} {paths : List WorkspacePath} {path : WorkspacePath} {entry : LedgerEntry}
    {ledger later : List LedgerEntry} (first : RecordedFor files [path] entry)
    (grows : Grows files paths (ledger ++ [entry]) later) : Grows files (path :: paths) ledger later := by
  obtain ⟨distinct, added, rfl, each⟩ := grows
  refine ⟨distinct, entry :: added, by simp, List.forall_mem_cons.mpr ⟨?_, ?_⟩⟩
  · exact first.among fun p member => List.mem_singleton.mp member ▸ List.mem_cons_self
  · exact fun e member => (each e member).among fun p there => List.mem_cons_of_mem _ there

theorem Grows.later {files : FileSystem} {paths : List WorkspacePath} {path : WorkspacePath}
    {ledger later : List LedgerEntry} (grows : Grows files paths ledger later) : Grows files (path :: paths) ledger later := by
  obtain ⟨distinct, added, same, each⟩ := grows
  exact ⟨distinct, added, same, fun e member => (each e member).among fun p there => List.mem_cons_of_mem _ there⟩

theorem sources_keyed {files : FileSystem} {paths : List WorkspacePath} {added : List LedgerEntry}
    (each : ∀ entry ∈ added, RecordedFor files paths entry) :
    List.Forall₂ (fun entry path => (files.canonicalize path).isSome → stageResultDedupeKey files path = entry.dedupeKey)
      added (added.filterMap fun entry => paths.find? fun path => stageResultDedupeKey files path = entry.dedupeKey) := by
  induction added with
  | nil => exact .nil
  | cons entry added ih =>
    obtain ⟨first, rest⟩ := List.forall_mem_cons.mp each
    cases found : paths.find? fun path => stageResultDedupeKey files path = entry.dedupeKey with
    | none =>
      obtain ⟨path, member, same⟩ := first.source
      exact absurd (List.find?_eq_none.mp found path member) (by simp [same])
    | some path =>
      simp only [List.filterMap_cons, found]
      have same := List.find?_some found
      exact .cons (fun _ => of_decide_eq_true same) (ih rest)

theorem LedgerHistory.Agrees.extend {h : LedgerHistory} (agrees : h.Agrees) {paths : List WorkspacePath}
    {later : List LedgerEntry} (grows : Grows h.files paths h.ledger later) (reconciled : Bool) :
    (h.extend later paths reconciled).Agrees := by
  obtain ⟨distinct, added, rfl, each⟩ := grows
  have sources : (h.extend (h.ledger ++ added) paths reconciled).sources = h.sources ++ added.filterMap fun entry =>
      paths.find? fun path => stageResultDedupeKey h.files path = entry.dedupeKey := by
    unfold LedgerHistory.extend
    rw [List.drop_left]
  exact
    { distinct
      named := by
        intro entry member
        exact (List.mem_append.mp member).elim (agrees.named entry) fun new => (each entry new).named
      keyed := by
        rw [sources]
        exact List.rel_append agrees.keyed (sources_keyed each)
      apart := agrees.apart
      counted := by
        intro entry member
        exact (List.mem_append.mp member).elim (agrees.counted entry) fun new => (each entry new).counted }

/-! ## One entry -/

omit [Rfc3339] in
theorem requireNonBlank_eq_ok {fieldName value : String} : requireNonBlank fieldName value = .ok () ↔ Solid value := by
  unfold requireNonBlank Solid
  split
  next blank => simp [blank]
  next solid => simp [solid]

theorem validateContract_eq_ok {entry : LedgerEntry} (named : entry.stageResultPath = entry.dedupeKey) :
    entry.validateContract = .ok () ↔
      Solid entry.dedupeKey ∧ Solid entry.runId ∧ Solid entry.stageId ∧ Solid entry.workItemId := by
  unfold LedgerEntry.validateContract
  simp only [bind_unit_eq_ok, requireNonBlank_eq_ok, named, ne_eq, not_true_eq_false, if_false]
  constructor
  · rintro ⟨key, run, stage, item, -⟩
    exact ⟨key, run, stage, item⟩
  · rintro ⟨key, run, stage, item⟩
    exact ⟨key, run, stage, item, key, rfl⟩

section Writers
variable {files : FileSystem} {config : UsageGovernanceConfig} {countedAt : Timestamp} {daemonSessionId : Option String}

theorem appendEntry_ends {entry : LedgerEntry} {ledger : List LedgerEntry}
    (named : entry.stageResultPath = entry.dedupeKey) :
    Ensues ledger (appendUsageGovernanceLedgerEntry entry)
      (fun _ later => later = ledger ++ [entry] ∧
        Solid entry.dedupeKey ∧ Solid entry.runId ∧ Solid entry.stageId ∧ Solid entry.workItemId)
      fun _ later => later = ledger ∧
        ¬(Solid entry.dedupeKey ∧ Solid entry.runId ∧ Solid entry.stageId ∧ Solid entry.workItemId) := by
  unfold appendUsageGovernanceLedgerEntry
  cases checked : entry.validateContract with
  | ok _ =>
    have solid := (validateContract_eq_ok named).mp checked
    exact (Ensues.modify _).weaken (fun _ _ appended => ⟨appended, solid⟩) fun _ _ ends => ends
  | error source =>
    refine .throw ⟨rfl, fun solid => ?_⟩
    rw [(validateContract_eq_ok named).mpr solid] at checked
    cases checked

variable (files countedAt daemonSessionId) in
/-- The entry that a result with token counts makes. -/
theorem ledgerEntry_made {result : StageResultEnvelope} (path : WorkspacePath) {usage : TokenUsage}
    (carried : result.tokenUsage = some usage) :
    ∃ entry, ledgerEntryFromStageResult files result path countedAt daemonSessionId = .ok entry ∧
      entry.dedupeKey = stageResultDedupeKey files path ∧ entry.stageResultPath = entry.dedupeKey ∧
      entry.tokenUsage = usage ∧
      (Solid entry.dedupeKey ∧ Solid entry.runId ∧ Solid entry.stageId ∧ Solid entry.workItemId ↔
        Countable (stageResultDedupeKey files path) result) := by
  unfold ledgerEntryFromStageResult
  rw [carried]
  exact ⟨_, rfl, rfl, rfl, rfl, Iff.rfl⟩

/-- What the appending of a new result leaves. -/
theorem appendResult_ends {result : StageResultEnvelope} {path : WorkspacePath} {usage : TokenUsage}
    (carried : result.tokenUsage = some usage)
    (counted : ∀ path' usage', Carries files path' usage' →
      stageResultDedupeKey files path' = stageResultDedupeKey files path → usage = usage')
    {ledger : List LedgerEntry} (distinct : FirstWins.Distinct LedgerEntry.dedupeKey ledger)
    (fresh : stageResultDedupeKey files path ∉ ledger.map (·.dedupeKey)) {α : Type} {rest : LedgerAction α}
    {Q : α → List LedgerEntry → Prop} {E : StateStoreError → List LedgerEntry → Prop}
    (appended : ∀ entry, entry.dedupeKey = stageResultDedupeKey files path → RecordedFor files [path] entry →
      FirstWins.Distinct LedgerEntry.dedupeKey (ledger ++ [entry]) → Ensues (ledger ++ [entry]) rest Q E)
    (refused : ∀ e, ¬Countable (stageResultDedupeKey files path) result → E e ledger) :
    Ensues ledger (do
      let entry ← MonadExcept.ofExcept (ledgerEntryFromStageResult files result path countedAt daemonSessionId)
      appendUsageGovernanceLedgerEntry entry
      rest) Q E := by
  obtain ⟨entry, made, key, named, tokens, solid⟩ := ledgerEntry_made files countedAt daemonSessionId path carried
  have recorded : RecordedFor files [path] entry :=
    { named
      source := ⟨path, List.mem_singleton_self path, key.symm⟩
      counted := fun path' usage' carries same => tokens.trans (counted path' usage' carries (same.trans key)) }
  rw [made]
  refine Ensues.bind (Q := fun e t => e = entry ∧ t = ledger) (.pure ⟨rfl, rfl⟩) ?_
  rintro _ _ ⟨rfl, rfl⟩
  refine .bind ((appendEntry_ends named).weaken (fun _ _ ends => ends.1) ?_) ?_
  · rintro e _ ⟨rfl, blank⟩
    exact refused e fun countable => blank (solid.mpr countable)
  · rintro _ _ rfl
    exact appended _ key recorded (distinct.append (key ▸ fresh))

/-! ## The passes -/

/-- The keys that a pass knows are those of the ledger. -/
def Knows (known : List String) (ledger : List LedgerEntry) : Prop :=
  ∀ key, key ∈ known ↔ key ∈ ledger.map (·.dedupeKey)

theorem Knows.append {known : List String} {ledger : List LedgerEntry} {entry : LedgerEntry} {key : String}
    (knows : Knows known ledger) (same : entry.dedupeKey = key) : Knows (key :: known) (ledger ++ [entry]) := by
  intro other
  rw [List.mem_cons, knows other, List.map_append, List.mem_append, List.map_singleton, List.mem_singleton, same]
  exact or_comm

/-- A result file that is not in the ledger and that the ledger refuses. -/
def Refused (files : FileSystem) (paths : List WorkspacePath) (ledger : List LedgerEntry) : Prop :=
  ∃ path ∈ paths, ∃ result, files.stageResult path = some result ∧ result.tokenUsage ≠ none ∧
    stageResultDedupeKey files path ∉ ledger.map (·.dedupeKey) ∧ ¬Countable (stageResultDedupeKey files path) result

theorem Refused.later {path : WorkspacePath} {paths : List WorkspacePath} {ledger added : List LedgerEntry}
    (refused : Refused files paths (ledger ++ added)) : Refused files (path :: paths) ledger := by
  obtain ⟨path, member, result, read, carried, fresh, blank⟩ := refused
  refine ⟨path, List.mem_cons_of_mem _ member, result, read, carried, fun known => fresh ?_, blank⟩
  rw [List.map_append]
  exact List.mem_append_left _ known

/-- A pass grows the ledger; to its end, it leaves no file with counts unrecorded. -/
theorem reconcilePaths_ends (counts : config.enabled = true ∧ config.runtimeTokenRules.enabled = true)
    (apart : ∀ path path' usage usage', Carries files path usage → Carries files path' usage' →
      stageResultDedupeKey files path = stageResultDedupeKey files path' → usage = usage')
    (paths : List WorkspacePath) (known : List String) (repaired : Nat) (ledger : List LedgerEntry)
    (distinct : FirstWins.Distinct LedgerEntry.dedupeKey ledger) (knows : Knows known ledger) :
    Ensues ledger (reconcilePaths files config countedAt daemonSessionId paths known repaired)
      (fun _ later => Grows files paths ledger later ∧ ∀ path ∈ paths, ∀ usage, Carries files path usage →
        stageResultDedupeKey files path ∈ later.map (·.dedupeKey))
      fun _ later => Grows files paths ledger later ∧ Refused files paths ledger := by
  induction paths generalizing known repaired ledger with
  | nil => exact .pure ⟨.refl distinct, fun _ member => absurd member List.not_mem_nil⟩
  | cons path rest ih =>
    -- a file that is passed over is in the ledger, or has nothing to count
    have passed (settled : ∀ usage, Carries files path usage → stageResultDedupeKey files path ∈
        ledger.map (·.dedupeKey)) :
        Ensues ledger (reconcilePaths files config countedAt daemonSessionId rest known repaired)
          (fun _ later => Grows files (path :: rest) ledger later ∧ ∀ p ∈ path :: rest, ∀ usage,
            Carries files p usage → stageResultDedupeKey files p ∈ later.map (·.dedupeKey))
          fun _ later => Grows files (path :: rest) ledger later ∧ Refused files (path :: rest) ledger := by
      refine (ih known repaired ledger distinct knows).weaken ?_ ?_
      · rintro _ later ⟨grows, all⟩
        refine ⟨grows.later, List.forall_mem_cons.mpr ⟨fun usage carries => ?_, all⟩⟩
        obtain ⟨-, added, rfl, -⟩ := grows
        rw [List.map_append]
        exact List.mem_append_left _ (settled usage carries)
      · rintro _ later ⟨grows, refused⟩
        have unchanged : Refused files rest (ledger ++ []) := by rwa [List.append_nil]
        exact ⟨grows.later, unchanged.later⟩
    unfold reconcilePaths
    dsimp only
    split
    next here => exact passed fun _ _ => (knows _).mp (by simpa using here)
    next new =>
      have fresh : stageResultDedupeKey files path ∉ ledger.map (·.dedupeKey) :=
        fun there => new (by simpa using (knows _).mpr there)
      cases read : files.stageResult path with
      | none =>
        refine passed fun usage carries => ?_
        obtain ⟨result, found, -⟩ := carries
        rw [read] at found
        cases found
      | some result =>
        dsimp only
        cases carried : result.tokenUsage with
        | none =>
          rw [if_pos (by simp [shouldRecordRuntimeTokens, carried])]
          refine passed fun usage carries => ?_
          obtain ⟨result', found, counts'⟩ := carries
          rw [read] at found
          obtain rfl := Option.some.inj found
          rw [carried] at counts'
          cases counts'
        | some usage =>
          rw [if_neg (by simp [shouldRecordRuntimeTokens, carried, counts])]
          refine appendResult_ends carried ?_ distinct fresh ?_ ?_
          · exact fun path' usage' carries same => apart path path' usage usage' ⟨result, read, carried⟩ carries same.symm
          · intro entry key recorded distinct'
            refine (ih _ (repaired + 1) _ distinct' (knows.append key)).weaken ?_ ?_
            · rintro _ later ⟨grows, all⟩
              refine ⟨grows.after recorded, List.forall_mem_cons.mpr ⟨fun _ _ => ?_, all⟩⟩
              obtain ⟨-, added, rfl, -⟩ := grows
              rw [← key]
              exact List.mem_map_of_mem (by simp)
            · rintro _ later ⟨grows, refused⟩
              exact ⟨grows.after recorded, refused.later⟩
          · intro _ blank
            refine ⟨.refl distinct, path, List.mem_cons_self, result, read, ?_, fresh, blank⟩
            rw [carried]
            exact Option.some_ne_none usage

theorem recordStageResultUsage_grows {result : StageResultEnvelope} {path : WorkspacePath} {ledger : List LedgerEntry}
    (distinct : FirstWins.Distinct LedgerEntry.dedupeKey ledger)
    (counted : ∀ path' usage, Carries files path' usage →
      stageResultDedupeKey files path' = stageResultDedupeKey files path → result.tokenUsage = some usage) :
    Grows files [path] ledger (after (recordStageResultUsage files config result path countedAt daemonSessionId) ledger) := by
  apply Ensues.after
  unfold recordStageResultUsage loadedKeys
  apply Ensues.ite
  · exact fun _ => .pure (.refl distinct)
  · intro counts
    refine Ensues.bind (Q := fun keys t => keys = ledger.map (·.dedupeKey) ∧ t = ledger) (.get (.pure ⟨rfl, rfl⟩)) ?_
    rintro _ _ ⟨rfl, rfl⟩
    apply Ensues.ite
    · exact fun _ => .pure (.refl distinct)
    · intro new
      cases carried : result.tokenUsage with
      | none => exact absurd (by simp [shouldRecordRuntimeTokens, carried]) counts
      | some usage =>
        refine appendResult_ends carried ?_ distinct (by simpa using new) ?_ fun _ _ => .refl distinct
        · intro path' usage' carries same
          exact Option.some.inj (carried.symm.trans (counted path' usage' carries same))
        · exact fun entry _ recorded distinct' => .pure ⟨distinct', [entry], rfl, by simpa using recorded⟩

end Writers

/-! ## Steps and runs -/

section Steps
variable {config : UsageGovernanceConfig} {h : LedgerHistory}

theorem LedgerHistory.Agrees.visit (counts : config.enabled = true ∧ config.runtimeTokenRules.enabled = true)
    (agrees : h.Agrees) (countedAt : Timestamp) (daemonSessionId : Option String) (paths : List WorkspacePath) :
    Grows h.files paths h.ledger (h.visit config countedAt daemonSessionId paths) := by
  unfold LedgerHistory.visit
  apply Ensues.after
  exact (reconcilePaths_ends counts agrees.apart paths _ 0 h.ledger agrees.distinct fun _ => Iff.rfl).weaken
    (fun _ _ ends => ends.1) fun _ _ ends => ends.1

/-- A reconciliation is a pass over all result files. -/
theorem step_reconcile (counts : config.enabled = true ∧ config.runtimeTokenRules.enabled = true)
    (countedAt : Timestamp) (daemonSessionId : Option String) :
    h.step config (.reconcile countedAt daemonSessionId) =
      h.extend (h.visit config countedAt daemonSessionId (stageResultPaths h.files)) (stageResultPaths h.files) true := by
  show h.extend (after (reconcileUsageLedgerFromStageResults h.files config countedAt daemonSessionId) h.ledger)
    (stageResultPaths h.files) true = _
  unfold reconcileUsageLedgerFromStageResults
  rw [if_neg (not_not_intro counts)]
  rfl

theorem LedgerHistory.Agrees.next (counts : config.enabled = true ∧ config.runtimeTokenRules.enabled = true)
    (agrees : h.Agrees) (step : LedgerStep) (sound : Sound h step) : (h.step config step).Agrees := by
  cases step with
  | files files =>
    obtain ⟨apart, counted, keyed⟩ := sound
    exact { distinct := agrees.distinct, named := agrees.named, keyed, apart, counted }
  | record result path countedAt daemonSessionId =>
    exact agrees.extend (recordStageResultUsage_grows agrees.distinct sound) false
  | reconcile countedAt daemonSessionId =>
    rw [step_reconcile counts]
    exact agrees.extend (agrees.visit counts countedAt daemonSessionId _) true
  | interrupt visited countedAt daemonSessionId =>
    exact agrees.extend (agrees.visit counts countedAt daemonSessionId _) false

/-- After a reconciliation that is refused no result, every file with counts is in the ledger. -/
theorem LedgerHistory.Agrees.exactlyOnce (counts : config.enabled = true ∧ config.runtimeTokenRules.enabled = true)
    (agrees : h.Agrees) {countedAt : Timestamp} {daemonSessionId : Option String}
    (sound : Sound h (.reconcile countedAt daemonSessionId)) :
    (h.step config (.reconcile countedAt daemonSessionId)).ExactlyOnce := by
  have agreeing := agrees.next counts (.reconcile countedAt daemonSessionId) sound
  have all : ∀ path ∈ stageResultPaths h.files, ∀ usage, Carries h.files path usage →
      stageResultDedupeKey h.files path ∈
        (h.visit config countedAt daemonSessionId (stageResultPaths h.files)).map (·.dedupeKey) := by
    unfold LedgerHistory.visit
    refine Ensues.after (P := fun later : List LedgerEntry => ∀ path ∈ stageResultPaths h.files, ∀ usage, Carries h.files path usage →
      stageResultDedupeKey h.files path ∈ later.map (·.dedupeKey)) ?_
    refine (reconcilePaths_ends counts agrees.apart _ _ 0 h.ledger agrees.distinct fun _ => Iff.rfl).weaken
      (fun _ _ ends => ends.2) ?_
    rintro _ later ⟨-, path, member, result, read, carried, fresh, blank⟩
    exact absurd (sound path member result read carried fresh) blank
  rw [step_reconcile counts] at agreeing ⊢
  exact fun path member usage carries => agreeing.once carries (all path member usage carries)

theorem LedgerHistory.Agrees.countsOnce (counts : config.enabled = true ∧ config.runtimeTokenRules.enabled = true)
    (agrees : h.Agrees) (step : LedgerStep) (sound : Sound h step) : (h.step config step).CountsOnce := by
  refine ⟨(agrees.next counts step sound).atMostOnce, fun reconciled => ?_⟩
  cases step with
  | reconcile countedAt daemonSessionId => exact agrees.exactlyOnce counts sound
  | files files => cases reconciled
  | record result path countedAt daemonSessionId => cases reconciled
  | interrupt visited countedAt daemonSessionId => cases reconciled

/-- A workspace without a ledger, of whose files none carries the counts of another under the same key. -/
def LedgerHistory.start (files : FileSystem) : LedgerHistory := ⟨files, [], [], false⟩

/-- Over every run of sound steps each result file is counted at most once, and exactly once where the run has
reconciled the ledger with the files. -/
theorem results_counted_once (config : UsageGovernanceConfig)
    (counts : config.enabled = true ∧ config.runtimeTokenRules.enabled = true) (files : FileSystem)
    (apart : ∀ path path' usage usage', Carries files path usage → Carries files path' usage' →
      stageResultDedupeKey files path = stageResultDedupeKey files path' → usage = usage')
    (run : List LedgerStep) (sound : Along (LedgerHistory.step config) Sound (.start files) run) :
    Throughout (LedgerHistory.step config) LedgerHistory.CountsOnce (.start files) run := by
  have first : (LedgerHistory.start files).Agrees ∧ (LedgerHistory.start files).CountsOnce := by
    have agrees : (LedgerHistory.start files).Agrees :=
      { distinct := FirstWins.distinct_nil
        named := fun _ member => absurd member List.not_mem_nil
        keyed := .nil
        apart
        counted := fun _ member => absurd member List.not_mem_nil }
    exact ⟨agrees, agrees.atMostOnce, Bool.false_ne_true.elim⟩
  have kept : Throughout (LedgerHistory.step config) (fun h => h.Agrees ∧ h.CountsOnce) (.start files) run :=
    sound.throughout first fun h step ends met => ⟨ends.1.next counts step met, ends.1.countsOnce counts step met⟩
  rw [throughout_iff] at kept ⊢
  exact fun before reached => (kept before reached).2

/-- A pass ends at the first new result that the ledger refuses. -/
theorem reconcilePaths_stops (counts : config.enabled = true ∧ config.runtimeTokenRules.enabled = true)
    {files : FileSystem} {path : WorkspacePath} {result : StageResultEnvelope} {usage : TokenUsage}
    {known : List String} (fresh : stageResultDedupeKey files path ∉ known)
    (read : files.stageResult path = some result) (carried : result.tokenUsage = some usage)
    (refused : ¬Countable (stageResultDedupeKey files path) result) (countedAt : Timestamp)
    (daemonSessionId : Option String) (rest : List WorkspacePath) (repaired : Nat) (ledger : List LedgerEntry) :
    after (reconcilePaths files config countedAt daemonSessionId (path :: rest) known repaired) ledger = ledger := by
  refine Ensues.after (P := fun later => later = ledger) ?_
  obtain ⟨entry, made, -, named, -, solid⟩ := ledgerEntry_made files countedAt daemonSessionId path carried
  unfold reconcilePaths
  dsimp only
  rw [if_neg (by simpa using fresh), read]
  dsimp only
  rw [if_neg (by simp [shouldRecordRuntimeTokens, carried, counts]), made]
  refine Ensues.bind (Q := fun e t => e = entry ∧ t = ledger) (.pure ⟨rfl, rfl⟩) ?_
  rintro _ _ ⟨rfl, rfl⟩
  refine .bind ((appendEntry_ends named).weaken (fun _ _ ends => ends.2) fun _ _ ends => ends.1) ?_
  exact fun _ _ countable => absurd (solid.mp countable) refused

end Steps

end

/-! ## A result without a run -/

section Concrete
local instance readerOfLedger : Rfc3339 := morning.reader

def workspaceRoot : WorkspacePath := [.root, .name (Runtime.PollWatcher.path ['w'])]

def runsDirectory : WorkspacePath := workspaceRoot.join (Runtime.PollWatcher.path ['r'])

/-- The result file of the run in this directory. -/
def resultFile (run : Char) : WorkspacePath :=
  ((runsDirectory.join (Runtime.PollWatcher.path [run])).join (Runtime.PollWatcher.path "stage_results".toList)).join
    (Runtime.PollWatcher.path ['s', '.', 'j', 's', 'o', 'n'])

def sixtyTokens : TokenUsage :=
  { inputTokens := 0, cachedInputTokens := 0, outputTokens := 60, thinkingTokens := 0, totalTokens := 60 }

def builderResult (runId : String) : StageResultEnvelope where
  runId
  plane := .execution
  stageKindId := "builder"
  workItemKind := .task
  workItemId := "a"
  tokenUsage := some sixtyTokens
  completedAt := nine

/-- Runs with one result each. -/
def withRuns (runs : List (Char × String)) : FileSystem where
  root := workspaceRoot
  runsDir := runsDirectory
  canonicalize := some
  readDir path :=
    if path = runsDirectory then some (runs.map fun run => Runtime.PollWatcher.path [run.1])
    else some [Runtime.PollWatcher.path ['s', '.', 'j', 's', 'o', 'n']]
  isFile _ := true
  stageResult path := (runs.find? fun run => path = resultFile run.1).map fun run => builderResult run.2

def countingTokens : UsageGovernanceConfig := ⟨true, true, []⟩

theorem withRuns_carries {runs : List (Char × String)} {path : WorkspacePath} {usage : TokenUsage}
    (carries : Carries (withRuns runs) path usage) : usage = sixtyTokens := by
  obtain ⟨result, read, carried⟩ := carries
  obtain ⟨run, -, rfl⟩ := Option.map_eq_some_iff.mp read
  exact (Option.some.inj carried).symm

theorem withRuns_apart (runs : List (Char × String)) (path path' : WorkspacePath) (usage usage' : TokenUsage)
    (carries : Carries (withRuns runs) path usage) (carries' : Carries (withRuns runs) path' usage')
    (_ : stageResultDedupeKey (withRuns runs) path = stageResultDedupeKey (withRuns runs) path') : usage = usage' :=
  (withRuns_carries carries).trans (withRuns_carries carries').symm

/-- A recorded result of a run is not recorded again. -/
theorem recorded_once : Throughout (LedgerHistory.step countingTokens) LedgerHistory.CountsOnce
    (.start (withRuns [('a', "run-a")]))
    [.record (builderResult "run-a") (resultFile 'a') ten none, .reconcile ten none] := by
  refine results_counted_once countingTokens ⟨rfl, rfl⟩ _ (withRuns_apart _) _ ⟨?_, ?_, trivial⟩
  · exact fun _ _ carries _ => congrArg some (withRuns_carries carries).symm
  · intro path _ result read _ _
    obtain ⟨run, found, rfl⟩ := Option.map_eq_some_iff.mp read
    obtain rfl := List.mem_singleton.mp (List.mem_of_find?_eq_some found)
    have same : path = resultFile 'a' := by simpa using List.find?_some found
    subst same
    refine ⟨?_, by decide, by decide, by decide⟩
    unfold Solid stageResultDedupeKey
    rw [String.toList_ofList]
    decide

def twoRunFiles : FileSystem := withRuns [('a', ""), ('b', "run-b")]

theorem twoRunFiles_paths : stageResultPaths twoRunFiles = [resultFile 'a', resultFile 'b'] := by
  have discovered : stageResultPaths twoRunFiles =
      [resultFile 'a', resultFile 'b'].mergeSort WorkspacePath.byOrder := by
    unfold stageResultPaths
    rfl
  rw [discovered]
  exact List.mergeSort_of_pairwise (by decide)

/-- The result of a run without a name keeps every later one out of the ledger. -/
theorem nameless_run_blocks_others : ¬∀ (config : UsageGovernanceConfig),
    config.enabled = true ∧ config.runtimeTokenRules.enabled = true → ∀ (files : FileSystem),
    (∀ path path' usage usage', Carries files path usage → Carries files path' usage' →
      stageResultDedupeKey files path = stageResultDedupeKey files path' → usage = usage') →
    ∀ run : List LedgerStep, Throughout (LedgerHistory.step config) LedgerHistory.CountsOnce (.start files) run := by
  intro counted
  have once := (counted countingTokens ⟨rfl, rfl⟩ twoRunFiles (withRuns_apart _) [.reconcile ten none]).2
  have nothing : ((LedgerHistory.start twoRunFiles).step countingTokens (.reconcile ten none)).ledger = [] := by
    rw [step_reconcile ⟨rfl, rfl⟩]
    show LedgerHistory.visit _ _ _ _ _ = []
    unfold LedgerHistory.visit
    show after (reconcilePaths twoRunFiles _ _ _ (stageResultPaths twoRunFiles) [] 0) [] = []
    rw [twoRunFiles_paths]
    refine reconcilePaths_stops ⟨rfl, rfl⟩ List.not_mem_nil (rfl : _ = some (builderResult "")) rfl ?_ _ _ _ _ _
    rintro ⟨-, run, -⟩
    exact run rfl
  have exactly := once.2 rfl (resultFile 'b') (by
    show _ ∈ stageResultPaths twoRunFiles
    rw [twoRunFiles_paths]
    exact List.mem_cons_of_mem _ (List.mem_singleton_self _)) sixtyTokens ⟨builderResult "run-b", rfl, rfl⟩
  rw [nothing] at exactly
  cases exactly

end Concrete

end Millrace.Governance
