import Millrace.Advance
import Millrace.Application.Steps

/-! Writers of the recovery counters look for the very spelling of a failure class, readers for its normal form: when the
attempts read are the increments written. -/

set_option autoImplicit false

namespace Millrace.Application
open Millrace.Text Millrace.Contracts Millrace.Action Millrace.Runtime Millrace.Runs

/-! ## Increments -/

/-- What one increment counts. -/
structure Increment where
  failureClass : String
  item : WorkItemKind × String
  field : RecoveryCounterField
  deriving DecidableEq

def RecoveryCounterField.count (e : RecoveryCounterEntry) : RecoveryCounterField → Nat
  | .troubleshootAttemptCount => e.troubleshootAttemptCount
  | .mechanicAttemptCount => e.mechanicAttemptCount
  | .fixCycleCount => e.fixCycleCount
  | .consultantInvocations => e.consultantInvocations

/-- The entry of an increment goes up by one. -/
def recordIncrement (counters : RecoveryCounters) (i : Increment) : RecoveryCounters :=
  putRecoveryCounterEntry (i.field.increment (recoveryCounterEntry counters i.failureClass i.item.1 i.item.2)) counters

def staleActiveFailureClass : String := "stale_active_ownership"

/-- The startup counts its recovery of a run that the last process left behind. -/
def incrementRecoveryCounterForStage (snapshot : RuntimeSnapshot) (counters : RecoveryCounters) (stage : StageName) :
    Bool × RuntimeSnapshot × RecoveryCounters :=
  match activeWorkItem snapshot with
  | none => (false, snapshot, counters)
  | some (kind, id) =>
    let field : Option RecoveryCounterField := match stage with
      | .troubleshooter => some .troubleshootAttemptCount
      | .mechanic => some .mechanicAttemptCount
      | _ => none
    match field with
    | none => (false, snapshot, counters)
    | some field =>
      let entry := field.increment (recoveryCounterEntry counters staleActiveFailureClass kind id)
      (true, field.showIn entry snapshot, putRecoveryCounterEntry entry counters)

/-! ## Writers -/

/-- The writers of the counters: the route of a stage result, and the recovery at startup. Whatever else the session
holds may change between two of them. -/
inductive CounterWrite where
  | route (app : AppliedResult) (decision : RouterDecision) (session : DispatchSession)
  | startup (snapshot : RuntimeSnapshot) (stage : StageName)

namespace CounterWrite

def step (counters : RecoveryCounters) : CounterWrite → RecoveryCounters
  | .route app decision session =>
    match incrementRouteCounters app decision { session with counters := counters } with
    | .ok _ s => s.counters
    | .error _ s => s.counters
  | .startup snapshot stage => (incrementRecoveryCounterForStage snapshot counters stage).2.2

/-- The increment that the writer records, unless it is refused, cannot be written, or there is none. -/
def recorded : CounterWrite → Option Increment
  | .route app decision _ =>
    match routeCounterField decision app.result with
    | none => none
    | some field =>
      let failureClass :=
        decision.failureClass.getD (if field = .fixCycleCount then "fix_cycle" else "recoverable_failure")
      if Runtime.isBlank failureClass = false ∧ Runtime.isBlank app.result.workItemId = false ∧
          app.fails .decision .loadRecoveryCounters = none ∧ app.fails .decision .saveRecoveryCounters = none then
        some ⟨failureClass, (app.result.workItemKind, app.result.workItemId), field⟩
      else none
  | .startup snapshot stage =>
    match activeWorkItem snapshot, stage with
    | some item, .troubleshooter => some ⟨staleActiveFailureClass, item, .troubleshootAttemptCount⟩
    | some item, .mechanic => some ⟨staleActiveFailureClass, item, .mechanicAttemptCount⟩
    | _, _ => none

end CounterWrite

/-- The counters file after these writes; it starts without entries. -/
def countersAfter (writes : List CounterWrite) : RecoveryCounters := Runs.after CounterWrite.step [] writes

def increments (writes : List CounterWrite) : List Increment := writes.filterMap CounterWrite.recorded

section Writers
variable {app : AppliedResult}

theorem incrementCounterField_counters (failureClass : String) (field : RecoveryCounterField) (s : DispatchSession) :
    (match incrementCounterField app failureClass field s with
      | .ok _ t => t.counters
      | .error _ t => t.counters) =
      if Runtime.isBlank failureClass = false ∧ Runtime.isBlank app.result.workItemId = false ∧
          app.fails .decision .loadRecoveryCounters = none ∧ app.fails .decision .saveRecoveryCounters = none then
        recordIncrement s.counters ⟨failureClass, (app.result.workItemKind, app.result.workItemId), field⟩
      else s.counters := by
  unfold incrementCounterField refuse fileStep
  by_cases named : Runtime.isBlank failureClass
  · simp [named, bind_run, throw_run]
  by_cases known : Runtime.isBlank app.result.workItemId
  · simp [named, known, bind_run, throw_run, pure_run]
  cases load : app.fails .decision .loadRecoveryCounters with
  | some message => simp [named, known, bind_run, throw_run, pure_run]
  | none =>
    cases save : app.fails .decision .saveRecoveryCounters with
    | some message => simp [named, known, bind_run, throw_run, pure_run, get_run, modify_run, modifySnapshot]
    | none => simp [named, known, bind_run, pure_run, get_run, modify_run, modifySnapshot, recordIncrement]

theorem step_eq (counters : RecoveryCounters) (write : CounterWrite) :
    write.step counters = write.recorded.elim counters (recordIncrement counters) := by
  cases write with
  | route app decision session =>
    dsimp only [CounterWrite.step, CounterWrite.recorded, incrementRouteCounters]
    cases routeCounterField decision app.result with
    | none => rfl
    | some field =>
      dsimp only
      rw [incrementCounterField_counters]
      generalize decision.failureClass.getD _ = failureClass
      split <;> rfl
  | startup snapshot stage =>
    dsimp only [CounterWrite.step, CounterWrite.recorded, incrementRecoveryCounterForStage]
    cases activeWorkItem snapshot with
    | none => rfl
    | some item => cases stage <;> rfl

end Writers

/-! ## What the entries hold -/

/-- The same failure class, letter for letter, and the same item. -/
def Increment.names (i : Increment) (failureClass : String) (item : WorkItemKind × String) : Bool :=
  i.failureClass = failureClass && i.item = item

def entryItem (e : RecoveryCounterEntry) : WorkItemKind × String := (e.workItemKind, e.workItemId)

/-- The entry of an increment after these ones. -/
def entryOf (history : List Increment) (i : Increment) : RecoveryCounterEntry where
  failureClass := i.failureClass
  workItemKind := i.item.1
  workItemId := i.item.2
  troubleshootAttemptCount := history.countP fun j => j.names i.failureClass i.item && j.field = .troubleshootAttemptCount
  mechanicAttemptCount := history.countP fun j => j.names i.failureClass i.item && j.field = .mechanicAttemptCount
  fixCycleCount := history.countP fun j => j.names i.failureClass i.item && j.field = .fixCycleCount
  consultantInvocations := history.countP fun j => j.names i.failureClass i.item && j.field = .consultantInvocations

theorem count_entryOf (history : List Increment) (i : Increment) (field : RecoveryCounterField) :
    field.count (entryOf history i) = history.countP fun j => j.names i.failureClass i.item && j.field = field := by
  cases field <;> rfl

theorem entryOf_append_same (history : List Increment) (i : Increment) :
    entryOf (history ++ [i]) i = i.field.increment (entryOf history i) := by
  unfold entryOf
  cases field : i.field <;> simp [RecoveryCounterField.increment, List.countP_append, Increment.names, field]

theorem entryOf_append_other {history : List Increment} {i j : Increment} (other : j.names i.failureClass i.item = false) :
    entryOf (history ++ [j]) i = entryOf history i := by
  unfold entryOf
  simp [List.countP_append, other]

theorem entryOf_unseen {history : List Increment} {i : Increment}
    (unseen : ∀ j ∈ history, j.names i.failureClass i.item = false) :
    entryOf history i = ⟨i.failureClass, i.item.1, i.item.2, 0, 0, 0, 0⟩ := by
  have none (field : RecoveryCounterField) :
      (history.countP fun j => j.names i.failureClass i.item && j.field = field) = 0 := by
    rw [List.countP_eq_zero]
    intro j member
    simp [unseen j member]
  simp [entryOf, none]

/-! ## Looking an entry up by what it names -/

section Lookup
variable (P : String → WorkItemKind × String → Bool)

def entryMeets (e : RecoveryCounterEntry) : Bool := P e.failureClass (entryItem e)

def incrementMeets (i : Increment) : Bool := P i.failureClass i.item

@[simp] theorem entryMeets_increment (field : RecoveryCounterField) (e : RecoveryCounterEntry) :
    entryMeets P (field.increment e) = entryMeets P e := by
  cases field <;> rfl

/-- The entry is the one that an increment looks for. -/
def Named (e : RecoveryCounterEntry) (i : Increment) : Prop := e.failureClass = i.failureClass ∧ entryItem e = i.item

instance (e : RecoveryCounterEntry) (i : Increment) : Decidable (Named e i) := inferInstanceAs (Decidable (_ ∧ _))

variable {P} in
theorem Named.meets {e : RecoveryCounterEntry} {i : Increment} (named : Named e i) :
    entryMeets P e = P i.failureClass i.item := by
  unfold entryMeets
  rw [named.1, named.2]

theorem named_iff {e : RecoveryCounterEntry} {i : Increment} :
    Named e i ↔ e.failureClass = i.failureClass ∧ e.workItemKind = i.item.1 ∧ e.workItemId = i.item.2 := by
  unfold Named entryItem
  rw [Prod.ext_iff]

theorem recordIncrement_named {e : RecoveryCounterEntry} {rest : RecoveryCounters} {i : Increment} (named : Named e i) :
    recordIncrement (e :: rest) i = i.field.increment e :: rest := by
  obtain ⟨failureClass, kind, id⟩ := named_iff.mp named
  unfold recordIncrement recoveryCounterEntry
  cases i.field <;> simp [failureClass, kind, id, RecoveryCounterField.increment, putRecoveryCounterEntry]

theorem recordIncrement_unnamed {e : RecoveryCounterEntry} {rest : RecoveryCounters} {i : Increment}
    (unnamed : ¬Named e i) : recordIncrement (e :: rest) i = e :: recordIncrement rest i := by
  have apart := fun same => unnamed (named_iff.mpr same)
  unfold recordIncrement
  have skipped : recoveryCounterEntry (e :: rest) i.failureClass i.item.1 i.item.2 =
      recoveryCounterEntry rest i.failureClass i.item.1 i.item.2 := by
    unfold recoveryCounterEntry
    rw [List.find?_cons_of_neg (by simpa using apart)]
  rw [skipped]
  have keys : ∀ found : RecoveryCounterEntry, Named found i → putRecoveryCounterEntry (i.field.increment found) (e :: rest) =
      e :: putRecoveryCounterEntry (i.field.increment found) rest := by
    intro found named
    obtain ⟨failureClass, kind, id⟩ := named_iff.mp named
    rw [putRecoveryCounterEntry, if_neg]
    cases i.field <;> simpa [RecoveryCounterField.increment, failureClass, kind, id] using apart
  apply keys
  unfold recoveryCounterEntry
  cases found : rest.find? fun e => e.failureClass = i.failureClass ∧ e.workItemKind = i.item.1 ∧ e.workItemId = i.item.2 with
  | none => exact ⟨rfl, rfl⟩
  | some other => exact named_iff.mpr (by simpa using List.find?_some found)

/-- An update of one entry, seen by a reader that goes by names. -/
theorem find_recordIncrement (counters : RecoveryCounters) (i : Increment) :
    (recordIncrement counters i).find? (entryMeets P) =
      ((counters.find? (entryMeets P)).map fun e => if Named e i then i.field.increment e else e).or
        (if P i.failureClass i.item then some (i.field.increment ⟨i.failureClass, i.item.1, i.item.2, 0, 0, 0, 0⟩)
          else none) := by
  induction counters with
  | nil =>
    show [i.field.increment ⟨i.failureClass, i.item.1, i.item.2, 0, 0, 0, 0⟩].find? _ = _
    have new : entryMeets P (i.field.increment ⟨i.failureClass, i.item.1, i.item.2, 0, 0, 0, 0⟩) = P i.failureClass i.item :=
      entryMeets_increment P _ _
    rw [List.find?_singleton, new]
    rfl
  | cons e rest ih =>
    by_cases named : Named e i
    · rw [recordIncrement_named named]
      cases meets : entryMeets P e with
      | true => simp [meets, named]
      | false =>
        -- no entry of this name meets the reader, so the update is out of its sight
        have unmet : P i.failureClass i.item = false := named.meets.symm.trans meets
        simp only [List.find?_cons, entryMeets_increment, meets, unmet, Bool.false_eq_true, if_false, Option.or_none]
        cases found : rest.find? (entryMeets P) with
        | none => rfl
        | some other =>
          have shown := List.find?_some found
          rw [Option.map_some, if_neg fun named' => by simp [named'.meets, unmet] at shown]
    · rw [recordIncrement_unnamed named]
      cases meets : entryMeets P e with
      | true => simp [meets, named]
      | false => simpa [List.find?_cons, meets] using ih

/-- The first entry that a reader finds is that of the first increment it would find. -/
theorem find_countersAfter (history : List Increment) :
    (history.foldl recordIncrement []).find? (entryMeets P) =
      (history.find? (incrementMeets P)).map (entryOf history) := by
  induction history using List.reverseRecOn with
  | nil => rfl
  | append_singleton history i ih =>
    rw [List.foldl_append, List.foldl_cons, List.foldl_nil, find_recordIncrement, ih, List.find?_append]
    cases found : history.find? (incrementMeets P) with
    | some j =>
      simp only [Option.map_some, Option.some_or]
      by_cases same : Named (entryOf history j) i
      · obtain ⟨failureClass, item⟩ := same
        have other : entryOf history j = entryOf history i := by
          unfold entryOf
          simp only [show j.failureClass = i.failureClass from failureClass, show j.item = i.item from item]
        have other' : entryOf (history ++ [i]) j = entryOf (history ++ [i]) i := by
          unfold entryOf
          simp only [show j.failureClass = i.failureClass from failureClass, show j.item = i.item from item]
        rw [if_pos ⟨failureClass, item⟩, other, other', entryOf_append_same]
      · have apart : i.names j.failureClass j.item = false := by
          cases names : i.names j.failureClass j.item with
          | false => rfl
          | true =>
            simp only [Increment.names, Bool.and_eq_true, decide_eq_true_eq] at names
            exact absurd ⟨names.1.symm, names.2.symm⟩ same
        rw [if_neg same, entryOf_append_other apart]
    | none =>
      simp only [Option.map_none, Option.none_or, List.find?_singleton]
      show _ = Option.map _ (if P i.failureClass i.item then _ else _)
      by_cases meets : P i.failureClass i.item = true
      · -- the first increment of its name
        have unseen : ∀ j ∈ history, j.names i.failureClass i.item = false := by
          intro j member
          cases names : j.names i.failureClass i.item with
          | false => rfl
          | true =>
            simp only [Increment.names, Bool.and_eq_true, decide_eq_true_eq] at names
            have hidden := List.find?_eq_none.mp found j member
            rw [incrementMeets, names.1, names.2] at hidden
            exact absurd meets hidden
        rw [if_pos meets, if_pos meets, Option.map_some, entryOf_append_same, entryOf_unseen unseen]
      · rw [if_neg meets, if_neg meets, Option.map_none]

end Lookup

theorem countersAfter_eq (writes : List CounterWrite) : countersAfter writes = (increments writes).foldl recordIncrement [] := by
  unfold countersAfter increments Runs.after
  generalize ([] : RecoveryCounters) = counters
  induction writes generalizing counters with
  | nil => rfl
  | cons write writes ih =>
    rw [List.foldl_cons, ih, step_eq]
    cases recorded : write.recorded with
    | none => rw [List.filterMap_cons_none recorded, Option.elim_none]
    | some i => rw [List.filterMap_cons_some recorded, Option.elim_some, List.foldl_cons]

/-! ## The attempts read -/

/-- The field that counts the attempts of a plane. -/
def attemptField : Plane → RecoveryCounterField
  | .execution => .troubleshootAttemptCount
  | .planning | .learning => .mechanicAttemptCount

theorem attempts_eq (e : RecoveryCounterEntry) (plane : Plane) : e.attempts plane = (attemptField plane).count e := by
  cases plane <;> rfl

/-- The increment is one of this item, under a spelling of this failure class. -/
def Increment.counts (i : Increment) (item : WorkItemKind × String) (normal : String) : Bool :=
  i.item = item && normalizeFailureClass i.failureClass = .ok normal

/-- The increments of an item and a plane, under any spelling of the failure class. -/
def recordedAttempts (history : List Increment) (item : WorkItemKind × String) (normal : String) (plane : Plane) : Nat :=
  history.countP fun i => i.counts item normal && i.field = attemptField plane

/-- The spelling of a failure class under which the item has its first increment. -/
def firstSpelling (history : List Increment) (item : WorkItemKind × String) (normal : String) : Option String :=
  (history.find? (·.counts item normal)).map Increment.failureClass

/-- Readers find what was written: the attempts under any spelling, and failure classes that stay as they are once they
are normal. -/
structure ReadAsWritten (writes : List CounterWrite) : Prop where
  attempts : ∀ (snapshot : RuntimeSnapshot) (item : WorkItemKind × String) (c d normal : String) (plane : Plane),
    activeWorkItem snapshot = some item → normalizeFailureClass c = .ok normal → normalizeFailureClass d = .ok normal →
      counterAttempts snapshot (countersAfter writes) d plane =
        .ok (recordedAttempts (increments writes) item normal plane)
  idempotent : ∀ c normal : String, normalizeFailureClass c = .ok normal → normalizeFailureClass normal = .ok normal

/-- Every attempt is counted under the spelling that its failure class had at first for the item. -/
def OneSpelling (writes : List CounterWrite) : Prop :=
  ∀ i ∈ increments writes, ∀ normal, normalizeFailureClass i.failureClass = .ok normal →
    ∀ plane, i.field = attemptField plane →
      firstSpelling (increments writes) i.item normal = some i.failureClass

theorem counterAttempts_countersAfter {snapshot : RuntimeSnapshot} {item : WorkItemKind × String} {d normal : String}
    (writes : List CounterWrite) (plane : Plane) (active : activeWorkItem snapshot = some item)
    (normalizes : normalizeFailureClass d = .ok normal) :
    counterAttempts snapshot (countersAfter writes) d plane =
      .ok (((increments writes).find? (·.counts item normal)).elim 0 fun i =>
        (increments writes).countP fun j => j.names i.failureClass i.item && j.field = attemptField plane) := by
  let P : String → WorkItemKind × String → Bool := fun failureClass other =>
    other = item && normalizeFailureClass failureClass = .ok normal
  have seen : (fun e : RecoveryCounterEntry => e.counts item normal) = entryMeets P := by
    funext e
    unfold RecoveryCounterEntry.counts entryMeets entryItem
    have key : decide ((e.workItemKind, e.workItemId) = item) = (decide (e.workItemKind = item.1) && decide (e.workItemId = item.2)) := by
      simp [Prod.ext_iff]
    show _ = (decide ((e.workItemKind, e.workItemId) = item) && decide (normalizeFailureClass e.failureClass = .ok normal))
    rw [key]
    cases normalizeFailureClass e.failureClass with
    | ok other => simp [beq_eq_decide]
    | error error => simp
  unfold counterAttempts
  rw [active]
  simp only [normalizes, ok_bind, pure, Except.pure, seen]
  rw [countersAfter_eq, find_countersAfter]
  cases found : (increments writes).find? (incrementMeets P) with
  | none =>
    have found' : (increments writes).find? (·.counts item normal) = none := found
    rw [found']
    rfl
  | some i =>
    have found' : (increments writes).find? (·.counts item normal) = some i := found
    rw [found', Option.map_some, Option.map_some, Option.getD_some, attempts_eq, count_entryOf]
    rfl

theorem Increment.counts_iff {i : Increment} {item : WorkItemKind × String} {normal : String} :
    i.counts item normal = true ↔ i.item = item ∧ normalizeFailureClass i.failureClass = .ok normal := by
  simp [Increment.counts]

/-- A snapshot whose foreground run is on this item. -/
def workingOn (item : WorkItemKind × String) : RuntimeSnapshot where
  activePlane := none
  activeStage := none
  activeNodeId := none
  activeStageKindId := none
  activeRunId := none
  activeWorkItemKind := some item.1
  activeWorkItemId := some item.2
  activeSince := none
  activeRunsByPlane _ := none
  currentFailureClass := none
  troubleshootAttemptCount := 0
  mechanicAttemptCount := 0
  fixCycleCount := 0
  consultantInvocations := 0

theorem exists_of_countP_eq {α : Type} {p q : α → Bool} {l : List α} (within : ∀ a ∈ l, p a = true → q a = true)
    (same : l.countP p = l.countP q) : ∀ a ∈ l, q a = true → p a = true := by
  have all : (l.filter q).countP p = (l.filter q).length := by
    rw [List.countP_filter, ← List.countP_eq_length_filter, ← same]
    apply List.countP_congr
    intro a member
    constructor
    · exact fun both => (Bool.and_eq_true_iff.mp both).1
    · exact fun holds => Bool.and_eq_true_iff.mpr ⟨holds, within a member holds⟩
  intro a member holds
  exact List.countP_eq_length.mp all a (List.mem_filter.mpr ⟨member, holds⟩)

theorem Increment.names_iff {i : Increment} {failureClass : String} {item : WorkItemKind × String} :
    i.names failureClass item = true ↔ i.failureClass = failureClass ∧ i.item = item := by
  simp [Increment.names]

theorem spelled_of_find {history : List Increment} {item : WorkItemKind × String} {normal : String} {j : Increment}
    (found : history.find? (·.counts item normal) = some j) :
    j.item = item ∧ normalizeFailureClass j.failureClass = .ok normal := by
  have met : j.counts item normal = true := by simpa using List.find?_some found
  exact Increment.counts_iff.mp met

theorem readAsWritten_iff (writes : List CounterWrite) : ReadAsWritten writes ↔ OneSpelling writes := by
  constructor
  · intro read i member normal normalizes plane field
    have counts : i.counts i.item normal = true := Increment.counts_iff.mpr ⟨rfl, normalizes⟩
    have there : ((increments writes).find? (·.counts i.item normal)).isSome :=
      List.find?_isSome.mpr ⟨i, member, counts⟩
    obtain ⟨j, found⟩ := Option.isSome_iff_exists.mp there
    have first := spelled_of_find found
    have attempts := read.attempts (workingOn i.item) i.item i.failureClass i.failureClass normal plane rfl normalizes
      normalizes
    rw [counterAttempts_countersAfter writes plane rfl normalizes, found] at attempts
    have same := Except.ok.inj attempts
    have shared := exists_of_countP_eq (fun k _ counted => ?_) same i member (by simp [counts, field])
    · have spelled := (Increment.names_iff.mp (Bool.and_eq_true_iff.mp shared).1).1
      unfold firstSpelling
      rw [found, spelled]
      rfl
    · obtain ⟨names, ofPlane⟩ := Bool.and_eq_true_iff.mp counted
      obtain ⟨failureClass, item⟩ := Increment.names_iff.mp names
      exact Bool.and_eq_true_iff.mpr ⟨Increment.counts_iff.mpr ⟨item.trans first.1, failureClass ▸ first.2⟩, ofPlane⟩
  · intro oneSpelling
    refine ⟨?_, fun _ _ normal => normalizeFailureClass_idem normal⟩
    intro snapshot item c d normal plane active _ normalizes
    rw [counterAttempts_countersAfter writes plane active normalizes]
    unfold recordedAttempts
    congr 1
    cases found : (increments writes).find? (·.counts item normal) with
    | none =>
      symm
      rw [Option.elim_none, List.countP_eq_zero]
      intro i member counted
      exact List.find?_eq_none.mp found i member (Bool.and_eq_true_iff.mp counted).1
    | some j =>
      have first := spelled_of_find found
      rw [Option.elim_some]
      apply List.countP_congr
      intro i member
      rw [Bool.and_eq_true_iff, Bool.and_eq_true_iff, Increment.names_iff, Increment.counts_iff]
      constructor
      · rintro ⟨⟨failureClass, ofItem⟩, ofPlane⟩
        exact ⟨⟨ofItem.trans first.1, failureClass ▸ first.2⟩, ofPlane⟩
      · rintro ⟨⟨rfl, spelled⟩, ofPlane⟩
        have firstSpelled := oneSpelling i member normal spelled plane (by simpa using ofPlane)
        unfold firstSpelling at firstSpelled
        rw [found] at firstSpelled
        exact ⟨⟨(Option.some.inj firstSpelled).symm, first.1.symm⟩, ofPlane⟩

/-- The router's own decisions name normal failure classes: counters with those only are read as they are written. -/
theorem readAsWritten_of_normal {writes : List CounterWrite}
    (normal : ∀ i ∈ increments writes, normalizeFailureClass i.failureClass = .ok i.failureClass) : ReadAsWritten writes := by
  rw [readAsWritten_iff]
  intro i member n normalizes plane _
  obtain rfl := Except.ok.inj ((normal i member).symm.trans normalizes)
  have there : ((increments writes).find? (·.counts i.item i.failureClass)).isSome :=
    List.find?_isSome.mpr ⟨i, member, Increment.counts_iff.mpr ⟨rfl, normalizes⟩⟩
  obtain ⟨j, found⟩ := Option.isSome_iff_exists.mp there
  have spelled := (spelled_of_find found).2
  rw [normal j (List.mem_of_find?_eq_some found)] at spelled
  unfold firstSpelling
  rw [found, Option.map_some, Except.ok.inj spelled]

/-! ## Two spellings -/

def toTroubleshooter (failureClass : String) : RouterDecision where
  action := .runStage
  nextPlane := some .execution
  nextStage := some .troubleshooter
  reason := "blocked"
  nextNodeId := some "troubleshooter"
  nextStageKindId := some "troubleshooter"
  failureClass := some failureClass
  counterKey := none
  createIncident := false

/-- A task goes to the troubleshooter for one failure class, which is spelled in two ways. -/
def twoSpellings : List CounterWrite := ["No net", "no_net"].map fun failureClass =>
  .route (taskResult .checker "checker" .blocked fun _ _ => none) (toTroubleshooter failureClass) queuedTask

/-- The reader finds the entry of the first spelling only, with one attempt of two. -/
theorem spelling_hides_attempt : ¬ ∀ writes, ReadAsWritten writes := by
  intro read
  have attempts := (read twoSpellings).attempts (workingOn (.task, "task-1")) (.task, "task-1") "No net" "no_net" "no_net"
    .execution rfl (by decide) (by decide)
  revert attempts
  decide

end Millrace.Application
