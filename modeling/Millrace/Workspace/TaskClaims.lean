import Millrace.Workspace.QueueInvariant
import Millrace.WorkDocuments.RoundTrip

/-! Which queued task is claimed next, and when it is the oldest one. -/

set_option autoImplicit false

namespace Millrace.WorkDocuments

/-! ## Moments -/

def leapYear (year : Nat) : Bool := year % 4 == 0 && (year % 100 != 0 || year % 400 == 0)

/-- The days from the first of January of the year 0 to that of the given year. -/
def daysBeforeYear (year : Nat) : Nat := 365 * year + (year + 3) / 4 - (year + 99) / 100 + (year + 399) / 400

def daysBeforeMonth (year month : Nat) : Nat :=
  ([31, if leapYear year then 29 else 28, 31, 30, 31, 30, 31, 31, 30, 31, 30, 31].take (month - 1)).sum

/-- Nanoseconds on one time line for all offsets. -/
def OffsetDateTime.nanoseconds (t : OffsetDateTime) : Int :=
  let days := daysBeforeYear t.year + daysBeforeMonth t.year t.month + (t.day - 1)
  let seconds := ((days * 24 + t.hour) * 60 + t.minute) * 60 + t.second
  ((seconds : Int) - t.offsetSeconds) * 1000000000 + t.nanosecond

end Millrace.WorkDocuments

namespace Millrace.Queue
open Millrace.Text Millrace.Contracts Millrace.WorkDocuments Millrace.Action

section
variable [Rfc3339]

/-! ## What the selection reads -/

/-- Some operation on the files fails. -/
def Faulty (env : Environment) : Prop := ∃ n, (env.reading n).fault ≠ none

/-- The operation ended in this, or one on the files failed. -/
def Ends {α : Type} (env : Environment) (ran : EStateM.Result QueueStoreError World α)
    (holds : α → Workspace → Prop) : Prop :=
  match ran with
  | .ok a s => holds a s.workspace
  | .error _ _ => Faulty env

/-- The computation reads this value off the workspace, or an operation fails. -/
def Yields {α : Type} (env : Environment) (w : Workspace) (x : StoreM α) (a : α) : Prop :=
  Holds (fun s => s.workspace = w) x (fun b s => b = a ∧ s.workspace = w) (fun _ _ => Faulty env)

section Yields
variable {α β : Type} {env : Environment} {w : Workspace}

theorem Yields.pure (a : α) : Yields env w (Pure.pure a) a := Holds.pure fun _ same => ⟨rfl, same⟩

theorem Yields.bind {x : StoreM α} {f : α → StoreM β} {a : α} {b : β} (first : Yields env w x a)
    (rest : Yields env w (f a) b) : Yields env w (x >>= f) b := by
  apply Holds.bind first
  intro a'
  apply Holds.assume fun _ read => read.1
  rintro rfl
  exact Holds.given (fun _ read => read.2) rest

/-- What is read may be handed to a computation that writes. -/
theorem Yields.followed {x : StoreM α} {f : α → StoreM β} {a : α} {Q : β → World → Prop} (first : Yields env w x a)
    (rest : Holds (fun s => s.workspace = w) (f a) Q (fun _ _ => Faulty env)) :
    Holds (fun s => s.workspace = w) (x >>= f) Q (fun _ _ => Faulty env) := by
  apply Holds.bind first
  intro a'
  apply Holds.assume fun _ read => read.1
  rintro rfl
  exact Holds.given (fun _ read => read.2) rest

theorem fileOperation_yields (relative : String) : Yields env w (fileOperation env relative) () := by
  intro s same
  unfold fileOperation reading
  cases fault : (env.reading s.step).fault with
  | none => simpa [bind, EStateM.bind, get, getThe, MonadStateOf.get, EStateM.get, set, MonadStateOf.set, EStateM.set,
      pure, EStateM.pure, fault] using same
  | some message =>
    have faulty : Faulty env := ⟨s.step, by simp [fault]⟩
    simpa [bind, EStateM.bind, get, getThe, MonadStateOf.get, EStateM.get, set, MonadStateOf.set, EStateM.set,
      pure, EStateM.pure, fault, throw, throwThe, MonadExceptOf.throw, EStateM.throw] using faulty

theorem currentWorkspace_yields : Yields env w currentWorkspace w := fun _ same => ⟨same, same⟩

theorem listMarkdownFiles_yields (d : Directory) : Yields env w (listMarkdownFiles env d) (w.markdownFiles d) := by
  unfold listMarkdownFiles
  apply Yields.bind (fileOperation_yields _)
  apply Yields.bind currentWorkspace_yields
  exact .pure _

theorem readIfPresent_yields (path : DocumentPath) : Yields env w (readIfPresent env path) (w.file path) := by
  unfold readIfPresent
  apply Yields.bind (fileOperation_yields _)
  apply Yields.bind currentWorkspace_yields
  exact .pure _

end Yields

/-! ## Eligible tasks -/

section Selection
variable (env : Environment) (w : Workspace) (rootSpecId : Option String)

def queuedDocument (taskId : String) : Option TaskDocument :=
  (w.file (taskPath .queue taskId)).bind fun raw =>
    (parseTaskDocumentWithSource raw (absolute env (taskPath .queue taskId).relative)).toOption

/-- Every queued file is a task whose id is the file's name. -/
def WellFormedQueue : Prop :=
  ∀ taskId, (w.file (taskPath .queue taskId)).isSome → ∃ d, queuedDocument env w taskId = some d ∧ d.taskId = taskId

/-- A queued task whose dependencies are all done and that belongs to the root. -/
structure Eligible (d : TaskDocument) : Prop where
  queued : queuedDocument env w d.taskId = some d
  ready : ∀ dependency ∈ d.dependsOn, (w.file (taskPath .done dependency)).isSome
  ofRoot : ∀ root, rootSpecId = some root → effectiveRootSpecTask d = some root

def candidateOf (taskId : String) : Option Candidate :=
  (queuedDocument env w taskId).bind fun d =>
    if isEligible ((w.markdownFiles ⟨.task, .done, none⟩).map (·.stem)) rootSpecId d then
      some ⟨d.createdAt.text, d.taskId, taskPath .queue taskId⟩
    else none

def candidatesOf : List Candidate :=
  (w.markdownFiles ⟨.task, .queue, none⟩).filterMap fun path => candidateOf env w rootSpecId path.stem

variable {env w rootSpecId}

theorem done_mem_iff (taskId : String) :
    taskId ∈ (w.markdownFiles ⟨.task, .done, none⟩).map (·.stem) ↔ (w.file (taskPath .done taskId)).isSome := by
  constructor
  · intro listed
    obtain ⟨⟨d, stem⟩, member, rfl⟩ := List.mem_map.mp listed
    obtain ⟨rfl, there⟩ := (Workspace.mem_markdownFiles _ _ _).mp member
    exact there
  · intro there
    exact List.mem_map.mpr ⟨taskPath .done taskId, (Workspace.mem_markdownFiles _ _ _).mpr ⟨rfl, there⟩, rfl⟩

theorem isEligible_iff (d : TaskDocument) :
    isEligible ((w.markdownFiles ⟨.task, .done, none⟩).map (·.stem)) rootSpecId d = true ↔
      (∀ dependency ∈ d.dependsOn, (w.file (taskPath .done dependency)).isSome) ∧
        ∀ root, rootSpecId = some root → effectiveRootSpecTask d = some root := by
  unfold isEligible
  rw [Bool.and_eq_true, List.all_eq_true, and_comm]
  apply and_congr
  · simp only [List.contains_iff_mem, done_mem_iff]
  · cases rootSpecId with
    | none => simp
    | some root => simp

theorem candidatesOf_iff (wellFormed : WellFormedQueue env w) (c : Candidate) :
    c ∈ candidatesOf env w rootSpecId ↔
      ∃ d, Eligible env w rootSpecId d ∧ c = ⟨d.createdAt.text, d.taskId, taskPath .queue d.taskId⟩ := by
  unfold candidatesOf
  rw [List.mem_filterMap]
  constructor
  · rintro ⟨path, member, found⟩
    obtain ⟨sameDirectory, there⟩ := (Workspace.mem_markdownFiles _ _ _).mp member
    have placed : path = taskPath .queue path.stem := by
      rw [taskPath, ← sameDirectory]
    rw [placed] at there
    obtain ⟨d, queued, named⟩ := wellFormed path.stem there
    unfold candidateOf at found
    rw [queued, Option.bind_some] at found
    split at found
    next eligible =>
      obtain ⟨ready, ofRoot⟩ := (isEligible_iff d).mp eligible
      rw [← named] at queued found
      exact ⟨d, ⟨queued, ready, ofRoot⟩, (Option.some.inj found).symm⟩
    next => cases found
  · rintro ⟨d, eligible, rfl⟩
    have there : (w.file (taskPath .queue d.taskId)).isSome := by
      have queued := eligible.queued
      unfold queuedDocument at queued
      obtain ⟨raw, file, -⟩ := Option.bind_eq_some_iff.mp queued
      rw [file]
      rfl
    refine ⟨taskPath .queue d.taskId, (Workspace.mem_markdownFiles _ _ _).mpr ⟨rfl, there⟩, ?_⟩
    show candidateOf env w rootSpecId d.taskId = _
    unfold candidateOf
    rw [eligible.queued, Option.bind_some, if_pos ((isEligible_iff d).mpr ⟨eligible.ready, eligible.ofRoot⟩)]

/-! ## The selection -/

theorem candidateAt_yields (wellFormed : WellFormedQueue env w) {taskId : String}
    (there : (w.file (taskPath .queue taskId)).isSome) :
    Yields env w
      (candidateAt env ((w.markdownFiles ⟨.task, .done, none⟩).map (·.stem)) rootSpecId (taskPath .queue taskId))
      (candidateOf env w rootSpecId taskId) := by
  obtain ⟨d, queued, named⟩ := wellFormed taskId there
  unfold candidateAt
  apply Yields.bind (readIfPresent_yields _)
  obtain ⟨raw, file, parsed⟩ := Option.bind_eq_some_iff.mp queued
  rw [file]
  unfold candidateOf
  rw [queued, Option.bind_some]
  dsimp only
  cases reads : parseTaskDocumentWithSource raw (absolute env (taskPath .queue taskId).relative) with
  | error error =>
    rw [reads] at parsed
    cases parsed
  | ok document =>
    rw [reads] at parsed
    obtain rfl := Option.some.inj parsed
    dsimp only
    have stem : (taskPath .queue taskId).stem = document.taskId := named.symm
    rw [if_neg (not_not.mpr stem)]
    split
    · exact .pure _
    · exact .pure _

theorem collectCandidates_yields (wellFormed : WellFormedQueue env w) (paths : List DocumentPath)
    (listed : ∀ path ∈ paths, path ∈ w.markdownFiles ⟨.task, .queue, none⟩) :
    Yields env w (collectCandidates env ((w.markdownFiles ⟨.task, .done, none⟩).map (·.stem)) rootSpecId paths)
      (paths.filterMap fun path => candidateOf env w rootSpecId path.stem) := by
  induction paths with
  | nil => exact .pure _
  | cons path rest ih =>
    obtain ⟨sameDirectory, there⟩ := (Workspace.mem_markdownFiles _ _ _).mp (listed path List.mem_cons_self)
    have placed : path = taskPath .queue path.stem := by
      rw [taskPath, ← sameDirectory]
    rw [placed] at there
    have first : Yields env w _ (candidateOf env w rootSpecId path.stem) := candidateAt_yields wellFormed there
    rw [← placed] at first
    unfold collectCandidates
    apply Yields.bind first
    apply Yields.bind (ih fun path' member => listed path' (List.mem_cons_of_mem _ member))
    have joined : ((path :: rest).filterMap fun path => candidateOf env w rootSpecId path.stem) =
        (candidateOf env w rootSpecId path.stem).toList ++
          rest.filterMap fun path => candidateOf env w rootSpecId path.stem := by
      rw [List.filterMap_cons]
      cases candidateOf env w rootSpecId path.stem <;> rfl
    rw [joined]
    exact .pure _

theorem selectOldestEligibleTask_yields (wellFormed : WellFormedQueue env w) :
    Yields env w (selectOldestEligibleTask env rootSpecId)
      ((candidatesOf env w rootSpecId).mergeSort Candidate.before).head? := by
  unfold selectOldestEligibleTask
  apply Yields.bind (listMarkdownFiles_yields _)
  apply Yields.bind (listMarkdownFiles_yields _)
  apply Yields.bind (collectCandidates_yields wellFormed _ fun _ member => member)
  exact .pure _

/-- What a claim of the selected task returns and leaves behind. -/
def Claims (w : Workspace) (selected : Option Candidate) (claim : Option QueueClaim) (w' : Workspace) : Prop :=
  match selected with
  | none => claim = none ∧ w' = w
  | some c => ∃ raw returned, w.file c.path = some raw ∧ claim = some returned ∧ returned.workItemId = c.taskId ∧
      returned.path = taskPath .active c.path.stem ∧
      w' = (w.erase c.path).insert (taskPath .active c.path.stem) raw

theorem rename_holds {source destination : DocumentPath} {raw : String} (file : w.file source = some raw) :
    Holds (fun s => s.workspace = w) (rename env source destination)
      (fun _ s => s.workspace = (w.erase source).insert destination raw) (fun _ _ => Faulty env) := by
  unfold rename
  apply Yields.followed (fileOperation_yields _)
  apply Yields.followed currentWorkspace_yields
  rw [file]
  apply Holds.modify
  rintro s rfl
  rfl

theorem claimNextExecutionTask_holds (wellFormed : WellFormedQueue env w)
    (idle : ∀ taskId, w.file (taskPath .active taskId) = none) :
    Holds (fun s => s.workspace = w) (claimNextExecutionTask env rootSpecId)
      (fun claim s =>
        Claims w ((candidatesOf env w rootSpecId).mergeSort Candidate.before).head? claim s.workspace)
      (fun _ _ => Faulty env) := by
  have active : w.markdownFiles ⟨.task, .active, none⟩ = [] := by
    rw [List.eq_nil_iff_forall_not_mem]
    rintro ⟨d, stem⟩ member
    obtain ⟨rfl, there⟩ := (Workspace.mem_markdownFiles _ _ _).mp member
    have none := idle stem
    unfold taskPath at none
    rw [none] at there
    cases there
  unfold claimNextExecutionTask
  apply Yields.followed (listMarkdownFiles_yields _)
  rw [active]
  have single : Yields env w (refuseIf (([] : List DocumentPath).length > 1)
      (.invalidState "multiple active execution tasks found")) () := .pure ()
  apply Yields.followed single
  apply Yields.followed (selectOldestEligibleTask_yields wellFormed)
  cases selected : ((candidatesOf env w rootSpecId).mergeSort Candidate.before).head? with
  | none => exact .pure fun s same => ⟨rfl, same⟩
  | some c =>
    have member : c ∈ candidatesOf env w rootSpecId := List.mem_mergeSort.mp (List.mem_of_head? selected)
    obtain ⟨d, eligible, rfl⟩ := (candidatesOf_iff wellFormed c).mp member
    obtain ⟨raw, file, -⟩ := Option.bind_eq_some_iff.mp eligible.queued
    apply Holds.bind (rename_holds file)
    intro _
    exact .pure fun s moved => ⟨raw, _, file, rfl, rfl, rfl, moved⟩

/-! ## The oldest task -/

omit [Rfc3339] in
theorem before_total (a b : Candidate) : (a.before b || b.before a) = true := by
  unfold Candidate.before
  rcases lt_trichotomy a.createdAt b.createdAt with less | same | more
  · simp [less]
  · rcases le_total a.taskId b.taskId with below | below <;> simp [same, below]
  · simp [more]

omit [Rfc3339] in
theorem before_trans (a b c : Candidate) (first : a.before b = true) (second : b.before c = true) :
    a.before c = true := by
  simp only [Candidate.before, Bool.or_eq_true, decide_eq_true_eq, Bool.and_eq_true, beq_iff_eq] at first second ⊢
  rcases first with less | ⟨same, below⟩
  · rcases second with less' | ⟨same', -⟩
    · exact .inl (less.trans less')
    · exact .inl (same' ▸ less)
  · rcases second with less' | ⟨same', below'⟩
    · exact .inl (same ▸ less')
    · exact .inr ⟨same.trans same', below.trans below'⟩

omit [Rfc3339] in
theorem head_before {candidates : List Candidate} {c : Candidate}
    (head : (candidates.mergeSort Candidate.before).head? = some c) : ∀ c' ∈ candidates, c.before c' = true := by
  have sorted := List.pairwise_mergeSort before_trans before_total candidates
  have perm := List.mergeSort_perm candidates Candidate.before
  cases listed : candidates.mergeSort Candidate.before with
  | nil =>
    rw [listed] at head
    cases head
  | cons first rest =>
    rw [listed] at head sorted perm
    obtain rfl := Option.some.inj head
    intro c' member
    rcases List.mem_cons.mp (perm.mem_iff.mpr member) with rfl | later
    · simpa using before_total c' c'
    · exact (List.pairwise_cons.mp sorted).1 c' later

/-- The first task by the stored text of its creation time, ties by id. -/
def TextBefore (d e : TaskDocument) : Prop :=
  d.createdAt.text < e.createdAt.text ∨ (d.createdAt.text = e.createdAt.text ∧ d.taskId ≤ e.taskId)

/-- The first task by its creation instant, ties by id. -/
def NotLater (d e : TaskDocument) : Prop :=
  d.createdAt.instant.nanoseconds < e.createdAt.instant.nanoseconds ∨
    (d.createdAt.instant.nanoseconds = e.createdAt.instant.nanoseconds ∧ d.taskId ≤ e.taskId)

variable (env w rootSpecId) in
/-- The claim takes an eligible task that none is older than, and none only where there is none. -/
def ClaimsOldest (claim : Option QueueClaim) (w' : Workspace) : Prop :=
  match claim with
  | none => w' = w ∧ ∀ d, ¬Eligible env w rootSpecId d
  | some returned => ∃ d raw, Eligible env w rootSpecId d ∧ returned.workItemId = d.taskId ∧
      w.file (taskPath .queue d.taskId) = some raw ∧
      w' = (w.erase (taskPath .queue d.taskId)).insert (taskPath .active d.taskId) raw ∧
      ∀ e, Eligible env w rootSpecId e → NotLater d e

variable (env w rootSpecId) in
/-- The eligible task whose timestamp text comes first was created first. -/
def TextIsChronological : Prop :=
  ∀ d, Eligible env w rootSpecId d → (∀ e, Eligible env w rootSpecId e → TextBefore d e) →
    ∀ e, Eligible env w rootSpecId e → NotLater d e

theorem eligible_unique {d e : TaskDocument} (eligible : Eligible env w rootSpecId d)
    (eligible' : Eligible env w rootSpecId e) (same : d.taskId = e.taskId) : d = e := by
  have queued := eligible.queued
  rw [same, eligible'.queued] at queued
  exact (Option.some.inj queued).symm

/-- The candidate's order is that of the stored texts. -/
theorem textBefore_iff (d e : TaskDocument) (path path' : DocumentPath) :
    (Candidate.before ⟨d.createdAt.text, d.taskId, path⟩ ⟨e.createdAt.text, e.taskId, path'⟩ = true) ↔ TextBefore d e := by
  simp [Candidate.before, TextBefore]

theorem textBefore_antisymm {d e : TaskDocument} (first : TextBefore d e) (second : TextBefore e d) :
    d.taskId = e.taskId := by
  rcases first with less | ⟨same, below⟩
  · rcases second with less' | ⟨same', -⟩
    · exact absurd (less.trans less') (lt_irrefl _)
    · rw [same'] at less
      exact absurd less (lt_irrefl _)
  · rcases second with less' | ⟨-, below'⟩
    · rw [same] at less'
      exact absurd less' (lt_irrefl _)
    · exact le_antisymm below below'

/-- The selected candidate is the document whose text comes first. -/
theorem claims_textFirst (wellFormed : WellFormedQueue env w) {claim : Option QueueClaim} {w' : Workspace}
    (claims : Claims w ((candidatesOf env w rootSpecId).mergeSort Candidate.before).head? claim w') :
    (claim = none ∧ w' = w ∧ ∀ d, ¬Eligible env w rootSpecId d) ∨
      ∃ d raw returned, Eligible env w rootSpecId d ∧ claim = some returned ∧ returned.workItemId = d.taskId ∧
        w.file (taskPath .queue d.taskId) = some raw ∧
        w' = (w.erase (taskPath .queue d.taskId)).insert (taskPath .active d.taskId) raw ∧
        ∀ e, Eligible env w rootSpecId e → TextBefore d e := by
  cases selected : ((candidatesOf env w rootSpecId).mergeSort Candidate.before).head? with
  | none =>
    rw [selected] at claims
    refine .inl ⟨claims.1, claims.2, fun d eligible => ?_⟩
    have member := (candidatesOf_iff wellFormed _).mpr ⟨d, eligible, rfl⟩
    rw [← List.mem_mergeSort, List.head?_eq_none_iff.mp selected] at member
    cases member
  | some c =>
    rw [selected] at claims
    have member : c ∈ candidatesOf env w rootSpecId := List.mem_mergeSort.mp (List.mem_of_head? selected)
    obtain ⟨d, eligible, rfl⟩ := (candidatesOf_iff wellFormed c).mp member
    obtain ⟨raw, returned, file, is, named, -, moved⟩ := claims
    refine .inr ⟨d, raw, returned, eligible, is, named, file, moved, fun e eligible' => ?_⟩
    have first := head_before selected _ ((candidatesOf_iff wellFormed _).mpr ⟨e, eligible', rfl⟩)
    exact (textBefore_iff d e _ _).mp first

/-- A claim of the queue's next task ends unless an operation fails, and it takes the oldest eligible task exactly where
the text of the creation times puts the oldest one first. -/
theorem claims_oldest_iff (env : Environment) (w : Workspace) (step : Nat) (rootSpecId : Option String)
    (wellFormed : WellFormedQueue env w) (idle : ∀ taskId, w.file (taskPath .active taskId) = none) :
    Ends env ((claimNextExecutionTask env rootSpecId).run ⟨w, step⟩) fun claim w' =>
      ClaimsOldest env w rootSpecId claim w' ↔ TextIsChronological env w rootSpecId := by
  have holds : Holds _ (claimNextExecutionTask env rootSpecId) _ _ := claimNextExecutionTask_holds wellFormed idle
  have ends := holds ⟨w, step⟩ rfl
  unfold EStateM.run Ends
  cases ran : claimNextExecutionTask env rootSpecId ⟨w, step⟩ with
  | error error s =>
    rw [ran] at ends
    exact ends
  | ok claim s =>
    rw [ran] at ends
    rcases claims_textFirst wellFormed ends with ⟨rfl, same, none⟩ | ⟨d, raw, returned, eligible, rfl, named, file, moved,
      first⟩
    · exact iff_of_true ⟨same, none⟩ fun d eligible => absurd eligible (none d)
    · constructor
      · rintro ⟨d', raw', eligible', named', -, -, oldest⟩ d'' eligible'' first''
        obtain rfl := eligible_unique eligible eligible' (named.symm.trans named')
        have same := textBefore_antisymm (first d'' eligible'') (first'' d eligible)
        obtain rfl := eligible_unique eligible eligible'' same
        exact oldest
      · intro chronological
        exact ⟨d, raw, eligible, named, file, moved, chronological d eligible first⟩

theorem queuedDocument_render {d : TaskDocument} (file : w.file (taskPath .queue d.taskId) = some (renderTaskDocument d))
    (valid : d.Valid) (canonical : d.Canonical) : queuedDocument env w d.taskId = some d := by
  unfold queuedDocument
  rw [file, Option.bind_some, parseTaskDocument_render valid canonical]
  rfl

end Selection

/-- A task with nothing but the fields that every task needs. -/
def plainTask (taskId : String) (dependsOn : List String) (createdAt : Timestamp) : TaskDocument where
  taskId := taskId
  title := "A task"
  summary := ""
  rootIdeaId := none
  rootSpecId := none
  rootIntakeKind := none
  rootIntakeId := none
  specId := none
  parentTaskId := none
  incidentId := none
  targetPaths := ["src/lib.rs"]
  acceptance := ["it works"]
  requiredChecks := ["cargo test"]
  references := ["docs/testing.md"]
  risk := ["none known"]
  dependsOn := dependsOn
  blocks := []
  tags := []
  statusHint := none
  createdAt := createdAt
  createdBy := "tests"
  updatedAt := none

theorem plainTask_valid {taskId : String} {dependsOn : List String} {createdAt : Timestamp}
    (valid : (plainTask taskId dependsOn createdAt).validate = .ok ()) : (plainTask taskId dependsOn createdAt).Valid :=
  (TaskDocument.validate_iff _).mp valid

theorem plainTask_canonical {taskId : String} {dependsOn : List String} {createdAt : Timestamp}
    (oneLine : OneLineTimestamp createdAt) (inline : InlineRelationships dependsOn) :
    (plainTask taskId dependsOn createdAt).Canonical where
  title := (by decide +kernel : Inline "A task".toList)
  summary := .inl rfl
  createdAt := oneLine
  createdBy := (by decide +kernel : Inline "tests".toList)
  updatedAt := fun t none => by cases none
  dependsOn := inline
  blocks := (by decide +kernel : InlineRelationships [])
  tags := (by decide +kernel : InlineItems [])
  targetPaths := (by decide +kernel : InlineItems ["src/lib.rs"])
  acceptance := (by decide +kernel : InlineItems ["it works"])
  requiredChecks := (by decide +kernel : InlineItems ["cargo test"])
  references := (by decide +kernel : InlineItems ["docs/testing.md"])
  risk := (by decide +kernel : InlineItems ["none known"])

end

/-! ## Two time zones -/

section Concrete

/-- A time library that knows ten o'clock in Athens and nine o'clock in London. -/
local instance twoZones : Rfc3339 where
  parse text :=
    if text = "2026-01-01T10:00:00+02:00" then .ok ⟨2026, 1, 1, 10, 0, 0, 0, 7200⟩
    else if text = "2026-01-01T09:00:00Z" then .ok ⟨2026, 1, 1, 9, 0, 0, 0, 0⟩
    else .error "unknown moment"

def inAthens : Timestamp where
  text := "2026-01-01T10:00:00+02:00"
  trimmed := by decide +kernel
  nonempty := by decide
  parses := by decide +kernel

def inLondon : Timestamp where
  text := "2026-01-01T09:00:00Z"
  trimmed := by decide +kernel
  nonempty := by decide
  parses := by decide +kernel

def calmEnvironment : Environment where
  root := "/workspace"
  reading _ := { now := inLondon, suffix := 0, fault := none }

theorem calm_not_faulty : ¬Faulty calmEnvironment := fun ⟨_, faulty⟩ => faulty rfl

/-- A task that was created in Athens an hour before the other in London. -/
def twoTasks : Workspace :=
  (Workspace.empty.insert (taskPath .queue "task-a") (renderTaskDocument (plainTask "task-a" [] inAthens))).insert
    (taskPath .queue "task-b") (renderTaskDocument (plainTask "task-b" [] inLondon))

theorem twoTasks_file (state : ItemState) (taskId : String) : twoTasks.file (taskPath state taskId) =
    if state = .queue ∧ taskId = "task-b" then some (renderTaskDocument (plainTask "task-b" [] inLondon))
    else if state = .queue ∧ taskId = "task-a" then some (renderTaskDocument (plainTask "task-a" [] inAthens))
    else none := by
  unfold twoTasks
  rw [Workspace.file_insert_task, Workspace.file_insert_task, Workspace.file_empty]

theorem twoTasks_athens : Eligible calmEnvironment twoTasks none (plainTask "task-a" [] inAthens) where
  queued := queuedDocument_render (by rw [twoTasks_file]; rfl) (plainTask_valid (by decide +kernel))
    (plainTask_canonical (by decide +kernel) (by decide +kernel))
  ready := by simp [plainTask]
  ofRoot := by simp

theorem twoTasks_london : Eligible calmEnvironment twoTasks none (plainTask "task-b" [] inLondon) where
  queued := queuedDocument_render (by rw [twoTasks_file]; rfl) (plainTask_valid (by decide +kernel))
    (plainTask_canonical (by decide +kernel) (by decide +kernel))
  ready := by simp [plainTask]
  ofRoot := by simp

theorem twoTasks_wellFormed : WellFormedQueue calmEnvironment twoTasks := by
  intro taskId there
  rw [twoTasks_file] at there
  split at there
  next london =>
    rw [london.2]
    exact ⟨_, twoTasks_london.queued, rfl⟩
  next =>
    split at there
    next athens =>
      rw [athens.2]
      exact ⟨_, twoTasks_athens.queued, rfl⟩
    next => cases there

theorem twoTasks_idle (taskId : String) : twoTasks.file (taskPath .active taskId) = none := by
  rw [twoTasks_file]
  simp

theorem claims_oldest_iff_twoTasks :
    Ends calmEnvironment ((claimNextExecutionTask calmEnvironment none).run ⟨twoTasks, 0⟩) fun claim w' =>
      ClaimsOldest calmEnvironment twoTasks none claim w' ↔ TextIsChronological calmEnvironment twoTasks none :=
  claims_oldest_iff calmEnvironment twoTasks 0 none twoTasks_wellFormed twoTasks_idle

/-- The task from London is claimed, whose creation time has the smaller text, before the older one from Athens. -/
theorem younger_task_claimed :
    ¬ ∀ (env : Environment) (w : Workspace) (step : Nat) (rootSpecId : Option String), WellFormedQueue env w →
      (∀ taskId, w.file (taskPath .active taskId) = none) →
        Ends env ((claimNextExecutionTask env rootSpecId).run ⟨w, step⟩) (ClaimsOldest env w rootSpecId) := by
  intro oldest
  have claimed := oldest calmEnvironment twoTasks 0 none twoTasks_wellFormed twoTasks_idle
  have holds : Holds _ (claimNextExecutionTask calmEnvironment none) _ _ :=
    claimNextExecutionTask_holds twoTasks_wellFormed twoTasks_idle
  have ends := holds ⟨twoTasks, 0⟩ rfl
  unfold EStateM.run Ends at claimed
  cases ran : claimNextExecutionTask calmEnvironment none ⟨twoTasks, 0⟩ with
  | error error s =>
    rw [ran] at ends
    exact calm_not_faulty ends
  | ok claim s =>
    rw [ran] at ends claimed
    rcases claims_textFirst twoTasks_wellFormed ends with ⟨-, -, none⟩ | ⟨d, raw, returned, eligible, rfl, named, -, -, first⟩
    · exact none _ twoTasks_london
    · obtain ⟨d', raw', eligible', named', -, -, notLater⟩ := claimed
      obtain rfl := eligible_unique eligible eligible' (named.symm.trans named')
      have before := first _ twoTasks_london
      have notAfter := notLater _ twoTasks_athens
      have queued := eligible.queued
      have there : (twoTasks.file (taskPath .queue d.taskId)).isSome := by
        obtain ⟨raw, file, -⟩ := Option.bind_eq_some_iff.mp queued
        rw [file]
        rfl
      rw [twoTasks_file] at there
      split at there
      next london =>
        obtain rfl := eligible_unique eligible twoTasks_london london.2
        revert notAfter
        unfold NotLater
        decide +kernel
      next =>
        split at there
        next athens =>
          obtain rfl := eligible_unique eligible twoTasks_athens athens.2
          revert before
          unfold TextBefore
          decide +kernel
        next => cases there

end Concrete

end Millrace.Queue
