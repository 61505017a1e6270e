import Millrace.Planning.Claims
import Millrace.Workspace.Interventions

/-! What the selectors find among the queued documents, and what they put aside. -/

set_option autoImplicit false

namespace Millrace.Planning
open Millrace.Text Millrace.Contracts Millrace.WorkDocuments Millrace.Action Millrace.Queue

section
variable [Rfc3339] {env : Environment} {w w' : Workspace}

/-! ## Eligible documents -/

section Documents
variable (env : Environment) (w : Workspace) (selector : Selector) (rootSpecId : Option String)

def Selector.path (stem : String) : DocumentPath := ⟨selector.directory, stem⟩

/-- The queued document of this name, where it is one that the selector does not put aside. -/
def Selector.queued (stem : String) : Option Queued :=
  (w.file (selector.path stem)).bind fun raw =>
    (selector.read raw (absolute env (selector.path stem).relative)).toOption.filter fun queued =>
      decide (stem = queued.itemId)

/-- A queued document that belongs to the root. -/
structure Eligible (item : Queued) : Prop where
  queued : selector.queued env w item.itemId = some item
  ofRoot : belongs rootSpecId item.root = true

def Selector.candidate (queued : Queued) : PlanningCandidate :=
  ⟨queued.timestamp.text, selector.kind, queued.itemId, selector.path queued.itemId⟩

def Selector.candidateOf (stem : String) : Option PlanningCandidate :=
  ((selector.queued env w stem).filter fun queued => belongs rootSpecId queued.root).map selector.candidate

end Documents

def selectors : List Selector := [incidentSelector, specSelector, probeSelector]

/-- Each selector has a directory of its own. -/
theorem selector_of_directory {a b : Selector} (known : a ∈ selectors) (known' : b ∈ selectors)
    (same : a.directory = b.directory) : a = b := by
  have kinds : a.kind = b.kind := congrArg Directory.kind same
  simp only [selectors, List.mem_cons, List.not_mem_nil, or_false] at known known'
  rcases known with rfl | rfl | rfl <;> rcases known' with rfl | rfl | rfl <;> first | rfl | cases kinds

theorem Selector.queued_itemId {selector : Selector} {stem : String} {queued : Queued}
    (found : selector.queued env w stem = some queued) : stem = queued.itemId := by
  obtain ⟨raw, -, filtered⟩ := Option.bind_eq_some_iff.mp found
  exact of_decide_eq_true (Option.filter_eq_some_iff.mp filtered).2

theorem Selector.queued_file {selector : Selector} {stem : String} {queued : Queued}
    (found : selector.queued env w stem = some queued) : (w.file (selector.path stem)).isSome := by
  obtain ⟨raw, file, -⟩ := Option.bind_eq_some_iff.mp found
  rw [file]
  rfl

theorem Selector.candidateOf_iff {selector : Selector} {rootSpecId : Option String} {stem : String}
    {candidate : PlanningCandidate} : selector.candidateOf env w rootSpecId stem = some candidate ↔
      ∃ queued, Eligible env w selector rootSpecId queued ∧ stem = queued.itemId ∧
        candidate = selector.candidate queued := by
  unfold Selector.candidateOf
  rw [Option.map_eq_some_iff]
  constructor
  · rintro ⟨queued, found, rfl⟩
    obtain ⟨document, ofRoot⟩ := Option.filter_eq_some_iff.mp found
    have named := selector.queued_itemId document
    exact ⟨queued, ⟨named ▸ document, ofRoot⟩, named, rfl⟩
  · rintro ⟨queued, ⟨document, ofRoot⟩, rfl, rfl⟩
    exact ⟨queued, Option.filter_eq_some_iff.mpr ⟨document, ofRoot⟩, rfl⟩

/-- A spec is found under the name it was enqueued with. -/
theorem specSelector_queued {d : SpecDocument} (valid : d.Valid) (canonical : d.Canonical)
    (file : w.file (specSelector.path d.specId) = some (renderSpecDocument d)) :
    specSelector.queued env w d.specId = some ⟨d.createdAt, d.specId, effectiveRootSpecSpec d⟩ := by
  unfold Selector.queued
  rw [file, Option.bind_some]
  show ((parseSpecDocumentWithSource (renderSpecDocument d) _).map _).toOption.filter _ = _
  rw [parseSpecDocument_render valid canonical]
  simp [Except.map, Except.toOption, Option.filter]

/-! ## Files put aside -/

variable (env w w') in
/-- The files are the same but for queued ones that are not documents of their name. -/
def SetAside : Prop := ∀ path, w'.file path = w.file path ∨
  (w'.file path = none ∧ path.directory.state = .queue ∧
    ∀ selector ∈ selectors, selector.directory = path.directory → selector.queued env w path.stem = none)

namespace SetAside

theorem of_same (same : w'.files = w.files) : SetAside env w w' := fun path => .inl (by rw [Workspace.file, same]; rfl)

theorem refl (w : Workspace) : SetAside env w w := fun _ => .inl rfl

/-- What is no queued document stays out of the queue. -/
theorem queued_eq (aside : SetAside env w w') {selector : Selector} (known : selector ∈ selectors) (stem : String) :
    selector.queued env w' stem = selector.queued env w stem := by
  rcases aside (selector.path stem) with same | ⟨gone, -, unread⟩
  · unfold Selector.queued
    rw [same]
  · have none : selector.queued env w stem = none := unread selector known rfl
    rw [none]
    unfold Selector.queued
    rw [gone]
    rfl

theorem trans {w'' : Workspace} (first : SetAside env w w') (second : SetAside env w' w'') : SetAside env w w'' := by
  intro path
  rcases second path with same | ⟨gone, state, unread⟩
  · rw [same]
    exact first path
  · refine .inr ⟨gone, state, fun selector known directory => ?_⟩
    rw [← first.queued_eq known]
    exact unread selector known directory

theorem active (aside : SetAside env w w') (kind : WorkItemKind) (stem : String) :
    w'.file ⟨⟨kind, .active, none⟩, stem⟩ = w.file ⟨⟨kind, .active, none⟩, stem⟩ := by
  rcases aside ⟨⟨kind, .active, none⟩, stem⟩ with same | ⟨-, state, -⟩
  · exact same
  · cases state

theorem eligible_iff (aside : SetAside env w w') {selector : Selector} (known : selector ∈ selectors)
    (rootSpecId : Option String) (queued : Queued) :
    Eligible env w' selector rootSpecId queued ↔ Eligible env w selector rootSpecId queued := by
  constructor
  · rintro ⟨document, ofRoot⟩
    exact ⟨(aside.queued_eq known _).symm.trans document, ofRoot⟩
  · rintro ⟨document, ofRoot⟩
    exact ⟨(aside.queued_eq known _).trans document, ofRoot⟩

end SetAside

/-! ## The selectors -/

section Steps
variable {s : World}

/-- A selection that failed on the way has put files aside. -/
abbrev Aside (env : Environment) (w : Workspace) (_ : QueueStoreError) (t : World) : Prop := SetAside env w t.workspace

theorem readIfPresent_ensues (aside : SetAside env w s.workspace) (path : DocumentPath) :
    Ensues s (readIfPresent env path) (fun raw t => raw = s.workspace.file path ∧ t = s.tick) (Aside env w) := by
  unfold readIfPresent
  apply (fileOperation_ensues (fun _ _ _ => aside) _).reads
  intro _ _
  apply currentWorkspace_ensues.reads
  rintro _ rfl
  exact .pure ⟨rfl, rfl⟩

theorem quarantineInvalidArtifact_ensues (aside : SetAside env w s.workspace) {path : DocumentPath}
    (queue : path.directory.state = .queue)
    (unread : ∀ selector ∈ selectors, selector.directory = path.directory → selector.queued env w path.stem = none)
    (error : String) :
    Ensues s (quarantineInvalidArtifact env path error) (fun _ t => SetAside env w t.workspace) (Aside env w) := by
  unfold quarantineInvalidArtifact
  apply (fileOperation_ensues (fun _ _ _ => aside) _).reads
  intro _ _
  apply currentWorkspace_ensues.reads
  rintro _ rfl
  cases s.tick.workspace.file path with
  | none => exact .pure aside
  | some raw =>
    dsimp only
    apply Ensues.bind (modifyWorkspace_ensues _)
    rintro _ t rfl
    have without : SetAside env w { s.workspace.erase path with
        quarantined := s.workspace.quarantined ++ [⟨path, quarantineIndex s.workspace.quarantined path, raw⟩] } := by
      intro path'
      show (s.workspace.erase path).file path' = _ ∨ (s.workspace.erase path).file path' = none ∧ _
      rw [Workspace.file_erase]
      split
      next same => exact .inr ⟨rfl, same ▸ queue, same ▸ unread⟩
      next => exact aside path'
    apply currentTimestamp_ensues.reads
    rintro _ rfl
    refine Ensues.weaken (appendLine_ensues (E := Aside env w) ?_ _ _) ?_ ?_
    · exact fun _ _ _ => without
    · exact fun _ t logged => without.trans (.of_same logged.1)
    · exact fun _ _ fails => fails

theorem candidateAt_ensues {selector : Selector} (known : selector ∈ selectors) (rootSpecId : Option String)
    (stem : String) (aside : SetAside env w s.workspace) :
    Ensues s (selector.candidateAt env rootSpecId (selector.path stem))
      (fun candidate t => candidate = selector.candidateOf env w rootSpecId stem ∧ SetAside env w t.workspace)
      (Aside env w) := by
  unfold Selector.candidateAt
  apply (readIfPresent_ensues aside _).reads
  rintro _ rfl
  have known_queued := aside.queued_eq known stem
  unfold Selector.candidateOf
  rw [← known_queued]
  -- what is no document of its name is none in the first workspace either
  have quarantined (error : String) (unread : selector.queued env s.workspace stem = none) :
      Ensues s.tick (do
          quarantineInvalidArtifact env (selector.path stem) error
          return (none : Option PlanningCandidate))
        (fun candidate t => candidate = ((selector.queued env s.workspace stem).filter fun queued =>
          belongs rootSpecId queued.root).map selector.candidate ∧ SetAside env w t.workspace) (Aside env w) := by
    have every : ∀ other ∈ selectors, other.directory = (selector.path stem).directory →
        other.queued env w stem = none := by
      intro other known' same
      rw [selector_of_directory known' known same, ← known_queued, unread]
    apply Ensues.bind (quarantineInvalidArtifact_ensues (s := s.tick) aside rfl every error)
    intro _ t aside
    rw [unread]
    exact .pure ⟨rfl, aside⟩
  cases file : s.workspace.file (selector.path stem) with
  | none =>
    unfold Selector.queued
    rw [file]
    exact .pure ⟨rfl, aside⟩
  | some raw =>
    dsimp only
    cases read : selector.read raw (absolute env (selector.path stem).relative) with
    | error error =>
      apply quarantined
      unfold Selector.queued
      rw [file, Option.bind_some, read]
      rfl
    | ok queued =>
      dsimp only
      have filtered : selector.queued env s.workspace stem = if stem = queued.itemId then some queued else none := by
        unfold Selector.queued
        rw [file, Option.bind_some, read]
        simp [Except.toOption, Option.filter]
      apply Ensues.ite
      · intro misnamed
        apply quarantined
        rw [filtered]
        exact if_neg misnamed
      · intro named
        have same : stem = queued.itemId := not_not.mp named
        rw [filtered, if_pos same]
        apply Ensues.ite
        · intro ofRoot
          rw [Option.filter_some, if_pos ofRoot]
          refine .pure ⟨?_, aside⟩
          rw [same]
          rfl
        · intro other
          rw [Option.filter_some, if_neg other]
          exact .pure ⟨rfl, aside⟩

theorem collect_ensues {selector : Selector} (known : selector ∈ selectors) (rootSpecId : Option String)
    (paths : List DocumentPath) (listed : ∀ path ∈ paths, path.directory = selector.directory) {s : World}
    (aside : SetAside env w s.workspace) :
    Ensues s (selector.collect env rootSpecId paths)
      (fun candidates t => candidates = paths.filterMap (fun path => selector.candidateOf env w rootSpecId path.stem) ∧
        SetAside env w t.workspace)
      (Aside env w) := by
  induction paths generalizing s with
  | nil => exact .pure ⟨rfl, aside⟩
  | cons path rest ih =>
    have placed : path = selector.path path.stem := by
      rw [Selector.path, ← listed path List.mem_cons_self]
    have here := candidateAt_ensues known rootSpecId path.stem aside
    rw [← placed] at here
    unfold Selector.collect
    apply Ensues.bind here
    rintro _ t ⟨rfl, aside⟩
    apply Ensues.bind (ih (fun path member => listed path (List.mem_cons_of_mem _ member)) aside)
    rintro _ t ⟨rfl, aside⟩
    refine .pure ⟨?_, aside⟩
    rw [List.filterMap_cons]
    cases selector.candidateOf env w rootSpecId path.stem <;> rfl

theorem listMarkdownFiles_ensues (aside : SetAside env w s.workspace) (d : Directory) :
    Ensues s (listMarkdownFiles env d) (fun paths t => paths = s.workspace.markdownFiles d ∧ t = s.tick)
      (Aside env w) := by
  unfold listMarkdownFiles
  apply (fileOperation_ensues (fun _ _ _ => aside) _).reads
  intro _ _
  apply currentWorkspace_ensues.reads
  rintro _ rfl
  exact .pure ⟨rfl, rfl⟩

/-! ## The oldest document by its text -/

variable (env w) in
/-- An eligible document of the families that no other comes before by the text of its timestamp, and none only where
none is eligible. -/
def Oldest (family : List Selector) (rootSpecId : Option String) : Option PlanningCandidate → Prop
  | none => ∀ selector ∈ family, ∀ item, ¬Eligible env w selector rootSpecId item
  | some candidate => ∃ selector ∈ family, ∃ item, candidate = selector.candidate item ∧
      Eligible env w selector rootSpecId item ∧
      ∀ other ∈ family, ∀ item', Eligible env w other rootSpecId item' → item.timestamp.text ≤ item'.timestamp.text

theorem selectOldest_ensues {selector : Selector} (known : selector ∈ selectors) (rootSpecId : Option String)
    (aside : SetAside env w s.workspace) :
    Ensues s (selector.selectOldest env rootSpecId)
      (fun candidate t => Oldest env w [selector] rootSpecId candidate ∧ SetAside env w t.workspace) (Aside env w) := by
  unfold Selector.selectOldest
  apply (listMarkdownFiles_ensues aside _).reads
  rintro _ rfl
  have listed : ∀ path ∈ s.workspace.markdownFiles selector.directory, path.directory = selector.directory :=
    fun path member => ((Workspace.mem_markdownFiles _ _ _).mp member).1
  apply Ensues.bind (collect_ensues known rootSpecId _ listed (s := s.tick) aside)
  rintro candidates t ⟨rfl, aside'⟩
  refine .pure ⟨?_, aside'⟩
  have mem_iff (candidate : PlanningCandidate) : candidate ∈ (s.workspace.markdownFiles selector.directory).filterMap
      (fun path => selector.candidateOf env w rootSpecId path.stem) ↔
        ∃ item, Eligible env w selector rootSpecId item ∧ candidate = selector.candidate item := by
    rw [List.mem_filterMap]
    constructor
    · rintro ⟨path, -, found⟩
      obtain ⟨item, eligible, -, is⟩ := Selector.candidateOf_iff.mp found
      exact ⟨item, eligible, is⟩
    · rintro ⟨item, eligible, is⟩
      have queued := (aside.queued_eq known _).trans eligible.queued
      exact ⟨selector.path item.itemId, (Workspace.mem_markdownFiles _ _ _).mpr ⟨rfl, Selector.queued_file queued⟩,
        Selector.candidateOf_iff.mpr ⟨item, eligible, rfl, is⟩⟩
  cases first : Sorting.first (Sorting.byKeys PlanningCandidate.timestamp PlanningCandidate.itemId)
      ((s.workspace.markdownFiles selector.directory).filterMap fun path =>
        selector.candidateOf env w rootSpecId path.stem) with
  | none =>
    intro selector' member item eligible
    obtain rfl := List.mem_singleton.mp member
    have member := (mem_iff _).mpr ⟨item, eligible, rfl⟩
    rw [Sorting.first_eq_none.mp first] at member
    cases member
  | some candidate =>
    obtain ⟨item, eligible, rfl⟩ := (mem_iff _).mp (Sorting.first_mem first)
    refine ⟨selector, List.mem_singleton_self _, item, rfl, eligible, fun other member item' eligible' => ?_⟩
    obtain rfl := List.mem_singleton.mp member
    exact Sorting.first_byKeys_le _ _ first _ ((mem_iff _).mpr ⟨item', eligible', rfl⟩)

/-- The older one of two is the oldest one of both. -/
theorem Oldest.merge {family family' : List Selector} {rootSpecId : Option String}
    {candidate candidate' : Option PlanningCandidate} (oldest : Oldest env w family rootSpecId candidate)
    (oldest' : Oldest env w family' rootSpecId candidate') {κ : Type} [LinearOrder κ] (tie : PlanningCandidate → κ) :
    Oldest env w (family ++ family') rootSpecId
      (Sorting.first (Sorting.byKeys PlanningCandidate.timestamp tie) (candidate.toList ++ candidate'.toList)) := by
  -- an eligible document is no earlier than the one that was found in its family
  have covered {family : List Selector} {found : Option PlanningCandidate} (oldest : Oldest env w family rootSpecId found)
      {other : Selector} (member : other ∈ family) {item : Queued} (eligible : Eligible env w other rootSpecId item) :
      ∃ c ∈ found.toList, c.timestamp ≤ item.timestamp.text := by
    cases found with
    | none => exact absurd eligible (oldest other member item)
    | some c =>
      obtain ⟨_, -, first, rfl, -, before⟩ := oldest
      exact ⟨_, Option.mem_toList.mpr rfl, before other member item eligible⟩
  have covers {other : Selector} (member : other ∈ family ++ family') {item : Queued}
      (eligible : Eligible env w other rootSpecId item) :
      ∃ c ∈ candidate.toList ++ candidate'.toList, c.timestamp ≤ item.timestamp.text := by
    rcases List.mem_append.mp member with member | member
    · obtain ⟨c, found, before⟩ := covered oldest member eligible
      exact ⟨c, List.mem_append_left _ found, before⟩
    · obtain ⟨c, found, before⟩ := covered oldest' member eligible
      exact ⟨c, List.mem_append_right _ found, before⟩
  have comes {family : List Selector} {c : PlanningCandidate} (oldest : Oldest env w family rootSpecId (some c)) :
      ∃ selector ∈ family, ∃ item, c = selector.candidate item ∧ Eligible env w selector rootSpecId item := by
    obtain ⟨selector, member, item, is, eligible, -⟩ := oldest
    exact ⟨selector, member, item, is, eligible⟩
  cases first : Sorting.first (Sorting.byKeys PlanningCandidate.timestamp tie)
      (candidate.toList ++ candidate'.toList) with
  | none =>
    intro other member item eligible
    obtain ⟨c, found, -⟩ := covers member eligible
    rw [Sorting.first_eq_none.mp first] at found
    cases found
  | some c =>
    have origin : ∃ selector ∈ family ++ family', ∃ item, c = selector.candidate item ∧
        Eligible env w selector rootSpecId item := by
      rcases List.mem_append.mp (Sorting.first_mem first) with found | found
      · obtain rfl := Option.mem_toList.mp found
        obtain ⟨selector, member, rest⟩ := comes oldest
        exact ⟨selector, List.mem_append_left _ member, rest⟩
      · obtain rfl := Option.mem_toList.mp found
        obtain ⟨selector, member, rest⟩ := comes oldest'
        exact ⟨selector, List.mem_append_right _ member, rest⟩
    obtain ⟨selector, member, item, rfl, eligible⟩ := origin
    refine ⟨selector, member, item, rfl, eligible, fun other member' item' eligible' => ?_⟩
    obtain ⟨c, found, before⟩ := covers member' eligible'
    have earlier : item.timestamp.text ≤ c.timestamp := Sorting.first_byKeys_le _ _ first c found
    exact earlier.trans before

theorem selectOldestProbeOrSpec_ensues (rootSpecId : Option String) (aside : SetAside env w s.workspace) :
    Ensues s (selectOldestProbeOrSpec env rootSpecId)
      (fun candidate t => Oldest env w [probeSelector, specSelector] rootSpecId candidate ∧ SetAside env w t.workspace)
      (Aside env w) := by
  unfold selectOldestProbeOrSpec
  apply Ensues.bind (Q := fun candidate t => Oldest env w [probeSelector] rootSpecId candidate ∧
    SetAside env w t.workspace)
  · cases rootSpecId with
    | none => exact selectOldest_ensues (by simp [selectors]) none aside
    | some root =>
      refine .pure ⟨fun selector member item eligible => ?_, aside⟩
      obtain rfl := List.mem_singleton.mp member
      obtain ⟨raw, -, filtered⟩ := Option.bind_eq_some_iff.mp eligible.queued
      -- a probe has no root
      have rootless : item.root = none := by
        obtain ⟨document, -, rfl⟩ := map_eq_ok.mp (toOption_eq_some.mp (Option.filter_eq_some_iff.mp filtered).1)
        rfl
      have ofRoot := eligible.ofRoot
      rw [rootless] at ofRoot
      cases ofRoot
  rintro probe t ⟨oldest, aside⟩
  have known : specSelector ∈ selectors := by simp [selectors]
  apply Ensues.bind (selectOldest_ensues known rootSpecId aside)
  rintro spec t ⟨oldest', aside⟩
  exact .pure ⟨oldest.merge oldest' _, aside⟩

end Steps

end
end Millrace.Planning
