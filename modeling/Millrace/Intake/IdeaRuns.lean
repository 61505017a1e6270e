import Millrace.Intake.IdeaEvents
import Millrace.Runs
import Millrace.Workspace.TaskClaims

/-! What the watcher events of ideas leave: when every idea file has a spec and a source artifact of its own. -/

set_option autoImplicit false

namespace Millrace.Intake
open Millrace.Text Millrace.Contracts Millrace.WorkDocuments Millrace.Action
open Millrace.Queue (ItemState Directory DocumentPath Workspace World StoreM QueueStoreError Environment absolute)
open Millrace.Runtime.PollWatcher (PathBuf)

section
variable [Rfc3339] {env : Environment}

/-! ## Runs of events -/

section Runs
variable (env) (inbox : PathBuf → InboxEntry)

/-- One event of a file, seen at a time; an error of its handler is only recorded. -/
def eventStep (s : IdeaWorld) (event : PathBuf × Timestamp) : IdeaWorld :=
  Action.after (normalizeIdeaWatchEvent env inbox event.1 event.2) s

/-- The state after the events, in their order. -/
def watched (s : IdeaWorld) (events : List (PathBuf × Timestamp)) : IdeaWorld := Runs.after (eventStep env inbox) s events

def contentAt (p : PathBuf) : String :=
  match inbox p with
  | .file content => content
  | _ => ""

/-- The spec that an event of a file would queue, as it is read back. -/
def readBack (event : PathBuf × Timestamp) : Option SpecDocument :=
  (parseSpecDocumentWithSource (renderSpecDocument (ideaDocument event.1 (contentAt inbox event.1) event.2))
    (absolute env (specPath (safeSpecIdFromIdeaPath event.1)).relative)).toOption

/-- A spec of the idea's id that refers to its file. -/
def refersTo (p : PathBuf) (document : SpecDocument) : Prop :=
  document.specId = safeSpecIdFromIdeaPath p ∧ workspaceRelative p ∈ document.references

/-- The workspace has the spec of the idea. -/
def Own (w : Workspace) (p : PathBuf) : Prop :=
  ∃ state ∈ specStates, ∃ document, specAt env w ⟨⟨.spec, state, none⟩, safeSpecIdFromIdeaPath p⟩ = some document ∧
    refersTo p document

def inboxMark : String := "ideas/inbox/"

/-- The spec of the idea's id refers to other files of the inbox and not to that of the idea. -/
def Foreign (w : Workspace) (p : PathBuf) : Prop :=
  ∃ state ∈ specStates, ∃ document, specAt env w ⟨⟨.spec, state, none⟩, safeSpecIdFromIdeaPath p⟩ = some document ∧
    workspaceRelative p ∉ document.references ∧ ∃ reference ∈ document.references, inboxMark.toList <+: reference.toList

variable {env inbox}

/-- The events are of these files, and each of them has one. -/
structure Dropped (inbox : PathBuf → InboxEntry) (files : List PathBuf) (events : List (PathBuf × Timestamp)) : Prop where
  readable : ∀ p ∈ files, ∃ content, inbox p = .file content
  ofFiles : ∀ event ∈ events, event.1 ∈ files
  seen : ∀ p ∈ files, p ∈ events.map Prod.fst

theorem watched_append (s : IdeaWorld) (before rest : List (PathBuf × Timestamp)) :
    watched env inbox s (before ++ rest) = watched env inbox (watched env inbox s before) rest :=
  Runs.after_append before

theorem watched_concat (s : IdeaWorld) (before : List (PathBuf × Timestamp)) (event : PathBuf × Timestamp) :
    watched env inbox s (before ++ [event]) = eventStep env inbox (watched env inbox s before) event :=
  watched_append s before [event]

theorem step_spec (calm : Calm env) {event : PathBuf × Timestamp} (readable : ∃ content, inbox event.1 = .file content)
    (s : IdeaWorld) :
    ((eventStep env inbox s event).artifacts = fun id =>
      if id = safeSpecIdFromIdeaPath event.1 then some (contentAt inbox event.1) else s.artifacts id) ∧
    (¬Open env s.queue.workspace event.1 → (eventStep env inbox s event).queue.workspace = s.queue.workspace) ∧
    (Open env s.queue.workspace event.1 → (eventStep env inbox s event).queue.workspace =
      s.queue.workspace.insert (specPath (safeSpecIdFromIdeaPath event.1))
        (renderSpecDocument (ideaDocument event.1 (contentAt inbox event.1) event.2))) := by
  obtain ⟨content, found⟩ := readable
  obtain ⟨handled, t, ran, -, artifacts, closed, opened⟩ := event_returns calm found event.2 s
  have same : contentAt inbox event.1 = content := by
    unfold contentAt
    rw [found]
  have stepped : eventStep env inbox s event = t := by
    unfold eventStep Action.after
    rw [ran]
  rw [stepped, same]
  exact ⟨artifacts, closed, opened⟩

/-- Every file stays as it is. -/
def Grows (w w' : Workspace) : Prop := ∀ path raw, w.file path = some raw → w'.file path = some raw

theorem step_grows (calm : Calm env) {event : PathBuf × Timestamp} (readable : ∃ content, inbox event.1 = .file content)
    (s : IdeaWorld) : Grows s.queue.workspace (eventStep env inbox s event).queue.workspace := by
  obtain ⟨-, closed, opened⟩ := step_spec calm readable s
  intro path raw there
  by_cases free : Open env s.queue.workspace event.1
  · rw [opened free, Workspace.file_insert, if_neg]
    · exact there
    · rintro rfl
      have taken : (s.queue.workspace.file (specPath (safeSpecIdFromIdeaPath event.1))).isSome := by
        rw [there]
        rfl
      exact free.2 ⟨.queue, List.mem_cons_self, taken⟩
  · rw [closed free]
    exact there

theorem watched_grows (calm : Calm env) {files : List PathBuf} {events : List (PathBuf × Timestamp)}
    (readable : ∀ p ∈ files, ∃ content, inbox p = .file content) (ofFiles : ∀ event ∈ events, event.1 ∈ files)
    (s : IdeaWorld) : Grows s.queue.workspace (watched env inbox s events).queue.workspace := by
  induction events generalizing s with
  | nil => exact fun _ _ there => there
  | cons event rest ih =>
    intro path raw there
    have first := readable event.1 (ofFiles event List.mem_cons_self)
    exact ih (fun e later => ofFiles e (List.mem_cons_of_mem _ later)) _ path raw (step_grows calm first s path raw there)

/-- A file that is new after the events is the spec that one of them queued, for an idea that was open. -/
theorem watched_origin (calm : Calm env) {files : List PathBuf} {events : List (PathBuf × Timestamp)}
    (readable : ∀ p ∈ files, ∃ content, inbox p = .file content) (ofFiles : ∀ event ∈ events, event.1 ∈ files)
    (s : IdeaWorld) {path : DocumentPath} {raw : String}
    (there : (watched env inbox s events).queue.workspace.file path = some raw) :
    s.queue.workspace.file path = some raw ∨
      ∃ before event rest, events = before ++ event :: rest ∧
        Open env (watched env inbox s before).queue.workspace event.1 ∧
        path = specPath (safeSpecIdFromIdeaPath event.1) ∧
        raw = renderSpecDocument (ideaDocument event.1 (contentAt inbox event.1) event.2) := by
  induction events using List.reverseRecOn with
  | nil => exact .inl there
  | append_singleton before event ih =>
    have known := ofFiles event (List.mem_append_right _ List.mem_cons_self)
    have earlier : ∀ e ∈ before, e.1 ∈ files := fun e member => ofFiles e (List.mem_append_left _ member)
    rw [watched_concat] at there
    obtain ⟨-, closed, opened⟩ := step_spec calm (readable event.1 known) (watched env inbox s before)
    have old (there : (watched env inbox s before).queue.workspace.file path = some raw) : s.queue.workspace.file path = some raw ∨
        ∃ before' event' rest', before ++ [event] = before' ++ event' :: rest' ∧
          Open env (watched env inbox s before').queue.workspace event'.1 ∧
          path = specPath (safeSpecIdFromIdeaPath event'.1) ∧
          raw = renderSpecDocument (ideaDocument event'.1 (contentAt inbox event'.1) event'.2) := by
      rcases ih earlier there with first | ⟨before', event', rest', rfl, free, same, text⟩
      · exact .inl first
      · exact .inr ⟨before', event', rest' ++ [event], by simp, free, same, text⟩
    by_cases free : Open env (watched env inbox s before).queue.workspace event.1
    · rw [opened free, Workspace.file_insert] at there
      split at there
      next same => exact .inr ⟨before, event, [], rfl, free, same, (Option.some.inj there).symm⟩
      next => exact old there
    · rw [closed free] at there
      exact old there

theorem watched_artifact (calm : Calm env) {files : List PathBuf} {events : List (PathBuf × Timestamp)}
    (readable : ∀ p ∈ files, ∃ content, inbox p = .file content) (ofFiles : ∀ event ∈ events, event.1 ∈ files)
    (apart : ∀ p ∈ files, ∀ q ∈ files, p ≠ q → safeSpecIdFromIdeaPath p ≠ safeSpecIdFromIdeaPath q)
    (s : IdeaWorld) {p : PathBuf} (seen : p ∈ events.map Prod.fst) :
    (watched env inbox s events).artifacts (safeSpecIdFromIdeaPath p) = some (contentAt inbox p) := by
  induction events using List.reverseRecOn with
  | nil => cases seen
  | append_singleton before event ih =>
    have known := ofFiles event (List.mem_append_right _ List.mem_cons_self)
    obtain ⟨artifacts, -, -⟩ := step_spec calm (readable event.1 known) (watched env inbox s before)
    rw [watched_concat, artifacts]
    dsimp only
    by_cases same : p = event.1
    · rw [same, if_pos rfl]
    · have earlier : p ∈ before.map Prod.fst := by
        rw [List.map_append, List.mem_append] at seen
        rcases seen with earlier | here
        · exact earlier
        · exact absurd (List.mem_singleton.mp here) same
      have ours : p ∈ files := by
        obtain ⟨e, member, rfl⟩ := List.mem_map.mp earlier
        exact ofFiles e (List.mem_append_left _ member)
      rw [if_neg (apart p ours event.1 known same)]
      exact ih (fun e member => ofFiles e (List.mem_append_left _ member)) earlier

/-! ## Every idea -/

variable (env inbox) in
/-- Each file has its spec, with an id that no other file of them has and a source artifact that holds its contents;
no event wrote over the source artifact of a spec of other files. -/
structure EveryIdea (files : List PathBuf) (s : IdeaWorld) (events : List (PathBuf × Timestamp)) : Prop where
  own : ∀ p ∈ files, Own env (watched env inbox s events).queue.workspace p
  artifact : ∀ p ∈ files,
    (watched env inbox s events).artifacts (safeSpecIdFromIdeaPath p) = some (contentAt inbox p)
  apart : ∀ p ∈ files, ∀ q ∈ files, p ≠ q → safeSpecIdFromIdeaPath p ≠ safeSpecIdFromIdeaPath q
  untouched : ∀ before event rest, events = before ++ event :: rest →
    ¬Foreign env (watched env inbox s before).queue.workspace event.1

variable (env inbox) in
/-- The spec that the first event of a file would queue is read back, and stands for no file that comes later. -/
structure Clear (files : List PathBuf) (w : Workspace) (events : List (PathBuf × Timestamp)) : Prop where
  apart : ∀ p ∈ files, ∀ q ∈ files, p ≠ q → safeSpecIdFromIdeaPath p ≠ safeSpecIdFromIdeaPath q
  unclaimed : ∀ p ∈ files, ¬Foreign env w p
  fresh : ∀ before event rest, events = before ++ event :: rest → event.1 ∉ before.map Prod.fst →
    Own env w event.1 ∨ Open env w event.1 ∧ (∃ document, readBack env inbox event = some document ∧ refersTo event.1 document) ∧
      ∀ before' event' rest', before = before' ++ event' :: rest' → event'.1 ∉ before'.map Prod.fst →
        ¬Own env w event'.1 → ∀ document, readBack env inbox event' = some document →
          represents (safeSpecIdFromIdeaPath event.1) (workspaceRelative event.1) document = false

theorem Grows.specAt {w w' : Workspace} (grows : Grows w w') {path : DocumentPath} {document : SpecDocument}
    (found : specAt env w path = some document) : specAt env w' path = some document := by
  obtain ⟨raw, read, parsed⟩ := Option.bind_eq_some_iff.mp found
  unfold Intake.specAt
  rw [grows path raw read, Option.bind_some, parsed]

theorem Grows.own {w w' : Workspace} (grows : Grows w w') {p : PathBuf} (own : Own env w p) : Own env w' p := by
  obtain ⟨state, listed, document, found, refers⟩ := own
  exact ⟨state, listed, document, grows.specAt found, refers⟩

theorem Grows.foreign {w w' : Workspace} (grows : Grows w w') {p : PathBuf} (foreign : Foreign env w p) : Foreign env w' p := by
  obtain ⟨state, listed, document, found, refers⟩ := foreign
  exact ⟨state, listed, document, grows.specAt found, refers⟩

theorem Grows.open {w w' : Workspace} (grows : Grows w w') {p : PathBuf} (free : Open env w' p) : Open env w p := by
  constructor
  · rintro ⟨state, listed, stem, document, found, stands⟩
    exact free.1 ⟨state, listed, stem, document, grows.specAt found, stands⟩
  · rintro ⟨state, listed, there⟩
    obtain ⟨raw, read⟩ := Option.isSome_iff_exists.mp there
    refine free.2 ⟨state, listed, ?_⟩
    rw [grows _ raw read]
    rfl

theorem own_not_open {w : Workspace} {p : PathBuf} (own : Own env w p) : ¬Open env w p := by
  obtain ⟨state, listed, document, found, same, -⟩ := own
  refine fun free => free.1 ⟨state, listed, _, document, found, ?_⟩
  unfold represents
  rw [decide_eq_true same, Bool.true_or, Bool.true_or]

section Files
variable {files : List PathBuf} {events : List (PathBuf × Timestamp)}

/-- The part of the events that is over before some point. -/
theorem Dropped.prior (dropped : Dropped inbox files events) {before rest : List (PathBuf × Timestamp)}
    (split : events = before ++ rest) : ∀ event ∈ before, event.1 ∈ files :=
  fun e earlier => dropped.ofFiles e (split ▸ List.mem_append_left _ earlier)

theorem Dropped.first (dropped : Dropped inbox files events) {p : PathBuf} (ours : p ∈ files) :
    ∃ before event rest, events = before ++ event :: rest ∧ event.1 = p ∧ event.1 ∉ before.map Prod.fst := by
  obtain ⟨names, names', named, fresh⟩ := List.eq_append_cons_of_mem (dropped.seen p ours)
  obtain ⟨before, others, split, rfl, tail⟩ := List.map_eq_append_iff.mp named
  obtain ⟨event, rest, rfl, rfl, -⟩ := List.map_eq_cons_iff.mp tail
  exact ⟨before, event, rest, split, rfl, fresh⟩

/-- An idea with an event behind it is not open any more. -/
theorem not_open_after (dropped : Dropped inbox files events) (calm : Calm env) (s : IdeaWorld)
    {before rest : List (PathBuf × Timestamp)} (split : events = before ++ rest) {p : PathBuf}
    (seen : p ∈ before.map Prod.fst) : ¬Open env (watched env inbox s before).queue.workspace p := by
  obtain ⟨event, member, rfl⟩ := List.mem_map.mp seen
  obtain ⟨earlier, later, rfl⟩ := List.append_of_mem member
  have known := dropped.prior split event member
  obtain ⟨-, closed, opened⟩ := step_spec calm (dropped.readable event.1 known) (watched env inbox s earlier)
  have grows : Grows (eventStep env inbox (watched env inbox s earlier) event).queue.workspace
      (watched env inbox s (earlier ++ event :: later)).queue.workspace := by
    rw [watched_append]
    exact watched_grows calm dropped.readable
      (fun e member => dropped.prior split e (List.mem_append_right _ (List.mem_cons_of_mem _ member))) _
  refine fun free => ?_
  have free := grows.open free
  by_cases before : Open env (watched env inbox s earlier).queue.workspace event.1
  · rw [opened before] at free
    refine free.2 ⟨.queue, List.mem_cons_self, ?_⟩
    have there := Workspace.file_insert (watched env inbox s earlier).queue.workspace
      (specPath (safeSpecIdFromIdeaPath event.1)) (specPath (safeSpecIdFromIdeaPath event.1))
      (renderSpecDocument (ideaDocument event.1 (contentAt inbox event.1) event.2))
    rw [if_pos rfl] at there
    exact Option.isSome_iff_exists.mpr ⟨_, there⟩
  · rw [closed before] at free
    exact before free

/-- The spec that the event of an open idea queues stays. -/
theorem queued_spec (dropped : Dropped inbox files events) (calm : Calm env) (s : IdeaWorld)
    {before rest : List (PathBuf × Timestamp)} {event : PathBuf × Timestamp} (split : events = before ++ event :: rest)
    (free : Open env (watched env inbox s before).queue.workspace event.1) {reached : List (PathBuf × Timestamp)}
    {rest' : List (PathBuf × Timestamp)} (later : events = reached ++ rest') (past : before ++ [event] <+: reached) :
    (watched env inbox s reached).queue.workspace.file (specPath (safeSpecIdFromIdeaPath event.1)) =
      some (renderSpecDocument (ideaDocument event.1 (contentAt inbox event.1) event.2)) := by
  obtain ⟨more, rfl⟩ := past
  have known := dropped.ofFiles event (split ▸ List.mem_append_right _ List.mem_cons_self)
  obtain ⟨-, -, opened⟩ := step_spec calm (dropped.readable event.1 known) (watched env inbox s before)
  rw [watched_append, watched_concat]
  refine watched_grows calm dropped.readable
    (fun e member => dropped.prior later e (List.mem_append_right _ member)) _ _ _ ?_
  rw [opened free, Workspace.file_insert, if_pos rfl]

/-- What is read at the path of that spec. -/
theorem specAt_queued {w : Workspace} {event : PathBuf × Timestamp}
    (there : w.file (specPath (safeSpecIdFromIdeaPath event.1)) =
      some (renderSpecDocument (ideaDocument event.1 (contentAt inbox event.1) event.2))) :
    specAt env w (specPath (safeSpecIdFromIdeaPath event.1)) = readBack env inbox event := by
  unfold specAt
  rw [there, Option.bind_some]
  rfl

/-- Of two events of one file, the first comes no later. -/
theorem first_prefix {before before' rest rest' : List (PathBuf × Timestamp)} {event event' : PathBuf × Timestamp}
    (split : before ++ event :: rest = before' ++ event' :: rest') (same : event'.1 = event.1)
    (fresh : event.1 ∉ before.map Prod.fst) : before <+: before' := by
  rcases List.append_eq_append_iff.mp split with ⟨more, rfl, -⟩ | ⟨more, rfl, tail⟩
  · exact List.prefix_append before more
  · cases more with
    | nil => rw [List.append_nil]
    | cons e more =>
      obtain ⟨rfl, -⟩ := List.cons.inj tail
      rw [List.map_append, List.mem_append, not_or] at fresh
      exact absurd (same ▸ List.mem_cons_self) fresh.2

/-- In a run that leaves every idea its spec, an idea that had none at the start is open when its first event comes. -/
theorem EveryIdea.open_first (dropped : Dropped inbox files events) (calm : Calm env) {s : IdeaWorld}
    (every : EveryIdea env inbox files s events) {before rest : List (PathBuf × Timestamp)} {event : PathBuf × Timestamp}
    (split : events = before ++ event :: rest) (fresh : event.1 ∉ before.map Prod.fst)
    (lacking : ¬Own env s.queue.workspace event.1) : Open env (watched env inbox s before).queue.workspace event.1 := by
  have ours := dropped.ofFiles event (split ▸ List.mem_append_right _ List.mem_cons_self)
  obtain ⟨state, listed, document, found, refers⟩ := every.own event.1 ours
  obtain ⟨raw, read, parsed⟩ := Option.bind_eq_some_iff.mp found
  rcases watched_origin calm dropped.readable dropped.ofFiles s read with old | ⟨b, e, r, split', free, path, -⟩
  · refine absurd ⟨state, listed, document, ?_, refers⟩ lacking
    unfold specAt
    rw [old, Option.bind_some, parsed]
  · have same : e.1 = event.1 := by
      by_contra differs
      have member := dropped.ofFiles e (split' ▸ List.mem_append_right _ List.mem_cons_self)
      exact every.apart e.1 member event.1 ours differs (DocumentPath.mk.inj path).2.symm
    obtain ⟨more, rfl⟩ := first_prefix (split ▸ split') same fresh
    rw [same] at free
    refine Grows.open ?_ free
    rw [watched_append]
    exact watched_grows calm dropped.readable
      (fun e member => dropped.prior split' e (List.mem_append_right _ member)) _

theorem EveryIdea.clear (dropped : Dropped inbox files events) (calm : Calm env) {s : IdeaWorld}
    (every : EveryIdea env inbox files s events) : Clear env inbox files s.queue.workspace events := by
  refine ⟨every.apart, fun p ours foreign => ?_, fun before event rest split fresh => ?_⟩
  · obtain ⟨before, event, rest, split, rfl, -⟩ := dropped.first ours
    refine every.untouched before event rest split (Grows.foreign ?_ foreign)
    exact watched_grows calm dropped.readable (dropped.prior split) s
  · by_cases lacking : Own env s.queue.workspace event.1
    · exact .inl lacking
    · have ours := dropped.ofFiles event (split ▸ List.mem_append_right _ List.mem_cons_self)
      have free := every.open_first dropped calm split fresh lacking
      have opened : Open env s.queue.workspace event.1 :=
        Grows.open (watched_grows calm dropped.readable (dropped.prior split) s) free
      refine .inr ⟨opened, ?_, ?_⟩
      · have whole : events = events ++ [] := (List.append_nil events).symm
        have past : before ++ [event] <+: events := ⟨rest, by rw [split]; simp⟩
        have queued := queued_spec dropped calm s split free whole past
        obtain ⟨state, listed, document, found, refers⟩ := every.own event.1 ours
        obtain ⟨raw, read, parsed⟩ := Option.bind_eq_some_iff.mp found
        rcases watched_origin calm dropped.readable dropped.ofFiles s read with old | ⟨b, e, r, -, -, path, -⟩
        · refine absurd ⟨state, listed, ?_⟩ opened.2
          rw [old]
          rfl
        · obtain rfl : state = .queue := congrArg (fun path => path.directory.state) path
          have back : specAt env (watched env inbox s events).queue.workspace (specPath (safeSpecIdFromIdeaPath event.1)) =
              readBack env inbox event := specAt_queued queued
          exact ⟨document, back.symm.trans found, refers⟩
      · intro before' event' rest' split' fresh' lacking' document back
        by_contra stands
        rw [Bool.not_eq_false] at stands
        have split'' : events = before' ++ event' :: (rest' ++ event :: rest) := by
          rw [split, split']
          simp
        have free' := every.open_first dropped calm split'' fresh' lacking'
        have past : before' ++ [event'] <+: before := ⟨rest', by rw [split']; simp⟩
        have queued := queued_spec dropped calm s split'' free' split past
        exact free.1 ⟨.queue, List.mem_cons_self, safeSpecIdFromIdeaPath event'.1, document,
          (specAt_queued queued).trans back, stands⟩

/-- Where the run is clear, an idea that had no spec at the start is open when its first event comes. -/
theorem Clear.open_first (dropped : Dropped inbox files events) (calm : Calm env) {s : IdeaWorld}
    (clear : Clear env inbox files s.queue.workspace events) {before rest : List (PathBuf × Timestamp)}
    {event : PathBuf × Timestamp} (split : events = before ++ event :: rest) (fresh : event.1 ∉ before.map Prod.fst)
    (lacking : ¬Own env s.queue.workspace event.1) : Open env (watched env inbox s before).queue.workspace event.1 := by
  have ours := dropped.ofFiles event (split ▸ List.mem_append_right _ List.mem_cons_self)
  obtain ⟨opened, -, unrelated⟩ := (clear.fresh before event rest split fresh).resolve_left lacking
  constructor
  · rintro ⟨state, listed, stem, document, found, stands⟩
    obtain ⟨raw, read, parsed⟩ := Option.bind_eq_some_iff.mp found
    rcases watched_origin calm dropped.readable (dropped.prior split) s read with old | ⟨b, e, r, split', free, path, text⟩
    · refine opened.1 ⟨state, listed, stem, document, ?_, stands⟩
      unfold specAt
      rw [old, Option.bind_some, parsed]
    · have split'' : events = b ++ e :: (r ++ event :: rest) := by
        rw [split, split']
        simp
      have fresh' : e.1 ∉ b.map Prod.fst := fun seen => not_open_after dropped calm s split'' seen free
      have lacking' : ¬Own env s.queue.workspace e.1 := fun own =>
        own_not_open (Grows.own (watched_grows calm dropped.readable (dropped.prior split'') s) own) free
      have back : readBack env inbox e = some document := by
        rw [← found, path]
        exact (specAt_queued (path ▸ text ▸ read)).symm
      have apart := unrelated b e r split' fresh' lacking' document back
      rw [stands] at apart
      cases apart
  · rintro ⟨state, listed, there⟩
    obtain ⟨raw, read⟩ := Option.isSome_iff_exists.mp there
    rcases watched_origin calm dropped.readable (dropped.prior split) s read with old | ⟨b, e, r, split', -, path, -⟩
    · refine opened.2 ⟨state, listed, ?_⟩
      rw [old]
      rfl
    · have earlier : e ∈ before := split' ▸ List.mem_append_right _ List.mem_cons_self
      have differs : e.1 ≠ event.1 := fun same => fresh (same ▸ List.mem_map_of_mem earlier)
      exact clear.apart e.1 (dropped.prior split e earlier) event.1 ours differs (DocumentPath.mk.inj path).2.symm

theorem Clear.every (dropped : Dropped inbox files events) (calm : Calm env) {s : IdeaWorld}
    (clear : Clear env inbox files s.queue.workspace events) : EveryIdea env inbox files s events := by
  refine ⟨fun p ours => ?_, fun p ours => ?_, clear.apart, fun before event rest split foreign => ?_⟩
  · obtain ⟨before, event, rest, split, rfl, fresh⟩ := dropped.first ours
    by_cases lacking : Own env s.queue.workspace event.1
    · exact Grows.own (watched_grows calm dropped.readable dropped.ofFiles s) lacking
    · have free := clear.open_first dropped calm split fresh lacking
      obtain ⟨-, ⟨document, back, refers⟩, -⟩ := (clear.fresh before event rest split fresh).resolve_left lacking
      have whole : events = events ++ [] := (List.append_nil events).symm
      have past : before ++ [event] <+: events := ⟨rest, by rw [split]; simp⟩
      exact ⟨.queue, List.mem_cons_self, document,
        (specAt_queued (queued_spec dropped calm s split free whole past)).trans back, refers⟩
  · exact watched_artifact calm dropped.readable dropped.ofFiles clear.apart s (dropped.seen p ours)
  · have ours := dropped.ofFiles event (split ▸ List.mem_append_right _ List.mem_cons_self)
    obtain ⟨state, listed, document, found, unnamed, others⟩ := foreign
    obtain ⟨raw, read, parsed⟩ := Option.bind_eq_some_iff.mp found
    rcases watched_origin calm dropped.readable (dropped.prior split) s read with old | ⟨b, e, r, split', free, path, text⟩
    · refine clear.unclaimed event.1 ours ⟨state, listed, document, ?_, unnamed, others⟩
      unfold specAt
      rw [old, Option.bind_some, parsed]
    · have split'' : events = b ++ e :: (r ++ event :: rest) := by
        rw [split, split']
        simp
      have earlier : e ∈ before := split' ▸ List.mem_append_right _ List.mem_cons_self
      have same : e.1 = event.1 := by
        by_contra differs
        exact clear.apart e.1 (dropped.prior split e earlier) event.1 ours differs (DocumentPath.mk.inj path).2.symm
      have fresh' : e.1 ∉ b.map Prod.fst := fun seen => not_open_after dropped calm s split'' seen free
      have lacking' : ¬Own env s.queue.workspace e.1 := fun own =>
        own_not_open (Grows.own (watched_grows calm dropped.readable (dropped.prior split'') s) own) free
      obtain ⟨-, ⟨document', back, -, named⟩, -⟩ := (clear.fresh b e _ split'' fresh').resolve_left lacking'
      have back' : readBack env inbox e = some document := by
        rw [← found, path]
        exact (specAt_queued (path ▸ text ▸ read)).symm
      obtain rfl := Option.some.inj (back.symm.trans back')
      exact unnamed (same ▸ named)

end Files

/-- Every idea file gets a spec and a source artifact of its own exactly where the ids of the files differ, no spec in
the workspace has such an id for another file, and each file either has its spec already or none stands for it, and
then the spec that its first event queues can be read back and stands for no file that comes later. -/
theorem every_idea_iff (env : Environment) (calm : Calm env) (inbox : PathBuf → InboxEntry) (files : List PathBuf)
    (events : List (PathBuf × Timestamp)) (dropped : Dropped inbox files events) (s : IdeaWorld) :
    EveryIdea env inbox files s events ↔ Clear env inbox files s.queue.workspace events :=
  ⟨fun every => every.clear dropped calm, fun clear => clear.every dropped calm⟩

/-- The idea of a plain file is read back as it was derived. -/
theorem readBack_plain {event : PathBuf × Timestamp} (plain : Plain event.1) (oneLine : OneLineTimestamp event.2) :
    readBack env inbox event = some (ideaDocument event.1 (contentAt inbox event.1) event.2) := by
  unfold readBack
  rw [parseSpecDocument_render ((SpecDocument.validate_iff _).mp (ideaDocument_valid _ _ _))
    (ideaDocument_canonical plain _ oneLine)]
  rfl

omit [Rfc3339] in
theorem inbox_not_artifact {reference specId : String} (inInbox : inboxMark.toList <+: reference.toList) :
    reference ≠ sourceArtifactPath specId := by
  rintro rfl
  unfold sourceArtifactPath at inInbox
  rw [String.append_assoc, String.toList_append] at inInbox
  obtain ⟨rest, same⟩ := inInbox
  have heads := congrArg List.head? same
  rw [List.head?_append_of_ne_nil _ (by decide), List.head?_append_of_ne_nil _ (by decide)] at heads
  exact absurd heads (by decide)

omit [Rfc3339] in
theorem mem_ideaReferences {durable transient reference : String} :
    reference ∈ ideaReferences durable transient ↔ reference = durable ∨ reference = transient := by
  unfold ideaReferences
  split
  next same => rw [List.mem_singleton, same, or_self]
  next => rw [List.mem_cons, List.mem_singleton]

/-- Plain files that are dropped where no spec is yet all get their spec exactly where their ids differ. -/
theorem plain_ideas_iff (env : Environment) (calm : Calm env) (inbox : PathBuf → InboxEntry) (files : List PathBuf)
    (events : List (PathBuf × Timestamp)) (dropped : Dropped inbox files events) (s : IdeaWorld)
    (noSpecs : ∀ state stem, s.queue.workspace.file ⟨⟨.spec, state, none⟩, stem⟩ = none)
    (plain : ∀ p ∈ files, Plain p ∧ inboxMark.toList <+: (workspaceRelative p).toList)
    (named : ∀ p ∈ files, ∀ q ∈ files, p ≠ q → workspaceRelative p ≠ workspaceRelative q)
    (oneLine : ∀ event ∈ events, OneLineTimestamp event.2) :
    EveryIdea env inbox files s events ↔
      ∀ p ∈ files, ∀ q ∈ files, p ≠ q → safeSpecIdFromIdeaPath p ≠ safeSpecIdFromIdeaPath q := by
  constructor
  · exact fun every => every.apart
  · refine fun apart => Clear.every dropped calm ⟨apart, fun p ours => ?_, fun before event rest split fresh => .inr ?_⟩
    · rintro ⟨state, -, document, found, -⟩
      obtain ⟨raw, read, -⟩ := Option.bind_eq_some_iff.mp found
      rw [noSpecs] at read
      cases read
    · have member : event ∈ events := split ▸ List.mem_append_right _ List.mem_cons_self
      have ours := dropped.ofFiles event member
      refine ⟨⟨?_, ?_⟩, ⟨_, readBack_plain (plain _ ours).1 (oneLine event member), rfl, mem_ideaReferences.mpr (.inr rfl)⟩, ?_⟩
      · rintro ⟨state, -, stem, document, found, -⟩
        obtain ⟨raw, read, -⟩ := Option.bind_eq_some_iff.mp found
        rw [noSpecs] at read
        cases read
      · rintro ⟨state, -, there⟩
        rw [noSpecs] at there
        cases there
      · intro before' event' rest' split' fresh' lacking document back
        have earlier : event' ∈ before := split' ▸ List.mem_append_right _ List.mem_cons_self
        have member' : event' ∈ events := split ▸ List.mem_append_left _ earlier
        have ours' := dropped.ofFiles event' member'
        have differs : event'.1 ≠ event.1 := fun same => fresh (same ▸ List.mem_map_of_mem earlier)
        have ids := apart event'.1 ours' event.1 ours differs
        rw [readBack_plain (plain _ ours').1 (oneLine event' member')] at back
        obtain rfl := Option.some.inj back
        have unnamed : workspaceRelative event.1 ∉ (ideaDocument event'.1 (contentAt inbox event'.1) event'.2).references := by
          intro mentioned
          rcases mem_ideaReferences.mp mentioned with artifact | other
          · exact inbox_not_artifact (plain _ ours).2 artifact
          · exact named event'.1 ours' event.1 ours differs other.symm
        unfold represents
        rw [Bool.or_eq_false_iff, Bool.or_eq_false_iff]
        refine ⟨⟨decide_eq_false ids, decide_eq_false fun same => ids (Option.some.inj same)⟩, ?_⟩
        exact Bool.eq_false_iff.mpr fun mentioned => unnamed (List.contains_iff_mem.mp mentioned)

end Runs

end

/-! ## Two names for one id -/

section Concrete
local instance zonesOfIdeas : Rfc3339 := Queue.twoZones

def spaced : PathBuf := Runtime.PollWatcher.path "ideas/inbox/a b.md".toList

def dashed : PathBuf := Runtime.PollWatcher.path "ideas/inbox/a-b.md".toList

def twoIdeas (p : PathBuf) : InboxEntry :=
  if p = spaced then .file "# First" else if p = dashed then .file "# Second" else .absent

def noIdeas : IdeaWorld := ⟨⟨.empty, 0⟩, fun _ => none, []⟩

def bothSeen : List (PathBuf × Timestamp) := [(spaced, Queue.inLondon), (dashed, Queue.inLondon)]

theorem calm_calmEnvironment : Calm Queue.calmEnvironment := fun _ => rfl

theorem bothSeen_dropped : Dropped twoIdeas [spaced, dashed] bothSeen where
  readable := by
    intro p member
    rcases List.mem_cons.mp member with rfl | member
    · exact ⟨"# First", by decide⟩
    · obtain rfl := List.mem_singleton.mp member
      exact ⟨"# Second", by decide⟩
  ofFiles := by
    intro event member
    rcases List.mem_cons.mp member with rfl | member
    · exact List.mem_cons_self
    · obtain rfl := List.mem_singleton.mp member
      exact List.mem_cons_of_mem _ List.mem_cons_self
  seen := fun p member => member

theorem bothSeen_iff : EveryIdea Queue.calmEnvironment twoIdeas [spaced, dashed] noIdeas bothSeen ↔
    Clear Queue.calmEnvironment twoIdeas [spaced, dashed] .empty bothSeen :=
  every_idea_iff Queue.calmEnvironment calm_calmEnvironment twoIdeas [spaced, dashed] bothSeen bothSeen_dropped noIdeas

theorem plain_ideas_two : EveryIdea Queue.calmEnvironment twoIdeas [spaced, dashed] noIdeas bothSeen ↔
    ∀ p ∈ [spaced, dashed], ∀ q ∈ [spaced, dashed], p ≠ q → safeSpecIdFromIdeaPath p ≠ safeSpecIdFromIdeaPath q := by
  have plain : ∀ p ∈ [spaced, dashed], Plain p ∧ inboxMark.toList <+: (workspaceRelative p).toList := by
    intro p member
    rcases List.mem_cons.mp member with rfl | member
    · exact ⟨⟨by decide, by decide⟩, by decide⟩
    · obtain rfl := List.mem_singleton.mp member
      exact ⟨⟨by decide, by decide⟩, by decide⟩
  have oneLine : ∀ event ∈ bothSeen, OneLineTimestamp event.2 := by
    intro event member
    rcases List.mem_cons.mp member with rfl | member
    · exact (by decide : OneLineTimestamp Queue.inLondon)
    · obtain rfl := List.mem_singleton.mp member
      exact (by decide : OneLineTimestamp Queue.inLondon)
  exact plain_ideas_iff Queue.calmEnvironment calm_calmEnvironment twoIdeas [spaced, dashed] bothSeen bothSeen_dropped noIdeas
    (fun _ _ => Workspace.file_empty _) plain (by decide) oneLine

/-- The second file is written over the source artifact of the first, whose spec stands for both. -/
theorem idea_overwritten : ¬EveryIdea Queue.calmEnvironment twoIdeas [spaced, dashed] noIdeas bothSeen ∧
    (watched Queue.calmEnvironment twoIdeas noIdeas bothSeen).artifacts (safeSpecIdFromIdeaPath spaced) = some "# Second" := by
  have shared : safeSpecIdFromIdeaPath spaced = safeSpecIdFromIdeaPath dashed := by decide
  constructor
  · intro every
    exact every.apart spaced List.mem_cons_self dashed (List.mem_cons_of_mem _ List.mem_cons_self) (by decide) shared
  · have readable : ∃ content, twoIdeas (dashed, Queue.inLondon).1 = .file content := ⟨"# Second", by decide⟩
    obtain ⟨artifacts, -, -⟩ := step_spec calm_calmEnvironment readable
      (watched Queue.calmEnvironment twoIdeas noIdeas [(spaced, Queue.inLondon)])
    rw [show bothSeen = [(spaced, Queue.inLondon)] ++ [(dashed, Queue.inLondon)] from rfl, watched_concat, artifacts]
    dsimp only
    rw [if_pos shared]
    decide

end Concrete

end Millrace.Intake
