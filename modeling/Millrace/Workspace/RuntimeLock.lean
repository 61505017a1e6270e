import Mathlib.Logic.Function.Basic
import Millrace.Runs

/-! # The runtime ownership lock under any interleaving of its file operations -/

set_option autoImplicit false

namespace Millrace.RuntimeLock

structure RuntimeOwnershipRecord where
  workspaceRoot : String
  ownerPid : Nat
  ownerHostname : String
  ownerSessionId : String
  acquiredAt : String
deriving DecidableEq, Repr

inductive RuntimeOwnershipLockState where
  | absent | active | stale | invalid
deriving DecidableEq, Repr

/-- The lock path names a file or none. A file keeps its contents without its name; `none` is text that does not parse,
the empty file included. -/
structure LockFiles where
  path : Option Nat
  contents : Nat → Option RuntimeOwnershipRecord
  created : Nat

/-- What an inspection is for: to release the file the process holds, under its session id, or to clear. -/
inductive Purpose where
  | release (file : Nat) (ownerSessionId : String)
  | clear
deriving DecidableEq, Repr

/-- Where a process stands between two file operations. -/
inductive Phase where
  | idle
  /-- `create_new` has succeeded and the record is not written yet. -/
  | writing (file : Nat) (record : RuntimeOwnershipRecord)
  /-- The write has failed and the cleanup is due. -/
  | discarding
  | holding (file : Nat) (ownerSessionId : String)
  /-- The lock file has been read. -/
  | judging (purpose : Purpose) (workspaceRoot : String) (read : Option RuntimeOwnershipRecord)
  /-- The removal has been decided. -/
  | removing (purpose : Purpose)
deriving DecidableEq, Repr

structure LockProcess where
  alive : Bool
  phase : Phase

/-- Processes are named by their process id. -/
structure LockSystem where
  files : LockFiles
  process : Nat → LockProcess

def LockSystem.initial : LockSystem :=
  { files := { path := none, contents := fun _ => none, created := 0 }
    process := fun _ => { alive := true, phase := .idle } }

def LockSystem.enter (s : LockSystem) (pid : Nat) (phase : Phase) : LockSystem :=
  { s with process := Function.update s.process pid { alive := true, phase } }

/-- The state that an inspection finds in a file that it has read. -/
def inspectedState (workspaceRoot : String) (pidIsRunning : Nat → Bool) (read : Option RuntimeOwnershipRecord) :
    RuntimeOwnershipLockState :=
  match read with
  | none => .invalid
  | some record =>
    if record.workspaceRoot ≠ workspaceRoot then .invalid
    else if pidIsRunning record.ownerPid then .active
    else .stale

/-- Whether the inspection leads to a removal. -/
def decidesRemoval (purpose : Purpose) (state : RuntimeOwnershipLockState) (read : Option RuntimeOwnershipRecord) :
    Bool :=
  match purpose with
  | .clear => state = .stale || state = .invalid
  | .release _ ownerSessionId =>
    state ≠ .invalid && read.elim false (·.ownerSessionId = ownerSessionId)

/-- `fs::remove_file` on the lock path. -/
def LockFiles.remove (files : LockFiles) : LockFiles := { files with path := none }

/-! ## One file operation of a process; one that its phase does not call for does nothing -/

section Operations
variable (s : LockSystem) (pid : Nat)

/-- `acquire`: the exclusive create. -/
def createLockFile (record : RuntimeOwnershipRecord) : LockSystem :=
  match (s.process pid).phase, s.files.path with
  | .idle, none =>
    { s with files :=
        { path := some s.files.created
          contents := Function.update s.files.contents s.files.created none
          created := s.files.created + 1 } }.enter pid (.writing s.files.created record)
  | _, _ => s

/-- `acquire`: the record is written; a write that fails leaves a part of the text or the whole of it. -/
def writeRecord (succeeds complete : Bool) : LockSystem :=
  match (s.process pid).phase with
  | .writing file record =>
    let written := if succeeds || complete then some record else none
    { s with files := { s.files with contents := Function.update s.files.contents file written } }.enter pid
      (if succeeds then .holding file record.ownerSessionId else .discarding)
  | _ => s

/-- `acquire`: the cleanup after a failed write. -/
def discardLockFile : LockSystem :=
  match (s.process pid).phase with
  | .discarding => { s with files := s.files.remove }.enter pid .idle
  | _ => s

/-- `release`: the lock file is read. Without one there is nothing to release. -/
def readForRelease (workspaceRoot : String) : LockSystem :=
  match (s.process pid).phase, s.files.path with
  | .holding _ _, none => s.enter pid .idle
  | .holding file ownerSessionId, some found =>
    s.enter pid (.judging (.release file ownerSessionId) workspaceRoot (s.files.contents found))
  | _, _ => s

/-- `clear_stale`: the lock file is read. -/
def readForClear (workspaceRoot : String) : LockSystem :=
  match (s.process pid).phase, s.files.path with
  | .idle, some found => s.enter pid (.judging .clear workspaceRoot (s.files.contents found))
  | _, _ => s

/-- Both: the owner's process id is looked up and the verdict falls. -/
def judgeLockFile : LockSystem :=
  match (s.process pid).phase with
  | .judging purpose workspaceRoot read =>
    let state := inspectedState workspaceRoot (fun owner => (s.process owner).alive) read
    s.enter pid (if decidesRemoval purpose state read then .removing purpose else .idle)
  | _ => s

/-- Both: `remove_lock_file`. -/
def removeLockFile : LockSystem :=
  match (s.process pid).phase with
  | .removing _ => { s with files := s.files.remove }.enter pid .idle
  | _ => s

/-- A process that has acquired the lock and not released it stays alive. -/
def die : LockSystem :=
  match (s.process pid).phase with
  | .holding .. | .judging (.release ..) .. | .removing (.release ..) => s
  | _ => { s with process := Function.update s.process pid { alive := false, phase := .idle } }

end Operations

inductive LockEvent where
  | spawn
  | die
  | create (record : RuntimeOwnershipRecord)
  | write (succeeds complete : Bool)
  | discard
  | readForRelease (workspaceRoot : String)
  | readForClear (workspaceRoot : String)
  | judge
  | remove
deriving DecidableEq, Repr

def step (s : LockSystem) : Nat × LockEvent → LockSystem
  | (pid, event) =>
    match (s.process pid).alive, event with
    | false, .spawn => s.enter pid .idle
    | false, _ | true, .spawn => s
    | true, .die => die s pid
    | true, .create record => createLockFile s pid record
    | true, .write succeeds complete => writeRecord s pid succeeds complete
    | true, .discard => discardLockFile s pid
    | true, .readForRelease workspaceRoot => RuntimeLock.readForRelease s pid workspaceRoot
    | true, .readForClear workspaceRoot => RuntimeLock.readForClear s pid workspaceRoot
    | true, .judge => judgeLockFile s pid
    | true, .remove => removeLockFile s pid

/-! ## What the processes count on -/

/-- The lock file that the process has created and neither released nor given up. -/
def Phase.file : Phase → Option Nat
  | .writing file _ | .holding file _ | .judging (.release file _) _ _ | .removing (.release file _) => some file
  | .idle | .discarding | .judging .clear _ _ | .removing .clear => none

def LockSystem.file (s : LockSystem) (pid : Nat) : Option Nat := (s.process pid).phase.file

/-- The process has acquired the lock and its release has not ended. -/
def Phase.holds : Phase → Bool
  | .holding .. | .judging (.release ..) .. | .removing (.release ..) => true
  | _ => false

def LockSystem.MutuallyExclusive (s : LockSystem) : Prop :=
  ∀ p q, (s.process p).phase.holds = true → (s.process q).phase.holds = true → p = q

def removes (s : LockSystem) : Nat × LockEvent → Bool
  | (pid, event) => (s.process pid).alive && match event, (s.process pid).phase with
    | .discard, .discarding | .remove, .removing _ => true
    | _, _ => false

/-- A removal does not take away a lock file that another live process has created and still counts on. -/
def Spares (s : LockSystem) (event : Nat × LockEvent) : Prop :=
  removes s event = true → ∀ other, other ≠ event.1 → ∀ file, s.file other = some file → s.files.path ≠ some file

@[simp] theorem file_enter_self (s : LockSystem) (pid : Nat) (phase : Phase) :
    (s.enter pid phase).file pid = phase.file := by
  simp [LockSystem.enter, LockSystem.file]

theorem file_enter_of_ne (s : LockSystem) {pid other : Nat} (phase : Phase) (apart : other ≠ pid) :
    (s.enter pid phase).file other = s.file other := by
  simp [LockSystem.enter, LockSystem.file, Function.update_of_ne apart]

@[simp] theorem files_enter (s : LockSystem) (pid : Nat) (phase : Phase) : (s.enter pid phase).files = s.files := rfl

/-- What an operation of one process can do to the lock path and to the files the processes count on. -/
inductive Change (s s' : LockSystem) (pid : Nat) (removal : Prop) : Prop where
  | quiet (path : s'.files.path = s.files.path) (own : s'.file pid = s.file pid ∨ s'.file pid = none)
      (others : ∀ other, other ≠ pid → s'.file other = s.file other)
  | created (absent : s.files.path = none) (file : Nat) (path : s'.files.path = some file)
      (own : s'.file pid = some file) (others : ∀ other, other ≠ pid → s'.file other = s.file other)
  | removed (decided : removal) (path : s'.files.path = none) (own : s'.file pid = none)
      (others : ∀ other, other ≠ pid → s'.file other = s.file other)

section Change
variable {s : LockSystem} {pid : Nat} {removal : Prop}

theorem Change.refl : Change s s pid removal :=
  .quiet rfl (.inl rfl) fun _ _ => rfl

theorem Change.enter {phase : Phase} (own : phase.file = s.file pid ∨ phase.file = none) :
    Change s (s.enter pid phase) pid removal :=
  .quiet rfl (by rwa [file_enter_self]) fun _ apart => file_enter_of_ne s phase apart

theorem createLockFile_change (record : RuntimeOwnershipRecord) :
    Change s (createLockFile s pid record) pid removal := by
  unfold createLockFile
  split
  next phase absent =>
    exact .created absent s.files.created rfl (file_enter_self _ _ _) fun _ apart => file_enter_of_ne _ _ apart
  next => exact .refl

theorem writeRecord_change (succeeds complete : Bool) : Change s (writeRecord s pid succeeds complete) pid removal := by
  unfold writeRecord
  split
  next file record phase =>
    refine .quiet rfl ?_ fun _ apart => file_enter_of_ne _ _ apart
    rw [file_enter_self, LockSystem.file, phase]
    cases succeeds with
    | true => exact .inl rfl
    | false => exact .inr rfl
  next => exact .refl

theorem readForRelease_change (workspaceRoot : String) :
    Change s (readForRelease s pid workspaceRoot) pid removal := by
  unfold readForRelease
  split
  next => exact .enter (.inr rfl)
  next file ownerSessionId found phase path =>
    refine .enter (.inl ?_)
    rw [LockSystem.file, phase]
    rfl
  next => exact .refl

theorem readForClear_change (workspaceRoot : String) : Change s (readForClear s pid workspaceRoot) pid removal := by
  unfold readForClear
  split
  next => exact .enter (.inr rfl)
  next => exact .refl

theorem judgeLockFile_change : Change s (judgeLockFile s pid) pid removal := by
  unfold judgeLockFile
  split
  next purpose workspaceRoot read phase =>
    refine .enter ?_
    rw [LockSystem.file, phase]
    split
    · cases purpose with
      | release file ownerSessionId => exact .inl rfl
      | clear => exact .inr rfl
    · exact .inr rfl
  next => exact .refl

theorem die_change : Change s (die s pid) pid removal := by
  unfold die
  split
  next => exact .refl
  next => exact .refl
  next => exact .refl
  next =>
    refine .quiet rfl (.inr ?_) fun other apart => ?_
    · simp [LockSystem.file, Phase.file]
    · simp [LockSystem.file, Function.update_of_ne apart]

theorem discardLockFile_change (decided : (s.process pid).phase = .discarding → removal) :
    Change s (discardLockFile s pid) pid removal := by
  unfold discardLockFile
  split
  next phase => exact .removed (decided phase) rfl (file_enter_self _ _ _) fun _ apart => file_enter_of_ne _ _ apart
  next => exact .refl

theorem removeLockFile_change (decided : ∀ purpose, (s.process pid).phase = .removing purpose → removal) :
    Change s (removeLockFile s pid) pid removal := by
  unfold removeLockFile
  split
  next purpose phase =>
    exact .removed (decided purpose phase) rfl (file_enter_self _ _ _) fun _ apart => file_enter_of_ne _ _ apart
  next => exact .refl

end Change

theorem step_change (s : LockSystem) (pid : Nat) (event : LockEvent) :
    Change s (step s (pid, event)) pid (removes s (pid, event) = true) := by
  cases alive : (s.process pid).alive with
  | false =>
    cases event with
    | spawn =>
      simp only [step, alive]
      exact .enter (.inr rfl)
    | _ =>
      simp only [step, alive]
      exact .refl
  | true =>
    cases event with
    | spawn =>
      simp only [step, alive]
      exact .refl
    | die =>
      simp only [step, alive]
      exact die_change
    | create record =>
      simp only [step, alive]
      exact createLockFile_change record
    | write succeeds complete =>
      simp only [step, alive]
      exact writeRecord_change succeeds complete
    | discard =>
      simp only [step, alive]
      exact discardLockFile_change fun phase => by simp [removes, alive, phase]
    | readForRelease workspaceRoot =>
      simp only [step, alive]
      exact readForRelease_change workspaceRoot
    | readForClear workspaceRoot =>
      simp only [step, alive]
      exact readForClear_change workspaceRoot
    | judge =>
      simp only [step, alive]
      exact judgeLockFile_change
    | remove =>
      simp only [step, alive]
      exact removeLockFile_change fun purpose phase => by simp [removes, alive, phase]

/-! ## The invariant -/

/-- Every file that a process counts on is the one at the lock path, and no two processes count on one file. -/
structure LockSystem.Guarded (s : LockSystem) : Prop where
  atPath : ∀ pid file, s.file pid = some file → s.files.path = some file
  one : ∀ p q file, s.file p = some file → s.file q = some file → p = q

theorem guarded_initial : LockSystem.initial.Guarded where
  atPath _ _ counts := by cases counts
  one _ _ _ first _ := by cases first

theorem guarded_step (s : LockSystem) (event : Nat × LockEvent) (guarded : s.Guarded) (spares : Spares s event) :
    (step s event).Guarded := by
  obtain ⟨pid, event⟩ := event
  have other_file : ∀ {s' : LockSystem}, (∀ other, other ≠ pid → s'.file other = s.file other) →
      ∀ p file, p ≠ pid → s'.file p = some file → s.file p = some file := by
    intro s' others p file apart counts
    rw [← others p apart]
    exact counts
  cases step_change s pid event with
  | quiet path own others =>
    have before : ∀ p file, (step s (pid, event)).file p = some file → s.file p = some file := by
      intro p file counts
      by_cases here : p = pid
      · subst here
        obtain same | none := own
        · rw [← same]
          exact counts
        · rw [none] at counts
          cases counts
      · exact other_file others p file here counts
    refine ⟨fun p file counts => path ▸ guarded.atPath p file (before p file counts), fun p q file first second => ?_⟩
    exact guarded.one p q file (before p file first) (before q file second)
  | created absent file path own others =>
    -- With no file at the path nobody counts on one, so the creator is alone.
    have alone : ∀ p counted, (step s (pid, event)).file p = some counted → p = pid := by
      intro p counted counts
      by_contra apart
      have at' := guarded.atPath p counted (other_file others p counted apart counts)
      rw [absent] at at'
      cases at'
    refine ⟨fun p counted counts => ?_, fun p q counted first second => ?_⟩
    · rw [alone p counted counts, own] at counts
      rw [path, counts]
    · rw [alone p counted first, alone q counted second]
  | removed decided path own others =>
    have nobody : ∀ p counted, (step s (pid, event)).file p ≠ some counted := by
      intro p counted counts
      by_cases here : p = pid
      · subst here
        rw [own] at counts
        cases counts
      · have before := other_file others p counted here counts
        exact spares decided p here counted before (guarded.atPath p counted before)
    exact ⟨fun p counted counts => absurd counts (nobody p counted), fun p _ counted first _ => absurd first (nobody p counted)⟩

theorem Phase.file_of_holds {phase : Phase} (holds : phase.holds = true) : ∃ file, phase.file = some file := by
  cases phase with
  | holding file session => exact ⟨file, rfl⟩
  | judging purpose root read =>
    cases purpose with
    | release file session => exact ⟨file, rfl⟩
    | clear => cases holds
  | removing purpose =>
    cases purpose with
    | release file session => exact ⟨file, rfl⟩
    | clear => cases holds
  | idle => cases holds
  | discarding => cases holds
  | writing => cases holds

theorem LockSystem.Guarded.mutuallyExclusive {s : LockSystem} (guarded : s.Guarded) : s.MutuallyExclusive := by
  intro p q first second
  obtain ⟨file, counts⟩ := Phase.file_of_holds first
  obtain ⟨file', counts'⟩ := Phase.file_of_holds second
  have same : file = file' :=
    Option.some.inj ((guarded.atPath p file counts).symm.trans (guarded.atPath q file' counts'))
  exact guarded.one p q file counts (same ▸ counts')

/-- Whatever processes run and however their file operations interleave, at most one of them holds the lock as long as
no removal takes away a file that another live process counts on. -/
theorem lock_exclusive (events : List (Nat × LockEvent)) (spared : Runs.Along step Spares .initial events) :
    Runs.Throughout step LockSystem.MutuallyExclusive .initial events := by
  have guarded := spared.throughout guarded_initial guarded_step
  rw [Runs.throughout_iff] at guarded ⊢
  exact fun before reached => (guarded before reached).mutuallyExclusive

/-! ## A clear between the create and the write of an acquire -/

def lockRecord (pid : Nat) (ownerSessionId : String) : RuntimeOwnershipRecord :=
  { workspaceRoot := "/ws", ownerPid := pid, ownerHostname := "host", ownerSessionId
    acquiredAt := "2026-01-01T00:00:00Z" }

/-- An acquire, and a clear that finds its owner active. -/
theorem lock_exclusive_undisturbed :
    Runs.Throughout step LockSystem.MutuallyExclusive .initial
      [(1, .create (lockRecord 1 "s1")), (1, .write true true), (2, .readForClear "/ws"), (2, .judge), (2, .remove)] :=
  lock_exclusive _ ⟨nofun, nofun, nofun, nofun, nofun, trivial⟩

/-- Process 2 reads the empty file of process 1, judges it invalid and removes it after process 1 has returned with the
lock; process 3 acquires it too. -/
theorem two_lock_holders :
    ¬ Runs.Throughout step LockSystem.MutuallyExclusive .initial
      [(1, .create (lockRecord 1 "s1")), (2, .readForClear "/ws"), (1, .write true true), (2, .judge), (2, .remove),
        (3, .create (lockRecord 3 "s3")), (3, .write true true)] := by
  intro throughout
  have same : (1 : Nat) = 3 := throughout.last 1 3 (by decide) (by decide)
  omega

end Millrace.RuntimeLock
