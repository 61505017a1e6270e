import Mathlib.Data.List.Sort
import Mathlib.Data.List.Lex
import Millrace.Sorting
import Millrace.Text
import Millrace.Words

/-! Watching directories by polling: the files listed, the fingerprints remembered and the events of one poll. -/

set_option autoImplicit false

namespace Millrace.Runtime.PollWatcher
open Millrace.Sorting

/-! ## Paths -/

/-- A character of a path, or a longest sequence of bytes in it that is not UTF-8. -/
inductive PathUnit where
  | char (c : Char)
  | invalid (bytes : List UInt8)
  deriving DecidableEq, Repr

def PathUnit.bytes : PathUnit → List Nat
  | .char c => (String.utf8EncodeChar c).map UInt8.toNat
  | .invalid bytes => bytes.map UInt8.toNat

abbrev PathBuf := List PathUnit

def path (text : List Char) : PathBuf := text.map .char

namespace PathBuf

/-- The text of the path, where it is UTF-8. -/
def toStr : PathBuf → Option (List Char)
  | [] => some []
  | .char c :: rest => (toStr rest).map (c :: ·)
  | .invalid _ :: _ => none

def toStringLossy (p : PathBuf) : List Char :=
  p.map fun
    | .char c => c
    | .invalid _ => '\uFFFD'

/-- The name after the last separator. -/
def fileName (p : PathBuf) : PathBuf := (p.splitOn (.char '/')).getLastD []

/-- What follows the last dot of the name, unless nothing precedes that dot. -/
def extension (p : PathBuf) : Option PathBuf :=
  let name := p.fileName
  if name = path ['.', '.'] then none
  else
    match name.reverse.dropWhile (· ≠ .char '.') with
    | _ :: _ :: _ => some (name.reverse.takeWhile (· ≠ .char '.')).reverse
    | _ => none

/-- A component as it is compared: the root, `.` and `..` come before every name. -/
def component (name : PathBuf) : List Nat :=
  if name = path ['.', '.'] then [3] else 4 :: name.flatMap PathUnit.bytes

/-- The components by which paths are compared. -/
def components (p : PathBuf) : List (List Nat) :=
  let parts := p.splitOn (.char '/')
  let start := match parts with
    | [] :: _ :: _ => [[1]]
    | [.char '.'] :: _ => [[2]]
    | _ => []
  start ++ (parts.filter fun part => part ≠ [] ∧ part ≠ path ['.']).map component

end PathBuf

/-! ## Directories -/

/-- Poll fingerprint for one watched file. -/
structure RuntimeFileFingerprint where
  modifiedUnixNanos : Nat
  sizeBytes : UInt64
  deriving DecidableEq, Repr

/-- What the file system tells about an entry; `modified` in nanoseconds from the Unix epoch, where it is known. -/
structure Metadata where
  isFile : Bool
  modified : Option Int
  len : UInt64
  deriving DecidableEq, Repr

structure DirEntry where
  path : PathBuf
  metadata : Option Metadata
  deriving DecidableEq, Repr

/-- The file system as one poll sees it; an entry that cannot be read is not listed. -/
structure FileSystem where
  isDir : PathBuf → Bool
  readDir : PathBuf → Option (List DirEntry)
  canonicalize : PathBuf → Option PathBuf

/-- One deterministic watcher target prepared during daemon startup. -/
structure RuntimeWatcherTarget where
  target : String
  root : PathBuf
  pattern : List Char
  emitExistingOnStartup : Bool
  deriving DecidableEq, Repr

/-- One normalized watcher event emitted by deterministic poll fallback. -/
structure RuntimeWatchEvent where
  target : String
  path : PathBuf
  eventKind : String
  observedAt : String
  deriving DecidableEq, Repr

def watchPathKey (p : PathBuf) : List Char := p.toStringLossy

def fingerprintForMetadata (metadata : Metadata) : Option RuntimeFileFingerprint :=
  metadata.modified.map fun modified => ⟨modified.toNat, metadata.len⟩

def watchTargetMatches (target : RuntimeWatcherTarget) (p : PathBuf) : Bool :=
  match target.pattern with
  | '*' :: '.' :: extension => p.extension.bind PathBuf.toStr == some extension
  | pattern => p.fileName.toStr == some pattern

/-- The path and the fingerprint under which an entry is watched. -/
def watchedFile (fs : FileSystem) (target : RuntimeWatcherTarget) (entry : DirEntry) :
    Option (PathBuf × RuntimeFileFingerprint) :=
  if watchTargetMatches target entry.path then
    match entry.metadata with
    | none => none
    | some metadata =>
      if metadata.isFile then
        (fingerprintForMetadata metadata).map fun fingerprint =>
          ((fs.canonicalize entry.path).getD entry.path, fingerprint)
      else none
  else none

def byPath (a b : PathBuf × RuntimeFileFingerprint) : Prop := a.1.components ≤ b.1.components

instance : DecidableRel byPath := fun a b => inferInstanceAs (Decidable (a.1.components ≤ b.1.components))

def targetFiles (fs : FileSystem) (target : RuntimeWatcherTarget) : List (PathBuf × RuntimeFileFingerprint) :=
  if fs.isDir target.root then
    match fs.readDir target.root with
    | none => []
    | some entries => (entries.filterMap (watchedFile fs target)).insertionSort byPath
  else []

/-! ## The watcher -/

/-- Deterministic poll-mode watcher state. -/
structure RuntimePollWatcherState where
  fingerprints : List Char → Option RuntimeFileFingerprint
  lastEmittedAtMillis : String × List Char → Option Int

namespace RuntimePollWatcherState

def empty : RuntimePollWatcherState := ⟨fun _ => none, fun _ => none⟩

def insertFingerprint (watcher : RuntimePollWatcherState) (key : List Char) (fingerprint : RuntimeFileFingerprint) :
    RuntimePollWatcherState :=
  { watcher with fingerprints := fun k => if k = key then some fingerprint else watcher.fingerprints k }

def insertEmission (watcher : RuntimePollWatcherState) (key : String × List Char) (millis : Int) :
    RuntimePollWatcherState :=
  { watcher with lastEmittedAtMillis := fun k => if k = key then some millis else watcher.lastEmittedAtMillis k }

def prime (fs : FileSystem) (targets : List RuntimeWatcherTarget) (watcher : RuntimePollWatcherState) :
    RuntimePollWatcherState :=
  targets.foldl (fun watcher target =>
    if target.emitExistingOnStartup then watcher
    else (targetFiles fs target).foldl (fun watcher file => watcher.insertFingerprint (watchPathKey file.1) file.2) watcher)
    watcher

def create (fs : FileSystem) (targets : List RuntimeWatcherTarget) : RuntimePollWatcherState := empty.prime fs targets

end RuntimePollWatcherState

/-- Subtraction of signed 128-bit numbers that stops at the bounds of the type. -/
def saturatingSub (a b : Int) : Int := max (-(2 ^ 127)) (min (2 ^ 127 - 1) (a - b))

theorem saturatingSub_lt_iff (a b : Int) (word : UInt64) :
    saturatingSub a b < word.toNat ↔ a - b < word.toNat := by
  have bounded := Words.toNat_lt word
  unfold Words.limit at bounded
  unfold saturatingSub
  omega

/-- What a poll has done so far. -/
structure PollScan where
  watcher : RuntimePollWatcherState
  seenPaths : List (List Char)
  emitted : List RuntimeWatchEvent

/-- When a poll runs. -/
structure PollTime where
  observedAt : String
  observedAtMillis : Int
  debounceMs : UInt64

/-- Whether the last event of the target and path is too recent for another one. -/
def debounced (time : PollTime) (watcher : RuntimePollWatcherState) (key : String × List Char) : Bool :=
  match watcher.lastEmittedAtMillis key with
  | none => false
  | some last => decide (saturatingSub time.observedAtMillis last < (time.debounceMs.toNat : Int))

/-- One listed file of a poll. -/
def visitFile (time : PollTime) (target : RuntimeWatcherTarget) (scan : PollScan)
    (file : PathBuf × RuntimeFileFingerprint) : PollScan :=
  let canonical := watchPathKey file.1
  let scan := { scan with seenPaths := canonical :: scan.seenPaths }
  if scan.watcher.fingerprints canonical = some file.2 then scan
  else
    let debounceKey := (target.target, canonical)
    if debounced time scan.watcher debounceKey then scan
    else
      { scan with
        watcher := (scan.watcher.insertFingerprint canonical file.2).insertEmission debounceKey time.observedAtMillis
        emitted := scan.emitted ++ [⟨target.target, file.1, "changed", time.observedAt⟩] }

/-- Fingerprints of paths that were not seen go, and the emissions of these paths with them. -/
def forgetUnseen (scan : PollScan) : RuntimePollWatcherState where
  fingerprints key := if key ∈ scan.seenPaths then scan.watcher.fingerprints key else none
  lastEmittedAtMillis key :=
    if (scan.watcher.fingerprints key.2).isSome ∧ key.2 ∉ scan.seenPaths then none
    else scan.watcher.lastEmittedAtMillis key

def orderedTargets (targets : List RuntimeWatcherTarget) : List RuntimeWatcherTarget :=
  targets.insertionSort fun a b => byKeys RuntimeWatcherTarget.target (fun t => t.root.components) a b = true

def pollOnce (fs : FileSystem) (targets : List RuntimeWatcherTarget) (time : PollTime)
    (watcher : RuntimePollWatcherState) : RuntimePollWatcherState × List RuntimeWatchEvent :=
  let scan := (orderedTargets targets).foldl
    (fun scan target => (targetFiles fs target).foldl (visitFile time target) scan) ⟨watcher, [], []⟩
  (forgetUnseen scan,
    scan.emitted.insertionSort fun a b => byKeys RuntimeWatchEvent.target (fun e => e.path.components) a b = true)

/-! ## One poll -/

/-- A file that a poll sees, with the target it is listed for. -/
structure Sighting where
  target : RuntimeWatcherTarget
  path : PathBuf
  fingerprint : RuntimeFileFingerprint

namespace Sighting

def key (x : Sighting) : List Char := watchPathKey x.path

def debounceKey (x : Sighting) : String × List Char := (x.target.target, x.key)

def visit (time : PollTime) (scan : PollScan) (x : Sighting) : PollScan :=
  visitFile time x.target scan (x.path, x.fingerprint)

/-- The watcher emits an event for the file. -/
def reported (time : PollTime) (watcher : RuntimePollWatcherState) (x : Sighting) : Prop :=
  watcher.fingerprints x.key ≠ some x.fingerprint ∧ debounced time watcher x.debounceKey = false

def event (time : PollTime) (x : Sighting) : RuntimeWatchEvent := ⟨x.target.target, x.path, "changed", time.observedAt⟩

end Sighting

/-- The files of these targets. -/
def sightings (fs : FileSystem) (targets : List RuntimeWatcherTarget) : List Sighting :=
  targets.flatMap fun target => (targetFiles fs target).map fun file => ⟨target, file.1, file.2⟩

theorem mem_sightings {fs : FileSystem} {targets : List RuntimeWatcherTarget} {x : Sighting} :
    x ∈ sightings fs targets ↔ x.target ∈ targets ∧ (x.path, x.fingerprint) ∈ targetFiles fs x.target := by
  unfold sightings
  rw [List.mem_flatMap]
  constructor
  · rintro ⟨target, known, listed⟩
    obtain ⟨file, there, rfl⟩ := List.mem_map.mp listed
    exact ⟨known, there⟩
  · rintro ⟨known, listed⟩
    exact ⟨x.target, known, List.mem_map.mpr ⟨_, listed, rfl⟩⟩

theorem sightings_perm (fs : FileSystem) {targets targets' : List RuntimeWatcherTarget} (same : targets.Perm targets') :
    (sightings fs targets).Perm (sightings fs targets') := same.flatMap_right _

theorem foldl_sightings {β : Type} (f : β → Sighting → β) (fs : FileSystem) (targets : List RuntimeWatcherTarget) (b : β) :
    targets.foldl (fun b target => (targetFiles fs target).foldl (fun b file => f b ⟨target, file.1, file.2⟩) b) b =
      (sightings fs targets).foldl f b := by
  unfold sightings
  rw [List.foldl_flatMap]
  simp only [List.foldl_map]

/-- The scan of a poll, file by file. -/
theorem pollOnce_eq (fs : FileSystem) (targets : List RuntimeWatcherTarget) (time : PollTime)
    (watcher : RuntimePollWatcherState) :
    pollOnce fs targets time watcher =
      let scan := (sightings fs (orderedTargets targets)).foldl (Sighting.visit time) ⟨watcher, [], []⟩
      (forgetUnseen scan,
        scan.emitted.insertionSort fun a b =>
          byKeys RuntimeWatchEvent.target (fun e => e.path.components) a b = true) := by
  rw [← foldl_sightings]
  rfl

section Scan
variable {time : PollTime} {scan : PollScan} {x y : Sighting}

theorem visit_seenPaths : (x.visit time scan).seenPaths = x.key :: scan.seenPaths := by
  unfold Sighting.visit visitFile
  dsimp only
  split
  next => rfl
  next => split <;> rfl

theorem visit_of_reported (due : x.reported time scan.watcher) : x.visit time scan =
    ⟨(scan.watcher.insertFingerprint x.key x.fingerprint).insertEmission x.debounceKey time.observedAtMillis,
      x.key :: scan.seenPaths, scan.emitted ++ [x.event time]⟩ := by
  have changed : scan.watcher.fingerprints (watchPathKey x.path) ≠ some x.fingerprint := due.1
  have calm : ¬ debounced time scan.watcher (x.target.target, watchPathKey x.path) = true :=
    ne_true_of_eq_false due.2
  unfold Sighting.visit visitFile
  dsimp only
  rw [if_neg changed, if_neg calm]
  rfl

theorem visit_of_not_reported (due : ¬ x.reported time scan.watcher) :
    x.visit time scan = { scan with seenPaths := x.key :: scan.seenPaths } := by
  unfold Sighting.visit visitFile
  dsimp only
  split
  next => rfl
  next changed =>
    split
    next => rfl
    next calm => exact absurd ⟨changed, Bool.eq_false_of_not_eq_true calm⟩ due

/-- A visit leaves what is known of other paths. -/
theorem visit_fingerprints_of_ne {key : List Char} (other : key ≠ x.key) :
    (x.visit time scan).watcher.fingerprints key = scan.watcher.fingerprints key := by
  by_cases due : x.reported time scan.watcher
  · rw [visit_of_reported due]
    exact if_neg other
  · rw [visit_of_not_reported due]

theorem visit_lastEmitted_of_ne {key : String × List Char} (other : key ≠ x.debounceKey) :
    (x.visit time scan).watcher.lastEmittedAtMillis key = scan.watcher.lastEmittedAtMillis key := by
  by_cases due : x.reported time scan.watcher
  · rw [visit_of_reported due]
    exact if_neg other
  · rw [visit_of_not_reported due]

theorem visit_reported_iff (other : y.key ≠ x.key) :
    y.reported time (x.visit time scan).watcher ↔ y.reported time scan.watcher := by
  have apart : y.debounceKey ≠ x.debounceKey := fun same => other (congrArg Prod.snd same)
  unfold Sighting.reported debounced
  rw [visit_fingerprints_of_ne other, visit_lastEmitted_of_ne apart]

end Scan

/-- What visiting files does that have keys of their own. -/
structure Scanned (time : PollTime) (files : List Sighting) (first last : PollScan) : Prop where
  seen : ∀ key, key ∈ last.seenPaths ↔ key ∈ files.map Sighting.key ∨ key ∈ first.seenPaths
  reported : ∀ x ∈ files, x.reported time first.watcher →
    last.watcher.fingerprints x.key = some x.fingerprint ∧
      last.watcher.lastEmittedAtMillis x.debounceKey = some time.observedAtMillis
  quiet : ∀ x ∈ files, ¬ x.reported time first.watcher →
    last.watcher.fingerprints x.key = first.watcher.fingerprints x.key
  fingerprints : ∀ key, key ∉ files.map Sighting.key →
    last.watcher.fingerprints key = first.watcher.fingerprints key
  emissions : ∀ key, (∀ x ∈ files, x.reported time first.watcher → key ≠ x.debounceKey) →
    last.watcher.lastEmittedAtMillis key = first.watcher.lastEmittedAtMillis key
  emitted : ∃ due : List Sighting, due.Sublist files ∧ (∀ x ∈ files, x ∈ due ↔ x.reported time first.watcher) ∧
    last.emitted = first.emitted ++ due.map (Sighting.event time)

theorem scanned (time : PollTime) (files : List Sighting) (scan : PollScan) (apart : (files.map Sighting.key).Nodup) :
    Scanned time files scan (files.foldl (Sighting.visit time) scan) := by
  induction files generalizing scan with
  | nil =>
    refine ⟨fun _ => by simp, ?_, ?_, fun _ _ => rfl, fun _ _ => rfl, [], by simp⟩
    · exact fun x member => absurd member List.not_mem_nil
    · exact fun x member => absurd member List.not_mem_nil
  | cons x files ih =>
    obtain ⟨fresh, apart⟩ := List.nodup_cons.mp apart
    have other : ∀ y ∈ files, y.key ≠ x.key := fun y member same => fresh (List.mem_map.mpr ⟨y, member, same⟩)
    have rest := ih (x.visit time scan) apart
    have due_iff : ∀ y ∈ files, (y.reported time (x.visit time scan).watcher ↔ y.reported time scan.watcher) :=
      fun y member => visit_reported_iff (other y member)
    -- No other file of the list has the key of the first one.
    have kept : ∀ y ∈ files, x.debounceKey ≠ y.debounceKey := fun y member same =>
      other y member (congrArg Prod.snd same).symm
    have first_fingerprint := rest.fingerprints x.key fresh
    have first_emission := rest.emissions x.debounceKey fun y member _ => kept y member
    rw [List.foldl_cons]
    refine ⟨?_, ?_, ?_, ?_, ?_, ?_⟩
    · intro key
      rw [rest.seen, visit_seenPaths, List.map_cons, List.mem_cons, List.mem_cons]
      tauto
    · intro y member due
      rcases List.mem_cons.mp member with rfl | member
      · rw [first_fingerprint, first_emission, visit_of_reported due]
        exact ⟨if_pos rfl, if_pos rfl⟩
      · exact rest.reported y member ((due_iff y member).mpr due)
    · intro y member due
      rcases List.mem_cons.mp member with rfl | member
      · rw [first_fingerprint, visit_of_not_reported due]
      · rw [rest.quiet y member (fun due' => due ((due_iff y member).mp due')),
          visit_fingerprints_of_ne (other y member)]
    · intro key unlisted
      rw [List.map_cons, List.mem_cons, not_or] at unlisted
      rw [rest.fingerprints key unlisted.2, visit_fingerprints_of_ne unlisted.1]
    · intro key unlisted
      rw [rest.emissions key fun y member due =>
        unlisted y (List.mem_cons_of_mem _ member) ((due_iff y member).mp due)]
      by_cases due : x.reported time scan.watcher
      · exact visit_lastEmitted_of_ne (unlisted x List.mem_cons_self due)
      · rw [visit_of_not_reported due]
    · obtain ⟨due, within, members, emitted⟩ := rest.emitted
      by_cases first : x.reported time scan.watcher
      · refine ⟨x :: due, within.cons_cons x, ?_, ?_⟩
        · intro y member
          rw [List.mem_cons]
          rcases List.mem_cons.mp member with rfl | member
          · exact ⟨fun _ => first, fun _ => .inl rfl⟩
          · have apart : y ≠ x := fun same => other y member (congrArg Sighting.key same)
            rw [members y member, due_iff y member]
            exact or_iff_right apart
        · rw [emitted, visit_of_reported first]
          simp
      · refine ⟨due, within.cons x, ?_, ?_⟩
        · intro y member
          rcases List.mem_cons.mp member with rfl | member
          · refine ⟨fun here => absurd (within.mem here) ?_, fun due => absurd due first⟩
            exact fun here => fresh (List.mem_map_of_mem here)
          · rw [members y member, due_iff y member]
        · rw [emitted, visit_of_not_reported first]

/-- Emissions are remembered only with a fingerprint of their path. -/
def EmissionsKnown (watcher : RuntimePollWatcherState) : Prop :=
  ∀ target key, watcher.fingerprints key = none → watcher.lastEmittedAtMillis (target, key) = none

/-- What one poll does, where the listed files have keys of their own. -/
structure Polled (time : PollTime) (files : List Sighting) (before after : RuntimePollWatcherState)
    (events : List RuntimeWatchEvent) : Prop where
  reported : ∀ x ∈ files, x.reported time before →
    after.fingerprints x.key = some x.fingerprint ∧ after.lastEmittedAtMillis x.debounceKey = some time.observedAtMillis
  quiet : ∀ x ∈ files, ¬ x.reported time before → after.fingerprints x.key = before.fingerprints x.key
  emissions : ∀ key, key.2 ∈ files.map Sighting.key → (∀ x ∈ files, x.reported time before → key ≠ x.debounceKey) →
    after.lastEmittedAtMillis key = before.lastEmittedAtMillis key
  gone : ∀ key, key ∉ files.map Sighting.key →
    after.fingerprints key = none ∧ ∀ target, after.lastEmittedAtMillis (target, key) = none
  known : EmissionsKnown after
  events : ∃ due : List Sighting, due.Nodup ∧ (∀ x, x ∈ due ↔ x ∈ files ∧ x.reported time before) ∧
    events.Perm (due.map (Sighting.event time))

theorem polled {fs : FileSystem} {targets : List RuntimeWatcherTarget} {time : PollTime}
    {watcher : RuntimePollWatcherState} (known : EmissionsKnown watcher)
    (apart : ((sightings fs targets).map Sighting.key).Nodup) :
    Polled time (sightings fs targets) watcher (pollOnce fs targets time watcher).1 (pollOnce fs targets time watcher).2 := by
  have same : (sightings fs (orderedTargets targets)).Perm (sightings fs targets) :=
    sightings_perm fs (List.perm_insertionSort _ targets)
  have keys := same.map Sighting.key
  have scan := scanned time _ ⟨watcher, [], []⟩ (keys.nodup_iff.mpr apart)
  rw [pollOnce_eq]
  -- Only what `scanned` says of the scan is used.
  generalize (sightings fs (orderedTargets targets)).foldl _ _ = last at scan ⊢
  dsimp only
  have seen : ∀ key, key ∈ last.seenPaths ↔ key ∈ (sightings fs targets).map Sighting.key := by
    intro key
    rw [scan.seen, keys.mem_iff]
    simp
  have here : ∀ x ∈ sightings fs targets, x.key ∈ last.seenPaths := fun x member =>
    (seen _).mpr (List.mem_map_of_mem member)
  have fingerprint_eq : ∀ key, key ∈ last.seenPaths →
      (forgetUnseen last).fingerprints key = last.watcher.fingerprints key := fun key there => if_pos there
  have emission_eq : ∀ key : String × List Char, key.2 ∈ last.seenPaths →
      (forgetUnseen last).lastEmittedAtMillis key = last.watcher.lastEmittedAtMillis key := fun key there =>
    if_neg fun gone => gone.2 there
  have gone : ∀ key, key ∉ last.seenPaths →
      (forgetUnseen last).fingerprints key = none ∧
        ∀ target, (forgetUnseen last).lastEmittedAtMillis (target, key) = none := by
    intro key unseen
    refine ⟨if_neg unseen, fun target => ?_⟩
    have unlisted := fun listed => unseen ((seen key).mpr (keys.mem_iff.mp listed))
    unfold forgetUnseen
    dsimp only
    by_cases remembered : (last.watcher.fingerprints key).isSome = true
    · exact if_pos ⟨remembered, unseen⟩
    · rw [if_neg fun both => remembered both.1]
      rw [scan.fingerprints key unlisted] at remembered
      have none := known target key (Option.not_isSome_iff_eq_none.mp remembered)
      rw [scan.emissions (target, key) fun x member _ same => unlisted (List.mem_map.mpr ⟨x, member, (congrArg Prod.snd same).symm⟩)]
      exact none
  refine ⟨?_, ?_, ?_, ?_, ?_, ?_⟩
  · intro x member due
    rw [fingerprint_eq _ (here x member), emission_eq _ (here x member)]
    exact scan.reported x (same.mem_iff.mpr member) due
  · intro x member due
    rw [fingerprint_eq _ (here x member)]
    exact scan.quiet x (same.mem_iff.mpr member) due
  · intro key listed other
    rw [emission_eq key ((seen _).mpr listed)]
    exact scan.emissions key fun x member due => other x (same.mem_iff.mp member) due
  · intro key unlisted
    exact gone key fun there => unlisted ((seen key).mp there)
  · intro target key none
    by_cases there : key ∈ last.seenPaths
    · rw [fingerprint_eq key there] at none
      rw [emission_eq (target, key) there]
      have unreported : ∀ x ∈ sightings fs (orderedTargets targets), x.key = key → ¬ x.reported time watcher := by
        intro x member named due
        have some := (scan.reported x member due).1
        rw [named, none] at some
        cases some
      rw [scan.emissions (target, key) fun x member due same =>
        unreported x member (congrArg Prod.snd same).symm due]
      apply known
      obtain ⟨x, member, named⟩ := List.mem_map.mp (keys.mem_iff.mpr ((seen key).mp there))
      rw [← named, scan.quiet x member (unreported x member named)] at none
      rw [← named]
      exact none
    · exact (gone key there).2 target
  · obtain ⟨due, within, members, emitted⟩ := scan.emitted
    have distinct : (sightings fs (orderedTargets targets)).Nodup := List.Nodup.of_map _ (keys.nodup_iff.mpr apart)
    refine ⟨due, within.nodup distinct, fun x => ?_, ?_⟩
    · constructor
      · intro member
        exact ⟨same.mem_iff.mp (within.mem member), (members x (within.mem member)).mp member⟩
      · rintro ⟨member, reported⟩
        exact (members x (same.mem_iff.mpr member)).mpr reported
    · rw [emitted, List.nil_append]
      exact List.perm_insertionSort _ _

end Millrace.Runtime.PollWatcher
