import Millrace.Runtime.PollWatcher

/-! Polling over time: what the events of all polls say about the files, whatever happens in the directories. -/

set_option autoImplicit false

namespace Millrace.Runtime.PollWatcher

structure Poll where
  directory : FileSystem
  observedAt : String
  observedAtMillis : Int

/-- A watcher of these targets: the file system at its creation and at every poll. -/
structure Watch where
  targets : List RuntimeWatcherTarget
  start : FileSystem
  polls : Nat → Poll
  debounceMs : UInt64

namespace Watch

def time (w : Watch) (n : Nat) : PollTime := ⟨(w.polls n).observedAt, (w.polls n).observedAtMillis, w.debounceMs⟩

def millis (w : Watch) (n : Nat) : Int := (w.polls n).observedAtMillis

/-- The watcher as poll `n` finds it. -/
def before (w : Watch) : Nat → RuntimePollWatcherState
  | 0 => .create w.start w.targets
  | n + 1 => (pollOnce (w.polls n).directory w.targets (w.time n) (w.before n)).1

def events (w : Watch) (n : Nat) : List RuntimeWatchEvent :=
  (pollOnce (w.polls n).directory w.targets (w.time n) (w.before n)).2

/-! ## What is seen and reported -/

def startFiles (w : Watch) : List Sighting := sightings w.start w.targets

def files (w : Watch) (n : Nat) : List Sighting := sightings (w.polls n).directory w.targets

def Present (w : Watch) (n : Nat) (p : PathBuf) : Prop := ∃ x ∈ w.files n, x.path = p

/-- The file is seen at the start or at some poll. -/
def Seen (w : Watch) (p : PathBuf) : Prop := (∃ x ∈ w.startFiles, x.path = p) ∨ ∃ n, w.Present n p

def Emits (w : Watch) (n : Nat) (target : String) (p : PathBuf) : Prop :=
  ∃ e ∈ w.events n, e.target = target ∧ e.path = p

def Reports (w : Watch) (n : Nat) (p : PathBuf) : Prop := ∃ e ∈ w.events n, e.path = p

/-- The fingerprint is primed, at point 0, or reported by the poll before point `m`. -/
def Learned (w : Watch) (p : PathBuf) (fingerprint : RuntimeFileFingerprint) : Nat → Prop
  | 0 => ∃ x ∈ w.startFiles, x.target.emitExistingOnStartup = false ∧ x.path = p ∧ x.fingerprint = fingerprint
  | n + 1 => w.Reports n p ∧ ∃ x ∈ w.files n, x.path = p ∧ x.fingerprint = fingerprint

/-- The fingerprint is the one last reported or primed before poll `n`. -/
def LastLearned (w : Watch) (n : Nat) (p : PathBuf) (fingerprint : RuntimeFileFingerprint) : Prop :=
  ∃ m, m ≤ n ∧ w.Learned p fingerprint m ∧ ∀ k, m ≤ k → k < n → ¬ w.Reports k p

/-- The fingerprint is the one last reported or primed, and the file has been there at every poll since. -/
def Remembered (w : Watch) (n : Nat) (p : PathBuf) (fingerprint : RuntimeFileFingerprint) : Prop :=
  ∃ m, m ≤ n ∧ w.Learned p fingerprint m ∧ ∀ k, m ≤ k → k < n → w.Present k p ∧ ¬ w.Reports k p

/-- Every event of the target and path is old enough at poll `n`, where the file was there at every poll since. -/
def DebouncePassed (w : Watch) (n : Nat) (target : String) (p : PathBuf) : Prop :=
  ∀ i, i < n → w.Emits i target p → (∀ k, i < k → k < n → w.Present k p) →
    (w.debounceMs.toNat : Int) ≤ w.millis n - w.millis i

/-- No target and path is reported twice within the debounce, nothing is reported without a change, and no final change
is missed. -/
structure DebouncedAndLossless (w : Watch) : Prop where
  once : ∀ n, ((w.events n).map fun e => (e.target, e.path)).Nodup
  spaced : ∀ i n target p, i < n → w.Emits i target p → w.Emits n target p →
    w.millis n - w.millis i < w.debounceMs.toNat → ∃ k, i < k ∧ k < n ∧ ¬ w.Present k p
  changed : ∀ n, ∀ e ∈ w.events n, ∃ x ∈ w.files n, x.target.target = e.target ∧ x.path = e.path ∧
    ¬ w.Remembered n x.path x.fingerprint
  complete : ∀ n, ∀ x ∈ w.files n, w.DebouncePassed n x.target.target x.path →
    w.LastLearned (n + 1) x.path x.fingerprint

/-- No file is listed twice at once, for one target or for two. -/
structure DisjointFiles (w : Watch) : Prop where
  start : (w.startFiles.map Sighting.path).Nodup
  polls : ∀ n, ((w.files n).map Sighting.path).Nodup

/-- Files whose paths read the same once what is not UTF-8 in them is replaced are the same file. -/
def DistinctKeys (w : Watch) : Prop :=
  ∀ p q, w.Seen p → w.Seen q → watchPathKey p = watchPathKey q → p = q

section
variable {w : Watch} {n : Nat} {p : PathBuf} {fingerprint : RuntimeFileFingerprint} {target : String} {x : Sighting}

theorem Emits.reports (emits : w.Emits n target p) : w.Reports n p := by
  obtain ⟨e, member, -, same⟩ := emits
  exact ⟨e, member, same⟩

theorem seen_of_mem (member : x ∈ w.files n) : w.Seen x.path := .inr ⟨n, x, member, rfl⟩

theorem Remembered.lastLearned (remembered : w.Remembered n p fingerprint) : w.LastLearned n p fingerprint := by
  obtain ⟨m, le, learned, since⟩ := remembered
  exact ⟨m, le, learned, fun k from' below => (since k from' below).2⟩

/-- A poll that sees the file and does not report it leaves what is remembered. -/
theorem remembered_succ (present : w.Present n p) :
    w.Remembered (n + 1) p fingerprint ↔
      w.Learned p fingerprint (n + 1) ∨ (¬ w.Reports n p ∧ w.Remembered n p fingerprint) := by
  constructor
  · rintro ⟨m, le, learned, since⟩
    rcases Nat.lt_or_ge n m with above | within
    · obtain rfl : m = n + 1 := by omega
      exact .inl learned
    · refine .inr ⟨(since n within (Nat.lt_succ_self n)).2, m, within, learned, fun k from' below => ?_⟩
      exact since k from' (Nat.lt_succ_of_lt below)
  · rintro (learned | ⟨quiet, m, le, learned, since⟩)
    · exact ⟨n + 1, Nat.le_refl _, learned, fun k from' below => absurd below (by omega)⟩
    · refine ⟨m, Nat.le_succ_of_le le, learned, fun k from' below => ?_⟩
      rcases Nat.lt_or_eq_of_le (Nat.le_of_lt_succ below) with earlier | rfl
      · exact since k from' earlier
      · exact ⟨present, quiet⟩

theorem not_remembered_succ (absent : ¬ w.Present n p) : ¬ w.Remembered (n + 1) p fingerprint := by
  rintro ⟨m, le, learned, since⟩
  rcases Nat.lt_or_ge n m with above | within
  · obtain rfl : m = n + 1 := by omega
    obtain ⟨-, x, member, same, -⟩ := learned
    exact absent ⟨x, member, same⟩
  · exact absent (since n within (Nat.lt_succ_self n)).1

end

/-! ## The watcher remembers what was reported -/

/-- Files inserted one after the other, with keys of their own. -/
theorem foldl_insertFingerprint (files : List Sighting) (watcher : RuntimePollWatcherState)
    (apart : (files.map Sighting.key).Nodup) (key : List Char) (fingerprint : RuntimeFileFingerprint) :
    (files.foldl (fun watcher x => watcher.insertFingerprint x.key x.fingerprint) watcher).fingerprints key =
        some fingerprint ↔
      (∃ x ∈ files, x.key = key ∧ x.fingerprint = fingerprint) ∨
        (key ∉ files.map Sighting.key ∧ watcher.fingerprints key = some fingerprint) := by
  induction files generalizing watcher with
  | nil => simp
  | cons x files ih =>
    obtain ⟨fresh, apart⟩ := List.nodup_cons.mp apart
    rw [List.foldl_cons, ih _ apart, List.map_cons, List.mem_cons, not_or]
    have inserted : (watcher.insertFingerprint x.key x.fingerprint).fingerprints key =
        if key = x.key then some x.fingerprint else watcher.fingerprints key := rfl
    rw [inserted]
    by_cases same : key = x.key
    · subst same
      simp [fresh, or_comm]
    · simp [same, Ne.symm same]

theorem foldl_insertFingerprint_lastEmitted (files : List Sighting) (watcher : RuntimePollWatcherState) :
    (files.foldl (fun watcher x => watcher.insertFingerprint x.key x.fingerprint) watcher).lastEmittedAtMillis =
      watcher.lastEmittedAtMillis := by
  induction files generalizing watcher with
  | nil => rfl
  | cons x files ih =>
    rw [List.foldl_cons, ih]
    rfl

theorem create_eq (fs : FileSystem) (targets : List RuntimeWatcherTarget) :
    RuntimePollWatcherState.create fs targets =
      (sightings fs (targets.filter fun target => !target.emitExistingOnStartup)).foldl
        (fun watcher x => watcher.insertFingerprint x.key x.fingerprint) .empty := by
  unfold RuntimePollWatcherState.create RuntimePollWatcherState.prime
  rw [← foldl_sightings, List.foldl_filter]
  congr 1
  funext watcher target
  cases target.emitExistingOnStartup <;> rfl

section Distinct
variable {w : Watch}

theorem keys_nodup_of (distinct : w.DistinctKeys) {files : List Sighting} (apart : (files.map Sighting.path).Nodup)
    (seen : ∀ x ∈ files, w.Seen x.path) : (files.map Sighting.key).Nodup := by
  have keyed : files.map Sighting.key = (files.map Sighting.path).map watchPathKey := by
    rw [List.map_map]
    rfl
  rw [keyed]
  refine apart.map_on ?_
  intro p listed q listed' same
  obtain ⟨x, member, rfl⟩ := List.mem_map.mp listed
  obtain ⟨y, member', rfl⟩ := List.mem_map.mp listed'
  exact distinct _ _ (seen x member) (seen y member') same

theorem unlisted_of_absent {n : Nat} {p : PathBuf} (distinct : w.DistinctKeys) (seen : w.Seen p) (absent : ¬ w.Present n p) :
    watchPathKey p ∉ (w.files n).map Sighting.key := by
  intro listed
  obtain ⟨x, member, same⟩ := List.mem_map.mp listed
  exact absent ⟨x, member, distinct _ _ (seen_of_mem member) seen same⟩

variable (disjoint : w.DisjointFiles) (distinct : w.DistinctKeys)
include disjoint distinct

theorem keys_nodup (n : Nat) : ((w.files n).map Sighting.key).Nodup :=
  keys_nodup_of distinct (disjoint.polls n) fun _ member => seen_of_mem member

theorem startKeys_nodup : (w.startFiles.map Sighting.key).Nodup :=
  keys_nodup_of distinct disjoint.start fun x member => .inl ⟨x, member, rfl⟩

theorem create_fingerprints {p : PathBuf} (seen : w.Seen p) (fingerprint : RuntimeFileFingerprint) :
    (w.before 0).fingerprints (watchPathKey p) = some fingerprint ↔ w.Learned p fingerprint 0 := by
  have primed : (sightings w.start (w.targets.filter fun target => !target.emitExistingOnStartup)).Sublist w.startFiles :=
    List.Sublist.flatMap List.filter_sublist _
  have apart := (startKeys_nodup disjoint distinct).sublist (primed.map Sighting.key)
  unfold before
  rw [create_eq, foldl_insertFingerprint _ _ apart]
  constructor
  · rintro (⟨x, member, same, rfl⟩ | ⟨-, none⟩)
    · obtain ⟨known, listed⟩ := mem_sightings.mp member
      have later : x.target.emitExistingOnStartup = false := by simpa using (List.mem_filter.mp known).2
      refine ⟨x, primed.mem member, later, ?_, rfl⟩
      exact distinct _ _ (.inl ⟨x, primed.mem member, rfl⟩) seen same
    · cases none
  · rintro ⟨x, member, later, rfl, rfl⟩
    obtain ⟨known, listed⟩ := mem_sightings.mp member
    refine .inl ⟨x, mem_sightings.mpr ⟨List.mem_filter.mpr ⟨known, ?_⟩, listed⟩, rfl, rfl⟩
    rw [later]
    rfl

theorem emissionsKnown_before (n : Nat) : EmissionsKnown (w.before n) := by
  induction n with
  | zero =>
    intro target key _
    unfold before
    rw [create_eq, foldl_insertFingerprint_lastEmitted]
    rfl
  | succ n ih => exact (polled ih (keys_nodup disjoint distinct n)).known

theorem polled_at (n : Nat) :
    Polled (w.time n) (w.files n) (w.before n) (w.before (n + 1)) (w.events n) :=
  polled (emissionsKnown_before disjoint distinct n) (keys_nodup disjoint distinct n)

theorem mem_events {n : Nat} {e : RuntimeWatchEvent} :
    e ∈ w.events n ↔ ∃ x ∈ w.files n, x.reported (w.time n) (w.before n) ∧ x.event (w.time n) = e := by
  obtain ⟨due, -, members, same⟩ := (polled_at disjoint distinct n).events
  rw [same.mem_iff, List.mem_map]
  simp only [members, and_assoc]

theorem emits_iff {n : Nat} {target : String} {p : PathBuf} :
    w.Emits n target p ↔
      ∃ x ∈ w.files n, x.reported (w.time n) (w.before n) ∧ x.target.target = target ∧ x.path = p := by
  constructor
  · rintro ⟨e, member, named, same⟩
    obtain ⟨x, listed, due, rfl⟩ := (mem_events disjoint distinct).mp member
    exact ⟨x, listed, due, named, same⟩
  · rintro ⟨x, listed, due, named, same⟩
    exact ⟨_, (mem_events disjoint distinct).mpr ⟨x, listed, due, rfl⟩, named, same⟩

theorem reports_iff {n : Nat} {x : Sighting} (member : x ∈ w.files n) :
    w.Reports n x.path ↔ x.reported (w.time n) (w.before n) := by
  constructor
  · rintro ⟨e, emitted, same⟩
    obtain ⟨y, listed, due, rfl⟩ := (mem_events disjoint distinct).mp emitted
    obtain rfl := List.inj_on_of_nodup_map (disjoint.polls n) listed member same
    exact due
  · intro due
    exact ⟨_, (mem_events disjoint distinct).mpr ⟨x, member, due, rfl⟩, rfl⟩

/-- The fingerprint kept for a file is the one last reported or primed, as long as the file is there. -/
theorem fingerprints_iff (n : Nat) {p : PathBuf} (seen : w.Seen p) (fingerprint : RuntimeFileFingerprint) :
    (w.before n).fingerprints (watchPathKey p) = some fingerprint ↔ w.Remembered n p fingerprint := by
  induction n with
  | zero =>
    rw [create_fingerprints disjoint distinct seen]
    constructor
    · exact fun learned => ⟨0, Nat.le_refl _, learned, fun k _ below => absurd below (Nat.not_lt_zero k)⟩
    · rintro ⟨m, le, learned, -⟩
      obtain rfl := Nat.le_zero.mp le
      exact learned
  | succ n ih =>
    have poll := polled_at disjoint distinct n
    by_cases present : w.Present n p
    · rw [remembered_succ present]
      obtain ⟨x, member, rfl⟩ := present
      rw [reports_iff disjoint distinct member, ← ih]
      by_cases due : x.reported (w.time n) (w.before n)
      · rw [show watchPathKey x.path = x.key from rfl, (poll.reported x member due).1]
        constructor
        · intro same
          obtain rfl := Option.some.inj same
          exact .inl ⟨(reports_iff disjoint distinct member).mpr due, x, member, rfl, rfl⟩
        · rintro (⟨-, y, listed, same, rfl⟩ | ⟨quiet, -⟩)
          · rw [List.inj_on_of_nodup_map (disjoint.polls n) listed member same]
          · exact absurd due quiet
      · rw [show watchPathKey x.path = x.key from rfl, poll.quiet x member due]
        constructor
        · exact fun same => .inr ⟨due, same⟩
        · rintro (⟨reports, -⟩ | ⟨-, same⟩)
          · exact absurd ((reports_iff disjoint distinct member).mp reports) due
          · exact same
    · rw [(poll.gone _ (unlisted_of_absent distinct seen present)).1]
      constructor
      · intro none
        cases none
      · exact fun remembered => absurd remembered (not_remembered_succ present)

/-- A file that was there at every poll since an event is debounced from that event or from a later one. -/
theorem lastEmitted_of_emits (ordered : Monotone w.millis) {i n : Nat} (below : i < n) {target : String} {p : PathBuf}
    (emits : w.Emits i target p) (present : ∀ k, i < k → k < n → w.Present k p) :
    ∃ last, (w.before n).lastEmittedAtMillis (target, watchPathKey p) = some last ∧ w.millis i ≤ last := by
  induction n with
  | zero => exact absurd below (Nat.not_lt_zero i)
  | succ n ih =>
    have poll := polled_at disjoint distinct n
    have le : w.millis i ≤ w.millis n := ordered (Nat.le_of_lt_succ below)
    by_cases again : w.Emits n target p
    · obtain ⟨x, member, due, rfl, rfl⟩ := (emits_iff disjoint distinct).mp again
      exact ⟨_, (poll.reported x member due).2, le⟩
    · rcases Nat.lt_or_eq_of_le (Nat.le_of_lt_succ below) with earlier | rfl
      · obtain ⟨x, member, rfl⟩ := present n earlier (Nat.lt_succ_self n)
        obtain ⟨last, kept, since⟩ := ih earlier fun k from' before => present k from' (Nat.lt_succ_of_lt before)
        refine ⟨last, ?_, since⟩
        rw [poll.emissions (target, watchPathKey x.path) (List.mem_map_of_mem member)]
        · exact kept
        · intro y listed due same
          have named : y.path = x.path := distinct _ _ (seen_of_mem listed) (seen_of_mem member) (congrArg Prod.snd same).symm
          exact again ((emits_iff disjoint distinct).mpr ⟨y, listed, due, (congrArg Prod.fst same).symm, named⟩)
      · exact absurd emits again

/-- The debounce counts from an event, and the file was there at every poll since. -/
theorem emits_of_lastEmitted {n : Nat} {target : String} {p : PathBuf} (seen : w.Seen p) {last : Int}
    (kept : (w.before n).lastEmittedAtMillis (target, watchPathKey p) = some last) :
    ∃ i, i < n ∧ w.Emits i target p ∧ last = w.millis i ∧ ∀ k, i < k → k < n → w.Present k p := by
  induction n with
  | zero =>
    unfold before at kept
    rw [create_eq, foldl_insertFingerprint_lastEmitted] at kept
    cases kept
  | succ n ih =>
    have poll := polled_at disjoint distinct n
    by_cases present : w.Present n p
    · by_cases emits : w.Emits n target p
      · obtain ⟨x, member, due, rfl, rfl⟩ := (emits_iff disjoint distinct).mp emits
        obtain rfl := Option.some.inj ((poll.reported x member due).2.symm.trans kept)
        exact ⟨n, Nat.lt_succ_self n, emits, rfl, fun k from' below => absurd below (by omega)⟩
      · obtain ⟨x, member, rfl⟩ := present
        rw [poll.emissions (target, watchPathKey x.path) (List.mem_map_of_mem member)] at kept
        · obtain ⟨i, below, emitted, same, there⟩ := ih kept
          refine ⟨i, Nat.lt_succ_of_lt below, emitted, same, fun k from' before => ?_⟩
          rcases Nat.lt_or_eq_of_le (Nat.le_of_lt_succ before) with earlier | rfl
          · exact there k from' earlier
          · exact ⟨x, member, rfl⟩
        · intro y listed due same
          have named : y.path = x.path := distinct _ _ (seen_of_mem listed) (seen_of_mem member) (congrArg Prod.snd same).symm
          exact emits ((emits_iff disjoint distinct).mpr ⟨y, listed, due, (congrArg Prod.fst same).symm, named⟩)
    · rw [(poll.gone _ (unlisted_of_absent distinct seen present)).2] at kept
      cases kept

/-! ## Debounced and lossless -/

theorem not_debounced_iff {n : Nat} {target : String} {p : PathBuf} (seen : w.Seen p) (ordered : Monotone w.millis) :
    debounced (w.time n) (w.before n) (target, watchPathKey p) = false ↔ w.DebouncePassed n target p := by
  constructor
  · intro calm i below emits present
    obtain ⟨last, kept, since⟩ := lastEmitted_of_emits disjoint distinct ordered below emits present
    unfold debounced at calm
    rw [kept] at calm
    have passed := of_decide_eq_false calm
    rw [saturatingSub_lt_iff] at passed
    have now : (w.time n).observedAtMillis = w.millis n := rfl
    have bound : (w.time n).debounceMs = w.debounceMs := rfl
    rw [now, bound] at passed
    omega
  · intro passed
    unfold debounced
    cases kept : (w.before n).lastEmittedAtMillis (target, watchPathKey p) with
    | none => rfl
    | some last =>
      obtain ⟨i, below, emits, rfl, present⟩ := emits_of_lastEmitted disjoint distinct seen kept
      have enough := passed i below emits present
      apply decide_eq_false
      rw [saturatingSub_lt_iff]
      exact not_lt.mpr enough

/-- A poll reports exactly the files whose fingerprint is not remembered and whose debounce has passed. -/
theorem reported_iff {n : Nat} {x : Sighting} (member : x ∈ w.files n) (ordered : Monotone w.millis) :
    x.reported (w.time n) (w.before n) ↔
      ¬ w.Remembered n x.path x.fingerprint ∧ w.DebouncePassed n x.target.target x.path := by
  have seen := seen_of_mem member
  unfold Sighting.reported
  rw [← not_debounced_iff disjoint distinct seen ordered]
  exact and_congr_left fun _ => not_congr (fingerprints_iff disjoint distinct n seen x.fingerprint)

theorem events_nodup (n : Nat) : ((w.events n).map fun e => (e.target, e.path)).Nodup := by
  obtain ⟨due, once, members, same⟩ := (polled_at disjoint distinct n).events
  rw [(same.map _).nodup_iff, List.map_map]
  refine once.map_on ?_
  intro x listed y listed' alike
  exact List.inj_on_of_nodup_map (disjoint.polls n) ((members x).mp listed).1 ((members y).mp listed').1
    (congrArg Prod.snd alike)

theorem debouncedAndLossless (ordered : Monotone w.millis) : w.DebouncedAndLossless := by
  refine ⟨events_nodup disjoint distinct, ?_, ?_, ?_⟩
  · intro i n target p below emits again soon
    obtain ⟨x, member, due, rfl, rfl⟩ := (emits_iff disjoint distinct).mp again
    have passed := ((reported_iff disjoint distinct member ordered).mp due).2
    by_contra never
    have present : ∀ k, i < k → k < n → w.Present k x.path := fun k from' before =>
      by_contra fun absent => never ⟨k, from', before, absent⟩
    have enough := passed i below emits present
    omega
  · intro n e emitted
    obtain ⟨x, member, due, rfl⟩ := (mem_events disjoint distinct).mp emitted
    exact ⟨x, member, rfl, rfl, ((reported_iff disjoint distinct member ordered).mp due).1⟩
  · intro n x member passed
    apply Remembered.lastLearned
    rw [remembered_succ ⟨x, member, rfl⟩, reports_iff disjoint distinct member,
      reported_iff disjoint distinct member ordered]
    by_cases remembered : w.Remembered n x.path x.fingerprint
    · exact .inr ⟨fun both => both.1 remembered, remembered⟩
    · have due := (reported_iff disjoint distinct member ordered).mpr ⟨remembered, passed⟩
      exact .inl ⟨(reports_iff disjoint distinct member).mpr due, x, member, rfl, rfl⟩

end Distinct

/-! ## A file that is put aside, and names that are not UTF-8 -/

def holding (entries : List DirEntry) : FileSystem := ⟨fun _ => true, fun _ => some entries, some⟩

def entry (p : PathBuf) (fingerprint : RuntimeFileFingerprint) : DirEntry :=
  ⟨p, some ⟨true, some fingerprint.modifiedUnixNanos, fingerprint.sizeBytes⟩⟩

def watchedDirectory (emitExisting : Bool) : RuntimeWatcherTarget := ⟨"q", path ['q'], ['*', '.', 'm'], emitExisting⟩

/-- A file of the queue that is away at the second poll and back, unchanged, at the third. -/
def putAside : Watch where
  targets := [watchedDirectory false]
  start := holding [entry (path ['q', '/', 'a', '.', 'm']) ⟨1, 2⟩]
  polls n := ⟨holding (if n = 1 then [] else [entry (path ['q', '/', 'a', '.', 'm']) ⟨1, 2⟩]), "t", n⟩
  debounceMs := 0

/-- Two files of an inbox whose names differ in one byte that is not UTF-8. -/
def blurred : Watch where
  targets := [watchedDirectory true]
  start := holding []
  polls n := ⟨holding
    [entry (path ['q', '/'] ++ [.invalid [254]] ++ path ['.', 'm']) ⟨1, 2⟩,
      entry (path ['q', '/'] ++ [.invalid [255]] ++ path ['.', 'm']) ⟨3, 4⟩], "t", n⟩
  debounceMs := 0

theorem putAside_files (n : Nat) : putAside.files n =
    if n = 1 then [] else [⟨watchedDirectory false, path ['q', '/', 'a', '.', 'm'], ⟨1, 2⟩⟩] := by
  unfold files putAside
  dsimp only
  by_cases away : n = 1
  · rw [if_pos away, if_pos away]
    rfl
  · rw [if_neg away, if_neg away]
    rfl

theorem putAside_disjoint : putAside.DisjointFiles := by
  refine ⟨List.nodup_singleton _, fun n => ?_⟩
  rw [putAside_files]
  by_cases away : n = 1
  · rw [if_pos away]
    exact List.nodup_nil
  · rw [if_neg away]
    exact List.nodup_singleton _

theorem putAside_seen {p : PathBuf} (seen : putAside.Seen p) : p = path ['q', '/', 'a', '.', 'm'] := by
  rcases seen with ⟨x, member, rfl⟩ | ⟨n, x, member, rfl⟩
  · have listed : putAside.startFiles = [⟨watchedDirectory false, path ['q', '/', 'a', '.', 'm'], ⟨1, 2⟩⟩] := rfl
    rw [listed] at member
    rw [List.mem_singleton.mp member]
  · rw [putAside_files] at member
    by_cases away : n = 1
    · rw [if_pos away] at member
      cases member
    · rw [if_neg away] at member
      rw [List.mem_singleton.mp member]

theorem putAside_distinct : putAside.DistinctKeys := fun _ _ seen seen' _ =>
  (putAside_seen seen).trans (putAside_seen seen').symm

theorem putAside_ordered : Monotone putAside.millis := fun _ _ le => Int.ofNat_le.mpr le

/-- The rules hold of the file that is put aside. -/
theorem putAside_debouncedAndLossless : putAside.DebouncedAndLossless :=
  debouncedAndLossless putAside_disjoint putAside_distinct putAside_ordered

theorem putAside_quiet (n : Nat) (early : n < 2) (p : PathBuf) : ¬ putAside.Reports n p := by
  have none : putAside.events n = [] := by
    obtain rfl | rfl : n = 0 ∨ n = 1 := by omega
    · rfl
    · rfl
  rintro ⟨e, member, -⟩
  rw [none] at member
  cases member

/-- A primed file that nothing changes is never reported; put aside and brought back, it is, with the fingerprint that
was primed. Of two files that have one key, each poll reports both again, with the fingerprints last reported. -/
theorem unchanged_files_reported :
    (putAside.DisjointFiles ∧ Monotone putAside.millis ∧
      (∃ x ∈ putAside.files 0, putAside.DebouncePassed 0 x.target.target x.path ∧ ¬ putAside.Reports 0 x.path) ∧
      ∃ e ∈ putAside.events 2, ∃ x ∈ putAside.files 2, x.path = e.path ∧
        putAside.LastLearned 2 x.path x.fingerprint) ∧
    blurred.DisjointFiles ∧ Monotone blurred.millis ∧
      ∃ e ∈ blurred.events 1, ∃ x ∈ blurred.files 1, x.path = e.path ∧ blurred.Remembered 1 x.path x.fingerprint := by
  refine ⟨⟨putAside_disjoint, putAside_ordered, ?_, ?_⟩, ⟨?_, fun n => ?_⟩, fun _ _ le => Int.ofNat_le.mpr le, ?_⟩
  · refine ⟨⟨watchedDirectory false, path ['q', '/', 'a', '.', 'm'], ⟨1, 2⟩⟩, ?_, ?_, putAside_quiet 0 (by omega) _⟩
    · rw [putAside_files]
      exact List.mem_singleton_self _
    · exact fun i before => absurd before (Nat.not_lt_zero i)
  · have reported : putAside.events 2 = [⟨"q", path ['q', '/', 'a', '.', 'm'], "changed", "t"⟩] := rfl
    rw [reported]
    refine ⟨_, List.mem_singleton_self _, ⟨watchedDirectory false, path ['q', '/', 'a', '.', 'm'], ⟨1, 2⟩⟩, ?_, rfl, ?_⟩
    · rw [putAside_files]
      exact List.mem_singleton_self _
    · exact ⟨0, Nat.zero_le _, ⟨_, List.mem_singleton_self _, rfl, rfl, rfl⟩, fun k _ below => putAside_quiet k below _⟩
  · exact List.nodup_nil
  · show (([path ['q', '/'] ++ [.invalid [254]] ++ path ['.', 'm'],
      path ['q', '/'] ++ [.invalid [255]] ++ path ['.', 'm']] : List PathBuf)).Nodup
    decide
  · have first : blurred.events 0 =
        [⟨"q", path ['q', '/'] ++ [.invalid [254]] ++ path ['.', 'm'], "changed", "t"⟩,
          ⟨"q", path ['q', '/'] ++ [.invalid [255]] ++ path ['.', 'm'], "changed", "t"⟩] := rfl
    have again : blurred.events 1 = blurred.events 0 := rfl
    have listed : blurred.files 0 =
        [⟨watchedDirectory true, path ['q', '/'] ++ [.invalid [254]] ++ path ['.', 'm'], ⟨1, 2⟩⟩,
          ⟨watchedDirectory true, path ['q', '/'] ++ [.invalid [255]] ++ path ['.', 'm'], ⟨3, 4⟩⟩] := rfl
    have listed' : blurred.files 1 = blurred.files 0 := rfl
    rw [again, listed', first, listed]
    refine ⟨_, List.mem_cons_self, _, List.mem_cons_self, rfl, 1, Nat.le_refl _, ⟨?_, ?_⟩, fun k from' below => ?_⟩
    · exact ⟨_, first ▸ List.mem_cons_self, rfl⟩
    · exact ⟨_, listed ▸ List.mem_cons_self, rfl, rfl⟩
    · omega

end Watch

end Millrace.Runtime.PollWatcher
