import Mathlib.Data.List.Dedup
import Mathlib.Tactic.Set
import Millrace.Workspace.ManagedAssets

/-! One application of an upgrade: what the preview says of the files, and which of them the application writes. -/

set_option autoImplicit false

namespace Millrace.ManagedAssets
open Millrace.Action

section
variable [Sha256] {faults : Faults} {s : AssetWorld}

/-! ## Operations -/

section Operations
omit [Sha256]

/-- An operation from this one on fails. -/
def FailsFrom (faults : Faults) (n : Nat) : Prop := ∃ m, n ≤ m ∧ faults m ≠ none

theorem FailsFrom.earlier {n m : Nat} (fails : FailsFrom faults m) (before : n ≤ m) : FailsFrom faults n := by
  obtain ⟨k, later, faulty⟩ := fails
  exact ⟨k, before.trans later, faulty⟩

/-- The same files and the same manifest. -/
def AssetWorld.Same (s t : AssetWorld) : Prop := t.files = s.files ∧ t.manifest = s.manifest

theorem AssetWorld.Same.refl (s : AssetWorld) : s.Same s := ⟨rfl, rfl⟩

theorem AssetWorld.Same.trans {s t u : AssetWorld} (first : s.Same t) (later : t.Same u) : s.Same u :=
  ⟨later.1.trans first.1, later.2.trans first.2⟩

/-- An error of an operation on the files. -/
def WorkspaceError.Io : WorkspaceError → Prop
  | .io _ _ => True
  | _ => False

/-- The computation writes nothing and has this result, or an operation on the files fails. -/
def Finds {α : Type} (faults : Faults) (s : AssetWorld) (x : AssetM α) (result : Except WorkspaceError α) : Prop :=
  Ensues s x (fun a t => result = .ok a ∧ s.Same t ∧ s.step ≤ t.step)
    fun error t => s.Same t ∧ (result = .error error ∨ error.Io ∧ FailsFrom faults s.step)

namespace Finds
variable {α β : Type}

theorem pure (a : α) : Finds faults s (Pure.pure a) (.ok a) := Ensues.pure ⟨rfl, .refl s, le_rfl⟩

theorem throw (error : WorkspaceError) : Finds faults s (throw error : AssetM α) (.error error) :=
  Ensues.throw ⟨.refl s, .inl rfl⟩

theorem ofExcept (result : Except WorkspaceError α) : Finds faults s (MonadExcept.ofExcept result) result := by
  cases result with
  | ok a => exact .pure a
  | error error => exact .throw error

/-- A step with a known result. -/
theorem after {x : AssetM α} {f : α → AssetM β} {a : α} {result : Except WorkspaceError β} (first : Finds faults s x (.ok a))
    (next : ∀ t, s.Same t → Finds faults t (f a) result) : Finds faults s (x >>= f) result := by
  refine Ensues.bind (first.weaken (fun _ _ ends => ends) ?_) ?_
  · rintro error t ⟨same, impossible | faulty⟩
    · cases impossible
    · exact ⟨same, .inr faulty⟩
  · rintro b t ⟨found, same, later⟩
    obtain rfl := Except.ok.inj found
    refine (next t same).weaken ?_ ?_
    · rintro c u ⟨found, same', later'⟩
      exact ⟨found, same.trans same', later.trans later'⟩
    · rintro error u ⟨same', failed⟩
      exact ⟨same.trans same', failed.imp id fun faulty => ⟨faulty.1, faulty.2.earlier later⟩⟩

theorem bind {x : AssetM α} {f : α → AssetM β} {first : Except WorkspaceError α} {rest : α → Except WorkspaceError β}
    (finds : Finds faults s x first) (next : ∀ a t, first = .ok a → s.Same t → Finds faults t (f a) (rest a)) :
    Finds faults s (x >>= f) (first >>= rest) := by
  cases first with
  | ok a => exact finds.after fun t => next a t rfl
  | error error =>
    refine Ensues.bind (finds.weaken (fun _ _ ends => ends) ?_) ?_
    · rintro error' t ⟨same, refused | faulty⟩
      · obtain rfl := Except.error.inj refused
        exact ⟨same, .inl rfl⟩
      · exact ⟨same, .inr faulty⟩
    · rintro a t ⟨impossible, -⟩
      cases impossible

theorem ite {condition : Prop} [Decidable condition] {x y : AssetM α} {first other : Except WorkspaceError α}
    (yes : condition → Finds faults s x first) (no : ¬condition → Finds faults s y other) :
    Finds faults s (if condition then x else y) (if condition then first else other) := by
  split
  next holds => exact yes holds
  next fails => exact no fails

end Finds

def AssetWorld.tick (s : AssetWorld) : AssetWorld := { s with step := s.step + 1 }

theorem fileOperation_run (path : String) :
    fileOperation faults path s = match faults s.step with
      | some message => .error (.io path message) s.tick
      | none => .ok () s.tick := by
  unfold fileOperation
  show (match faults s.step with
    | some message => throw (.io path message)
    | none => pure () : AssetM Unit) s.tick = _
  cases faults s.step <;> rfl

theorem fileOperation_finds (path : String) : Finds faults s (fileOperation faults path) (.ok ()) := by
  rintro s rfl
  rw [fileOperation_run]
  cases fault : faults s.step with
  | none => exact ⟨rfl, .refl _, Nat.le_succ _⟩
  | some message => exact ⟨.refl _, .inr ⟨trivial, s.step, le_rfl, by simp [fault]⟩⟩

theorem currentFile_finds (path : String) : Finds faults s (currentFile path) (.ok (s.files path)) := by
  rintro s rfl
  exact ⟨rfl, .refl _, le_rfl⟩

end Operations

theorem currentFileSha256_finds (path : String) :
    Finds faults s (currentFileSha256 faults path) (.ok (s.files path).sha256) := by
  unfold currentFileSha256
  refine (currentFile_finds path).after fun t _ => ?_
  cases s.files path with
  | file contents => exact (fileOperation_finds path).after fun _ _ => .pure _
  | absent => exact .pure _
  | directory => exact .pure _

/-! ## The preview -/

/-- What the previews compare: the baseline, the entries of the package and the paths given up. -/
structure Comparison where
  baseline : List BaselineManifestEntry
  candidate : List BaselineManifestEntry
  localized : List String

section Preview
variable (c : Comparison)

def Comparison.paths : List String := sortedPaths (c.baseline.map (·.relativePath) ++ c.candidate.map (·.relativePath))

/-- What a preview says of a path with this file. -/
def Comparison.verdict (relativePath : String) (file : FileEntry) : UpgradeDisposition × Bool :=
  classify file (entryFor c.baseline relativePath) (entryFor c.candidate relativePath) (c.localized.contains relativePath)

def Comparison.entry (relativePath : String) (file : FileEntry) : BaselineUpgradeEntry :=
  (upgradeEntry (entryFor c.baseline relativePath) (entryFor c.candidate relativePath)
    (c.localized.contains relativePath) relativePath file).1

theorem upgradeEntry_eq (relativePath : String) (file : FileEntry) :
    upgradeEntry (entryFor c.baseline relativePath) (entryFor c.candidate relativePath)
      (c.localized.contains relativePath) relativePath file =
      (c.entry relativePath file, (c.verdict relativePath file).2) := rfl

theorem entry_relativePath (relativePath : String) (file : FileEntry) :
    (c.entry relativePath file).relativePath = relativePath := rfl

theorem entry_disposition (relativePath : String) (file : FileEntry) :
    (c.entry relativePath file).disposition = (c.verdict relativePath file).1 := rfl

theorem previewEntries_finds (todo : List String) (normal : ∀ p ∈ todo, normalizeManifestRelativePath p = .ok p) :
    Finds faults s (previewEntries faults c.baseline c.candidate c.localized todo)
      (.ok (todo.map fun p => (c.entry p (s.files p), (c.verdict p (s.files p)).2))) := by
  induction todo generalizing s with
  | nil => exact .pure _
  | cons p rest ih =>
    unfold previewEntries
    rw [normal p List.mem_cons_self]
    refine (Finds.ofExcept (.ok p)).after fun t same => ?_
    refine (currentFile_finds p).after fun u same' => ?_
    refine (currentFileSha256_finds p).after fun v same'' => ?_
    have files := ((same.trans same').trans same'').1
    have rest := ih (s := v) fun q member => normal q (List.mem_cons_of_mem _ member)
    refine rest.after fun w _ => ?_
    rw [files, same.1]
    exact .pure _

omit [Sha256] in
theorem mem_paths {p : String} :
    p ∈ c.paths ↔ (∃ e ∈ c.baseline, e.relativePath = p) ∨ ∃ e ∈ c.candidate, e.relativePath = p := by
  unfold Comparison.paths sortedPaths
  rw [List.mem_insertionSort, List.mem_dedup, List.mem_append, List.mem_map, List.mem_map]

omit [Sha256] in
theorem paths_nodup : c.paths.Nodup := (List.perm_insertionSort _ _).nodup_iff.mpr (List.nodup_dedup _)

omit [Sha256] in
theorem valid_normal {entries : List BaselineManifestEntry} (valid : entries.forM validateManifestEntryPath = .ok ())
    {e : BaselineManifestEntry} (member : e ∈ entries) : normalizeManifestRelativePath e.relativePath = .ok e.relativePath := by
  have checked := forM_eq_ok.mp valid e member
  unfold validateManifestEntryPath at checked
  obtain ⟨normalized, normal, checked⟩ := bind_eq_ok.mp checked
  by_cases same : normalized = e.relativePath
  · rw [normal, same]
  · rw [if_pos same] at checked
    cases checked

/-- What a preview makes of these files. -/
def previewOf (baseline candidate : BaselineManifest) (localizeRemovedPaths : List String) (files : String → FileEntry) :
    Except WorkspaceError BaselineUpgradePreview := do
  baseline.entries.forM validateManifestEntryPath
  candidate.entries.forM validateManifestEntryPath
  let localized ← normalizeLocalizeRemovedPaths localizeRemovedPaths
  let c : Comparison := ⟨baseline.entries, candidate.entries, localized⟩
  let removed := c.paths.filter fun p => (c.verdict p (files p)).2
  let invalid := (sortedPaths localized).filter fun path => !removed.contains path
  if invalid ≠ [] then
    throw (.upgrade ("localize-removed path is not a removed managed asset: " ++ String.intercalate ", " invalid))
  return {
    applied := false
    baselineManifestId := baseline.manifestId
    candidateManifestId := candidate.manifestId
    entries := c.paths.map fun p => c.entry p (files p) }

theorem removed_eq (paths : List String) (files : String → FileEntry) :
    ((paths.map fun p => (c.entry p (files p), (c.verdict p (files p)).2)).filter (·.2)).map (·.1.relativePath) =
      paths.filter fun p => (c.verdict p (files p)).2 := by
  induction paths with
  | nil => rfl
  | cons p rest ih =>
    rw [List.map_cons, List.filter_cons, List.filter_cons]
    split
    next => rw [List.map_cons, ih, entry_relativePath]
    next => exact ih

theorem preview_finds (baseline candidate : BaselineManifest) (localizeRemovedPaths : List String) :
    Finds faults s (previewBaselineUpgradeWithCandidate faults baseline candidate localizeRemovedPaths)
      (previewOf baseline candidate localizeRemovedPaths s.files) := by
  unfold previewBaselineUpgradeWithCandidate previewOf
  refine (Finds.ofExcept _).bind fun _ t valid same => ?_
  refine (Finds.ofExcept _).bind fun _ u valid' same' => ?_
  refine (Finds.ofExcept _).bind fun localized v _ same'' => ?_
  have files := ((same.trans same').trans same'').1
  rw [← files]
  refine (previewEntries_finds ⟨baseline.entries, candidate.entries, localized⟩ _ ?_).after fun w _ => ?_
  · intro p listed
    rcases (mem_paths ⟨baseline.entries, candidate.entries, localized⟩).mp listed with ⟨e, member, rfl⟩ | ⟨e, member, rfl⟩
    · exact valid_normal valid member
    · exact valid_normal valid' member
  · dsimp only
    rw [removed_eq ⟨baseline.entries, candidate.entries, localized⟩, List.map_map]
    exact .ite (fun _ => .throw _) fun _ => .pure _

end Preview

/-! ## The application -/

section Application
variable (package : Package)

/-- A file that the application writes. -/
def Updates (disposition : UpgradeDisposition) : Prop := disposition = .safePackageUpdate ∨ disposition = .missing

instance (disposition : UpgradeDisposition) : Decidable (Updates disposition) :=
  inferInstanceAs (Decidable (_ ∨ _))

/-- The paths of the package. -/
def Package.paths : List String := package.assets.map RuntimeAsset.relativePath

def Package.contents (relativePath : String) : List UInt8 := (embeddedAssetContents package relativePath).getD []

/-- The files after the folders of some assets were made, and some of these assets written. -/
def written (files : String → FileEntry) (done made : List String) : String → FileEntry := fun p =>
  if p ∈ done then .file (package.contents p)
  else if files p = .absent ∧ ∃ w ∈ made, p ∈ ancestors w then .directory
  else files p

variable {package} {files : String → FileEntry}

theorem embedded_eq {asset : RuntimeAsset} (member : asset ∈ package.assets) :
    embeddedAssetContents package asset.relativePath = some asset.contents := by
  unfold embeddedAssetContents
  cases found : package.assets.find? fun other => other.relativePath = asset.relativePath with
  | none =>
    have missing := List.find?_eq_none.mp found asset member
    simp at missing
  | some other =>
    have same : other.relativePath = asset.relativePath := of_decide_eq_true (List.find?_some found :)
    have same := List.inj_on_of_nodup_map package.distinct (List.mem_of_find?_eq_some found) member same
    rw [Option.map_some, same]

theorem contents_eq {asset : RuntimeAsset} (member : asset ∈ package.assets) :
    package.contents asset.relativePath = asset.contents := by
  unfold Package.contents
  rw [embedded_eq member, Option.getD_some]

theorem apart {p q : String} (member : p ∈ package.paths) (member' : q ∈ package.paths) : p ∉ ancestors q := by
  obtain ⟨asset, listed, rfl⟩ := List.mem_map.mp member
  obtain ⟨asset', listed', rfl⟩ := List.mem_map.mp member'
  exact package.files asset listed asset' listed'

theorem written_nil : written package files [] [] = files := by
  funext p
  unfold written
  rw [if_neg List.not_mem_nil, if_neg]
  rintro ⟨-, w, none, -⟩
  exact List.not_mem_nil none

theorem written_congr {done done' made made' : List String} (same : ∀ p, p ∈ done ↔ p ∈ done')
    (same' : ∀ p, p ∈ made ↔ p ∈ made') : written package files done made = written package files done' made' := by
  funext p
  unfold written
  simp only [same, same']

/-- Assets that are written after others. -/
theorem written_written (done made later made' : List String) :
    written package (written package files done made) later made' =
      written package files (later ++ done) (made' ++ made) := by
  funext p
  unfold written
  by_cases again : p ∈ later
  · rw [if_pos again, if_pos (List.mem_append_left _ again)]
  · rw [if_neg again]
    by_cases before : p ∈ done
    · rw [if_pos before, if_pos (List.mem_append_right _ before), if_neg]
      rintro ⟨impossible, -⟩
      cases impossible
    · rw [if_neg before, if_neg fun member => (List.mem_append.mp member).elim again before]
      by_cases folder : files p = .absent ∧ ∃ w ∈ made, p ∈ ancestors w
      · obtain ⟨absent, w, member, on⟩ := folder
        rw [if_pos (⟨absent, w, member, on⟩ : files p = .absent ∧ ∃ w ∈ made, p ∈ ancestors w),
          if_pos (⟨absent, w, List.mem_append_right _ member, on⟩ : files p = .absent ∧ ∃ w ∈ made' ++ made, p ∈ ancestors w),
          if_neg]
        rintro ⟨impossible, -⟩
        cases impossible
      · rw [if_neg folder]
        by_cases folder' : files p = .absent ∧ ∃ w ∈ made', p ∈ ancestors w
        · obtain ⟨absent, w, member, on⟩ := folder'
          rw [if_pos ⟨absent, w, member, on⟩, if_pos ⟨absent, w, List.mem_append_left _ member, on⟩]
        · rw [if_neg folder', if_neg]
          rintro ⟨absent, w, member, on⟩
          rcases List.mem_append.mp member with member | member
          · exact folder' ⟨absent, w, member, on⟩
          · exact folder ⟨absent, w, member, on⟩

theorem withFolders_eq (p : String) : withFolders p files = written package files [] [p] := by
  funext q
  unfold withFolders written
  rw [if_neg List.not_mem_nil]
  simp only [List.mem_singleton, exists_eq_left]

/-- One asset and its folders. -/
theorem withFile_eq (p : String) :
    withFile p (package.contents p) (withFolders p files) = written package files [p] [p] := by
  funext q
  unfold withFile withFolders written
  by_cases same : q = p
  · rw [if_pos same, if_pos (List.mem_singleton.mpr same), same]
  · rw [if_neg same, if_neg fun member => same (List.mem_singleton.mp member)]
    simp only [List.mem_singleton, exists_eq_left]

/-! ### One file -/

/-- A folder of a path is a file. -/
def Blocked (files : String → FileEntry) (p : String) : Prop := ∃ folder ∈ ancestors p, (files folder).isFile

omit [Sha256] in
theorem createParents_run (path : String) :
    createParents faults path s = match faults s.step with
      | some message => .error (.io path message) s.tick
      | none =>
        if (ancestors path).any fun folder => (s.files folder).isFile then
          .error (.io path "Not a directory (os error 20)") s.tick
        else .ok () { s.tick with files := withFolders path s.files } := by
  unfold createParents
  show EStateM.bind (fileOperation faults path) _ s = _
  unfold EStateM.bind
  rw [fileOperation_run]
  cases faults s.step with
  | some message => rfl
  | none =>
    show (if (ancestors path).any fun folder => (s.files folder).isFile then _ else _ : AssetM Unit) s.tick = _
    by_cases blocked : (ancestors path).any fun folder => (s.files folder).isFile
    · rw [if_pos blocked, if_pos blocked]
      rfl
    · rw [if_neg blocked, if_neg blocked]
      rfl

omit [Sha256] in
theorem blocked_iff (path : String) : Blocked files path ↔ (ancestors path).any fun folder => (files folder).isFile :=
  List.any_eq_true.symm

omit [Sha256] in
theorem createParents_ends (path : String) :
    Ensues s (createParents faults path)
      (fun _ t => t.files = withFolders path s.files ∧ t.manifest = s.manifest ∧ s.step ≤ t.step ∧ ¬Blocked s.files path)
      fun error t => s.Same t ∧ error.Io ∧ (Blocked s.files path ∨ FailsFrom faults s.step) := by
  rintro s rfl
  rw [createParents_run]
  cases fault : faults s.step with
  | some message => exact ⟨.refl _, trivial, .inr ⟨s.step, le_rfl, by simp [fault]⟩⟩
  | none =>
    dsimp only
    by_cases blocked : (ancestors path).any fun folder => (s.files folder).isFile
    · rw [if_pos blocked]
      exact ⟨.refl _, trivial, .inl ((blocked_iff path).mpr blocked)⟩
    · rw [if_neg blocked]
      exact ⟨rfl, rfl, Nat.le_succ _, fun held => blocked ((blocked_iff path).mp held)⟩

/-- An asset is written with its folders. -/
theorem writeBytesAtomically_ends {path : String} (ours : path ∈ package.paths) (file : s.files path ≠ .directory) :
    Ensues s (writeBytesAtomically faults path (package.contents path))
      (fun _ t => t.files = written package s.files [path] [path] ∧ t.manifest = s.manifest ∧ s.step ≤ t.step ∧
        ¬Blocked s.files path)
      fun error t => error.Io ∧ t.manifest = s.manifest ∧ (t.files = s.files ∨ t.files = written package s.files [] [path]) ∧
        (Blocked s.files path ∨ FailsFrom faults s.step) := by
  unfold writeBytesAtomically
  refine Ensues.bind ((createParents_ends path).weaken (fun _ _ ends => ends) ?_) ?_
  · rintro error t ⟨same, io, failed⟩
    exact ⟨io, same.2, .inl same.1, failed⟩
  · rintro _ t ⟨folders, manifest, later, free⟩
    refine Ensues.bind ((fileOperation_finds path).weaken (fun _ _ ends => ends.2) ?_) ?_
    · rintro error u ⟨same, impossible | ⟨io, faulty⟩⟩
      · cases impossible
      · exact ⟨io, same.2.trans manifest, .inr ((same.1.trans folders).trans (withFolders_eq path)),
          .inr (faulty.earlier later)⟩
    · rintro _ u ⟨same, later'⟩
      have files := same.1.trans folders
      have regular : u.files path ≠ .directory := by
        rw [files]
        unfold withFolders
        rw [if_neg fun made => apart ours ours made.2]
        exact file
      refine Ensues.get ?_
      show Ensues u (if _ then _ else _) _ _
      refine Ensues.ite (fun directory => absurd directory regular) fun _ => ?_
      rintro u rfl
      refine ⟨?_, same.2.trans manifest, later.trans later', free⟩
      show withFile path (package.contents path) u.files = _
      rw [files]
      exact withFile_eq path

/-! ### All files -/

variable (c : Comparison)

/-- The files of these paths that the application writes. -/
def Comparison.updates (files : String → FileEntry) (paths : List String) : List String :=
  paths.filter fun p => Updates (c.verdict p (files p)).1

variable {c}

theorem mem_updates {paths : List String} {p : String} :
    p ∈ c.updates files paths ↔ p ∈ paths ∧ Updates (c.verdict p (files p)).1 := by
  unfold Comparison.updates
  rw [List.mem_filter, decide_eq_true_iff]

/-- Only an asset of the package is written, and not over a directory. -/
theorem update_spec {p : String} {file : FileEntry} (updates : Updates (c.verdict p file).1) :
    (∃ entry, entryFor c.candidate p = some entry) ∧ file ≠ .directory := by
  unfold Comparison.verdict classify at updates
  split at updates
  next => rcases updates with updates | updates <;> cases updates
  next regular =>
    refine ⟨?_, regular⟩
    cases candidate : entryFor c.candidate p with
    | some entry => exact ⟨entry, rfl⟩
    | none =>
      rw [candidate] at updates
      cases original : entryFor c.baseline p with
      | none =>
        rw [original] at updates
        rcases updates with updates | updates <;> cases updates
      | some entry =>
        rw [original] at updates
        dsimp only at updates
        split at updates <;> rcases updates with updates | updates <;> cases updates

/-- The candidate is the manifest of the package. -/
def Comparison.Of (c : Comparison) (package : Package) : Prop := c.candidate = (buildBaselineManifest package).entries

theorem candidate_path (of : c.Of package) {p : String} {entry : BaselineManifestEntry}
    (found : entryFor c.candidate p = some entry) : p ∈ package.paths ∧ entry.originalSha256 = Sha256.hex (package.contents p) := by
  unfold entryFor at found
  have member := List.mem_of_find?_eq_some found
  have shown : entry.relativePath = p := of_decide_eq_true (List.find?_some found :)
  rw [of] at member
  unfold buildBaselineManifest BaselineManifest.new at member
  rw [List.mem_reverse, List.mem_insertionSort] at member
  obtain ⟨asset, listed, rfl⟩ := List.mem_map.mp member
  obtain rfl : asset.relativePath = p := shown
  exact ⟨List.mem_map_of_mem listed, by rw [contents_eq listed]; rfl⟩

theorem update_ours (of : c.Of package) {p : String} {file : FileEntry} (updates : Updates (c.verdict p file).1) :
    p ∈ package.paths := by
  obtain ⟨⟨entry, found⟩, -⟩ := update_spec updates
  exact (candidate_path of found).1

/-- A folder of an asset is a file after the writes only where it was one before. -/
theorem blocked_written {done made : List String} (ours : ∀ w ∈ done, w ∈ package.paths) {p : String}
    (member : p ∈ package.paths) : Blocked (written package files done made) p ↔ Blocked files p := by
  have same : ∀ folder ∈ ancestors p, (written package files done made folder).isFile = (files folder).isFile := by
    intro folder on
    unfold written
    rw [if_neg fun asset => apart (ours folder asset) member on]
    split
    next made =>
      rw [made.1]
      rfl
    next => rfl
  constructor
  · rintro ⟨folder, on, file⟩
    exact ⟨folder, on, same folder on ▸ file⟩
  · rintro ⟨folder, on, file⟩
    exact ⟨folder, on, (same folder on).trans file⟩

/-- Where a run of writes was stopped. -/
def PartlyWritten (package : Package) (updates : List String) (files files' : String → FileEntry) : Prop :=
  ∃ done made : List String, (∀ w ∈ done, w ∈ updates) ∧ (∀ w ∈ made, w ∈ updates) ∧ (∀ w ∈ done, w ∈ made) ∧
    files' = written package files done made

theorem PartlyWritten.refl (updates : List String) (files : String → FileEntry) : PartlyWritten package updates files files :=
  ⟨[], [], fun _ none => absurd none List.not_mem_nil, fun _ none => absurd none List.not_mem_nil,
    fun _ none => absurd none List.not_mem_nil, written_nil.symm⟩

theorem ours_normal {p : String} (member : p ∈ package.paths) : normalizeManifestRelativePath p = .ok p := by
  obtain ⟨asset, listed, rfl⟩ := List.mem_map.mp member
  have valid : [asset.entry].forM validateManifestEntryPath = .ok () :=
    forM_eq_ok.mpr fun entry there => List.mem_singleton.mp there ▸ package.accepted asset listed
  exact valid_normal valid (List.mem_singleton_self asset.entry)

theorem upgradeFile_updates {p : String} {file : FileEntry} (member : p ∈ package.paths) (updates : Updates (c.verdict p file).1) :
    upgradeFile faults package (c.entry p file) = writeBytesAtomically faults p (package.contents p) := by
  refine (if_pos updates).trans ?_
  rw [entry_relativePath, ours_normal member]
  obtain ⟨asset, listed, rfl⟩ := List.mem_map.mp member
  rw [contents_eq listed, embedded_eq listed]
  rfl

theorem upgradeFile_skips {p : String} {file : FileEntry} (skipped : ¬Updates (c.verdict p file).1) :
    upgradeFile faults package (c.entry p file) = pure () := if_neg skipped

theorem upgradeFiles_ends (of : c.Of package) (judged : String → FileEntry) (todo : List String)
    (regular : ∀ p ∈ c.updates judged todo, s.files p ≠ .directory) :
    Ensues s ((todo.map fun p => c.entry p (judged p)).forM (upgradeFile faults package))
      (fun _ t => t.files = written package s.files (c.updates judged todo) (c.updates judged todo) ∧
        t.manifest = s.manifest ∧ s.step ≤ t.step ∧ ∀ p ∈ c.updates judged todo, ¬Blocked s.files p)
      fun error t => error.Io ∧ t.manifest = s.manifest ∧ PartlyWritten package (c.updates judged todo) s.files t.files ∧
        ((∃ p ∈ c.updates judged todo, Blocked s.files p) ∨ FailsFrom faults s.step) := by
  induction todo generalizing s with
  | nil => exact Ensues.pure ⟨written_nil.symm, rfl, le_rfl, fun p none => absurd none List.not_mem_nil⟩
  | cons p rest ih =>
    rw [List.map_cons, List.forM]
    have ours : ∀ q ∈ c.updates judged rest, q ∈ package.paths := fun q member => update_ours of (mem_updates.mp member).2
    by_cases updates : Updates (c.verdict p (judged p)).1
    · have listed : c.updates judged (p :: rest) = p :: c.updates judged rest := List.filter_cons_of_pos (decide_eq_true updates)
      rw [listed] at regular ⊢
      have member := update_ours of updates
      rw [upgradeFile_updates member updates]
      refine Ensues.bind ((writeBytesAtomically_ends member (regular p List.mem_cons_self)).weaken (fun _ _ ends => ends) ?_) ?_
      · rintro error t ⟨io, manifest, files, failed⟩
        refine ⟨io, manifest, ?_, failed.imp (fun blocked => ⟨p, List.mem_cons_self, blocked⟩) id⟩
        rcases files with files | files
        · rw [files]
          exact .refl _ _
        · exact ⟨[], [p], fun w none => absurd none List.not_mem_nil, fun w this => List.mem_singleton.mp this ▸ List.mem_cons_self,
            fun w none => absurd none List.not_mem_nil, files⟩
      · rintro _ t ⟨files, manifest, later, free⟩
        have alone : ∀ w ∈ [p], w ∈ package.paths := fun w this => List.mem_singleton.mp this ▸ member
        have regular' : ∀ q ∈ c.updates judged rest, t.files q ≠ .directory := by
          intro q waits
          rw [files]
          unfold written
          split
          next => exact fun impossible => FileEntry.noConfusion impossible
          next =>
            rw [if_neg]
            · exact regular q (List.mem_cons_of_mem _ waits)
            · rintro ⟨-, w, this, on⟩
              exact apart (ours q waits) (alone w this) on
        refine (ih regular').weaken ?_ ?_
        · rintro _ u ⟨files', manifest', later', free'⟩
          refine ⟨?_, manifest'.trans manifest, later.trans later', ?_⟩
          · rw [files', files, written_written]
            exact written_congr (fun q => by simp [or_comm]) fun q => by simp [or_comm]
          · intro q waits
            rcases List.mem_cons.mp waits with rfl | waits
            · exact free
            · have stays := free' q waits
              rwa [files, blocked_written alone (ours q waits)] at stays
        · rintro error u ⟨io, manifest', ⟨done, made, some, folders, first, files'⟩, failed⟩
          refine ⟨io, manifest'.trans manifest, ⟨done ++ [p], made ++ [p], ?_, ?_, ?_, ?_⟩, ?_⟩
          · intro w before
            rcases List.mem_append.mp before with before | this
            · exact List.mem_cons_of_mem _ (some w before)
            · exact List.mem_singleton.mp this ▸ List.mem_cons_self
          · intro w before
            rcases List.mem_append.mp before with before | this
            · exact List.mem_cons_of_mem _ (folders w before)
            · exact List.mem_singleton.mp this ▸ List.mem_cons_self
          · intro w before
            rcases List.mem_append.mp before with before | this
            · exact List.mem_append_left _ (first w before)
            · exact List.mem_append_right _ this
          · rw [files', files, written_written]
          · refine failed.imp ?_ fun faulty => faulty.earlier later
            rintro ⟨q, waits, blocked⟩
            rw [files, blocked_written alone (ours q waits)] at blocked
            exact ⟨q, List.mem_cons_of_mem _ waits, blocked⟩
    · have listed : c.updates judged (p :: rest) = c.updates judged rest :=
        List.filter_cons_of_neg (by simpa using updates)
      rw [listed] at regular ⊢
      rw [upgradeFile_skips updates]
      refine Ensues.bind (Ensues.pure rfl : Ensues s _ (fun _ t => t = s) _) ?_
      rintro _ t rfl
      exact ih regular

/-! ### The whole application -/

/-- The upgrade from this baseline has no conflict in these files, and the paths given up are removed ones. -/
structure Accepted (baseline : BaselineManifest) (package : Package) (localizeRemovedPaths : List String)
    (files : String → FileEntry) (c : Comparison) : Prop where
  baseline_eq : c.baseline = baseline.entries
  candidate_eq : c.Of package
  valid : baseline.entries.forM validateManifestEntryPath = .ok ()
  normalized : normalizeLocalizeRemovedPaths localizeRemovedPaths = .ok c.localized
  removed : ∀ p ∈ c.localized, p ∈ c.paths ∧ (c.verdict p (files p)).2 = true
  calm : ∀ p ∈ c.paths, (c.verdict p (files p)).1 ≠ .conflict

theorem package_valid (package : Package) : (buildBaselineManifest package).entries.forM validateManifestEntryPath = .ok () := by
  refine forM_eq_ok.mpr fun entry member => ?_
  unfold buildBaselineManifest BaselineManifest.new at member
  rw [List.mem_insertionSort] at member
  obtain ⟨asset, listed, rfl⟩ := List.mem_map.mp member
  exact package.accepted asset listed

variable {baseline : BaselineManifest} {localizeRemovedPaths : List String}

theorem previewOf_eq_ok {preview : BaselineUpgradePreview} :
    previewOf baseline (buildBaselineManifest package) localizeRemovedPaths files = .ok preview ↔
      baseline.entries.forM validateManifestEntryPath = .ok () ∧ ∃ localized,
        normalizeLocalizeRemovedPaths localizeRemovedPaths = .ok localized ∧
        let c : Comparison := ⟨baseline.entries, (buildBaselineManifest package).entries, localized⟩
        (∀ p ∈ c.localized, p ∈ c.paths ∧ (c.verdict p (files p)).2 = true) ∧
        preview = {
          applied := false
          baselineManifestId := baseline.manifestId
          candidateManifestId := (buildBaselineManifest package).manifestId
          entries := c.paths.map fun p => c.entry p (files p) } := by
  unfold previewOf
  rw [bind_unit_eq_ok, bind_unit_eq_ok, bind_eq_ok]
  simp only [package_valid, true_and]
  refine and_congr_right fun _ => exists_congr fun localized => and_congr_right fun _ => ?_
  set c : Comparison := ⟨baseline.entries, (buildBaselineManifest package).entries, localized⟩ with named
  set invalid := (sortedPaths localized).filter fun path =>
    !(c.paths.filter fun p => (c.verdict p (files p)).2).contains path with listed
  have none : invalid = [] ↔ ∀ p ∈ c.localized, p ∈ c.paths ∧ (c.verdict p (files p)).2 = true := by
    rw [listed, List.filter_eq_nil_iff]
    unfold sortedPaths
    simp only [List.mem_insertionSort, List.mem_dedup, Bool.not_eq_true, Bool.not_eq_false', List.contains_iff_mem,
      List.mem_filter]
    exact Iff.rfl
  rw [← none]
  by_cases refused : invalid = []
  · rw [if_neg (not_not.mpr refused)]
    exact ⟨fun same => ⟨refused, (Except.ok.inj same).symm⟩, fun same => congrArg Except.ok same.2.symm⟩
  · rw [if_pos refused]
    constructor
    · intro impossible
      cases impossible
    · rintro ⟨impossible, -⟩
      exact absurd impossible refused

omit [Sha256] in
theorem writeBaselineManifest_ends (manifest : BaselineManifest) :
    Ensues s (writeBaselineManifest faults manifest)
      (fun _ t => t.files = s.files ∧ t.manifest = .stored manifest)
      fun error t => s.Same t ∧ error.Io ∧ FailsFrom faults s.step := by
  unfold writeBaselineManifest
  refine Ensues.bind ((fileOperation_finds _).weaken (fun _ _ ends => ends.2) ?_) ?_
  · rintro error t ⟨same, impossible | faulty⟩
    · cases impossible
    · exact ⟨same, faulty⟩
  · rintro _ t ⟨same, -⟩
    rintro t rfl
    exact ⟨same.1, rfl⟩

theorem conflicts_eq_nil {c : Comparison} (paths : List String) :
    ((paths.map fun p => c.entry p (files p)).filter fun entry => entry.disposition = .conflict).map (·.relativePath) = [] ↔
      ∀ p ∈ paths, (c.verdict p (files p)).1 ≠ .conflict := by
  rw [List.map_eq_nil_iff, List.filter_eq_nil_iff]
  simp only [List.forall_mem_map, decide_eq_true_eq, entry_disposition]

omit [Sha256] in
theorem loadBaselineManifest_finds (stored : s.manifest = .stored baseline) :
    Finds faults s (loadBaselineManifest faults) (.ok baseline) := by
  unfold loadBaselineManifest
  refine (fileOperation_finds _).after fun t same => ?_
  refine Ensues.get ?_
  rw [same.2, stored]
  exact Finds.pure baseline

theorem preview_package_finds (stored : s.manifest = .stored baseline) :
    Finds faults s (previewBaselineUpgrade faults package localizeRemovedPaths)
      (previewOf baseline (buildBaselineManifest package) localizeRemovedPaths s.files) := by
  unfold previewBaselineUpgrade
  refine (loadBaselineManifest_finds stored).after fun t same => ?_
  rw [← same.1]
  exact preview_finds baseline _ localizeRemovedPaths

theorem Accepted.eq {c : Comparison} (accepted : Accepted baseline package localizeRemovedPaths files c)
    {localized : List String} (normalized : normalizeLocalizeRemovedPaths localizeRemovedPaths = .ok localized) :
    c = ⟨baseline.entries, (buildBaselineManifest package).entries, localized⟩ := by
  obtain rfl := Except.ok.inj (accepted.normalized.symm.trans normalized)
  rw [← accepted.baseline_eq, ← accepted.candidate_eq]

theorem Accepted.unique {c c' : Comparison} {files' : String → FileEntry}
    (accepted : Accepted baseline package localizeRemovedPaths files c)
    (accepted' : Accepted baseline package localizeRemovedPaths files' c') : c = c' :=
  (accepted.eq accepted'.normalized).trans (accepted'.eq accepted'.normalized).symm

theorem Accepted.preview {c : Comparison} (accepted : Accepted baseline package localizeRemovedPaths files c) :
    ∃ preview, previewOf baseline (buildBaselineManifest package) localizeRemovedPaths files = .ok preview := by
  refine ⟨_, previewOf_eq_ok.mpr ⟨accepted.valid, c.localized, accepted.normalized, ?_, rfl⟩⟩
  rw [← accepted.eq accepted.normalized]
  exact accepted.removed

/-- An application writes all updates and then the manifest, or some of the updates, or nothing. -/
theorem apply_ends (stored : s.manifest = .stored baseline) :
    Ensues s (applyBaselineUpgrade faults package localizeRemovedPaths)
      (fun _ t => ∃ c, Accepted baseline package localizeRemovedPaths s.files c ∧
        (∀ p ∈ c.updates s.files c.paths, ¬Blocked s.files p) ∧
        t.files = written package s.files (c.updates s.files c.paths) (c.updates s.files c.paths) ∧
        t.manifest = .stored (buildBaselineManifest package))
      fun error t => t.manifest = s.manifest ∧
        ((∀ message, error = .upgrade message → t.files = s.files) ∧
        (t.files = s.files ∨ ∃ c, Accepted baseline package localizeRemovedPaths s.files c ∧
          PartlyWritten package (c.updates s.files c.paths) s.files t.files)) ∧
        (FailsFrom faults s.step ∨ ∀ c, Accepted baseline package localizeRemovedPaths s.files c →
          ∃ p ∈ c.updates s.files c.paths, Blocked s.files p) := by
  unfold applyBaselineUpgrade
  refine Ensues.bind ((preview_package_finds stored).weaken (fun _ _ ends => ends) ?_) ?_
  · rintro error t ⟨same, failed⟩
    refine ⟨same.2, ⟨fun _ _ => same.1, .inl same.1⟩, ?_⟩
    rcases failed with refused | ⟨-, faulty⟩
    · refine .inr fun c accepted => ?_
      obtain ⟨preview, previewed⟩ := accepted.preview
      rw [refused] at previewed
      cases previewed
    · exact .inl faulty
  · rintro preview t ⟨found, same, later⟩
    obtain ⟨valid, localized, normalized, removed, rfl⟩ := previewOf_eq_ok.mp found
    set c : Comparison := ⟨baseline.entries, (buildBaselineManifest package).entries, localized⟩ with named
    show Ensues t (if _ then _ else _) _ _
    refine Ensues.ite (fun conflicts => ?_) fun calm => ?_
    · refine Ensues.bind (Ensues.throw ⟨same.2, ⟨fun _ _ => same.1, .inl same.1⟩, .inr fun c' accepted => ?_⟩ :
        Ensues t _ (fun _ _ => False) _) fun _ _ impossible => impossible.elim
      have same := accepted.eq normalized
      rw [← named] at same
      exact absurd ((conflicts_eq_nil c.paths).mpr (same ▸ accepted.calm)) conflicts
    · have of : c.Of package := rfl
      have accepted : Accepted baseline package localizeRemovedPaths s.files c :=
        ⟨rfl, rfl, valid, normalized, removed, (conflicts_eq_nil c.paths).mp (not_not.mp calm)⟩
      have regular : ∀ p ∈ c.updates s.files c.paths, t.files p ≠ .directory := by
        intro p waits
        rw [same.1]
        exact (update_spec (mem_updates.mp waits).2).2
      refine Ensues.bind ((upgradeFiles_ends of s.files c.paths regular).weaken (fun _ _ ends => ends) ?_) ?_
      · rintro error u ⟨io, manifest, files, failed⟩
        rw [same.1] at files failed
        refine ⟨manifest.trans same.2, ⟨?_, .inr ⟨c, accepted, files⟩⟩, ?_⟩
        · rintro message rfl
          exact io.elim
        · rcases failed with blocked | faulty
          · refine .inr fun c' accepted' => ?_
            exact accepted.unique accepted' ▸ blocked
          · exact .inl (faulty.earlier later)
      · rintro _ u ⟨files, manifest, later', free⟩
        rw [same.1] at files free
        have complete : PartlyWritten package (c.updates s.files c.paths) s.files u.files :=
          ⟨_, _, fun _ member => member, fun _ member => member, fun _ member => member, files⟩
        refine Ensues.bind ((writeBaselineManifest_ends _).weaken (fun _ _ ends => ends) ?_) ?_
        · rintro error v ⟨same', io, faulty⟩
          refine ⟨(same'.2.trans manifest).trans same.2, ⟨?_, .inr ⟨c, accepted, ?_⟩⟩, .inl ?_⟩
          · rintro message rfl
            exact io.elim
          · rw [same'.1]
            exact complete
          · exact (faulty.earlier later').earlier later
        · rintro _ v ⟨files', manifest'⟩
          exact Ensues.pure ⟨c, accepted, free, files'.trans files, manifest'⟩

end Application

end

end Millrace.ManagedAssets
