import Millrace.Workspace.UpgradePass

/-! What upgrades leave: the local changes and the contents of the package, and the same after any interruption. -/

set_option autoImplicit false

namespace Millrace.ManagedAssets
open Millrace.Action

section
variable [Sha256]

/-! ## Dispositions -/

section Dispositions
variable {c : Comparison} {package : Package}

theorem candidate_some (of : c.Of package) {asset : RuntimeAsset} (member : asset ∈ package.assets) :
    ∃ entry, entryFor c.candidate asset.relativePath = some entry ∧ entry.originalSha256 = Sha256.hex asset.contents := by
  cases found : entryFor c.candidate asset.relativePath with
  | some entry => exact ⟨entry, rfl, (candidate_path of found).2.trans (by rw [contents_eq member])⟩
  | none =>
    have listed : asset.entry ∈ c.candidate.reverse := by
      rw [of]
      unfold buildBaselineManifest BaselineManifest.new
      rw [List.mem_reverse, List.mem_insertionSort]
      exact List.mem_map_of_mem member
    have missing := List.find?_eq_none.mp found asset.entry listed
    simp [RuntimeAsset.entry] at missing

theorem candidate_listed (of : c.Of package) {p : String} (ours : p ∈ package.paths) : p ∈ c.paths := by
  obtain ⟨asset, listed, rfl⟩ := List.mem_map.mp ours
  refine (mem_paths c).mpr (.inr ⟨asset.entry, ?_, rfl⟩)
  rw [of]
  unfold buildBaselineManifest BaselineManifest.new
  rw [List.mem_insertionSort]
  exact List.mem_map_of_mem listed

/-- A file with the contents of the package is neither written nor in conflict. -/
theorem verdict_converged (of : c.Of package) {p : String} (ours : p ∈ package.paths) :
    ¬Updates (c.verdict p (.file (package.contents p))).1 ∧ (c.verdict p (.file (package.contents p))).1 ≠ .conflict := by
  obtain ⟨asset, listed, rfl⟩ := List.mem_map.mp ours
  obtain ⟨entry, found, same⟩ := candidate_some of listed
  unfold Comparison.verdict classify Updates
  rw [found, contents_eq listed]
  cases original : entryFor c.baseline asset.relativePath with
  | none => simp [FileEntry.sha256, same]
  | some other =>
    by_cases changed : Sha256.hex asset.contents = other.originalSha256
    · simp [FileEntry.sha256, same, changed]
    · simp [FileEntry.sha256, same, changed, Ne.symm changed]

/-- Whether a managed path was removed does not depend on its file, unless that is a directory. -/
theorem verdict_removed {p : String} {file : FileEntry} :
    (c.verdict p file).2 = true ↔
      file ≠ .directory ∧ entryFor c.candidate p = none ∧ ∃ entry, entryFor c.baseline p = some entry := by
  unfold Comparison.verdict classify
  cases original : entryFor c.baseline p with
  | none =>
    cases candidate : entryFor c.candidate p with
    | none => cases file <;> simp
    | some entry => cases file <;> simp [FileEntry.sha256]
  | some entry =>
    cases candidate : entryFor c.candidate p with
    | none => cases file <;> simp
    | some entry => cases file <;> simp [FileEntry.sha256]

theorem updates_absent {p : String} {entry : BaselineManifestEntry} (candidate : entryFor c.candidate p = some entry) :
    Updates (c.verdict p .absent).1 := by
  unfold Comparison.verdict classify Updates
  rw [candidate]
  cases entryFor c.baseline p <;> simp [FileEntry.sha256]

/-- A file is written over where it is as the baseline has it and the package has other contents. -/
theorem updates_file {p : String} {contents : List UInt8} :
    Updates (c.verdict p (.file contents)).1 ↔ ∃ original candidate, entryFor c.baseline p = some original ∧
      entryFor c.candidate p = some candidate ∧ original.originalSha256 = Sha256.hex contents ∧
      candidate.originalSha256 ≠ original.originalSha256 := by
  unfold Comparison.verdict classify Updates
  cases entryFor c.baseline p with
  | none =>
    cases entryFor c.candidate p with
    | none => simp
    | some candidate => by_cases same : Sha256.hex contents = candidate.originalSha256 <;> simp [FileEntry.sha256, same]
  | some original =>
    cases entryFor c.candidate p with
    | none => by_cases localized : p ∈ c.localized <;> simp [localized]
    | some candidate =>
      by_cases same : original.originalSha256 = Sha256.hex contents
      · by_cases changed : candidate.originalSha256 = original.originalSha256
        · simp [FileEntry.sha256, same, changed]
        · simp [FileEntry.sha256, ← same, changed, Ne.symm changed]
      · have differs : Sha256.hex contents ≠ original.originalSha256 := Ne.symm same
        by_cases changed : candidate.originalSha256 = original.originalSha256
        · simp [FileEntry.sha256, same, differs, changed]
        · by_cases converged : Sha256.hex contents = candidate.originalSha256
          · simp [FileEntry.sha256, converged, changed, Ne.symm changed]
          · simp [FileEntry.sha256, same, differs, changed, converged]

end Dispositions

/-! ## One upgrade -/

/-- What an upgrade makes of the files. -/
structure Merged (baseline : BaselineManifest) (package : Package) (files files' : String → FileEntry) : Prop where
  /-- A file that is not as the baseline has it keeps its contents. -/
  kept : ∀ p contents, files p = .file contents →
    (∀ entry, entryFor baseline.entries p = some entry → entry.originalSha256 ≠ Sha256.hex contents) →
    files' p = .file contents
  /-- An asset that is missing, or as the baseline has it, is there as the package has it. -/
  upgraded : ∀ asset ∈ package.assets, (files asset.relativePath = .absent ∨
      ∃ contents entry, files asset.relativePath = .file contents ∧
        entryFor baseline.entries asset.relativePath = some entry ∧ entry.originalSha256 = Sha256.hex contents) →
    files' asset.relativePath = .file asset.contents
  /-- Elsewhere only the folders of assets are new. -/
  others : ∀ p, p ∉ package.paths → files' p = files p ∨
    files p = .absent ∧ files' p = .directory ∧ ∃ asset ∈ package.assets, p ∈ ancestors asset.relativePath

section Upgrade
variable {baseline : BaselineManifest} {package : Package} {localizeRemovedPaths : List String} {files : String → FileEntry}
  {c : Comparison}

theorem Accepted.merged (accepted : Accepted baseline package localizeRemovedPaths files c)
    (injective : Function.Injective Sha256.hex) :
    Merged baseline package files (written package files (c.updates files c.paths) (c.updates files c.paths)) where
  kept := by
    intro p contents file changed
    unfold written
    rw [if_neg, if_neg]
    · exact file
    · rw [file]
      rintro ⟨impossible, -⟩
      cases impossible
    · intro updated
      obtain ⟨-, updates⟩ := mem_updates.mp updated
      rw [file] at updates
      obtain ⟨original, -, found, -, same, -⟩ := updates_file.mp updates
      rw [accepted.baseline_eq] at found
      exact changed original found same
  upgraded := by
    intro asset listed before
    have ours : asset.relativePath ∈ package.paths := List.mem_map_of_mem listed
    have considered := candidate_listed accepted.candidate_eq ours
    obtain ⟨entry, candidate, same⟩ := candidate_some accepted.candidate_eq listed
    unfold written
    by_cases updates : asset.relativePath ∈ c.updates files c.paths
    · rw [if_pos updates, contents_eq listed]
    · have skipped : ¬Updates (c.verdict asset.relativePath (files asset.relativePath)).1 := fun held =>
        updates (mem_updates.mpr ⟨considered, held⟩)
      rcases before with absent | ⟨contents, original, file, found, unchanged⟩
      · rw [absent] at skipped
        exact absurd (updates_absent candidate) skipped
      · rw [file, updates_file, accepted.baseline_eq] at skipped
        have equal : entry.originalSha256 = original.originalSha256 := by
          by_contra differs
          exact skipped ⟨original, entry, found, candidate, unchanged, differs⟩
        have contents_eq : contents = asset.contents := injective (unchanged.symm.trans (equal.symm.trans same))
        rw [if_neg updates, if_neg, file, contents_eq]
        rw [file]
        rintro ⟨impossible, -⟩
        cases impossible
  others := by
    intro p foreign
    unfold written
    rw [if_neg fun updated => foreign (update_ours accepted.candidate_eq (mem_updates.mp updated).2)]
    split
    next made =>
      obtain ⟨absent, w, updated, on⟩ := made
      obtain ⟨asset, listed, rfl⟩ := List.mem_map.mp (update_ours accepted.candidate_eq (mem_updates.mp updated).2)
      exact .inr ⟨absent, rfl, asset, listed, on⟩
    next => exact .inl rfl

/-- Every asset of the package is a file. -/
def Settled (package : Package) (files : String → FileEntry) : Prop :=
  ∀ p ∈ package.paths, ∃ contents, files p = .file contents

theorem Accepted.settles (accepted : Accepted baseline package localizeRemovedPaths files c) :
    Settled package (written package files (c.updates files c.paths) (c.updates files c.paths)) := by
  intro p ours
  have considered := candidate_listed accepted.candidate_eq ours
  obtain ⟨asset, listed, rfl⟩ := List.mem_map.mp ours
  obtain ⟨entry, candidate, -⟩ := candidate_some accepted.candidate_eq listed
  unfold written
  by_cases updates : asset.relativePath ∈ c.updates files c.paths
  · exact ⟨_, if_pos updates⟩
  · rw [if_neg updates]
    cases file : files asset.relativePath with
    | file contents =>
      refine ⟨contents, if_neg ?_⟩
      rintro ⟨impossible, -⟩
      cases impossible
    | absent =>
      refine absurd (mem_updates.mpr ⟨considered, ?_⟩) updates
      rw [file]
      exact updates_absent candidate
    | directory =>
      refine absurd ?_ (accepted.calm _ considered)
      rw [file]
      rfl

/-- From the manifest of the package itself, a file of it is unchanged or locally modified. -/
theorem settled_verdict (own : c.baseline = (buildBaselineManifest package).entries) (of : c.Of package)
    (settled : Settled package files) {p : String} (listed : p ∈ c.paths) :
    ((c.verdict p (files p)).1 = .unchanged ∨ (c.verdict p (files p)).1 = .localOnlyModification) ∧
      (c.verdict p (files p)).2 = false := by
  have ours : p ∈ package.paths := by
    have of' : ∀ e ∈ (buildBaselineManifest package).entries, e.relativePath ∈ package.paths := by
      intro e member
      unfold buildBaselineManifest BaselineManifest.new at member
      rw [List.mem_insertionSort] at member
      obtain ⟨asset, listed, rfl⟩ := List.mem_map.mp member
      exact List.mem_map_of_mem listed
    rcases (mem_paths c).mp listed with ⟨e, member, rfl⟩ | ⟨e, member, rfl⟩
    · exact of' e (own ▸ member)
    · exact of' e (of ▸ member)
  obtain ⟨contents, file⟩ := settled p ours
  obtain ⟨asset, embedded, rfl⟩ := List.mem_map.mp ours
  obtain ⟨entry, candidate, -⟩ := candidate_some of embedded
  have original : entryFor c.baseline asset.relativePath = some entry := by
    rw [own, ← of]
    exact candidate
  unfold Comparison.verdict classify
  rw [file, original, candidate]
  by_cases same : Sha256.hex contents = entry.originalSha256
  · simp [FileEntry.sha256, same]
  · simp [FileEntry.sha256, same]

theorem settled_updates (own : c.baseline = (buildBaselineManifest package).entries) (of : c.Of package)
    (settled : Settled package files) : c.updates files c.paths = [] := by
  refine List.eq_nil_iff_forall_not_mem.mpr fun p waits => ?_
  obtain ⟨listed, updates⟩ := mem_updates.mp waits
  rcases (settled_verdict own of settled listed).1 with verdict | verdict
  all_goals
    rw [verdict] at updates
    rcases updates with impossible | impossible <;> cases impossible

/-- The upgrade of a settled workspace to the same package is accepted where no path is given up. -/
theorem settled_accepted (settled : Settled package files) :
    (∃ c, Accepted (buildBaselineManifest package) package localizeRemovedPaths files c) ↔
      normalizeLocalizeRemovedPaths localizeRemovedPaths = .ok [] := by
  constructor
  · rintro ⟨c, accepted⟩
    have none : c.localized = [] := by
      refine List.eq_nil_iff_forall_not_mem.mpr fun p given => ?_
      obtain ⟨listed, removed⟩ := accepted.removed p given
      rw [(settled_verdict accepted.baseline_eq accepted.candidate_eq settled listed).2] at removed
      cases removed
    rw [accepted.normalized, none]
  · intro none
    let c : Comparison := ⟨(buildBaselineManifest package).entries, (buildBaselineManifest package).entries, []⟩
    refine ⟨c, rfl, rfl, package_valid package, none, fun p given => absurd given List.not_mem_nil, fun p listed => ?_⟩
    rcases (settled_verdict (c := c) rfl rfl settled listed).1 with verdict | verdict
    all_goals
      rw [verdict]
      exact fun impossible => UpgradeDisposition.noConfusion impossible

end Upgrade

/-! ## Stopped upgrades -/

section Stops
variable {baseline : BaselineManifest} {package : Package} {localizeRemovedPaths : List String} {files : String → FileEntry}
  {c : Comparison}

/-- No file of the baseline is a folder of an asset. -/
def Apart (baseline : BaselineManifest) (package : Package) : Prop :=
  ∀ entry ∈ baseline.entries, ∀ asset ∈ package.assets, entry.relativePath ∉ ancestors asset.relativePath

theorem Apart.listed (kept : Apart baseline package) (accepted : Accepted baseline package localizeRemovedPaths files c)
    {p w : String} (listed : p ∈ c.paths) (ours : w ∈ package.paths) : p ∉ ancestors w := by
  rcases (mem_paths c).mp listed with ⟨e, member, rfl⟩ | ⟨e, member, rfl⟩
  · obtain ⟨asset, embedded, rfl⟩ := List.mem_map.mp ours
    exact kept e (accepted.baseline_eq ▸ member) asset embedded
  · have of := accepted.candidate_eq
    rw [of] at member
    unfold buildBaselineManifest BaselineManifest.new at member
    rw [List.mem_insertionSort] at member
    obtain ⟨asset, embedded, rfl⟩ := List.mem_map.mp member
    exact apart (List.mem_map_of_mem embedded) ours

/-- A managed file that was not written is as it was. -/
theorem written_waiting (kept : Apart baseline package) (accepted : Accepted baseline package localizeRemovedPaths files c)
    {done made : List String} (ours : ∀ w ∈ made, w ∈ c.updates files c.paths) {p : String} (listed : p ∈ c.paths)
    (waits : p ∉ done) : written package files done made p = files p := by
  unfold written
  rw [if_neg waits, if_neg]
  rintro ⟨-, w, member, on⟩
  exact kept.listed accepted listed (update_ours accepted.candidate_eq (mem_updates.mp (ours w member)).2) on

/-- An upgrade that was stopped is accepted again, and what it has left to write is what it did not write. -/
theorem Accepted.resumed (kept : Apart baseline package) (accepted : Accepted baseline package localizeRemovedPaths files c)
    {done made : List String} (written' : ∀ w ∈ done, w ∈ c.updates files c.paths) (ours : ∀ w ∈ made, w ∈ c.updates files c.paths) :
    Accepted baseline package localizeRemovedPaths (written package files done made) c ∧
      ∀ p, p ∈ c.updates (written package files done made) c.paths ↔ p ∈ c.updates files c.paths ∧ p ∉ done := by
  have before (p : String) (member : p ∈ done) : written package files done made p = .file (package.contents p) := if_pos member
  have member_ours (p : String) (member : p ∈ done) : p ∈ package.paths :=
    update_ours accepted.candidate_eq (mem_updates.mp (written' p member)).2
  refine ⟨⟨accepted.baseline_eq, accepted.candidate_eq, accepted.valid, accepted.normalized, ?_, ?_⟩, ?_⟩
  · intro p given
    obtain ⟨listed, removed⟩ := accepted.removed p given
    refine ⟨listed, ?_⟩
    obtain ⟨regular, none, original⟩ := verdict_removed.mp removed
    by_cases member : p ∈ done
    · rw [before p member]
      exact verdict_removed.mpr ⟨fun impossible => FileEntry.noConfusion impossible, none, original⟩
    · rw [written_waiting kept accepted ours listed member]
      exact removed
  · intro p listed
    by_cases member : p ∈ done
    · rw [before p member]
      exact (verdict_converged accepted.candidate_eq (member_ours p member)).2
    · rw [written_waiting kept accepted ours listed member]
      exact accepted.calm p listed
  · intro p
    rw [mem_updates, mem_updates]
    by_cases member : p ∈ done
    · refine iff_of_false ?_ fun held => held.2 member
      rintro ⟨-, updates⟩
      rw [before p member] at updates
      exact (verdict_converged accepted.candidate_eq (member_ours p member)).1 updates
    · constructor
      · rintro ⟨listed, updates⟩
        rw [written_waiting kept accepted ours listed member] at updates
        exact ⟨⟨listed, updates⟩, member⟩
      · rintro ⟨⟨listed, updates⟩, -⟩
        rw [written_waiting kept accepted ours listed member]
        exact ⟨listed, updates⟩

/-- The rest of a stopped upgrade ends with the files of one that was not stopped. -/
theorem written_rest (kept : Apart baseline package) (accepted : Accepted baseline package localizeRemovedPaths files c)
    {done made : List String} (written' : ∀ w ∈ done, w ∈ c.updates files c.paths)
    (ours : ∀ w ∈ made, w ∈ c.updates files c.paths) (first : ∀ w ∈ done, w ∈ made) :
    written package (written package files done made) (c.updates (written package files done made) c.paths)
      (c.updates (written package files done made) c.paths) =
      written package files (c.updates files c.paths) (c.updates files c.paths) := by
  have rest := (accepted.resumed kept written' ours).2
  rw [written_written]
  refine written_congr (fun p => ?_) fun p => ?_
  · rw [List.mem_append, rest]
    by_cases member : p ∈ done
    · simp only [member, not_true, and_false, or_true, true_iff]
      exact written' p member
    · simp only [member, not_false_iff, and_true, or_false]
  · rw [List.mem_append, rest]
    by_cases member : p ∈ made
    · simp only [member, or_true, true_iff]
      exact ours p member
    · have waits : p ∉ done := fun before => member (first p before)
      simp only [member, waits, not_false_iff, and_true, or_false]

/-- Upgrades that were stopped by a failing operation, one after the other. -/
inductive Stopped (faults : Faults) (package : Package) (localizeRemovedPaths : List String) : AssetWorld → AssetWorld → Prop
  | none (s : AssetWorld) : Stopped faults package localizeRemovedPaths s s
  | next {s t u : AssetWorld} {error : WorkspaceError}
    (ran : applyBaselineUpgrade faults package localizeRemovedPaths s = .error error t)
    (rest : Stopped faults package localizeRemovedPaths t u) : Stopped faults package localizeRemovedPaths s u

/-- What stopped upgrades leave of one that would go through. -/
theorem Stopped.partly {faults : Faults} {s t : AssetWorld} (kept : Apart baseline package)
    (stopped : Stopped faults package localizeRemovedPaths s t) (stored : s.manifest = .stored baseline)
    (accepted : Accepted baseline package localizeRemovedPaths s.files c) :
    t.manifest = s.manifest ∧ PartlyWritten package (c.updates s.files c.paths) s.files t.files := by
  induction stopped with
  | none s => exact ⟨rfl, .refl _ _⟩
  | @next s t u error ran rest ih =>
    obtain ⟨manifest, ⟨-, files⟩, -⟩ := (apply_ends stored).of_error ran
    have stop : PartlyWritten package (c.updates s.files c.paths) s.files t.files := by
      rcases files with same | ⟨c', accepted', partly⟩
      · rw [same]
        exact .refl _ _
      · exact accepted.unique accepted' ▸ partly
    obtain ⟨done, made, some, folders, first, files⟩ := stop
    obtain ⟨again, rest'⟩ := accepted.resumed kept some folders
    rw [← files] at again rest'
    obtain ⟨manifest', done', made', some', folders', first', files'⟩ := ih (manifest.trans stored) again
    refine ⟨manifest'.trans manifest, done' ++ done, made' ++ made, ?_, ?_, ?_, ?_⟩
    · intro w member
      rcases List.mem_append.mp member with member | member
      · exact ((rest' w).mp (some' w member)).1
      · exact some w member
    · intro w member
      rcases List.mem_append.mp member with member | member
      · exact ((rest' w).mp (folders' w member)).1
      · exact folders w member
    · intro w member
      rcases List.mem_append.mp member with member | member
      · exact List.mem_append_left _ (first' w member)
      · exact List.mem_append_right _ (first w member)
    · rw [files', files, written_written]

/-- A workspace with the files and the manifest of the package: what previews and further upgrades to it find. -/
theorem settled_preview (faults : Faults) {t : AssetWorld} (settled : Settled package t.files)
    (stored : t.manifest = .stored (buildBaselineManifest package)) :
    Ensues t (previewBaselineUpgrade faults package [])
      (fun preview _ => ∀ entry ∈ preview.entries,
        entry.disposition = .unchanged ∨ entry.disposition = .localOnlyModification)
      fun _ _ => FailsFrom faults t.step := by
  have normalized : normalizeLocalizeRemovedPaths [] = .ok [] := rfl
  obtain ⟨c, accepted⟩ := (settled_accepted settled).mpr normalized
  obtain ⟨shown, previewed⟩ := accepted.preview
  refine (preview_package_finds stored).weaken ?_ ?_
  · rintro preview u ⟨found, -⟩
    obtain ⟨-, localized, -, -, rfl⟩ := previewOf_eq_ok.mp found
    refine List.forall_mem_map.mpr fun p listed => ?_
    rw [entry_disposition]
    let own : Comparison := ⟨(buildBaselineManifest package).entries, (buildBaselineManifest package).entries, localized⟩
    have of : own.Of package := rfl
    exact (settled_verdict (c := own) rfl of settled listed).1
  · rintro error u ⟨-, refused | ⟨-, faulty⟩⟩
    · rw [previewed] at refused
      cases refused
    · exact faulty

theorem settled_upgrade (faults : Faults) {t : AssetWorld} (settled : Settled package t.files)
    (stored : t.manifest = .stored (buildBaselineManifest package)) :
    Ensues t (applyBaselineUpgrade faults package localizeRemovedPaths)
      (fun _ u => t.Same u ∧ normalizeLocalizeRemovedPaths localizeRemovedPaths = .ok [])
      fun _ u => t.Same u ∧
        (FailsFrom faults t.step ∨ normalizeLocalizeRemovedPaths localizeRemovedPaths ≠ .ok []) := by
  refine (apply_ends stored).weaken ?_ ?_
  · rintro _ u ⟨c, accepted, -, files, manifest⟩
    refine ⟨⟨?_, manifest.trans stored.symm⟩, settled_accepted settled |>.mp ⟨c, accepted⟩⟩
    rw [files, settled_updates accepted.baseline_eq accepted.candidate_eq settled, written_nil]
  · rintro error u ⟨manifest, ⟨-, files⟩, failed⟩
    refine ⟨⟨?_, manifest⟩, failed.imp id fun refused none => ?_⟩
    · rcases files with same | ⟨c, accepted, done, made, some, folders, -, files⟩
      · exact same
      · rw [settled_updates accepted.baseline_eq accepted.candidate_eq settled] at some folders
        rw [files, List.eq_nil_iff_forall_not_mem.mpr fun w member => List.not_mem_nil (some w member),
          List.eq_nil_iff_forall_not_mem.mpr fun w member => List.not_mem_nil (folders w member), written_nil]
    · obtain ⟨c, accepted⟩ := (settled_accepted settled).mpr none
      obtain ⟨p, waits, -⟩ := refused c accepted
      rw [settled_updates accepted.baseline_eq accepted.candidate_eq settled] at waits
      exact List.not_mem_nil waits

end Stops

end

/-! ## A skill of one file that becomes a folder -/

section Concrete

/-- The hash of the empty file, and texts that no two other files share. -/
def shownHash (contents : List UInt8) : String :=
  if contents = [] then "e3b0c44298fc1c149afbf4c8996fb92427ae41e4649b934ca495991b7852b855"
  else String.ofList ('-' :: contents.map Char.ofUInt8)

theorem ofUInt8_injective : Function.Injective Char.ofUInt8 := by
  intro a b same
  have same : a.toUInt32.toNat = b.toUInt32.toNat := congrArg (fun c : Char => c.val.toNat) same
  rw [UInt8.toNat_toUInt32, UInt8.toNat_toUInt32] at same
  exact UInt8.toNat_inj.mp same

theorem shownHash_injective : Function.Injective shownHash := by
  intro first other same
  have apart (contents : List UInt8) :
      String.ofList ('-' :: contents.map Char.ofUInt8) ≠ "e3b0c44298fc1c149afbf4c8996fb92427ae41e4649b934ca495991b7852b855" := by
    intro same
    have heads := congrArg (fun text : String => text.toList.head?) same
    rw [String.toList_ofList, List.head?_cons] at heads
    exact absurd heads (by decide)
  unfold shownHash at same
  by_cases empty : first = []
  · by_cases empty' : other = []
    · rw [empty, empty']
    · rw [if_pos empty, if_neg empty'] at same
      exact absurd same.symm (apart other)
  · by_cases empty' : other = []
    · rw [if_neg empty, if_pos empty'] at same
      exact absurd same (apart first)
    · rw [if_neg empty, if_neg empty'] at same
      exact List.map_injective_iff.mpr ofUInt8_injective (List.cons.inj (String.ofList_injective same)).2

local instance shownHashes : Sha256 where
  hex := shownHash
  manifestIdForEntries _ _ _ := "7429044abba02b7f20cbe1144c36245405e38bc5378c9a1ded5ea7c98e769c97"

/-- A package of one empty skill file in a folder. -/
def nested : Package where
  version := "1"
  assets := [⟨"skills/a/b", "skills", []⟩]
  distinct := List.nodup_singleton _
  accepted := by decide
  files := by decide

def emptySkill (relativePath : String) : BaselineManifestEntry := ⟨relativePath, "skills", shownHash []⟩

/-- A workspace whose baseline has these empty files, none of which is left. -/
def emptied (relativePaths : List String) : AssetWorld :=
  ⟨fun _ => .absent, .stored ⟨"1.0", "0", "0", relativePaths.map emptySkill⟩, 0⟩

def noFaults : Faults := fun _ => none

/-- The write of the manifest fails. -/
def unwritable : Faults := fun n => if n = 3 then some "No space left on device (os error 28)" else none

/-- The upgrade of a workspace from these files goes through. -/
def upgrades (faults : Faults) (localizeRemovedPaths : List String) (s : AssetWorld) : Bool :=
  match applyBaselineUpgrade faults nested localizeRemovedPaths s with
  | .ok _ _ => true
  | .error _ _ => false

theorem upgrades_eq_true {faults : Faults} {localizeRemovedPaths : List String} {s : AssetWorld}
    (held : upgrades faults localizeRemovedPaths s = true) : ∃ preview,
      applyBaselineUpgrade faults nested localizeRemovedPaths s =
        .ok preview (after (applyBaselineUpgrade faults nested localizeRemovedPaths) s) := by
  unfold upgrades at held
  unfold after
  cases ran : applyBaselineUpgrade faults nested localizeRemovedPaths s with
  | ok preview t => exact ⟨preview, rfl⟩
  | error error t =>
    rw [ran] at held
    cases held

theorem upgrades_eq_false {faults : Faults} {localizeRemovedPaths : List String} {s : AssetWorld}
    (held : upgrades faults localizeRemovedPaths s = false) : ∃ error,
      applyBaselineUpgrade faults nested localizeRemovedPaths s =
        .error error (after (applyBaselineUpgrade faults nested localizeRemovedPaths) s) := by
  unfold upgrades at held
  unfold after
  cases ran : applyBaselineUpgrade faults nested localizeRemovedPaths s with
  | ok preview t =>
    rw [ran] at held
    cases held
  | error error t => exact ⟨error, rfl⟩

end Concrete

end Millrace.ManagedAssets
