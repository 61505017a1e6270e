import Mathlib.Data.List.Sort
import Millrace.Action
import Millrace.FirstWins
import Millrace.Text

/-! Managed assets of a workspace: the baseline manifest, the preview of an upgrade and its application. -/

set_option autoImplicit false

namespace Millrace.ManagedAssets
open Millrace.Text Millrace.Action

/-! ## Manifests -/

/-- One file recorded in the managed baseline manifest. -/
structure BaselineManifestEntry where
  relativePath : String
  assetFamily : String
  originalSha256 : String
  deriving DecidableEq, Repr

structure BaselineManifest where
  schemaVersion : String
  manifestId : String
  seedPackageVersion : String
  entries : List BaselineManifestEntry
  deriving DecidableEq, Repr

/-- The hash of a file, and that of a manifest with the given version and entries, as lower-case hexadecimal. -/
class Sha256 where
  hex : List UInt8 → String
  manifestIdForEntries : String → String → List BaselineManifestEntry → String

inductive WorkspaceError where
  | io (path message : String)
  | json (artifact message : String)
  | invalidPath (path message : String)
  | upgrade (message : String)
  deriving DecidableEq, Repr

/-! ## Paths -/

def normalizePathLossy (path : String) : List Char := path.toList.map fun c => if c = '\\' then '/' else c

/-- The parts of a path that name something. -/
def manifestParts (path : String) : List (List Char) → Except WorkspaceError (List (List Char))
  | [] => return []
  | part :: rest =>
    if part = [] ∨ part = ['.'] then manifestParts path rest
    else if part = ['.', '.'] then throw (.invalidPath path "asset path must not contain '..'")
    else return part :: (← manifestParts path rest)

def normalizeManifestRelativePath (path : String) : Except WorkspaceError String := do
  if path.toList.head? = some '/' then throw (.invalidPath path "asset path must be relative")
  let parts ← manifestParts path ((normalizePathLossy path).splitOn '/')
  if parts = [] then throw (.invalidPath path "asset path must not be empty")
  return String.ofList (['/'].intercalate parts)

def validateManifestEntryPath (entry : BaselineManifestEntry) : Except WorkspaceError Unit := do
  let normalized ← normalizeManifestRelativePath entry.relativePath
  if normalized ≠ entry.relativePath then
    throw (.invalidPath entry.relativePath "manifest asset path must be normalized")
  if (splitOnce '/' entry.relativePath.toList).map Prod.fst ≠ some entry.assetFamily.toList then
    throw (.invalidPath entry.relativePath "manifest asset family must match the first path component")

/-- The paths that the operator gives up, cleaned. -/
def normalizeLocalizeRemovedPaths : List String → Except WorkspaceError (List String)
  | [] => return []
  | value :: rest =>
    let cleaned := String.ofList (trim value.toList)
    if cleaned = "" then normalizeLocalizeRemovedPaths rest
    else do
      let normalized ← normalizeManifestRelativePath cleaned
      return normalized :: (← normalizeLocalizeRemovedPaths rest)

/-- A set of paths in its order. -/
def sortedPaths (paths : List String) : List String := paths.dedup.insertionSort (· ≤ ·)

/-! ## The package -/

/-- One embedded managed runtime asset. -/
structure RuntimeAsset where
  relativePath : String
  assetFamily : String
  contents : List UInt8
  deriving DecidableEq, Repr

section
variable [Sha256]

def RuntimeAsset.entry (asset : RuntimeAsset) : BaselineManifestEntry :=
  ⟨asset.relativePath, asset.assetFamily, Sha256.hex asset.contents⟩

/-- The folders on the way to a path. -/
def ancestors (relativePath : String) : List String :=
  (relativePath.toList.splitOn '/').inits.dropLast.tail.map fun parts => String.ofList (['/'].intercalate parts)

/-- The assets that a build embeds: a file each, with a path that a manifest accepts, and none a folder of another. -/
structure Package where
  version : String
  assets : List RuntimeAsset
  distinct : FirstWins.Distinct RuntimeAsset.relativePath assets
  accepted : ∀ asset ∈ assets, validateManifestEntryPath asset.entry = .ok ()
  files : ∀ asset ∈ assets, ∀ asset' ∈ assets, asset.relativePath ∉ ancestors asset'.relativePath

def baselineSchemaVersion : String := "1.0"

def BaselineManifestEntry.before (a b : BaselineManifestEntry) : Prop := a.relativePath ≤ b.relativePath

instance : DecidableRel BaselineManifestEntry.before := fun a b => inferInstanceAs (Decidable (a.relativePath ≤ b.relativePath))

def BaselineManifest.new (seedPackageVersion : String) (entries : List BaselineManifestEntry) : BaselineManifest :=
  let entries := entries.insertionSort BaselineManifestEntry.before
  { schemaVersion := baselineSchemaVersion
    manifestId := Sha256.manifestIdForEntries baselineSchemaVersion seedPackageVersion entries
    seedPackageVersion
    entries }

def buildBaselineManifest (package : Package) : BaselineManifest :=
  .new package.version (package.assets.map RuntimeAsset.entry)

def embeddedAssetContents (package : Package) (relativePath : String) : Option (List UInt8) :=
  (package.assets.find? fun asset => asset.relativePath = relativePath).map (·.contents)

/-! ## The workspace -/

inductive FileEntry where
  | absent
  | file (contents : List UInt8)
  | directory
  deriving DecidableEq, Repr

def FileEntry.isFile : FileEntry → Bool
  | .file _ => true
  | _ => false

inductive ManifestFile where
  | missing
  | invalid (message : String)
  | stored (manifest : BaselineManifest)
  deriving DecidableEq, Repr

/-- The files under the runtime root by their paths, the manifest file, and the number of operations so far. -/
structure AssetWorld where
  files : String → FileEntry
  manifest : ManifestFile
  step : Nat

/-- The message of each operation that fails; it then had no effect. -/
abbrev Faults := Nat → Option String

/-- What it wrote before it failed stays written. -/
abbrev AssetM (α : Type) := EStateM WorkspaceError AssetWorld α

inductive UpgradeDisposition where
  | unchanged | safePackageUpdate | localOnlyModification | alreadyConverged | localizedRemoved | conflict | missing
  deriving DecidableEq, Repr

/-- One managed asset considered by an upgrade preview. -/
structure BaselineUpgradeEntry where
  relativePath : String
  assetFamily : String
  disposition : UpgradeDisposition
  originalSha256 : Option String
  currentSha256 : Option String
  candidateSha256 : Option String
  deriving DecidableEq, Repr

structure BaselineUpgradePreview where
  applied : Bool
  baselineManifestId : String
  candidateManifestId : String
  entries : List BaselineUpgradeEntry
  deriving DecidableEq, Repr

def FileEntry.sha256 : FileEntry → Option String
  | .file contents => some (Sha256.hex contents)
  | _ => none

section Steps
variable (faults : Faults)

def fileOperation (path : String) : AssetM Unit := do
  let world ← get
  set { world with step := world.step + 1 }
  match faults world.step with
  | some message => throw (.io path message)
  | none => return ()

def currentFile (path : String) : AssetM FileEntry := return (← get).files path

def currentFileSha256 (path : String) : AssetM (Option String) := do
  match ← currentFile path with
  | .file contents => do
    fileOperation faults path
    return some (Sha256.hex contents)
  | _ => return none

/-- The folders on the way to a path, made where nothing is. -/
def withFolders (path : String) (files : String → FileEntry) : String → FileEntry :=
  fun p => if files p = .absent ∧ p ∈ ancestors path then .directory else files p

def withFile (path : String) (contents : List UInt8) (files : String → FileEntry) : String → FileEntry :=
  fun p => if p = path then .file contents else files p

/-- The folders on the way to a path are made; where one of them is a file, none is. -/
def createParents (path : String) : AssetM Unit := do
  fileOperation faults path
  let world ← get
  if (ancestors path).any fun folder => (world.files folder).isFile then throw (.io path "Not a directory (os error 20)")
  set { world with files := withFolders path world.files }

def writeBytesAtomically (path : String) (contents : List UInt8) : AssetM Unit := do
  createParents faults path
  fileOperation faults path
  let world ← get
  if world.files path = .directory then throw (.io path "Is a directory (os error 21)")
  set { world with files := withFile path contents world.files }

def loadBaselineManifest : AssetM BaselineManifest := do
  fileOperation faults "state/baseline_manifest.json"
  match (← get).manifest with
  | .missing => throw (.io "state/baseline_manifest.json" "No such file or directory (os error 2)")
  | .invalid message => throw (.json "baseline_manifest" message)
  | .stored manifest => return manifest

def writeBaselineManifest (manifest : BaselineManifest) : AssetM Unit := do
  fileOperation faults "state/baseline_manifest.json"
  modify fun world => { world with manifest := .stored manifest }

/-! ## The preview -/

/-- The entry that stands for a path; of two with one path the later one. -/
def entryFor (entries : List BaselineManifestEntry) (relativePath : String) : Option BaselineManifestEntry :=
  entries.reverse.find? fun entry => entry.relativePath = relativePath

/-- The disposition of a path that one of the manifests names, and whether it is a managed file that was removed. -/
def classify (file : FileEntry) (original candidate : Option BaselineManifestEntry) (localized : Bool) :
    UpgradeDisposition × Bool :=
  if file = .directory then (.conflict, false)
  else
    match original, candidate with
    | none, none => (.conflict, false) -- no path of either manifest
    | none, some candidate =>
      match file.sha256 with
      | none => (.missing, false)
      | some current => (if current = candidate.originalSha256 then .alreadyConverged else .conflict, false)
    | some _, none => (if localized then .localizedRemoved else .conflict, true)
    | some original, some candidate =>
      match file.sha256 with
      | none => (.missing, false)
      | some current =>
        let original := original.originalSha256
        let candidate := candidate.originalSha256
        (if current = original ∧ original = candidate then .unchanged
        else if current = original ∧ candidate ≠ original then .safePackageUpdate
        else if current ≠ original ∧ candidate = original then .localOnlyModification
        else if current = candidate ∧ candidate ≠ original then .alreadyConverged
        else .conflict, false)

/-- The entry of a path in the preview, and whether it is a managed file that was removed. -/
def upgradeEntry (original candidate : Option BaselineManifestEntry) (localized : Bool) (relativePath : String)
    (file : FileEntry) : BaselineUpgradeEntry × Bool :=
  let (disposition, removed) := classify file original candidate localized
  ({ relativePath
     assetFamily := ((candidate.or original).map (·.assetFamily)).getD
       (((splitOnce '/' relativePath.toList).map fun parts => String.ofList parts.1).getD "")
     disposition
     originalSha256 := original.map (·.originalSha256)
     currentSha256 := file.sha256
     candidateSha256 := candidate.map (·.originalSha256) }, removed)

def previewEntries (baseline candidate : List BaselineManifestEntry) (localized : List String) :
    List String → AssetM (List (BaselineUpgradeEntry × Bool))
  | [] => return []
  | relativePath :: rest => do
    let current ← MonadExcept.ofExcept (normalizeManifestRelativePath relativePath)
    let file ← currentFile current
    let _ ← currentFileSha256 faults current
    let entry := upgradeEntry (entryFor baseline relativePath) (entryFor candidate relativePath)
      (localized.contains relativePath) relativePath file
    return entry :: (← previewEntries baseline candidate localized rest)

def previewBaselineUpgradeWithCandidate (baseline candidate : BaselineManifest) (localizeRemovedPaths : List String) :
    AssetM BaselineUpgradePreview := do
  MonadExcept.ofExcept (baseline.entries.forM validateManifestEntryPath)
  MonadExcept.ofExcept (candidate.entries.forM validateManifestEntryPath)
  let localized ← MonadExcept.ofExcept (normalizeLocalizeRemovedPaths localizeRemovedPaths)
  let union := sortedPaths (baseline.entries.map (·.relativePath) ++ candidate.entries.map (·.relativePath))
  let entries ← previewEntries faults baseline.entries candidate.entries localized union
  let removed := (entries.filter (·.2)).map (·.1.relativePath)
  let invalid := (sortedPaths localized).filter fun path => !removed.contains path
  if invalid ≠ [] then
    throw (.upgrade ("localize-removed path is not a removed managed asset: " ++ String.intercalate ", " invalid))
  return {
    applied := false
    baselineManifestId := baseline.manifestId
    candidateManifestId := candidate.manifestId
    entries := entries.map Prod.fst }

/-- Preview a managed baseline upgrade against the embedded package assets. -/
def previewBaselineUpgrade (package : Package) (localizeRemovedPaths : List String) : AssetM BaselineUpgradePreview := do
  let baseline ← loadBaselineManifest faults
  previewBaselineUpgradeWithCandidate faults baseline (buildBaselineManifest package) localizeRemovedPaths

/-! ## The application -/

def upgradeFile (package : Package) (entry : BaselineUpgradeEntry) : AssetM Unit :=
  if entry.disposition = .safePackageUpdate ∨ entry.disposition = .missing then
    match embeddedAssetContents package entry.relativePath with
    | none => throw (.upgrade ("candidate managed asset is missing: " ++ entry.relativePath))
    | some contents => do
      let destination ← MonadExcept.ofExcept (normalizeManifestRelativePath entry.relativePath)
      writeBytesAtomically faults destination contents
  else return ()

/-- Apply safe managed baseline changes from the embedded package assets. -/
def applyBaselineUpgrade (package : Package) (localizeRemovedPaths : List String) : AssetM BaselineUpgradePreview := do
  let preview ← previewBaselineUpgrade faults package localizeRemovedPaths
  let conflicts := (preview.entries.filter fun entry => entry.disposition = .conflict).map (·.relativePath)
  if conflicts ≠ [] then
    throw (.upgrade ("upgrade conflict(s) detected: " ++ String.intercalate ", " conflicts))
  preview.entries.forM (upgradeFile faults package)
  writeBaselineManifest faults (buildBaselineManifest package)
  return { preview with applied := true }

end Steps

end

end Millrace.ManagedAssets
