import Millrace.Action
import Millrace.FirstWins
import Millrace.Governance.Rules
import Millrace.Runtime.PollWatcher

/-! The token ledger: counting one stage result, and counting again from the result files of the runs. -/

set_option autoImplicit false

namespace Millrace.Governance
open Millrace.Action Millrace.Contracts Millrace.WorkDocuments Millrace.Blueprints

/-! ## Paths -/

/-- The root, or a name between two separators. -/
inductive PathComponent where
  | root
  | name (name : Runtime.PollWatcher.PathBuf)
  deriving DecidableEq, Repr

/-- A path as the components by which the standard library compares it. -/
abbrev WorkspacePath := List PathComponent

namespace WorkspacePath

def join (path : WorkspacePath) (name : Runtime.PollWatcher.PathBuf) : WorkspacePath := path ++ [.name name]

def stripPrefix (base path : WorkspacePath) : Option WorkspacePath :=
  if base.isPrefixOf path then some (path.drop base.length) else none

def toStringLossy : WorkspacePath → List Char
  | [] => []
  | [.root] => ['/']
  | [.name name] => name.toStringLossy
  | .root :: rest => '/' :: toStringLossy rest
  | .name name :: rest => name.toStringLossy ++ '/' :: toStringLossy rest

def extension (path : WorkspacePath) : Option Runtime.PollWatcher.PathBuf :=
  match path.getLast? with
  | some (.name name) => name.extension
  | _ => none

/-- The bytes by which a component is compared: the root before every name. -/
def order (path : WorkspacePath) : List (List Nat) :=
  path.map fun
    | .root => [1]
    | .name name => Runtime.PollWatcher.PathBuf.component name

def byOrder (a b : WorkspacePath) : Bool := decide (a.order ≤ b.order)

end WorkspacePath

/-! ## Stage results and the ledger -/

section
variable [Rfc3339]

/-- What the ledger reads of a stage result. -/
structure StageResultEnvelope where
  runId : String
  plane : Plane
  stageKindId : String
  workItemKind : WorkItemKind
  workItemId : String
  tokenUsage : Option TokenUsage
  completedAt : Timestamp

/-- What the file system answers; `stageResult` where the file can be read and holds a valid stage result. -/
structure FileSystem where
  root : WorkspacePath
  runsDir : WorkspacePath
  canonicalize : WorkspacePath → Option WorkspacePath
  readDir : WorkspacePath → Option (List Runtime.PollWatcher.PathBuf)
  isFile : WorkspacePath → Bool
  stageResult : WorkspacePath → Option StageResultEnvelope

structure UsageGovernanceConfig where
  enabled : Bool
  runtimeTokenRules : RuntimeTokenRules

def shouldRecordRuntimeTokens (config : UsageGovernanceConfig) (result : StageResultEnvelope) : Bool :=
  config.enabled && config.runtimeTokenRules.enabled && result.tokenUsage.isSome

/-- The path relative to the workspace, as text and with slashes for backslashes. -/
def stageResultDedupeKey (files : FileSystem) (path : WorkspacePath) : String :=
  let root := (files.canonicalize files.root).getD files.root
  let path := (files.canonicalize path).getD path
  let relative := (WorkspacePath.stripPrefix root path).getD path
  String.ofList (relative.toStringLossy.map fun c => if c = '\\' then '/' else c)

inductive StateStoreError where
  | statusMarker (message : String)
  | runtimeJson (source : RuntimeJsonError)

abbrev LedgerAction := EStateM StateStoreError (List LedgerEntry)

def ledgerEntryFromStageResult (files : FileSystem) (result : StageResultEnvelope) (path : WorkspacePath)
    (countedAt : Timestamp) (daemonSessionId : Option String) : Except StateStoreError LedgerEntry :=
  let stageResultPath := stageResultDedupeKey files path
  match result.tokenUsage with
  | none => .error (.statusMarker "stage result token_usage is required for ledger entries")
  | some tokenUsage => .ok
      { dedupeKey := stageResultPath
        countedAt
        stageCompletedAt := result.completedAt
        plane := result.plane
        runId := result.runId
        stageId := result.stageKindId
        workItemKind := result.workItemKind
        workItemId := result.workItemId
        tokenUsage
        stageResultPath
        daemonSessionId }

/-- The entry is checked before its line is appended. -/
def appendUsageGovernanceLedgerEntry (entry : LedgerEntry) : LedgerAction Unit :=
  match entry.validateContract with
  | .error source => throw (.runtimeJson source)
  | .ok () => modify (· ++ [entry])

def loadedKeys : LedgerAction (List String) := do
  return (← get).map (·.dedupeKey)

/-- Records one stage result token usage entry idempotently. -/
def recordStageResultUsage (files : FileSystem) (config : UsageGovernanceConfig) (result : StageResultEnvelope)
    (path : WorkspacePath) (countedAt : Timestamp) (daemonSessionId : Option String) : LedgerAction Bool :=
  if ¬shouldRecordRuntimeTokens config result then return false
  else do
    let dedupeKey := stageResultDedupeKey files path
    let existingKeys ← loadedKeys
    if existingKeys.contains dedupeKey then return false
    else do
      let entry ← MonadExcept.ofExcept (ledgerEntryFromStageResult files result path countedAt daemonSessionId)
      appendUsageGovernanceLedgerEntry entry
      return true

/-- The result files in the directories of the runs. -/
def stageResultPaths (files : FileSystem) : List WorkspacePath :=
  match files.readDir files.runsDir with
  | none => []
  | some runs =>
    let discovered := runs.flatMap fun run =>
      let directory := (files.runsDir.join run).join (Runtime.PollWatcher.path "stage_results".toList)
      match files.readDir directory with
      | none => []
      | some names => (names.map directory.join).filter fun path =>
          files.isFile path && path.extension == some (Runtime.PollWatcher.path ['j', 's', 'o', 'n'])
    discovered.mergeSort WorkspacePath.byOrder

/-- The files from here on, with the keys known so far and the entries added so far. -/
def reconcilePaths (files : FileSystem) (config : UsageGovernanceConfig) (countedAt : Timestamp)
    (daemonSessionId : Option String) : List WorkspacePath → List String → Nat → LedgerAction Nat
  | [], _, repaired => return repaired
  | path :: rest, existingKeys, repaired =>
    let dedupeKey := stageResultDedupeKey files path
    if existingKeys.contains dedupeKey then
      reconcilePaths files config countedAt daemonSessionId rest existingKeys repaired
    else
      match files.stageResult path with
      | none => reconcilePaths files config countedAt daemonSessionId rest existingKeys repaired
      | some result =>
        if ¬shouldRecordRuntimeTokens config result then
          reconcilePaths files config countedAt daemonSessionId rest existingKeys repaired
        else do
          -- one entry that fails its contract ends the whole pass
          let entry ← MonadExcept.ofExcept (ledgerEntryFromStageResult files result path countedAt daemonSessionId)
          appendUsageGovernanceLedgerEntry entry
          reconcilePaths files config countedAt daemonSessionId rest (dedupeKey :: existingKeys) (repaired + 1)

/-- Rebuilds missing ledger entries from persisted stage-result artifacts. -/
def reconcileUsageLedgerFromStageResults (files : FileSystem) (config : UsageGovernanceConfig)
    (countedAt : Timestamp) (daemonSessionId : Option String) : LedgerAction Nat :=
  if ¬(config.enabled ∧ config.runtimeTokenRules.enabled) then return 0
  else do
    let existingKeys ← loadedKeys
    reconcilePaths files config countedAt daemonSessionId (stageResultPaths files) existingKeys 0

end

end Millrace.Governance
