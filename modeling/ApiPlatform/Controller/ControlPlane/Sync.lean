import ApiPlatform.Foundation.GoStrings
import ApiPlatform.Foundation.Selection
import ApiPlatform.Controller.Storage.Artifacts

/-!
# Deployment sync

`pkg/controlplane/sync.go`: the deployments that the control plane lists are
compared with the artifacts in the database, and the difference is applied:
orphans are deleted, missing or outdated artifacts are fetched and deployed,
and changes of the state alone are written to the stored row.  A step that fails
is logged and the sync goes on, so the state carries the log.
-/

namespace ApiPlatform.Controller.ControlPlane

open Foundation
open Controller.Storage

structure ControlPlaneDeployment where
  artifactID : String
  deploymentID : String
  kind : String
  state : String
  deployedAt : Time
  deriving DecidableEq

def parseDesiredState (text : String) : Option DesiredState :=
  if toLower text = "deployed" then some .deployed
  else if toLower text = "undeployed" then some .undeployed
  else none

/-! ## The difference -/

inductive SyncAction where
  | fetch
  | updateStatus
  | skip
  deriving DecidableEq

def syncAction (localCfg : Option Artifact) (dep : ControlPlaneDeployment) : SyncAction :=
  match localCfg with
  | none => if parseDesiredState dep.state = some .deployed then .fetch else .skip
  | some localCfg =>
    if localCfg.deploymentID ≠ dep.deploymentID then .fetch
    else
      match parseDesiredState dep.state with
      | none => .skip
      | some remoteState =>
        if remoteState ≠ localCfg.desiredState then .updateStatus
        else if localCfg.deployedAt ≠ some dep.deployedAt then .fetch
        else .skip

structure SyncDiffResult where
  toFetch : List ControlPlaneDeployment
  toUpdateStatus : List ControlPlaneDeployment
  toDelete : List String
  deriving DecidableEq

/-- `order` is the order in which the map of local configurations is visited. -/
def computeSyncDiff (order : List String → List String) (remote : List ControlPlaneDeployment)
    (localConfigs : List (String × Artifact)) : SyncDiffResult :=
  let localMap : GoMap String Artifact := insertAll ∅ localConfigs
  let remoteIDs := remote.map (·.artifactID)
  { toFetch := remote.filter fun dep => syncAction (localMap.lookup dep.artifactID) dep = .fetch
    toUpdateStatus := remote.filter fun dep =>
      syncAction (localMap.lookup dep.artifactID) dep = .updateStatus
    toDelete := (order localMap.keys).filter (· ∉ remoteIDs) }

/-! ## The client -/

structure Manifest where
  kind : String
  handle : String
  displayName : String
  version : String
  /-- The id of an artifact that is deployed without one: its annotation or a new UUID. -/
  fallbackID : { id : String // id ≠ "" }

structure Client where
  batchFetchDeployments : List String → Except String (GoMap String String)
  /-- Parsing, rendering and validation of the YAML of a deployment of the given kind. -/
  parseManifest : String → String → Except String Manifest
  /-- The answer of the control plane about the existence of artifacts. -/
  artifactExists : Except String (String → Bool)
  isOnPrem : Bool
  hasLLMDeploymentService : Bool
  hasMCPDeploymentService : Bool
  syncBatchSize : Int

structure SyncState where
  db : ArtifactDB
  log : List String

def SyncState.logError (state : SyncState) (message : String) : SyncState :=
  { state with log := state.log ++ [message] }

/-! ## Fetches -/

namespace Client

variable (c : Client)

def validateArtifactConflicts (db : ArtifactDB) (kind currentID displayName version
    handle : String) : Except String Unit := do
  if (db.getConfigByKindNameAndVersion kind displayName version).any (· != currentID) then
    throw ("configuration already exists: configuration with name '" ++ displayName ++
      "' and version '" ++ version ++ "' already exists")
  if (db.getConfigByKindAndHandle kind handle).any (· != currentID) then
    throw ("configuration already exists: configuration with handle '" ++ handle ++
      "' already exists")

def targetID (manifest : Manifest) (dep : ControlPlaneDeployment) : String :=
  if dep.artifactID = "" then manifest.fallbackID else dep.artifactID

/-- The row of a fetched deployment; the services for the other kinds use the kind they are for. -/
def fetchedRow (manifest : Manifest) (dep : ControlPlaneDeployment) : Artifact :=
  { kind := if dep.kind = "RestApi" then manifest.kind else dep.kind
    handle := manifest.handle
    displayName := manifest.displayName
    version := manifest.version
    desiredState := .deployed
    deploymentID := dep.deploymentID
    origin := .controlPlane
    deployedAt := some dep.deployedAt
    cpArtifactID := "" }

/-- `CreateAPIFromYAML` and its siblings, down to the guarded upsert. -/
def createFromYAML (db : ArtifactDB) (yamlData : String) (dep : ControlPlaneDeployment) :
    Except String ArtifactDB := do
  if dep.deploymentID = "" ∨ dep.deployedAt = 0 then
    throw "control-plane deployments require non-empty deploymentID and deployedAt"
  let manifest ← c.parseManifest dep.kind yamlData
  let row := fetchedRow manifest dep
  let uuid := targetID manifest dep
  validateArtifactConflicts db row.kind uuid row.displayName row.version row.handle
  let (after, _) ← db.upsertConfig uuid row
  pure after

def lacksService (kind : String) : Bool :=
  if kind = "LlmProvider" ∨ kind = "LlmProxy" then !c.hasLLMDeploymentService
  else if kind = "Mcp" then !c.hasMCPDeploymentService
  else false

def processFetched (yamlMap : GoMap String String) (state : SyncState)
    (dep : ControlPlaneDeployment) : SyncState :=
  match yamlMap.lookup dep.deploymentID with
  | none => state.logError "Deployment not found in batch zip response"
  | some yamlData =>
    if c.lacksService dep.kind then state.logError "Skipping sync: deployment service is nil"
    else
      match c.createFromYAML state.db yamlData dep with
      | .error message =>
        state.logError ("Failed to process deployment during sync: " ++ message)
      | .ok db => { state with db := db }

def processSyncFetchBatch (state : SyncState) (batch : List ControlPlaneDeployment) : SyncState :=
  match c.batchFetchDeployments (batch.map (·.deploymentID)) with
  | .error message =>
    state.logError ("Failed to batch fetch deployments during sync: " ++ message)
  | .ok yamlMap => batch.foldl (c.processFetched yamlMap) state

/-- The order of fetches: providers, proxies, REST APIs, MCP proxies. -/
def fetchOrder : List String :=
  ["LlmProvider", "LlmProxy", "RestApi", "Mcp"]

def batchSize : Nat :=
  if c.syncBatchSize ≤ 0 then 50 else c.syncBatchSize.toNat

def processSyncFetches (state : SyncState) (deployments : List ControlPlaneDeployment) :
    SyncState :=
  let ordered := grouped fetchOrder (·.kind) deployments
  (batches c.batchSize ordered.length ordered).foldl c.processSyncFetchBatch state

end Client

/-! ## Status updates -/

def statusRow (cfg : Artifact) (desiredState : DesiredState) (dep : ControlPlaneDeployment) :
    Artifact :=
  { cfg with
    desiredState := desiredState
    deploymentID := dep.deploymentID
    deployedAt := some dep.deployedAt }

def processSyncStatusUpdate (state : SyncState) (dep : ControlPlaneDeployment) : SyncState :=
  match state.db.rows.lookup dep.artifactID with
  | none => state.logError "Failed to get config for sync status update"
  | some cfg =>
    match parseDesiredState dep.state with
    | none => state.logError "Skipping sync status update: unrecognised remote state"
    | some desiredState =>
      match state.db.upsertConfig dep.artifactID (statusRow cfg desiredState dep) with
      | .error message =>
        state.logError ("Failed to upsert config for sync status update: " ++ message)
      | .ok (db, _) => { state with db := db }

/-! ## Deletions -/

namespace Client

variable (c : Client)

/-- The UUID of a configuration, which may be named by its control-plane id. -/
def findAPIConfig (db : ArtifactDB) (artifactID : String) : Option String :=
  if artifactID ∈ db.rows then some artifactID else db.getConfigByCPArtifactID artifactID

def deleteByHandle (state : SyncState) (kind artifactID : String) : SyncState :=
  match (findAPIConfig state.db artifactID).bind state.db.rows.lookup with
  | none => state.logError "Failed to find config for sync deletion"
  | some cfg =>
    match state.db.getConfigByKindAndHandle kind cfg.handle with
    | none => state.logError "Failed to delete artifact during sync: not found"
    | some uuid =>
      match state.db.deleteConfig uuid with
      | .error message => state.logError ("Failed to delete artifact during sync: " ++ message)
      | .ok db => { state with db := db }

/-- The configuration of a REST API is deleted by its id; without a service for the other kinds
nothing happens. -/
def processSyncDeletion (state : SyncState) (entry : String × String) : SyncState :=
  let (artifactID, kind) := entry
  if kind = "RestApi" then
    match findAPIConfig state.db artifactID with
    | none => state
    | some _ =>
      match state.db.deleteConfig artifactID with
      | .error message =>
        state.logError ("Failed to delete API configuration from database: " ++ message)
      | .ok db => { state with db := db }
  else if c.lacksService kind then state
  else deleteByHandle state kind artifactID

/-- The order of deletions: MCP proxies, REST APIs, proxies, providers. -/
def deletionOrder : List String :=
  ["Mcp", "RestApi", "LlmProxy", "LlmProvider"]

def processSyncDeletions (state : SyncState) (artifactIDs : List String) : SyncState :=
  let entries := artifactIDs.filterMap fun id =>
    (state.db.rows.lookup id).map fun cfg => (id, cfg.kind)
  (grouped deletionOrder (·.2) entries).foldl c.processSyncDeletion state

/-- Orphans that still exist on the control plane are kept; if that cannot be found out, all are. -/
def actualOrphans (state : SyncState) (toDelete : List String) : SyncState × List String :=
  if toDelete = [] ∨ c.isOnPrem then (state, toDelete)
  else
    match c.artifactExists with
    | .error message =>
      (state.logError ("Failed to check artifact existence, " ++
        "skipping deletions to avoid data loss: " ++ message), [])
    | .ok exists? => (state, toDelete.filter fun id => !exists? id)

/-! ## The sync -/

def syncDeployments (order : List String → List String) (db : ArtifactDB)
    (remote : List ControlPlaneDeployment) : SyncState :=
  let diff := computeSyncDiff order remote (db.getAllConfigsByOrigin .controlPlane)
  let (state, orphans) := c.actualOrphans ⟨db, []⟩ diff.toDelete
  let state := c.processSyncDeletions state orphans
  let state := c.processSyncFetches state diff.toFetch
  diff.toUpdateStatus.foldl processSyncStatusUpdate state

end Client

end ApiPlatform.Controller.ControlPlane
