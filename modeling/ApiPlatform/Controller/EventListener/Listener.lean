import ApiPlatform.Controller.Storage.ConfigStore

/-!
# The event listener

A change of the database is published as an event, and the listener brings the
stores of its replica up to date some time later (`pkg/eventlistener`).  The
handlers read the database as it is when they run, not as it was when the event
was published.
-/

namespace ApiPlatform.Controller.EventListener

open Foundation
open Controller.ApiKeys
open Controller.Storage

/-! ## Events -/

inductive EventType where
  | api
  | apiKey
  deriving DecidableEq

inductive Action where
  | create
  | update
  | delete
  deriving DecidableEq

structure Event where
  eventType : EventType
  action : Action
  entityID : String
  deriving DecidableEq

def buildAPIKeyEntityID (apiID keyID : String) : String :=
  apiID ++ "_" ++ keyID

def parseAPIKeyEntityID (entityID : String) : Option (String × String) :=
  let apiID := beforeLast '_' entityID.toList
  let keyID := afterLast '_' entityID.toList
  if '_' ∈ entityID.toList ∧ apiID ≠ [] ∧ keyID ≠ [] then
    some (String.ofList apiID, String.ofList keyID)
  else none

theorem parse_build {apiID keyID : String} (hapi : apiID ≠ "") (hkey : keyID ≠ "")
    (hmark : '_' ∉ keyID.toList) :
    parseAPIKeyEntityID (buildAPIKeyEntityID apiID keyID) = some (apiID, keyID) := by
  have hchars : (buildAPIKeyEntityID apiID keyID).toList = apiID.toList ++ '_' :: keyID.toList := by
    simp [buildAPIKeyEntityID, String.toList_append]
  have hne {text : String} (htext : text ≠ "") : text.toList ≠ [] := by
    simpa using htext
  simp [parseAPIKeyEntityID, hchars, beforeLast_append_cons hmark, afterLast_append_cons hmark,
    hne hapi, hne hkey]

/-! ## The database -/

structure UniqueArtifacts (rows : GoMap String StoredConfig) : Prop where
  keyed : ∀ row ∈ rows.entries, row.2.uuid = row.1
  names : (rows.entries.map fun row => (row.2.kind, row.2.displayName, row.2.version)).Nodup
  handles : (rows.entries.map fun row => (row.2.kind, row.2.handle)).Nodup

instance (rows : GoMap String StoredConfig) : Decidable (UniqueArtifacts rows) :=
  decidable_of_iff
    ((∀ row ∈ rows.entries, row.2.uuid = row.1) ∧
      (rows.entries.map fun row => (row.2.kind, row.2.displayName, row.2.version)).Nodup ∧
      (rows.entries.map fun row => (row.2.kind, row.2.handle)).Nodup)
    ⟨fun ⟨hkeyed, hnames, hhandles⟩ => ⟨hkeyed, hnames, hhandles⟩,
      fun hunique => ⟨hunique.keyed, hunique.names, hunique.handles⟩⟩

structure ArtifactTable where
  rows : GoMap String StoredConfig
  unique : UniqueArtifacts rows

namespace ArtifactTable

def empty : ArtifactTable :=
  ⟨∅, ⟨by simp, by simp, by simp⟩⟩

variable (table : ArtifactTable)

def getConfig (id : String) : Option StoredConfig :=
  table.rows.lookup id

def upsertConfig (cfg : StoredConfig) : Option ArtifactTable :=
  if cfg.handle = "" then none
  else if hunique : UniqueArtifacts (table.rows.insert cfg.uuid cfg) then
    some ⟨table.rows.insert cfg.uuid cfg, hunique⟩
  else none

theorem sublist_entries_erase (rows : GoMap String StoredConfig) (id : String) :
    (rows.erase id).entries.Sublist rows.entries :=
  List.kerase_sublist id rows.entries

def deleteConfig (id : String) : ArtifactTable where
  rows := table.rows.erase id
  unique :=
    { keyed := fun row hrow =>
        table.unique.keyed row ((sublist_entries_erase table.rows id).subset hrow)
      names := table.unique.names.sublist ((sublist_entries_erase table.rows id).map _)
      handles := table.unique.handles.sublist ((sublist_entries_erase table.rows id).map _) }

theorem getConfig_upsertConfig {table next : ArtifactTable} {cfg : StoredConfig}
    (hupsert : table.upsertConfig cfg = some next) (id : String) :
    next.getConfig id = if id = cfg.uuid then some cfg else table.getConfig id := by
  unfold upsertConfig at hupsert
  split at hupsert
  · cases hupsert
  · split at hupsert
    · cases hupsert
      unfold getConfig
      by_cases hid : id = cfg.uuid
      · subst hid
        simp
      · rw [if_neg hid, AList.lookup_insert_ne hid]
    · cases hupsert

theorem getConfig_deleteConfig (id other : String) :
    (table.deleteConfig id).getConfig other =
      if other = id then none else table.getConfig other := by
  unfold getConfig deleteConfig
  by_cases hother : other = id
  · subst hother
    simp
  · rw [if_neg hother, AList.lookup_erase_ne hother]

theorem uuid_of_getConfig {table : ArtifactTable} {id : String} {cfg : StoredConfig}
    (hcfg : table.getConfig id = some cfg) : cfg.uuid = id :=
  table.unique.keyed ⟨id, cfg⟩ (AList.mem_lookup_iff.mp hcfg)

end ArtifactTable

/-! ## The listener -/

/-- What the listener is given: the templates of a configuration are rendered
with secrets, and a `range` over a map visits it in any order. -/
structure Environment where
  render : Configuration → Option (Configuration × List String)
  webSubTopicUpdater : TopicUpdater
  iteration : MapIteration String

/-- The database, the events that wait, and the stores of the replica. -/
structure Gateway where
  artifacts : ArtifactTable
  keys : KeyTable
  queue : List Event
  store : ConfigStore
  apiKeyStore : APIKeyStore

def Gateway.initial : Gateway :=
  ⟨.empty, .empty, [], .empty, .empty⟩

section Handlers

variable (env : Environment) (round : Nat) (gateway : Gateway)

def renderSpec (cfg : StoredConfig) : Option StoredConfig :=
  (env.render cfg.configuration).map fun rendered =>
    { cfg with configuration := rendered.1, sensitiveValues := rendered.2 }

/-- The configuration of a key's API, from memory or else from the database.  A
configuration that memory refuses is returned all the same. -/
def syncAPIConfigForAPIKeyEvent (store : ConfigStore) (apiID : String) :
    Option (ConfigStore × StoredConfig) :=
  match store.get apiID with
  | .ok cfg => some (store, cfg)
  | .error _ =>
    match gateway.artifacts.getConfig apiID with
    | none => none
    | some cfg =>
      match store.add env.webSubTopicUpdater cfg with
      | (added, none) => some (added, cfg)
      | (refused, some _) => some ((refused.update env.webSubTopicUpdater cfg).1, cfg)

def handleAPIKeyUpsert (event : Event) : Gateway :=
  match parseAPIKeyEntityID event.entityID with
  | none => gateway
  | some (_, keyID) =>
    match gateway.keys.getAPIKeyByID keyID with
    | none => gateway
    | some apiKey =>
      match gateway.store.storeAPIKey env.iteration round apiKey with
      | .error _ => gateway
      | .ok store =>
        match syncAPIConfigForAPIKeyEvent env gateway store apiKey.artifactUUID with
        | none => { gateway with store := store }
        | some (synced, _) =>
          { gateway with
            store := synced
            apiKeyStore := gateway.apiKeyStore.store env.iteration round apiKey }

/-- A key whose name memory does not know is not revoked in the xDS store. -/
def handleAPIKeyRevoke (event : Event) : Gateway :=
  match parseAPIKeyEntityID event.entityID with
  | none => gateway
  | some (apiID, keyID) =>
    let store := (gateway.store.removeAPIKeyByID apiID keyID).1
    match gateway.store.getAPIKeyByID apiID keyID with
    | .error _ => { gateway with store := store }
    | .ok apiKey =>
      if apiKey.name = "" then { gateway with store := store }
      else
        match syncAPIConfigForAPIKeyEvent env gateway store apiID with
        | none => { gateway with store := store }
        | some (synced, cfg) =>
          { gateway with
            store := synced
            apiKeyStore := (gateway.apiKeyStore.revoke cfg.uuid apiKey.name).1 }

/-- Stores every key that the database has for the API, whatever its status, in
the xDS store only. -/
def syncAPIKeysForAPI (cfg : StoredConfig) : APIKeyStore :=
  if cfg.displayName = "" then gateway.apiKeyStore
  else gateway.apiKeyStore.storeAll env.iteration round (gateway.keys.getAPIKeysByAPI cfg.uuid)

def storeConfig (entityID : String) (cfg : StoredConfig) : ConfigStore × Option StoreError :=
  match gateway.store.get entityID with
  | .ok _ => gateway.store.update env.webSubTopicUpdater cfg
  | .error _ => gateway.store.add env.webSubTopicUpdater cfg

def handleAPICreateOrUpdate (event : Event) : Gateway :=
  match (gateway.artifacts.getConfig event.entityID).bind (renderSpec env) with
  | none => gateway
  | some cfg =>
    match storeConfig env gateway event.entityID cfg with
    | (store, some _) => { gateway with store := store }
    | (store, none) =>
      { gateway with
        store := store
        apiKeyStore := syncAPIKeysForAPI env round gateway cfg }

def handleAPIDelete (event : Event) : Gateway :=
  let store := (gateway.store.delete event.entityID).1.removeAPIKeysByAPI event.entityID
  match gateway.store.get event.entityID with
  | .error _ => { gateway with store := store }
  | .ok existingConfig =>
    if existingConfig.displayName = "" then { gateway with store := store }
    else
      { gateway with
        store := store
        apiKeyStore := gateway.apiKeyStore.removeByAPI event.entityID }

def processEvent (event : Event) : Gateway :=
  match event.eventType, event.action with
  | .api, .delete => handleAPIDelete gateway event
  | .api, _ => handleAPICreateOrUpdate env round gateway event
  | .apiKey, .delete => handleAPIKeyRevoke env gateway event
  | .apiKey, _ => handleAPIKeyUpsert env round gateway event

end Handlers

/-! ## Changes of the database -/

/-- A change of the database.  A key is revoked in two statements: the row is
marked and the event is published, and the row is removed afterwards. -/
inductive Change where
  | upsertAPI (cfg : StoredConfig)
  | deleteAPI (id : String)
  | createKey (key : APIKey)
  | updateKey (key : APIKey)
  | revokeKey (apiId name : String) (now : Time)
  | removeKey (apiId name : String)

namespace Gateway

variable (gateway : Gateway)

def publish (event : Event) : Gateway :=
  { gateway with queue := gateway.queue ++ [event] }

def upsertAPI (cfg : StoredConfig) : Gateway :=
  match gateway.artifacts.upsertConfig cfg with
  | none => gateway
  | some artifacts => { gateway with artifacts := artifacts }.publish ⟨.api, .update, cfg.uuid⟩

def deleteAPI (id : String) : Gateway :=
  match gateway.artifacts.getConfig id with
  | none => gateway
  | some _ =>
    { gateway with
      artifacts := gateway.artifacts.deleteConfig id
      keys := gateway.keys.removeAPIKeysAPI id }.publish ⟨.api, .delete, id⟩

def createKey (key : APIKey) : Gateway :=
  match gateway.keys.upsertAPIKey { key with status := .active } with
  | .error _ => gateway
  | .ok keys =>
    { gateway with keys := keys }.publish
      ⟨.apiKey, .create, buildAPIKeyEntityID key.artifactUUID key.uuid⟩

def updateKey (key : APIKey) : Gateway :=
  match gateway.keys.getAPIKeysByAPIAndName key.artifactUUID key.name with
  | none => gateway
  | some row =>
    match gateway.keys.updateAPIKey { key with status := .active } with
    | .error _ => gateway
    | .ok keys =>
      { gateway with keys := keys }.publish
        ⟨.apiKey, .update, buildAPIKeyEntityID key.artifactUUID row.uuid⟩

def revokeKey (apiId name : String) (now : Time) : Gateway :=
  match gateway.keys.getAPIKeysByAPIAndName apiId name with
  | none => gateway
  | some row =>
    if row.status = .revoked then gateway
    else
      match gateway.keys.updateAPIKey { row with status := .revoked, updatedAt := now } with
      | .error _ => gateway
      | .ok keys =>
        { gateway with keys := keys }.publish
          ⟨.apiKey, .delete, buildAPIKeyEntityID apiId row.uuid⟩

def apply : Change → Gateway
  | .upsertAPI cfg => gateway.upsertAPI cfg
  | .deleteAPI id => gateway.deleteAPI id
  | .createKey key => gateway.createKey key
  | .updateKey key => gateway.updateKey key
  | .revokeKey apiId name now => gateway.revokeKey apiId name now
  | .removeKey apiId name =>
    { gateway with keys := gateway.keys.removeAPIKeyAPIAndName apiId name }

end Gateway

/-! ## Steps -/

inductive Step where
  | change (change : Change)
  | process (round : Nat)

def step (env : Environment) (gateway : Gateway) : Step → Gateway
  | .change change => gateway.apply change
  | .process round =>
    match gateway.queue with
    | [] => gateway
    | event :: rest => processEvent env round { gateway with queue := rest } event

end ApiPlatform.Controller.EventListener
