import ApiPlatform.Controller.StoredConfig
import ApiPlatform.Controller.Storage.ApiKeyStore

/-!
# The configurations in memory

The in-memory store of a controller (`pkg/storage/memory.go`): the
configurations with their two indexes, the labels, and the API keys that the key
events have brought.
-/

namespace ApiPlatform.Controller.Storage

open Foundation
open Controller.ApiKeys (APIKey KeyID)

inductive Sentinel where
  | notFound
  | conflict
  deriving DecidableEq

def Sentinel.message : Sentinel → String
  | .notFound => "configuration not found"
  | .conflict => "configuration already exists"

structure StoreError where
  sentinel : Option Sentinel
  message : String
  deriving DecidableEq

def StoreError.wrap (sentinel : Sentinel) (message : String) : StoreError :=
  ⟨some sentinel, sentinel.message ++ ": " ++ message⟩

structure ConfigStore where
  configs : GoMap String StoredConfig
  nameVersion : GoMap String String
  handle : GoMap String String
  labelsByAPI : GoMap String (GoMap String String)
  apiKeysByAPI : GoMap String (GoMap String APIKey)

/-- The hook that registers the topics of a WebSub API; `none` is success. -/
abbrev TopicUpdater := StoredConfig → Option StoreError

def handleKey (cfg : StoredConfig) : String :=
  cfg.kind ++ ":" ++ cfg.handle

namespace ConfigStore

def empty : ConfigStore :=
  ⟨∅, ∅, ∅, ∅, ∅⟩

section Configurations

variable (webSubTopicUpdater : TopicUpdater) (cs : ConfigStore)

def updateTopics (cfg : StoredConfig) : Option StoreError :=
  if cfg.kind == "WebSubApi" then webSubTopicUpdater cfg else none

def get (id : String) : Except StoreError StoredConfig :=
  match cs.configs.lookup id with
  | none => .error (.wrap .notFound ("id=" ++ id))
  | some cfg => .ok cfg

/-- The topics are registered last: when that fails the configuration stays. -/
def add (cfg : StoredConfig) : ConfigStore × Option StoreError :=
  match cs.handle.lookup (handleKey cfg), cs.nameVersion.lookup cfg.getCompositeKey with
  | some existingID, _ =>
    (cs, some (.wrap .conflict ("configuration with handle '" ++ cfg.handle ++
      "' already exists (ID: " ++ existingID ++ ")")))
  | none, some existingID =>
    (cs, some (.wrap .conflict ("configuration with displayName '" ++ cfg.displayName ++
      "' and version '" ++ cfg.version ++ "' already exists (ID: " ++ existingID ++ ")")))
  | none, none =>
    ({ cs with
        configs := cs.configs.insert cfg.uuid cfg
        handle := cs.handle.insert (handleKey cfg) cfg.uuid
        nameVersion := cs.nameVersion.insert cfg.getCompositeKey cfg.uuid
        labelsByAPI :=
          match cfg.getLabels with
          | some labels => cs.labelsByAPI.insert cfg.handle labels
          | none => cs.labelsByAPI },
      updateTopics webSubTopicUpdater cfg)

/-- Moves an index entry from its old key to its new one, unless another
configuration has the new key; a key that stays is not checked. -/
def moveIndex (index : GoMap String String) (oldKey newKey uuid : String) :
    Except String (GoMap String String) :=
  if oldKey = newKey then .ok index
  else
    match index.lookup newKey with
    | some existingUUID =>
      if existingUUID ≠ uuid then .error existingUUID
      else .ok ((index.erase oldKey).insert newKey uuid)
    | none => .ok ((index.erase oldKey).insert newKey uuid)

def moveLabels (existing cfg : StoredConfig) : GoMap String (GoMap String String) :=
  if existing.handle ≠ cfg.handle then
    match cfg.getLabels with
    | some labels => (cs.labelsByAPI.erase existing.handle).insert cfg.handle labels
    | none => cs.labelsByAPI.erase existing.handle
  else
    match cfg.getLabels with
    | some labels => cs.labelsByAPI.insert existing.handle labels
    | none => cs.labelsByAPI.erase existing.handle

/-- Each index is written before the next check, so a failed update keeps the
indexes that it has already moved. -/
def update (cfg : StoredConfig) : ConfigStore × Option StoreError :=
  match cs.configs.lookup cfg.uuid with
  | none => (cs, some ⟨none, "configuration with UUID '" ++ cfg.uuid ++ "' not found"⟩)
  | some existing =>
    match moveIndex cs.handle (handleKey existing) (handleKey cfg) cfg.uuid with
    | .error existingUUID =>
      (cs, some (.wrap .conflict ("configuration with handle '" ++ cfg.handle ++
        "' already exists (UUID: " ++ existingUUID ++ ")")))
    | .ok handle =>
      match moveIndex cs.nameVersion existing.getCompositeKey cfg.getCompositeKey cfg.uuid with
      | .error existingUUID =>
        ({ cs with handle := handle },
          some (.wrap .conflict ("configuration with displayName '" ++ cfg.displayName ++
            "' and version '" ++ cfg.version ++ "' already exists (UUID: " ++
            existingUUID ++ ")")))
      | .ok nameVersion =>
        match updateTopics webSubTopicUpdater cfg with
        | some err => ({ cs with handle := handle, nameVersion := nameVersion }, some err)
        | none =>
          ({ cs with
              handle := handle
              nameVersion := nameVersion
              configs := cs.configs.insert cfg.uuid cfg
              labelsByAPI := cs.moveLabels existing cfg }, none)

def delete (id : String) : ConfigStore × Option StoreError :=
  match cs.configs.lookup id with
  | none => (cs, some ⟨none, "configuration with ID '" ++ id ++ "' not found"⟩)
  | some cfg =>
    ({ cs with
        handle := cs.handle.erase (handleKey cfg)
        nameVersion := cs.nameVersion.erase cfg.getCompositeKey
        configs := cs.configs.erase id
        labelsByAPI := cs.labelsByAPI.erase cfg.handle }, none)

end Configurations

/-! ## API keys -/

section Keys

variable (cs : ConfigStore)

def storeAPIKey (iteration : MapIteration String) (round : Nat) (apiKey : APIKey) :
    Except StoreError ConfigStore :=
  if trimSpace apiKey.name = "" then .error ⟨none, "API key name cannot be empty"⟩
  else if trimSpace apiKey.apiKey = "" then .error ⟨none, "API key value cannot be empty"⟩
  else if trimSpace apiKey.artifactUUID = "" then .error ⟨none, "API apiId cannot be empty"⟩
  else
    let existing := existingKeyID iteration round
      ((cs.apiKeysByAPI.lookup apiKey.artifactUUID).getD ∅) apiKey.name
    if existing ≠ "" then
      if apiKey.uuid ≠ existing then
        .error ⟨none, "API key with name \"" ++ apiKey.name ++ "\" already exists for artifact " ++
          apiKey.artifactUUID ++ " with a different ID"⟩
      else
        .ok { cs with
          apiKeysByAPI := insertIn cs.apiKeysByAPI apiKey.artifactUUID existing apiKey }
    else if (lookupIn cs.apiKeysByAPI apiKey.artifactUUID apiKey.uuid).isSome then
      .error ⟨some .conflict, Sentinel.conflict.message⟩
    else
      .ok { cs with
        apiKeysByAPI := insertIn cs.apiKeysByAPI apiKey.artifactUUID apiKey.uuid apiKey }

def getAPIKeyByID (apiId id : String) : Except StoreError APIKey :=
  match lookupIn cs.apiKeysByAPI apiId id with
  | none => .error ⟨some .notFound, Sentinel.notFound.message⟩
  | some apiKey => .ok apiKey

def removeAPIKeyByID (apiId id : String) : ConfigStore × Option StoreError :=
  match lookupIn cs.apiKeysByAPI apiId id with
  | none => (cs, some ⟨some .notFound, Sentinel.notFound.message⟩)
  | some _ =>
    ({ cs with apiKeysByAPI := dropEmpty (eraseIn cs.apiKeysByAPI apiId id) apiId }, none)

def removeAPIKeysByAPI (apiId : String) : ConfigStore :=
  { cs with apiKeysByAPI := cs.apiKeysByAPI.erase apiId }

end Keys

/-! ## What an operation does to the configurations -/

section Effects

variable {webSubTopicUpdater : TopicUpdater} {cs : ConfigStore} {cfg : StoredConfig}

/-- What an index may have under a key of the configuration: nothing, or the
configuration itself when the store has it. -/
def indexAllowance (cs : ConfigStore) (cfg : StoredConfig) : List (Option String) :=
  match cs.configs.lookup cfg.uuid with
  | none => [none]
  | some _ => [none, some cfg.uuid]

/-- What lets a configuration in: no other configuration has its handle or its
name and version, and its topics can be registered. -/
def Admits (webSubTopicUpdater : TopicUpdater) (cs : ConfigStore) (cfg : StoredConfig) : Prop :=
  cs.handle.lookup (handleKey cfg) ∈ cs.indexAllowance cfg ∧
    cs.nameVersion.lookup cfg.getCompositeKey ∈ cs.indexAllowance cfg ∧
    updateTopics webSubTopicUpdater cfg = none

instance : Decidable (Admits webSubTopicUpdater cs cfg) :=
  inferInstanceAs (Decidable (_ ∧ _ ∧ _))

theorem get_eq_ok_iff {id : String} : cs.get id = .ok cfg ↔ cs.configs.lookup id = some cfg := by
  unfold get
  cases cs.configs.lookup id <;> simp

theorem add_effect (webSubTopicUpdater : TopicUpdater) (cs : ConfigStore) (cfg : StoredConfig) :
    (cs.add webSubTopicUpdater cfg).1.apiKeysByAPI = cs.apiKeysByAPI ∧
      ((cs.add webSubTopicUpdater cfg).1.configs = cs.configs ∨
        (cs.add webSubTopicUpdater cfg).1.configs = cs.configs.insert cfg.uuid cfg) := by
  unfold add
  split <;> simp

theorem add_of_admits (hadmits : Admits webSubTopicUpdater cs cfg)
    (hnew : cs.configs.lookup cfg.uuid = none) :
    (cs.add webSubTopicUpdater cfg).1.configs = cs.configs.insert cfg.uuid cfg ∧
      (cs.add webSubTopicUpdater cfg).2 = none := by
  obtain ⟨hhandle, hnameVersion, htopics⟩ := hadmits
  simp only [indexAllowance, hnew, List.mem_singleton] at hhandle hnameVersion
  simp [add, hhandle, hnameVersion, htopics]

theorem moveIndex_of_mem {index : GoMap String String} {newKey uuid : String} (oldKey : String)
    (hfree : index.lookup newKey ∈ [none, some uuid]) :
    ∃ moved, moveIndex index oldKey newKey uuid = .ok moved := by
  unfold moveIndex
  split
  · exact ⟨_, rfl⟩
  · rcases List.mem_cons.mp hfree with hnone | hown
    · exact ⟨_, by rw [hnone]⟩
    · rw [List.mem_singleton] at hown
      exact ⟨_, by simp [hown]; rfl⟩

theorem update_effect (webSubTopicUpdater : TopicUpdater) (cs : ConfigStore)
    (cfg : StoredConfig) :
    (cs.update webSubTopicUpdater cfg).1.apiKeysByAPI = cs.apiKeysByAPI ∧
      ((cs.update webSubTopicUpdater cfg).1.configs = cs.configs ∨
        (cs.update webSubTopicUpdater cfg).1.configs = cs.configs.insert cfg.uuid cfg) := by
  unfold update
  repeat' split
  all_goals simp

theorem update_of_admits (hadmits : Admits webSubTopicUpdater cs cfg)
    (hknown : (cs.configs.lookup cfg.uuid).isSome) :
    (cs.update webSubTopicUpdater cfg).1.configs = cs.configs.insert cfg.uuid cfg ∧
      (cs.update webSubTopicUpdater cfg).2 = none := by
  obtain ⟨existing, hexisting⟩ := Option.isSome_iff_exists.mp hknown
  obtain ⟨hhandle, hnameVersion, htopics⟩ := hadmits
  simp only [indexAllowance, hexisting] at hhandle hnameVersion
  obtain ⟨handle, hhandle⟩ := moveIndex_of_mem (handleKey existing) hhandle
  obtain ⟨nameVersion, hnameVersion⟩ := moveIndex_of_mem existing.getCompositeKey hnameVersion
  simp [update, hexisting, hhandle, hnameVersion, htopics]

theorem lookup_delete (id other : String) :
    (cs.delete id).1.configs.lookup other =
      if other = id then none else cs.configs.lookup other := by
  unfold delete
  cases hid : cs.configs.lookup id with
  | none =>
    by_cases hother : other = id
    · subst hother
      simpa using hid
    · simp [hother]
  | some cfg =>
    by_cases hother : other = id
    · subst hother
      simp
    · simp [hother, AList.lookup_erase_ne]

@[simp] theorem delete_apiKeysByAPI (id : String) :
    (cs.delete id).1.apiKeysByAPI = cs.apiKeysByAPI := by
  unfold delete
  split <;> rfl

end Effects

/-! ## What an operation does to the keys -/

section KeyEffects

variable {owner : String → KeyID} {cs next : ConfigStore} {iteration : MapIteration String}
  {round : Nat} {apiKey : APIKey}

def KeysPlaced (owner : String → KeyID) (cs : ConfigStore) : Prop :=
  ∀ apiId uuid key, lookupIn cs.apiKeysByAPI apiId uuid = some key →
    uuid ≠ "" ∧ key.name ≠ "" ∧ key.artifactUUID = apiId ∧ owner uuid = key.id ∧
      SeparatorFree apiId

/-- What lets a key in: nothing is blank, and no other key of the artifact has
its name. -/
structure AdmitsKey (cs : ConfigStore) (apiKey : APIKey) : Prop where
  name : trimSpace apiKey.name ≠ ""
  value : trimSpace apiKey.apiKey ≠ ""
  artifact : trimSpace apiKey.artifactUUID ≠ ""
  unique : ∀ entry ∈ ((cs.apiKeysByAPI.lookup apiKey.artifactUUID).getD ∅).entries,
    entry.2.name = apiKey.name → entry.1 = apiKey.uuid

instance : Decidable (AdmitsKey cs apiKey) :=
  decidable_of_iff
    (trimSpace apiKey.name ≠ "" ∧ trimSpace apiKey.apiKey ≠ "" ∧
      trimSpace apiKey.artifactUUID ≠ "" ∧
      ∀ entry ∈ ((cs.apiKeysByAPI.lookup apiKey.artifactUUID).getD ∅).entries,
        entry.2.name = apiKey.name → entry.1 = apiKey.uuid)
    ⟨fun ⟨hname, hvalue, hartifact, hunique⟩ => ⟨hname, hvalue, hartifact, hunique⟩,
      fun hadmits => ⟨hadmits.name, hadmits.value, hadmits.artifact, hadmits.unique⟩⟩

theorem storeAPIKey_effect (hstore : cs.storeAPIKey iteration round apiKey = .ok next) :
    apiKey.name ≠ "" ∧
      next = { cs with
        apiKeysByAPI := insertIn cs.apiKeysByAPI apiKey.artifactUUID apiKey.uuid apiKey } := by
  unfold storeAPIKey at hstore
  dsimp only at hstore
  split at hstore
  · cases hstore
  next hblank =>
    have hname : apiKey.name ≠ "" := by
      intro hempty
      exact hblank (by rw [hempty]; decide)
    refine ⟨hname, ?_⟩
    repeat' split at hstore
    all_goals cases hstore
    · next hsame =>
        rw [not_not] at hsame
        simp [hsame]
    · rfl

theorem storeAPIKey_of_admits (iteration : MapIteration String) (round : Nat)
    (hplaced : KeysPlaced owner cs) (hadmits : AdmitsKey cs apiKey)
    (howner : owner apiKey.uuid = apiKey.id) :
    ∃ next, cs.storeAPIKey iteration round apiKey = .ok next := by
  have hempty : ((cs.apiKeysByAPI.lookup apiKey.artifactUUID).getD ∅).lookup "" = none := by
    rw [lookup_inner]
    by_contra hsome
    obtain ⟨key, hkey⟩ := Option.ne_none_iff_exists'.mp hsome
    exact (hplaced _ _ _ hkey).1 rfl
  unfold storeAPIKey
  rw [if_neg hadmits.name, if_neg hadmits.value, if_neg hadmits.artifact]
  dsimp only
  split
  next hexisting =>
    obtain ⟨other, hother, hname⟩ :=
      (existingKeyID_cases iteration round _ apiKey.name).resolve_right
      fun hnone => hexisting hnone.1
    have hsame := hadmits.unique _ (AList.mem_lookup_iff.mp hother) hname
    exact ⟨_, if_neg (not_not.mpr hsame.symm)⟩
  next hnone =>
    rw [not_not] at hnone
    refine ⟨_, if_neg ?_⟩
    intro hsome
    obtain ⟨other, hother⟩ := Option.isSome_iff_exists.mp hsome
    -- a key under this UUID has the name, so the search has found it
    have hid : other.id = apiKey.id := by
      rw [← (hplaced _ _ _ hother).2.2.2.1, howner]
    rw [← lookup_inner] at hother
    rcases existingKeyID_cases iteration round _ apiKey.name with ⟨found, hfound, -⟩ | ⟨-, hfree⟩
    · rw [hnone, hempty] at hfound
      cases hfound
    · exact hfree _ _ hother (KeyID.ext_iff.mp hid).2

theorem KeysPlaced.storeAPIKey (hplaced : KeysPlaced owner cs)
    (hstore : cs.storeAPIKey iteration round apiKey = .ok next) (huuid : apiKey.uuid ≠ "")
    (howner : owner apiKey.uuid = apiKey.id) (hfree : SeparatorFree apiKey.artifactUUID) :
    KeysPlaced owner next := by
  obtain ⟨hname, rfl⟩ := storeAPIKey_effect hstore
  intro apiId uuid key hlookup
  rw [lookupIn_insertIn] at hlookup
  split at hlookup
  next hsame =>
    cases hlookup
    obtain ⟨rfl, rfl⟩ := hsame
    exact ⟨huuid, hname, rfl, howner, hfree⟩
  next => exact hplaced _ _ _ hlookup

theorem KeysPlaced.removeAPIKeyByID (hplaced : KeysPlaced owner cs) (apiId id : String) :
    KeysPlaced owner (cs.removeAPIKeyByID apiId id).1 := by
  unfold ConfigStore.removeAPIKeyByID
  split
  · exact hplaced
  · intro apiId' uuid key hlookup
    simp only [lookupIn_dropEmpty, lookupIn_eraseIn] at hlookup
    split at hlookup
    · cases hlookup
    · exact hplaced _ _ _ hlookup

theorem KeysPlaced.removeAPIKeysByAPI (hplaced : KeysPlaced owner cs) (apiId : String) :
    KeysPlaced owner (cs.removeAPIKeysByAPI apiId) := by
  intro apiId' uuid key hlookup
  simp only [ConfigStore.removeAPIKeysByAPI, lookupIn_erase] at hlookup
  split at hlookup
  · cases hlookup
  · exact hplaced _ _ _ hlookup

@[simp] theorem removeAPIKeyByID_configs (cs : ConfigStore) (apiId id : String) :
    (cs.removeAPIKeyByID apiId id).1.configs = cs.configs := by
  unfold removeAPIKeyByID
  split <;> rfl

end KeyEffects

end ConfigStore

end ApiPlatform.Controller.Storage
