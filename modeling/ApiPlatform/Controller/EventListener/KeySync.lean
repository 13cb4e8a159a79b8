import ApiPlatform.Controller.EventListener.Pending

/-!
# The xDS store follows the database

Handling an event keeps the invariant when the stores meet the condition of the
event, so a run whose events all meet it ends with the active keys of the
database.  The handlers return early where one of the two stores lacks a key;
those are the runs in which a revoked key stays.
-/

namespace ApiPlatform.Controller.EventListener

open Foundation ArtifactTable
open Controller.ApiKeys
open Controller.Storage

variable {keyStore : APIKeyStore} {apiKey : APIKey} {keyID : String} {rendered : StoredConfig}

/-! ## The configurations in memory -/

/-- A store whose configurations are those of another one or copies of the
database's. -/
def ConfigsFrom (artifacts : ArtifactTable) (before after : ConfigStore) : Prop :=
  ∀ id, after.configs.lookup id = before.configs.lookup id ∨
    ∃ cfg row, after.configs.lookup id = some cfg ∧ artifacts.getConfig id = some row ∧
      cfg.uuid = row.uuid ∧ cfg.displayName = row.displayName

section Memory

variable {env : Environment} {gateway : Gateway} {artifacts : ArtifactTable}
  {before middle after store synced : ConfigStore} {cfg row : StoredConfig} {apiID : String}

theorem configsFrom_of_eq (hconfigs : after.configs = before.configs) :
    ConfigsFrom artifacts before after :=
  fun _ => .inl (by rw [hconfigs])

theorem ConfigsFrom.trans (hfirst : ConfigsFrom artifacts before middle)
    (hsecond : ConfigsFrom artifacts middle after) : ConfigsFrom artifacts before after := by
  intro id
  rcases hsecond id with hsame | hcopy
  · rw [hsame]
    exact hfirst id
  · exact .inr hcopy

theorem configsFrom_of_write (hrow : artifacts.getConfig cfg.uuid = some row)
    (hname : cfg.displayName = row.displayName) (hwrite : after.configs = before.configs ∨
      after.configs = before.configs.insert cfg.uuid cfg) : ConfigsFrom artifacts before after := by
  intro id
  rcases hwrite with hsame | hinsert
  · exact .inl (by rw [hsame])
  · rw [hinsert]
    by_cases hid : id = cfg.uuid
    · subst hid
      have huuid := uuid_of_getConfig hrow
      exact .inr ⟨cfg, row, AList.lookup_insert _, hrow, huuid.symm, hname⟩
    · exact .inl (AList.lookup_insert_ne hid)

theorem ConfigsFrom.isSome (hfrom : ConfigsFrom artifacts before after) {id : String}
    (hsome : (before.configs.lookup id).isSome) : (after.configs.lookup id).isSome := by
  rcases hfrom id with hsame | ⟨cfg, _, hcfg, _⟩
  · rw [hsame]
    exact hsome
  · rw [hcfg]
    rfl

theorem sync_effect (hsync : syncAPIConfigForAPIKeyEvent env gateway store apiID =
      some (synced, cfg)) :
    synced.apiKeysByAPI = store.apiKeysByAPI ∧ ConfigsFrom gateway.artifacts store synced ∧
      (store.configs.lookup apiID = some cfg ∨ gateway.artifacts.getConfig apiID = some cfg) := by
  unfold syncAPIConfigForAPIKeyEvent at hsync
  split at hsync
  next found hget =>
    cases hsync
    exact ⟨rfl, configsFrom_of_eq rfl, .inl (ConfigStore.get_eq_ok_iff.mp hget)⟩
  next =>
    split at hsync
    · cases hsync
    next found hfound =>
      have hrow : gateway.artifacts.getConfig found.uuid = some found := by
        rw [uuid_of_getConfig hfound, hfound]
      obtain ⟨hkeys, hconfigs⟩ := store.add_effect env.webSubTopicUpdater found
      have hadded := configsFrom_of_write hrow rfl hconfigs
      split at hsync
      next added hadd =>
        cases hsync
        rw [hadd] at hkeys hadded
        exact ⟨hkeys, hadded, .inr hfound⟩
      next refused err hadd =>
        cases hsync
        rw [hadd] at hkeys hadded
        obtain ⟨hkeys', hconfigs'⟩ := refused.update_effect env.webSubTopicUpdater cfg
        exact ⟨hkeys'.trans hkeys, hadded.trans (configsFrom_of_write hrow rfl hconfigs'),
          .inr hfound⟩

theorem sync_eq_none_iff :
    syncAPIConfigForAPIKeyEvent env gateway store apiID = none ↔
      store.configs.lookup apiID = none ∧ gateway.artifacts.getConfig apiID = none := by
  unfold syncAPIConfigForAPIKeyEvent ConfigStore.get
  cases store.configs.lookup apiID with
  | some cfg => simp
  | none =>
    cases gateway.artifacts.getConfig apiID with
    | none => simp
    | some cfg =>
      rcases hadd : store.add env.webSubTopicUpdater cfg with ⟨added, _ | err⟩ <;> simp [hadd]

theorem isSome_of_sync (hsync : syncAPIConfigForAPIKeyEvent env gateway store apiID =
      some (synced, cfg))
    (hadmits : store.configs.lookup apiID = none → ∀ row ∈ gateway.artifacts.getConfig apiID,
      store.Admits env.webSubTopicUpdater row) : (synced.configs.lookup apiID).isSome := by
  obtain ⟨_, hfrom, hfound⟩ := sync_effect hsync
  cases hstore : store.configs.lookup apiID with
  | some known => exact hfrom.isSome (by rw [hstore]; rfl)
  | none =>
    rw [hstore] at hfound
    have hrow : gateway.artifacts.getConfig apiID = some cfg := by
      rcases hfound with hnone | hrow
      · cases hnone
      · exact hrow
    have huuid := uuid_of_getConfig hrow
    obtain ⟨hconfigs, herror⟩ :=
      ConfigStore.add_of_admits (hadmits hstore cfg hrow) (by rw [huuid, hstore])
    rcases hadd : store.add env.webSubTopicUpdater cfg with ⟨added, failure⟩
    rw [hadd] at hconfigs herror
    cases herror
    simp only [syncAPIConfigForAPIKeyEvent, ConfigStore.get, hstore, hrow, hadd,
      Option.some.injEq, Prod.mk.injEq] at hsync
    rw [← hsync.1, hconfigs, huuid]
    simp

end Memory

/-! ## Handling one event -/

section Handling

variable {env : Environment} {owner : String → KeyID} {gateway : Gateway} {event : Event}
  {id : KeyID} {round : Nat}

def RemovedLater (owner : String → KeyID) (gateway : Gateway) (id : KeyID) : Prop :=
  ∃ later ∈ gateway.queue, Removes owner id later

def Repairs (owner : String → KeyID) (gateway : Gateway) (event : Event) (id : KeyID)
    (after : Option APIKey) : Prop :=
  match gateway.wanted id with
  | some row =>
    (Adds id (some row) event → after = some row) ∧
      (¬ Removes owner id event → after = gateway.apiKeyStore.entry id ∨ after = some row)
  | none =>
    (¬ Removes owner id event ∧ after = gateway.apiKeyStore.entry id) ∨ after = none ∨
      RemovedLater owner gateway id

theorem Repairs.covered {after : Option APIKey} (hrepairs : Repairs owner gateway event id after)
    (hcovered : Covered (Adds id (gateway.wanted id)) (Removes owner id) (gateway.wanted id)
      (gateway.apiKeyStore.entry id) (event :: gateway.queue)) :
    Covered (Adds id (gateway.wanted id)) (Removes owner id) (gateway.wanted id) after
      gateway.queue := by
  unfold Repairs at hrepairs
  cases hwanted : gateway.wanted id with
  | some row =>
    rw [hwanted] at hrepairs hcovered
    exact covered_some_of_handled hcovered hrepairs.1 hrepairs.2
  | none =>
    rw [hwanted] at hrepairs hcovered
    refine covered_none_of_handled hcovered (fun hremoves => ?_) (fun _ => ?_)
    · exact hrepairs.resolve_left fun hkept => hkept.1 hremoves
    · exact hrepairs.imp_left And.right

section

variable (hbefore : Consistent owner { gateway with queue := event :: gateway.queue })
include hbefore

theorem Consistent.handled {store : ConfigStore}
    (hconfigs : ∀ id cfg, store.configs.lookup id = some cfg →
      cfg.uuid = id ∧ cfg.displayName ≠ "") (hkeys : store.KeysPlaced owner)
    (hcoherent : keyStore.Coherent owner)
    (hdeployed : ∀ id : KeyID, SeparatorFree id.artifactUUID → (keyStore.entry id).isSome →
      (store.configs.lookup id.artifactUUID).isSome)
    (hundeployed : ∀ apiId, (store.configs.lookup apiId).isSome →
      gateway.artifacts.getConfig apiId = none →
      (gateway.store.configs.lookup apiId).isSome ∧ event ≠ ⟨.api, .delete, apiId⟩)
    (hrepairs : ∀ id : KeyID, SeparatorFree id.artifactUUID →
      Repairs owner gateway event id (keyStore.entry id)) :
    Consistent owner { gateway with store := store, apiKeyStore := keyStore } where
  rows := hbefore.rows
  artifacts := hbefore.artifacts
  configs := hconfigs
  keys := hkeys
  coherent := hcoherent
  deployed := hdeployed
  undeployed := by
    intro apiId hconfig hnone
    obtain ⟨hknown, hother⟩ := hundeployed apiId hconfig hnone
    rcases List.mem_cons.mp (hbefore.undeployed apiId hknown hnone) with hevent | hqueued
    · exact absurd hevent.symm hother
    · exact hqueued
  covered := fun id hfree => (hrepairs id hfree).covered (hbefore.covered id hfree)

theorem Consistent.handled_of_configsFrom {store : ConfigStore}
    (hevent : ∀ apiId, event ≠ ⟨.api, .delete, apiId⟩)
    (hfrom : ConfigsFrom gateway.artifacts gateway.store store) (hkeys : store.KeysPlaced owner)
    (hcoherent : keyStore.Coherent owner)
    (hdeployed : ∀ id : KeyID, SeparatorFree id.artifactUUID → (keyStore.entry id).isSome →
      (gateway.apiKeyStore.entry id).isSome ∨ (store.configs.lookup id.artifactUUID).isSome)
    (hrepairs : ∀ id : KeyID, SeparatorFree id.artifactUUID →
      Repairs owner gateway event id (keyStore.entry id)) :
    Consistent owner { gateway with store := store, apiKeyStore := keyStore } := by
  refine hbefore.handled ?_ hkeys hcoherent ?_ ?_ hrepairs
  · intro id cfg hcfg
    rcases hfrom id with hsame | ⟨copy, row, hcopy, hrow, huuid, hname⟩
    · exact hbefore.configs id cfg (hsame ▸ hcfg)
    · cases hcfg.symm.trans hcopy
      rw [huuid, hname]
      exact ⟨uuid_of_getConfig hrow, hbefore.artifacts id row hrow⟩
  · intro id hfree hentry
    rcases hdeployed id hfree hentry with hheld | hconfig
    · exact hfrom.isSome (hbefore.deployed id hfree hheld)
    · exact hconfig
  · intro apiId hconfig hnone
    refine ⟨?_, hevent apiId⟩
    rcases hfrom apiId with hsame | ⟨_, row, _, hrow, _⟩
    · exact hsame ▸ hconfig
    · cases hnone.symm.trans hrow

theorem removedLater_of_undeployed (hevent : event ≠ ⟨.api, .delete, id.artifactUUID⟩)
    (hconfig : (gateway.store.configs.lookup id.artifactUUID).isSome)
    (hnone : gateway.artifacts.getConfig id.artifactUUID = none) :
    RemovedLater owner gateway id := by
  rcases List.mem_cons.mp (hbefore.undeployed id.artifactUUID hconfig hnone) with hsame | hqueued
  · exact absurd hsame.symm hevent
  · exact ⟨_, hqueued, rfl, rfl⟩

end

theorem repairs_of_unchanged (hkeeps : ¬ Removes owner id event)
    (hadds : ∀ row, gateway.wanted id = some row → ¬ Adds id (some row) event) :
    Repairs owner gateway event id (gateway.apiKeyStore.entry id) := by
  unfold Repairs
  cases hwanted : gateway.wanted id with
  | some row => exact ⟨fun hadd => absurd hadd (hadds row hwanted), fun _ => .inl rfl⟩
  | none => exact .inl ⟨hkeeps, rfl⟩

theorem repairs_of_stored {row : APIKey} (hrow : row ∈ gateway.keys.rows) (hid : row.id = id)
    (hunwanted : gateway.wanted id = none → RemovedLater owner gateway id) :
    Repairs owner gateway event id (some row) := by
  unfold Repairs
  cases hwanted : gateway.wanted id with
  | some wanted =>
    obtain ⟨hmem, hwantedID, _⟩ := wanted_eq_some_iff.mp hwanted
    have hsame : row = wanted := eq_of_id_eq hrow hmem (hid.trans hwantedID.symm)
    rw [hsame]
    exact ⟨fun _ => rfl, fun _ => .inr rfl⟩
  | none => exact .inr (.inr (hunwanted hwanted))

theorem settled_of_unwanted {row : APIKey} (hrow : row ∈ gateway.keys.rows) (hid : row.id = id)
    (hsettled : Settled owner gateway row) (hwanted : gateway.wanted id = none) :
    RemovedLater owner gateway id ∨ gateway.artifacts.getConfig id.artifactUUID = none := by
  rcases hsettled with hactive | hlater
  · right
    by_contra hconfig
    have hsome : gateway.wanted id = some row :=
      wanted_eq_some_iff.mpr ⟨hrow, hid, hactive, Option.isSome_iff_ne_none.mpr hconfig⟩
    rw [hwanted] at hsome
    cases hsome
  · exact .inl (hid ▸ hlater)

/-! ### Key events -/

theorem eq_of_adds_key {row : APIKey} {apiID : String}
    (hparse : parseAPIKeyEntityID event.entityID = some (apiID, keyID))
    (hfound : gateway.keys.getAPIKeyByID keyID = some apiKey)
    (hwanted : gateway.wanted id = some row)
    (hadds : parseAPIKeyEntityID event.entityID = some (id.artifactUUID, row.uuid)) :
    row = apiKey := by
  cases hparse.symm.trans hadds
  have hmem := (wanted_eq_some_iff.mp hwanted).1
  exact Option.some.inj ((getAPIKeyByID_eq_some_iff.mpr ⟨hmem, rfl⟩).symm.trans hfound)

section KeyEvents

variable {apiID : String} (htype : event.eventType = .apiKey)
include htype

theorem not_apiDelete_of_key (apiId : String) : event ≠ ⟨.api, .delete, apiId⟩ := by
  rintro rfl
  cases htype

section Upserts

variable (haction : event.action ≠ .delete)
include haction

theorem adds_key_iff {row : APIKey} :
    Adds id (some row) event ↔
      parseAPIKeyEntityID event.entityID = some (id.artifactUUID, row.uuid) := by
  simp [Adds, htype, haction]

variable (hbefore : Consistent owner { gateway with queue := event :: gateway.queue })
include hbefore

theorem consistent_of_keyStore_unchanged {store : ConfigStore}
    (hfrom : ConfigsFrom gateway.artifacts gateway.store store) (hkeys : store.KeysPlaced owner)
    (hadds : ∀ id row, gateway.wanted id = some row →
      parseAPIKeyEntityID event.entityID ≠ some (id.artifactUUID, row.uuid)) :
    Consistent owner { gateway with store := store } := by
  refine hbefore.handled_of_configsFrom (not_apiDelete_of_key htype) hfrom hkeys hbefore.coherent
    (fun _ _ hentry => .inl hentry) fun id _ => ?_
  refine repairs_of_unchanged (not_removes_of_action haction) fun row hwanted hadd => ?_
  exact hadds id row hwanted ((adds_key_iff htype haction).mp hadd)

theorem consistent_of_keyStored {store : ConfigStore}
    (hparse : parseAPIKeyEntityID event.entityID = some (apiID, keyID))
    (hfound : gateway.keys.getAPIKeyByID keyID = some apiKey)
    (hfrom : ConfigsFrom gateway.artifacts gateway.store store) (hkeys : store.KeysPlaced owner)
    (hconfig : (store.configs.lookup apiKey.artifactUUID).isSome)
    (hsettled : Settled owner gateway apiKey) :
    Consistent owner { gateway with
      store := store
      apiKeyStore := gateway.apiKeyStore.store env.iteration round apiKey } := by
  obtain ⟨hrow, huuid⟩ := getAPIKeyByID_eq_some_iff.mp hfound
  have hnamed := hbefore.rows apiKey hrow
  refine hbefore.handled_of_configsFrom (not_apiDelete_of_key htype) hfrom hkeys
    (hbefore.coherent.store hnamed.separatorFree hnamed.owned) ?_ ?_
  · intro id hfree hentry
    rw [APIKeyStore.entry_store hfree hnamed.separatorFree] at hentry
    split at hentry
    next hid => exact .inr (hid ▸ hconfig)
    next => exact .inl hentry
  · intro id hfree
    rw [APIKeyStore.entry_store hfree hnamed.separatorFree]
    split
    next hid =>
      refine repairs_of_stored hrow hid.symm fun hwanted => ?_
      rcases settled_of_unwanted hrow hid.symm hsettled hwanted with hlater | hdeleted
      · exact hlater
      · -- the API is only in memory, so its deletion still waits
        refine removedLater_of_undeployed hbefore (not_apiDelete_of_key htype _) ?_ hdeleted
        rcases hfrom id.artifactUUID with hsame | ⟨_, row, _, hrow, _⟩
        · rw [← hsame, hid]
          exact hconfig
        · cases hdeleted.symm.trans hrow
    next hid =>
      refine repairs_of_unchanged (not_removes_of_action haction) fun row hwanted hadd => ?_
      have hsame := eq_of_adds_key hparse hfound hwanted ((adds_key_iff htype haction).mp hadd)
      exact hid ((wanted_eq_some_iff.mp hwanted).2.1.symm.trans (congrArg _ hsame))

theorem consistent_handleAPIKeyUpsert
    (hhandles : ∀ parsed ∈ parseAPIKeyEntityID event.entityID,
      ∀ row ∈ gateway.keys.getAPIKeyByID parsed.2,
        gateway.store.AdmitsKey row ∧ Settled owner gateway row ∧
          (gateway.store.configs.lookup row.artifactUUID = none →
            ∀ cfg ∈ gateway.artifacts.getConfig row.artifactUUID,
              gateway.store.Admits env.webSubTopicUpdater cfg)) :
    Consistent owner (handleAPIKeyUpsert env round gateway event) := by
  unfold handleAPIKeyUpsert
  split
  next hparse =>
    exact consistent_of_keyStore_unchanged htype haction hbefore (configsFrom_of_eq rfl)
      hbefore.keys fun id row _ hsome => by simp [hparse] at hsome
  next apiID keyID hparse =>
    split
    next hmissing =>
      refine consistent_of_keyStore_unchanged htype haction hbefore (configsFrom_of_eq rfl)
        hbefore.keys fun id row hwanted hsome => ?_
      cases hparse.symm.trans hsome
      have hrow := (wanted_eq_some_iff.mp hwanted).1
      cases hmissing.symm.trans (getAPIKeyByID_eq_some_iff.mpr ⟨hrow, rfl⟩)
    next apiKey hfound =>
      obtain ⟨hadmitsKey, hsettled, hadmits⟩ := hhandles _ hparse apiKey hfound
      have hnamed := hbefore.rows apiKey (getAPIKeyByID_eq_some_iff.mp hfound).1
      obtain ⟨store, hstored⟩ := ConfigStore.storeAPIKey_of_admits env.iteration round
        hbefore.keys hadmitsKey hnamed.owned
      have hplaced := hbefore.keys.storeAPIKey hstored hnamed.uuid hnamed.owned
        hnamed.separatorFree
      obtain ⟨_, hstore⟩ := ConfigStore.storeAPIKey_effect hstored
      rw [hstored]
      dsimp only
      split
      next hnone =>
        obtain ⟨_, hdeleted⟩ := sync_eq_none_iff.mp hnone
        refine consistent_of_keyStore_unchanged htype haction hbefore
          (configsFrom_of_eq (by rw [hstore])) hplaced fun id row hwanted hadds => ?_
        obtain ⟨_, hid, _, hconfig⟩ := wanted_eq_some_iff.mp hwanted
        rw [← hid, eq_of_adds_key hparse hfound hwanted hadds] at hconfig
        rw [show apiKey.id.artifactUUID = apiKey.artifactUUID from rfl, hdeleted] at hconfig
        cases hconfig
      next synced cfg hsync =>
        obtain ⟨hkeys, hfrom, _⟩ := sync_effect hsync
        have hfrom : ConfigsFrom gateway.artifacts gateway.store synced :=
          ConfigsFrom.trans (configsFrom_of_eq (by rw [hstore])) hfrom
        refine consistent_of_keyStored htype haction hbefore hparse hfound hfrom ?_ ?_ hsettled
        · intro apiId uuid key hkey
          exact hplaced apiId uuid key (hkeys ▸ hkey)
        · refine isSome_of_sync hsync fun hlookup row hrow => ?_
          rw [hstore] at hlookup ⊢
          exact hadmits hlookup row hrow

end Upserts

section Revocations

variable (haction : event.action = .delete)
include haction

theorem removes_key_iff :
    Removes owner id event ↔
      ∃ parsed ∈ parseAPIKeyEntityID event.entityID,
        parsed.1 = id.artifactUUID ∧ owner parsed.2 = id := by
  simp [Removes, htype, haction]

theorem repairs_of_revocation {after : Option APIKey}
    (hparse : parseAPIKeyEntityID event.entityID = some (apiID, keyID))
    (hother : ¬ (apiID = id.artifactUUID ∧ owner keyID = id) →
      after = gateway.apiKeyStore.entry id)
    (hown : apiID = id.artifactUUID → owner keyID = id → gateway.wanted id = none →
      after = none ∨ RemovedLater owner gateway id) : Repairs owner gateway event id after := by
  have hremoves : Removes owner id event ↔ apiID = id.artifactUUID ∧ owner keyID = id := by
    rw [removes_key_iff htype haction, hparse]
    simp
  unfold Repairs
  cases hwanted : gateway.wanted id with
  | some row =>
    refine ⟨fun hadds => absurd haction hadds.1, fun hkeeps => .inl (hother ?_)⟩
    exact mt hremoves.mpr hkeeps
  | none =>
    by_cases hown' : apiID = id.artifactUUID ∧ owner keyID = id
    · exact .inr (hown hown'.1 hown'.2 hwanted)
    · exact .inl ⟨mt hremoves.mp hown', hother hown'⟩

variable (hbefore : Consistent owner { gateway with queue := event :: gateway.queue })
include hbefore

omit haction in
/-- A key that is still held, though the database has no active row for it and
memory lacks it, has an API whose deletion waits. -/
theorem none_or_removedLater
    (hfree : SeparatorFree id.artifactUUID) (howner : owner keyID = id)
    (hwanted : gateway.wanted id = none)
    (hhandles : (gateway.apiKeyStore.entry (owner keyID)).isSome →
      (∀ row ∈ gateway.keys.rowAt (owner keyID), row.status ≠ .active) →
      (lookupIn gateway.store.apiKeysByAPI apiID keyID).isSome)
    (hmissing : lookupIn gateway.store.apiKeysByAPI apiID keyID = none) :
    gateway.apiKeyStore.entry id = none ∨ RemovedLater owner gateway id := by
  cases hentry : gateway.apiKeyStore.entry id with
  | none => exact .inl rfl
  | some held =>
    right
    by_cases hdeleted : gateway.artifacts.getConfig id.artifactUUID = none
    · exact removedLater_of_undeployed hbefore (not_apiDelete_of_key htype _)
        (hbefore.deployed id hfree (by simp [hentry])) hdeleted
    · have hinactive : ∀ row ∈ gateway.keys.rowAt (owner keyID), row.status ≠ .active := by
        intro row hrow hactive
        rw [howner] at hrow
        have hsome := wanted_eq_some_iff.mpr
          ⟨(rowAt_eq_some_iff.mp hrow).1, (rowAt_eq_some_iff.mp hrow).2, hactive,
            Option.isSome_iff_ne_none.mpr hdeleted⟩
        cases hwanted.symm.trans hsome
      have hknown := hhandles (by simp [howner, hentry]) hinactive
      rw [hmissing] at hknown
      cases hknown

theorem consistent_of_keyRevoked {store synced : ConfigStore} {cfg : StoredConfig}
    (hparse : parseAPIKeyEntityID event.entityID = some (apiID, keyID))
    (hkey : lookupIn gateway.store.apiKeysByAPI apiID keyID = some apiKey)
    (hconfigs : store.configs = gateway.store.configs) (hplaced : store.KeysPlaced owner)
    (hsync : syncAPIConfigForAPIKeyEvent env gateway store apiID = some (synced, cfg)) :
    Consistent owner { gateway with
      store := synced
      apiKeyStore := (gateway.apiKeyStore.revoke cfg.uuid apiKey.name).1 } := by
  obtain ⟨_, _, hartifact, howner, hfreeID⟩ := hbefore.keys _ _ _ hkey
  obtain ⟨hkeys, hfrom, hcfg⟩ := sync_effect hsync
  have huuid : cfg.uuid = apiID := by
    rcases hcfg with hmemory | htable
    · rw [hconfigs] at hmemory
      exact (hbefore.configs _ _ hmemory).1
    · exact uuid_of_getConfig htable
  have hid : (⟨cfg.uuid, apiKey.name⟩ : KeyID) = owner keyID := by
    rw [howner, huuid, ← hartifact]
    rfl
  have hentry (id : KeyID) (hfree : SeparatorFree id.artifactUUID) :
      (gateway.apiKeyStore.revoke cfg.uuid apiKey.name).1.entry id =
        if id = owner keyID then none else gateway.apiKeyStore.entry id := by
    rw [APIKeyStore.entry_revoke hfree (huuid ▸ hfreeID), hid]
  refine hbefore.handled_of_configsFrom (not_apiDelete_of_key htype)
    (ConfigsFrom.trans (configsFrom_of_eq hconfigs) hfrom) ?_ hbefore.coherent.revoke ?_ ?_
  · intro apiId uuid key hlookup
    exact hplaced apiId uuid key (hkeys ▸ hlookup)
  · intro id hfree hsome
    rw [hentry id hfree] at hsome
    split at hsome
    · cases hsome
    · exact .inl hsome
  · intro id hfree
    rw [hentry id hfree]
    refine repairs_of_revocation htype haction hparse (fun hother => ?_) ?_
    · refine if_neg fun hsame => hother ⟨?_, hsame.symm⟩
      rw [hsame, howner, ← hartifact]
      rfl
    · intro _ hsame _
      exact .inl (if_pos hsame.symm)

theorem consistent_handleAPIKeyRevoke (hhandles : ∀ parsed ∈ parseAPIKeyEntityID event.entityID,
      (gateway.apiKeyStore.entry (owner parsed.2)).isSome →
      (∀ row ∈ gateway.keys.rowAt (owner parsed.2), row.status ≠ .active) →
      (lookupIn gateway.store.apiKeysByAPI parsed.1 parsed.2).isSome) :
    Consistent owner (handleAPIKeyRevoke env gateway event) := by
  have hevent := not_apiDelete_of_key htype
  unfold handleAPIKeyRevoke
  split
  next hparse =>
    refine hbefore.handled_of_configsFrom hevent (configsFrom_of_eq rfl) hbefore.keys
      hbefore.coherent (fun _ _ hentry => .inl hentry) fun id _ => ?_
    refine repairs_of_unchanged ?_ fun row _ hadds => hadds.1 haction
    rw [removes_key_iff htype haction, hparse]
    simp
  next apiID keyID hparse =>
    have hplaced := hbefore.keys.removeAPIKeyByID apiID keyID
    have hconfigs := gateway.store.removeAPIKeyByID_configs apiID keyID
    unfold ConfigStore.getAPIKeyByID
    cases hkey : lookupIn gateway.store.apiKeysByAPI apiID keyID with
    | none =>
      refine hbefore.handled_of_configsFrom hevent (configsFrom_of_eq hconfigs) hplaced
        hbefore.coherent (fun _ _ hentry => .inl hentry) fun id hfree => ?_
      refine repairs_of_revocation htype haction hparse (fun _ => rfl) ?_
      intro _ howner hwanted
      exact none_or_removedLater htype hbefore hfree howner hwanted (hhandles _ hparse) hkey
    | some apiKey =>
      dsimp only
      rw [if_neg (hbefore.keys _ _ _ hkey).2.1]
      split
      next hnone =>
        obtain ⟨hlookup, _⟩ := sync_eq_none_iff.mp hnone
        refine hbefore.handled_of_configsFrom hevent (configsFrom_of_eq hconfigs) hplaced
          hbefore.coherent (fun _ _ hentry => .inl hentry) fun id hfree => ?_
        refine repairs_of_revocation htype haction hparse (fun _ => rfl) ?_
        intro hapi _ _
        left
        by_contra hentry
        have hknown := hbefore.deployed id hfree (Option.isSome_iff_ne_none.mpr hentry)
        rw [hconfigs, hapi] at hlookup
        rw [hlookup] at hknown
        cases hknown
      next synced cfg hsync =>
        exact consistent_of_keyRevoked htype haction hbefore hparse hkey hconfigs hplaced hsync

end Revocations

end KeyEvents

/-! ### API events -/

theorem storeConfig_of_admits {cfg : StoredConfig}
    (hadmits : gateway.store.Admits env.webSubTopicUpdater cfg) :
    (storeConfig env gateway cfg.uuid cfg).1.configs = gateway.store.configs.insert cfg.uuid cfg ∧
      (storeConfig env gateway cfg.uuid cfg).2 = none := by
  unfold storeConfig ConfigStore.get
  cases hknown : gateway.store.configs.lookup cfg.uuid with
  | none => exact ConfigStore.add_of_admits hadmits hknown
  | some existing => exact ConfigStore.update_of_admits hadmits (by rw [hknown]; rfl)

theorem storeConfig_apiKeysByAPI (env : Environment) (gateway : Gateway) (entityID : String)
    (cfg : StoredConfig) :
    (storeConfig env gateway entityID cfg).1.apiKeysByAPI = gateway.store.apiKeysByAPI := by
  unfold storeConfig
  split
  · exact (gateway.store.update_effect env.webSubTopicUpdater cfg).1
  · exact (gateway.store.add_effect env.webSubTopicUpdater cfg).1

theorem renderSpec_keeps {cfg : StoredConfig} (hrendered : renderSpec env cfg = some rendered) :
    rendered.uuid = cfg.uuid ∧ rendered.displayName = cfg.displayName := by
  obtain ⟨output, _, rfl⟩ := Option.map_eq_some_iff.mp hrendered
  exact ⟨rfl, rfl⟩

theorem mem_getAPIKeysByAPI_iff {key : APIKey} {apiId : String} :
    key ∈ gateway.keys.getAPIKeysByAPI apiId ↔
      key ∈ gateway.keys.rows ∧ key.artifactUUID = apiId := by
  simp [KeyTable.getAPIKeysByAPI]

section APIEvents

variable (htype : event.eventType = .api)
include htype

section Updates

variable (haction : event.action ≠ .delete)
include haction

omit htype in
theorem not_apiDelete_of_action (apiId : String) : event ≠ ⟨.api, .delete, apiId⟩ := by
  rintro rfl
  exact haction rfl

theorem adds_api_iff {wanted : Option APIKey} :
    Adds id wanted event ↔ event.entityID = id.artifactUUID := by
  simp [Adds, htype, haction]

variable (hbefore : Consistent owner { gateway with queue := event :: gateway.queue })
include hbefore

theorem consistent_of_apiSynced {store : ConfigStore} {cfg : StoredConfig}
    (hcfg : gateway.artifacts.getConfig event.entityID = some cfg)
    (hrendered : renderSpec env cfg = some rendered)
    (hconfigs : store.configs = gateway.store.configs.insert rendered.uuid rendered)
    (hkeys : store.apiKeysByAPI = gateway.store.apiKeysByAPI)
    (hsettled : ∀ row ∈ gateway.keys.getAPIKeysByAPI cfg.uuid, Settled owner gateway row) :
    Consistent owner { gateway with
      store := store
      apiKeyStore := syncAPIKeysForAPI env round gateway rendered } := by
  obtain ⟨huuid, hname⟩ := renderSpec_keeps hrendered
  have hcfgUUID : cfg.uuid = event.entityID := uuid_of_getConfig hcfg
  have hsync : syncAPIKeysForAPI env round gateway rendered =
      gateway.apiKeyStore.storeAll env.iteration round
        (gateway.keys.getAPIKeysByAPI cfg.uuid) := by
    rw [syncAPIKeysForAPI, hname, if_neg (hbefore.artifacts _ cfg hcfg), huuid]
  have hrow : gateway.artifacts.getConfig rendered.uuid = some cfg := by
    rw [huuid, hcfgUUID, hcfg]
  have hnamed : ∀ key ∈ gateway.keys.getAPIKeysByAPI cfg.uuid, WellNamed owner key :=
    fun key hkey => hbefore.rows key (mem_getAPIKeysByAPI_iff.mp hkey).1
  have hentry (id : KeyID) (hfree : SeparatorFree id.artifactUUID) :=
    gateway.apiKeyStore.entry_storeAll env.iteration round hfree
      fun key hkey => (hnamed key hkey).separatorFree
  rw [hsync]
  refine hbefore.handled_of_configsFrom (not_apiDelete_of_action haction)
    (configsFrom_of_write hrow hname (.inr hconfigs)) ?_ ?_ ?_ ?_
  · intro apiId uuid key hlookup
    exact hbefore.keys apiId uuid key (hkeys ▸ hlookup)
  · exact hbefore.coherent.storeAll fun key hkey =>
      ⟨(hnamed key hkey).separatorFree, (hnamed key hkey).owned⟩
  · intro id hfree hsome
    rcases hentry id hfree with ⟨key, hkey, hid, _⟩ | ⟨_, hsame⟩
    · right
      have hartifact : rendered.uuid = id.artifactUUID := by
        rw [huuid, ← (mem_getAPIKeysByAPI_iff.mp hkey).2, ← hid]
        rfl
      rw [hconfigs, hartifact]
      simp
    · exact .inl (hsame ▸ hsome)
  · intro id hfree
    rcases hentry id hfree with ⟨key, hkey, hid, hstored⟩ | ⟨habsent, hsame⟩
    · rw [hstored]
      obtain ⟨hmem, hartifact⟩ := mem_getAPIKeysByAPI_iff.mp hkey
      refine repairs_of_stored hmem hid fun hwanted => ?_
      rcases settled_of_unwanted hmem hid (hsettled key hkey) hwanted with hlater | hdeleted
      · exact hlater
      · rw [← hid, show key.id.artifactUUID = event.entityID from hartifact.trans hcfgUUID,
          hcfg] at hdeleted
        cases hdeleted
    · rw [hsame]
      refine repairs_of_unchanged (not_removes_of_action haction) fun row hwanted hadds => ?_
      obtain ⟨hmem, hid, _⟩ := wanted_eq_some_iff.mp hwanted
      refine habsent row (mem_getAPIKeysByAPI_iff.mpr ⟨hmem, ?_⟩) hid
      rw [hcfgUUID, (adds_api_iff htype haction).mp hadds, ← hid]
      rfl

theorem consistent_handleAPICreateOrUpdate
    (hhandles : ∀ cfg ∈ gateway.artifacts.getConfig event.entityID,
      (∃ rendered ∈ renderSpec env cfg, gateway.store.Admits env.webSubTopicUpdater rendered) ∧
        ∀ row ∈ gateway.keys.getAPIKeysByAPI cfg.uuid, Settled owner gateway row) :
    Consistent owner (handleAPICreateOrUpdate env round gateway event) := by
  unfold handleAPICreateOrUpdate
  cases hcfg : gateway.artifacts.getConfig event.entityID with
  | none =>
    refine hbefore.handled_of_configsFrom (not_apiDelete_of_action haction)
      (configsFrom_of_eq rfl) hbefore.keys hbefore.coherent (fun _ _ hentry => .inl hentry)
      fun id _ => ?_
    refine repairs_of_unchanged (not_removes_of_action haction) fun row hwanted hadds => ?_
    have hconfig := (wanted_eq_some_iff.mp hwanted).2.2.2
    rw [← (adds_api_iff htype haction).mp hadds, hcfg] at hconfig
    cases hconfig
  | some cfg =>
    obtain ⟨⟨rendered, hrendered, hadmits⟩, hsettled⟩ := hhandles cfg hcfg
    have huuid : rendered.uuid = event.entityID :=
      (renderSpec_keeps hrendered).1.trans (uuid_of_getConfig hcfg)
    obtain ⟨hconfigs, herror⟩ := storeConfig_of_admits hadmits
    have hkeys := storeConfig_apiKeysByAPI env gateway rendered.uuid rendered
    have hrendered' : renderSpec env cfg = some rendered := hrendered
    rw [Option.bind_some, hrendered', ← huuid]
    dsimp only
    rcases hstored : storeConfig env gateway rendered.uuid rendered with ⟨store, failure⟩
    rw [hstored] at hconfigs herror hkeys
    cases herror
    exact consistent_of_apiSynced htype haction hbefore hcfg hrendered hconfigs hkeys hsettled

end Updates

theorem consistent_handleAPIDelete (haction : event.action = .delete)
    (hbefore : Consistent owner { gateway with queue := event :: gateway.queue }) :
    Consistent owner (handleAPIDelete gateway event) := by
  have hremoves (id : KeyID) : Removes owner id event ↔ event.entityID = id.artifactUUID := by
    simp [Removes, htype, haction]
  have hlookup (apiId : String) :
      ((gateway.store.delete event.entityID).1.removeAPIKeysByAPI event.entityID).configs.lookup
        apiId = if apiId = event.entityID then none else gateway.store.configs.lookup apiId :=
    ConfigStore.lookup_delete event.entityID apiId
  have hplaced : ((gateway.store.delete event.entityID).1.removeAPIKeysByAPI
      event.entityID).KeysPlaced owner := by
    refine ConfigStore.KeysPlaced.removeAPIKeysByAPI ?_ event.entityID
    intro apiId uuid key hkey
    rw [ConfigStore.delete_apiKeysByAPI] at hkey
    exact hbefore.keys apiId uuid key hkey
  -- the store without the API, with a key store that has none of its keys
  have hdone {keyStore : APIKeyStore} (hcoherent : keyStore.Coherent owner)
      (hentry : ∀ id : KeyID, SeparatorFree id.artifactUUID → keyStore.entry id =
        if id.artifactUUID = event.entityID then none else gateway.apiKeyStore.entry id) :
      Consistent owner { gateway with
        store := (gateway.store.delete event.entityID).1.removeAPIKeysByAPI event.entityID
        apiKeyStore := keyStore } := by
    refine hbefore.handled ?_ hplaced hcoherent ?_ ?_ ?_
    · intro id cfg hcfg
      rw [hlookup] at hcfg
      split at hcfg
      · cases hcfg
      · exact hbefore.configs id cfg hcfg
    · intro id hfree hsome
      rw [hentry id hfree] at hsome
      split at hsome
      · cases hsome
      next hother =>
        rw [hlookup, if_neg hother]
        exact hbefore.deployed id hfree hsome
    · intro apiId hsome _
      rw [hlookup] at hsome
      split at hsome
      · cases hsome
      next hother =>
        refine ⟨hsome, fun hsame => hother ?_⟩
        exact (congrArg Event.entityID hsame).symm
    · intro id hfree
      rw [hentry id hfree]
      unfold Repairs
      split
      · refine ⟨fun hadds => absurd haction hadds.1, fun hkeeps => .inl (if_neg fun hsame => ?_)⟩
        exact hkeeps ((hremoves id).mpr hsame.symm)
      · by_cases hsame : id.artifactUUID = event.entityID
        · exact .inr (.inl (if_pos hsame))
        · exact .inl ⟨fun hremoved => hsame ((hremoves id).mp hremoved).symm, if_neg hsame⟩
  unfold handleAPIDelete ConfigStore.get
  cases hknown : gateway.store.configs.lookup event.entityID with
  | none =>
    refine hdone hbefore.coherent fun id hfree => ?_
    split
    next hsame =>
      -- a key of the API would have its configuration in memory
      by_contra hentry
      have hconfig := hbefore.deployed id hfree (Option.isSome_iff_ne_none.mpr hentry)
      rw [hsame, hknown] at hconfig
      cases hconfig
    next => rfl
  | some existing =>
    dsimp only
    rw [if_neg (hbefore.configs _ existing hknown).2]
    exact hdone hbefore.coherent.removeByAPI fun id hfree =>
      APIKeyStore.entry_removeByAPI hbefore.coherent hfree

end APIEvents

theorem consistent_step {input : Step} (hconsistent : Consistent owner gateway)
    (hallowed : Allowed env owner gateway input) : Consistent owner (step env gateway input) := by
  cases input with
  | change change => exact consistent_apply hconsistent hallowed
  | process round =>
    unfold step
    unfold Allowed at hallowed
    cases hqueue : gateway.queue with
    | nil => exact hconsistent
    | cons event rest =>
      rw [hqueue] at hallowed
      have hbefore : Consistent owner
          { { gateway with queue := rest } with queue := event :: rest } := by
        rw [← hqueue]
        exact hconsistent
      dsimp only at hallowed ⊢
      unfold Handles at hallowed
      unfold processEvent
      cases htype : event.eventType with
      | api =>
        cases haction : event.action with
        | delete => exact consistent_handleAPIDelete htype haction hbefore
        | create | update =>
          rw [htype, haction] at hallowed
          exact consistent_handleAPICreateOrUpdate htype (by simp [haction]) hbefore hallowed
      | apiKey =>
        cases haction : event.action with
        | delete =>
          rw [htype, haction] at hallowed
          exact consistent_handleAPIKeyRevoke htype haction hbefore hallowed
        | create | update =>
          rw [htype, haction] at hallowed
          exact consistent_handleAPIKeyUpsert htype (by simp [haction]) hbefore hallowed

end Handling

/-! ## Runs -/

/-- In every run whose steps meet the condition, whenever no event is left the
xDS store has exactly the active keys of the APIs in the database. -/
theorem xds_keys_follow_database {env : Environment} (owner : String → KeyID) {steps : List Step}
    (hconforms : Conforms (step env) (Allowed env owner) .initial steps)
    (hdone : (run (step env) .initial steps).queue = []) :
    (run (step env) .initial steps).InSync := by
  have hconsistent : Consistent owner (run (step env) .initial steps) :=
    Conforms.invariant (fun _ _ => consistent_step) consistent_initial hconforms
  exact hconsistent.inSync hdone

/-! ### Two runs -/

def plainEnvironment : Environment where
  render := fun configuration => some (configuration, [])
  webSubTopicUpdater := fun _ => none
  iteration := storedOrder String

def petsSpec : RestAPI where
  labels := none
  annotations := none
  spec :=
    { displayName := "Pets"
      version := "v1"
      context := "/pets"
      vhosts := none
      upstreamMain := { url := some "http://backend", ref := none, hostRewrite := none }
      upstreamSandbox := none
      upstreamDefinitions := []
      policies := []
      resilience := none
      operations := [] }

def petsAPI : StoredConfig where
  uuid := "pets"
  kind := "RestApi"
  handle := "pets"
  displayName := "Pets"
  version := "v1"
  configuration := .restAPI petsSpec
  sourceConfiguration := .restAPI petsSpec
  desiredState := .deployed
  sensitiveValues := []

def petsKey (name : String) : APIKey where
  uuid := name
  name := name
  apiKey := name
  maskedAPIKey := "***"
  artifactUUID := "pets"
  status := .active
  createdAt := 0
  createdBy := "alice"
  updatedAt := 0
  expiresAt := none
  source := "local"
  externalRefId := none
  issuer := none

def followedRun : List Step :=
  [.change (.upsertAPI petsAPI), .process 0, .change (.createKey (petsKey "mobile")), .process 0,
    .change (.createKey (petsKey "web")), .process 0, .change (.revokeKey "pets" "mobile" 1),
    .process 0, .change (.removeKey "pets" "mobile"), .change (.upsertAPI petsAPI), .process 0]

theorem petsKey_web_follows_database :
    (run (step plainEnvironment) .initial followedRun).InSync ∧
      petsKey "web" ∈ (run (step plainEnvironment) .initial followedRun).apiKeyStore.getAll :=
  ⟨xds_keys_follow_database (fun uuid => ⟨"pets", uuid⟩) (by decide +kernel) (by decide +kernel),
    by decide +kernel⟩

/-- The API's event brings the key to the xDS store only.  The key is revoked
before its own event is handled, so memory never learns its name and the
revocation skips the xDS store. -/
def revokedRun : List Step :=
  [.change (.upsertAPI petsAPI), .change (.createKey (petsKey "mobile")), .process 0,
    .change (.revokeKey "pets" "mobile" 1), .change (.removeKey "pets" "mobile"), .process 0,
    .process 0]

theorem revoked_key_stays :
    (run (step plainEnvironment) .initial revokedRun).queue = [] ∧
      (run (step plainEnvironment) .initial revokedRun).keys.rows = [] ∧
      ¬ (run (step plainEnvironment) .initial revokedRun).InSync := by
  refine ⟨by decide +kernel, by decide +kernel, fun hsync => ?_⟩
  have hheld : petsKey "mobile" ∈
      (run (step plainEnvironment) .initial revokedRun).apiKeyStore.getAll := by decide +kernel
  exact absurd ((hsync _).mp hheld).1 (by decide +kernel)

end ApiPlatform.Controller.EventListener
