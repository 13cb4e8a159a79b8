import ApiPlatform.Controller.EventListener.Listener
import ApiPlatform.Foundation.Replica
import ApiPlatform.Foundation.Runs

/-!
# Pending events

What the xDS store should have, which events add a key and which remove it, and
the invariant: every difference between the database and the xDS store is covered
by an event that still waits.  A change of the database keeps the invariant.
-/

namespace ApiPlatform.Controller.EventListener

open Foundation Gateway
open Controller.ApiKeys
open Controller.Storage

variable {keys : KeyTable} {event : Event} {apiId name : String}

namespace Gateway

def wanted (gateway : Gateway) (id : KeyID) : Option APIKey :=
  if (gateway.artifacts.getConfig id.artifactUUID).isSome then
    (gateway.keys.rowAt id).filter (·.status == .active)
  else none

/-- The xDS store has exactly the active keys of the APIs in the database. -/
def InSync (gateway : Gateway) : Prop :=
  ∀ key, key ∈ gateway.apiKeyStore.getAll ↔
    key ∈ gateway.keys.rows ∧ key.status = .active ∧
      (gateway.artifacts.getConfig key.artifactUUID).isSome

end Gateway

/-! ## Events that add and events that remove -/

def Adds (id : KeyID) (wanted : Option APIKey) (event : Event) : Prop :=
  event.action ≠ .delete ∧
    match event.eventType with
    | .api => event.entityID = id.artifactUUID
    | .apiKey =>
      ∃ row ∈ wanted, parseAPIKeyEntityID event.entityID = some (id.artifactUUID, row.uuid)

def Removes (owner : String → KeyID) (id : KeyID) (event : Event) : Prop :=
  event.action = .delete ∧
    match event.eventType with
    | .api => event.entityID = id.artifactUUID
    | .apiKey =>
      ∃ parsed ∈ parseAPIKeyEntityID event.entityID,
        parsed.1 = id.artifactUUID ∧ owner parsed.2 = id

instance (owner : String → KeyID) (id : KeyID) (event : Event) :
    Decidable (Removes owner id event) :=
  match event with
  | ⟨.api, _, _⟩ => inferInstanceAs (Decidable (_ ∧ _ = _))
  | ⟨.apiKey, _, _⟩ => inferInstanceAs (Decidable (_ ∧ ∃ parsed ∈ _, _))

/-! ## The condition -/

/-- A UUID stands for one key, and the separators of the composite texts do not
occur in the identifiers. -/
structure WellNamed (owner : String → KeyID) (key : APIKey) : Prop where
  owned : owner key.uuid = key.id
  separatorFree : SeparatorFree key.artifactUUID
  artifact : key.artifactUUID ≠ ""
  uuid : key.uuid ≠ ""
  unmarked : '_' ∉ key.uuid.toList

instance (owner : String → KeyID) (key : APIKey) : Decidable (WellNamed owner key) :=
  decidable_of_iff
    (owner key.uuid = key.id ∧ SeparatorFree key.artifactUUID ∧ key.artifactUUID ≠ "" ∧
      key.uuid ≠ "" ∧ '_' ∉ key.uuid.toList)
    ⟨fun ⟨howned, hfree, hartifact, huuid, hunmarked⟩ =>
        ⟨howned, hfree, hartifact, huuid, hunmarked⟩,
      fun hnamed =>
        ⟨hnamed.owned, hnamed.separatorFree, hnamed.artifact, hnamed.uuid, hnamed.unmarked⟩⟩

def Settled (owner : String → KeyID) (gateway : Gateway) (row : APIKey) : Prop :=
  row.status = .active ∨ ∃ later ∈ gateway.queue, Removes owner row.id later

instance (owner : String → KeyID) (gateway : Gateway) (row : APIKey) :
    Decidable (Settled owner gateway row) :=
  inferInstanceAs (Decidable (_ ∨ ∃ later ∈ gateway.queue, Removes owner row.id later))

/-- What the handling of an event needs from the stores as they are before it. -/
def Handles (env : Environment) (owner : String → KeyID) (gateway : Gateway) (event : Event) :
    Prop :=
  match event.eventType, event.action with
  | .api, .delete => True
  | .api, _ =>
    ∀ cfg ∈ gateway.artifacts.getConfig event.entityID,
      (∃ rendered ∈ renderSpec env cfg,
        gateway.store.Admits env.webSubTopicUpdater rendered) ∧
      ∀ row ∈ gateway.keys.getAPIKeysByAPI cfg.uuid, Settled owner gateway row
  | .apiKey, .delete =>
    ∀ parsed ∈ parseAPIKeyEntityID event.entityID,
      (gateway.apiKeyStore.entry (owner parsed.2)).isSome →
      (∀ row ∈ gateway.keys.rowAt (owner parsed.2), row.status ≠ .active) →
      (lookupIn gateway.store.apiKeysByAPI parsed.1 parsed.2).isSome
  | .apiKey, _ =>
    ∀ parsed ∈ parseAPIKeyEntityID event.entityID,
      ∀ row ∈ gateway.keys.getAPIKeyByID parsed.2,
        gateway.store.AdmitsKey row ∧ Settled owner gateway row ∧
          (gateway.store.configs.lookup row.artifactUUID = none →
            ∀ cfg ∈ gateway.artifacts.getConfig row.artifactUUID,
              gateway.store.Admits env.webSubTopicUpdater cfg)

instance (env : Environment) (owner : String → KeyID) (gateway : Gateway) (event : Event) :
    Decidable (Handles env owner gateway event) :=
  match event with
  | ⟨.api, .delete, _⟩ => isTrue trivial
  | ⟨.api, .create, _⟩ | ⟨.api, .update, _⟩ =>
    inferInstanceAs (Decidable (∀ cfg ∈ gateway.artifacts.getConfig _,
      (∃ rendered ∈ renderSpec env cfg,
        gateway.store.Admits env.webSubTopicUpdater rendered) ∧ _))
  | ⟨.apiKey, .delete, _⟩ =>
    inferInstanceAs (Decidable (∀ parsed ∈ parseAPIKeyEntityID _, _ → _ → _))
  | ⟨.apiKey, .create, _⟩ | ⟨.apiKey, .update, _⟩ =>
    inferInstanceAs (Decidable (∀ parsed ∈ parseAPIKeyEntityID _, ∀ row ∈ _, _ ∧ _ ∧ _))

def Allowed (env : Environment) (owner : String → KeyID) (gateway : Gateway) : Step → Prop
  | .change (.upsertAPI cfg) => cfg.displayName ≠ ""
  | .change (.createKey key) => WellNamed owner key
  | .change (.removeKey apiId name) =>
    ∀ row ∈ gateway.keys.rowAt ⟨apiId, name⟩, row.status ≠ .active
  | .change _ => True
  | .process _ =>
    match gateway.queue with
    | [] => True
    | event :: rest => Handles env owner { gateway with queue := rest } event

instance (env : Environment) (owner : String → KeyID) (gateway : Gateway) (input : Step) :
    Decidable (Allowed env owner gateway input) :=
  match input with
  | .change (.upsertAPI _) => inferInstanceAs (Decidable (_ ≠ _))
  | .change (.createKey key) => inferInstanceAs (Decidable (WellNamed owner key))
  | .change (.removeKey _ _) => inferInstanceAs (Decidable (∀ row ∈ gateway.keys.rowAt _, _))
  | .change (.deleteAPI _) | .change (.updateKey _) | .change (.revokeKey _ _ _) => isTrue trivial
  | .process _ =>
    match hqueue : gateway.queue with
    | [] => isTrue (by simp [Allowed, hqueue])
    | event :: rest =>
      decidable_of_iff (Handles env owner { gateway with queue := rest } event)
        (by simp [Allowed, hqueue])

/-! ## The invariant -/

structure Consistent (owner : String → KeyID) (gateway : Gateway) : Prop where
  rows : ∀ row ∈ gateway.keys.rows, WellNamed owner row
  artifacts : ∀ id cfg, gateway.artifacts.getConfig id = some cfg → cfg.displayName ≠ ""
  configs : ∀ id cfg, gateway.store.configs.lookup id = some cfg →
    cfg.uuid = id ∧ cfg.displayName ≠ ""
  keys : gateway.store.KeysPlaced owner
  coherent : gateway.apiKeyStore.Coherent owner
  deployed : ∀ id : KeyID, SeparatorFree id.artifactUUID → (gateway.apiKeyStore.entry id).isSome →
    (gateway.store.configs.lookup id.artifactUUID).isSome
  undeployed : ∀ apiId, (gateway.store.configs.lookup apiId).isSome →
    gateway.artifacts.getConfig apiId = none → ⟨.api, .delete, apiId⟩ ∈ gateway.queue
  covered : ∀ id : KeyID, SeparatorFree id.artifactUUID →
    Covered (Adds id (gateway.wanted id)) (Removes owner id) (gateway.wanted id)
      (gateway.apiKeyStore.entry id) gateway.queue

section Invariant

variable {owner : String → KeyID} {gateway next : Gateway} {id : KeyID} {key row : APIKey}

theorem consistent_initial : Consistent owner .initial where
  rows := by simp [initial, KeyTable.empty]
  artifacts := by simp [initial, ArtifactTable.empty, ArtifactTable.getConfig]
  configs := by simp [initial, ConfigStore.empty]
  keys := by simp [ConfigStore.KeysPlaced, initial, ConfigStore.empty, lookupIn]
  coherent := APIKeyStore.coherent_empty
  deployed := by simp [initial, APIKeyStore.empty, APIKeyStore.entry]
  undeployed := by simp [initial, ConfigStore.empty]
  covered := fun _ _ => .inl rfl

theorem wanted_eq_some_iff : gateway.wanted id = some row ↔
    row ∈ gateway.keys.rows ∧ row.id = id ∧ row.status = .active ∧
      (gateway.artifacts.getConfig id.artifactUUID).isSome := by
  unfold wanted
  split
  next hconfig =>
    rw [Option.filter_eq_some_iff, rowAt_eq_some_iff]
    simp [hconfig, and_assoc]
  next hconfig => simp [hconfig]

theorem Consistent.inSync (hconsistent : Consistent owner gateway) (hqueue : gateway.queue = []) :
    gateway.InSync := by
  intro key
  have hentry (hfree : SeparatorFree key.artifactUUID) :
      gateway.apiKeyStore.entry key.id = gateway.wanted key.id := by
    have hcovered := hconsistent.covered key.id hfree
    rw [hqueue] at hcovered
    exact eq_of_covered_nil hcovered
  rw [hconsistent.coherent.mem_getAll_iff]
  constructor
  · rintro ⟨hfree, hkey⟩
    rw [hentry hfree, wanted_eq_some_iff] at hkey
    exact ⟨hkey.1, hkey.2.2.1, hkey.2.2.2⟩
  · rintro ⟨hrow, hactive, hconfig⟩
    have hfree := (hconsistent.rows key hrow).separatorFree
    exact ⟨hfree, by rw [hentry hfree, wanted_eq_some_iff]; exact ⟨hrow, rfl, hactive, hconfig⟩⟩

theorem WellNamed.congr (hnamed : WellNamed owner key) (hid : row.id = key.id)
    (huuid : row.uuid = key.uuid) : WellNamed owner row := by
  have hartifact : row.artifactUUID = key.artifactUUID := (KeyID.ext_iff.mp hid).1
  refine ⟨?_, ?_, ?_, ?_, ?_⟩
  · rw [huuid, hid, hnamed.owned]
  · rw [hartifact]
    exact hnamed.separatorFree
  · rw [hartifact]
    exact hnamed.artifact
  · rw [huuid]
    exact hnamed.uuid
  · rw [huuid]
    exact hnamed.unmarked

theorem WellNamed.parse_build (hnamed : WellNamed owner key) :
    parseAPIKeyEntityID (buildAPIKeyEntityID key.artifactUUID key.uuid) =
      some (key.artifactUUID, key.uuid) :=
  EventListener.parse_build hnamed.artifact hnamed.uuid hnamed.unmarked

/-! ## Changes of the database -/

/-- What a published change may do to the wanted key of an identifier: leave it,
want a key that the event adds, or want none where the event removes. -/
def Reported (owner : String → KeyID) (before after : Option APIKey) (id : KeyID) (event : Event) :
    Prop :=
  (after = before ∧ ¬ Removes owner id event) ∨ (∃ row, after = some row ∧ Adds id after event) ∨
    (after = none ∧ Removes owner id event)

theorem Consistent.publish {artifacts : ArtifactTable} (hconsistent : Consistent owner gateway)
    (hnext : next = { gateway with artifacts := artifacts, keys := keys }.publish event)
    (hrows : ∀ row ∈ keys.rows, WellNamed owner row)
    (hartifacts : ∀ id cfg, artifacts.getConfig id = some cfg → cfg.displayName ≠ "")
    (hdeleted : ∀ apiId, artifacts.getConfig apiId = none →
      gateway.artifacts.getConfig apiId = none ∨ event = ⟨.api, .delete, apiId⟩)
    (hreported : ∀ id, Reported owner (gateway.wanted id) (next.wanted id) id event) :
    Consistent owner next := by
  subst hnext
  refine ⟨hrows, hartifacts, hconsistent.configs, hconsistent.keys, hconsistent.coherent,
    hconsistent.deployed, ?_, ?_⟩
  · intro apiId hconfig hnone
    rcases hdeleted apiId hnone with hbefore | rfl
    · exact List.mem_append_left _ (hconsistent.undeployed apiId hconfig hbefore)
    · exact List.mem_append_right _ List.mem_cons_self
  · intro id hfree
    have hcovered := hconsistent.covered id hfree
    rcases hreported id with ⟨hsame, hkeeps⟩ | ⟨row, hrow, hadds⟩ | ⟨hnone, hremoves⟩
    · rw [hsame]
      exact hcovered.enqueue fun _ => hkeeps
    · rw [hrow] at hadds ⊢
      exact covered_of_added hadds
    · rw [hnone]
      exact covered_of_removed hremoves

theorem not_removes_of_action (haction : event.action ≠ .delete) : ¬ Removes owner id event :=
  fun hremoves => haction hremoves.1

section

variable (hconsistent : Consistent owner gateway)
include hconsistent

theorem consistent_upsertAPI {cfg : StoredConfig} (hname : cfg.displayName ≠ "") :
    Consistent owner (gateway.upsertAPI cfg) := by
  unfold upsertAPI
  cases hupsert : gateway.artifacts.upsertConfig cfg with
  | none => exact hconsistent
  | some artifacts =>
    have hconfig := ArtifactTable.getConfig_upsertConfig hupsert
    refine hconsistent.publish rfl hconsistent.rows ?_ ?_ ?_
    · intro id other hother
      rw [hconfig] at hother
      split at hother
      · cases hother
        exact hname
      · exact hconsistent.artifacts id other hother
    · intro apiId hnone
      rw [hconfig] at hnone
      split at hnone
      · cases hnone
      · exact .inl hnone
    · intro id
      by_cases hid : id.artifactUUID = cfg.uuid
      · -- the keys that were there before their API are wanted from now on
        cases hrow : (gateway.keys.rowAt id).filter (·.status == .active) with
        | none =>
          refine .inl ⟨?_, not_removes_of_action (by simp)⟩
          simp [wanted, publish, hrow]
        | some row =>
          refine .inr (.inl ⟨row, ?_, by simp, hid.symm⟩)
          simp [wanted, publish, hconfig, hid, hrow]
      · refine .inl ⟨?_, not_removes_of_action (by simp)⟩
        simp [wanted, publish, hconfig, hid]

theorem consistent_deleteAPI :
    Consistent owner (gateway.deleteAPI apiId) := by
  unfold deleteAPI
  cases hexists : gateway.artifacts.getConfig apiId with
  | none => exact hconsistent
  | some cfg =>
    have hconfig := gateway.artifacts.getConfig_deleteConfig apiId
    refine hconsistent.publish rfl ?_ ?_ ?_ ?_
    · intro row hrow
      exact hconsistent.rows row (List.mem_of_mem_filter hrow)
    · intro id other hother
      rw [hconfig] at hother
      split at hother
      · cases hother
      · exact hconsistent.artifacts id other hother
    · intro other hnone
      rw [hconfig] at hnone
      split at hnone
      next hsame => exact .inr (by rw [hsame])
      next => exact .inl hnone
    · intro id
      by_cases hid : id.artifactUUID = apiId
      · refine .inr (.inr ⟨?_, rfl, hid.symm⟩)
        simp [wanted, publish, hconfig, hid]
      · refine .inl ⟨?_, fun hremoves => hid hremoves.2.symm⟩
        have hrow : (gateway.keys.removeAPIKeysAPI apiId).rowAt id = gateway.keys.rowAt id := by
          refine rowAt_keepRows_of_kept fun row hrow => ?_
          have hartifact : row.artifactUUID = id.artifactUUID :=
            (KeyID.ext_iff.mp (rowAt_eq_some_iff.mp hrow).2).1
          simpa [hartifact] using hid
        simp [wanted, publish, hconfig, hid, hrow]

theorem consistent_writeKey (hrows : ∀ row ∈ keys.rows, WellNamed owner row)
    (hrow : ∀ id, keys.rowAt id = gateway.keys.rowAt id ∧ ¬ Removes owner id event ∨
      (∃ row, keys.rowAt id = some row ∧ row.status = .active ∧ ¬ Removes owner id event ∧
        Adds id (some row) event) ∨
      (∃ row, keys.rowAt id = some row ∧ row.status ≠ .active ∧ Removes owner id event)) :
    Consistent owner ({ gateway with keys := keys }.publish event) := by
  refine hconsistent.publish rfl hrows hconsistent.artifacts (fun _ hnone => .inl hnone) ?_
  intro id
  rcases hrow id with ⟨hsame, hkeeps⟩ | ⟨row, hrow, hactive, hkeeps, hadds⟩ |
      ⟨row, hrow, hinactive, hremoves⟩
  · refine .inl ⟨?_, hkeeps⟩
    simp [wanted, publish, hsame]
  · by_cases hconfig : (gateway.artifacts.getConfig id.artifactUUID).isSome
    · have hwanted : ({ gateway with keys := keys }.publish event).wanted id = some row := by
        simp [wanted, publish, hconfig, hrow, hactive]
      exact .inr (.inl ⟨row, hwanted, hwanted ▸ hadds⟩)
    · refine .inl ⟨?_, hkeeps⟩
      simp [wanted, publish, hconfig]
  · refine .inr (.inr ⟨?_, hremoves⟩)
    simp [wanted, publish, hrow, hinactive]

theorem consistent_createKey (hnamed : WellNamed owner key) :
    Consistent owner (gateway.createKey key) := by
  unfold createKey
  cases hupsert : gateway.keys.upsertAPIKey { key with status := .active } with
  | error err => exact hconsistent
  | ok keys =>
    refine consistent_writeKey hconsistent ?_ ?_
    · intro row hrow
      rcases rowAt_upsertAPIKey hupsert with hsame | ⟨hid, stored, hstored, huuid, _⟩
      · rw [rowAt_eq_some_iff.mpr ⟨hrow, rfl⟩] at hsame
        exact hconsistent.rows row (rowAt_eq_some_iff.mp hsame.symm).1
      · rw [rowAt_eq_some_iff.mpr ⟨hrow, rfl⟩] at hstored
        cases hstored
        exact hnamed.congr hid huuid
    · intro id
      have hkeeps : ¬ Removes owner id
          ⟨.apiKey, .create, buildAPIKeyEntityID key.artifactUUID key.uuid⟩ :=
        not_removes_of_action (by simp)
      rcases rowAt_upsertAPIKey hupsert with hsame | ⟨hid, row, hrow, huuid, hstatus⟩
      · exact .inl ⟨hsame, hkeeps⟩
      · refine .inr (.inl ⟨row, hrow, hstatus, hkeeps, by simp, row, rfl, ?_⟩)
        rw [hnamed.parse_build, hid, huuid]
        rfl

theorem rows_updateAPIKey (hupdate : gateway.keys.updateAPIKey key = .ok keys) :
    ∀ row ∈ keys.rows, WellNamed owner row := by
  intro row hrow
  have hat := rowAt_updateAPIKey row.id hupdate
  rw [rowAt_eq_some_iff.mpr ⟨hrow, rfl⟩] at hat
  split at hat
  · obtain ⟨old, hold, rfl⟩ := Option.map_eq_some_iff.mp hat.symm
    exact (hconsistent.rows old (rowAt_eq_some_iff.mp hold).1).congr rfl rfl
  · exact hconsistent.rows row (rowAt_eq_some_iff.mp hat.symm).1

theorem consistent_updateKey :
    Consistent owner (gateway.updateKey key) := by
  unfold updateKey
  cases hfound : gateway.keys.getAPIKeysByAPIAndName key.artifactUUID key.name with
  | none => exact hconsistent
  | some found =>
    obtain ⟨hmem, hfoundID⟩ := rowAt_eq_some_iff.mp hfound
    have hnamed := hconsistent.rows found hmem
    cases hupdate : gateway.keys.updateAPIKey { key with status := .active } with
    | error err => exact hconsistent
    | ok keys =>
      refine consistent_writeKey hconsistent (rows_updateAPIKey hconsistent hupdate) ?_
      intro id
      have hkeeps : ¬ Removes owner id
          ⟨.apiKey, .update, buildAPIKeyEntityID key.artifactUUID found.uuid⟩ :=
        not_removes_of_action (by simp)
      have hat := rowAt_updateAPIKey id hupdate
      split at hat
      next hid =>
        subst hid
        refine .inr (.inl ⟨_, hat.trans (congrArg _ hfound), rfl, hkeeps, by simp, _, rfl, ?_⟩)
        have hartifact : found.artifactUUID = key.artifactUUID :=
          (KeyID.ext_iff.mp hfoundID).1
        rw [← hartifact, hnamed.parse_build]
        rfl
      next => exact .inl ⟨hat, hkeeps⟩

theorem consistent_revokeKey {now : Time} :
    Consistent owner (gateway.revokeKey apiId name now) := by
  unfold revokeKey
  cases hfound : gateway.keys.getAPIKeysByAPIAndName apiId name with
  | none => exact hconsistent
  | some found =>
    obtain ⟨hmem, hfoundID⟩ := rowAt_eq_some_iff.mp hfound
    have hnamed := hconsistent.rows found hmem
    dsimp only
    split
    · exact hconsistent
    · cases hupdate : gateway.keys.updateAPIKey
          { found with status := .revoked, updatedAt := now } with
      | error err => exact hconsistent
      | ok keys =>
        refine consistent_writeKey hconsistent (rows_updateAPIKey hconsistent hupdate) ?_
        intro id
        have hartifact : found.artifactUUID = apiId := (KeyID.ext_iff.mp hfoundID).1
        have hparse : parseAPIKeyEntityID (buildAPIKeyEntityID apiId found.uuid) =
            some (apiId, found.uuid) := hartifact ▸ hnamed.parse_build
        have hat := rowAt_updateAPIKey id hupdate
        split at hat
        next hid =>
          have hid : id = found.id := hid
          have hrow : gateway.keys.rowAt id = some found := by
            rw [hid, hfoundID]
            exact hfound
          refine .inr (.inr ⟨_, hat.trans (congrArg _ hrow), by simp [KeyTable.updateRow], rfl,
            _, hparse, ?_, ?_⟩)
          · rw [hid, ← hartifact]
            rfl
          · rw [hid, hnamed.owned]
        next hother =>
          refine .inl ⟨hat, ?_⟩
          rintro ⟨_, parsed, hparsed, _, howner⟩
          cases hparse.symm.trans hparsed
          exact hother (howner.symm.trans hnamed.owned)

theorem consistent_removeKey
    (hinactive : ∀ row ∈ gateway.keys.rowAt ⟨apiId, name⟩, row.status ≠ .active) :
    Consistent owner
      { gateway with keys := gateway.keys.removeAPIKeyAPIAndName apiId name } := by
  have hwanted (id : KeyID) :
      { gateway with keys := gateway.keys.removeAPIKeyAPIAndName apiId name }.wanted id =
        gateway.wanted id := by
    unfold wanted
    rw [KeyTable.removeAPIKeyAPIAndName, rowAt_keepRows]
    cases hrow : gateway.keys.rowAt id with
    | none => rfl
    | some row =>
      by_cases hid : row.id = ⟨apiId, name⟩
      · rw [(rowAt_eq_some_iff.mp hrow).2] at hid
        have hstatus := hinactive row (hid ▸ hrow)
        simp [Option.filter_some, hstatus]
      · simp [Option.filter_some, hid]
  exact
    { hconsistent with
      rows := fun row hrow => hconsistent.rows row (List.mem_of_mem_filter hrow)
      covered := fun id hfree => by
        rw [hwanted]
        exact hconsistent.covered id hfree }

theorem consistent_apply {env : Environment} {change : Change}
    (hallowed : Allowed env owner gateway (.change change)) :
    Consistent owner (gateway.apply change) := by
  cases change with
  | upsertAPI cfg => exact consistent_upsertAPI hconsistent hallowed
  | deleteAPI id => exact consistent_deleteAPI hconsistent
  | createKey key => exact consistent_createKey hconsistent hallowed
  | updateKey key => exact consistent_updateKey hconsistent
  | revokeKey apiId name now => exact consistent_revokeKey hconsistent
  | removeKey apiId name => exact consistent_removeKey hconsistent hallowed

end

end Invariant

end ApiPlatform.Controller.EventListener
