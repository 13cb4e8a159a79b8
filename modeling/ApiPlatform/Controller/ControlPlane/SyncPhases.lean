import ApiPlatform.Foundation.Fallible
import ApiPlatform.Foundation.Runs
import ApiPlatform.Controller.ControlPlane.Sync

/-!
# The phases of the deployment sync

The difference is read artifact by artifact from the rows that came from the
control plane.  Each phase works on one row for each artifact it is about; when
nothing is logged, a fetch and a status update are guarded upserts, and a
deletion removes one row.
-/

namespace ApiPlatform.Controller.ControlPlane

open Foundation Client
open Controller.Storage

/-! ## The local view -/

def localRow (db : ArtifactDB) (uuid : String) : Option Artifact :=
  (db.rows.lookup uuid).filter fun row => row.origin = .controlPlane

theorem localRow_eq_some {db : ArtifactDB} {uuid : String} {row : Artifact} :
    localRow db uuid = some row ↔
      db.rows.lookup uuid = some row ∧ row.origin = .controlPlane := by
  simp [localRow, Option.filter_eq_some_iff]

def localMap (db : ArtifactDB) : GoMap String Artifact :=
  insertAll ∅ (db.getAllConfigsByOrigin .controlPlane)

theorem lookup_localMap (db : ArtifactDB) (uuid : String) :
    (localMap db).lookup uuid = localRow db uuid := by
  cases hrow : localRow db uuid with
  | some row =>
    obtain ⟨hlookup, horigin⟩ := localRow_eq_some.mp hrow
    refine lookup_insertAll_eq ?_ ?_
    · rintro ⟨key, stored⟩ hmem rfl
      obtain ⟨hstored, -⟩ := ArtifactDB.mem_getAllConfigsByOrigin.mp hmem
      exact Option.some.inj (hstored.symm.trans hlookup)
    · exact List.mem_map.mpr
        ⟨(uuid, row), ArtifactDB.mem_getAllConfigsByOrigin.mpr ⟨hlookup, horigin⟩, rfl⟩
  | none =>
    rw [AList.lookup_eq_none, localMap, mem_insertAll]
    rintro (hempty | hkey)
    · exact AList.notMem_empty _ hempty
    · obtain ⟨⟨key, stored⟩, hmem, rfl⟩ := List.mem_map.mp hkey
      rw [localRow_eq_some.mpr (ArtifactDB.mem_getAllConfigsByOrigin.mp hmem)] at hrow
      cases hrow

theorem mem_keys_localMap {db : ArtifactDB} {uuid : String} :
    uuid ∈ (localMap db).keys ↔ ∃ row, localRow db uuid = some row := by
  rw [← AList.mem_keys, ← AList.lookup_isSome, lookup_localMap, Option.isSome_iff_exists]

section Difference

variable {order : MapIteration String} {round : Nat} {remote : List ControlPlaneDeployment}
  {db : ArtifactDB}

def actionFor (db : ArtifactDB) (dep : ControlPlaneDeployment) : SyncAction :=
  syncAction (localRow db dep.artifactID) dep

def diffOf (order : MapIteration String) (round : Nat) (db : ArtifactDB)
    (remote : List ControlPlaneDeployment) : SyncDiffResult :=
  computeSyncDiff (order.order round) remote (db.getAllConfigsByOrigin .controlPlane)

theorem mem_toFetch {dep : ControlPlaneDeployment} :
    dep ∈ (diffOf order round db remote).toFetch ↔ dep ∈ remote ∧ actionFor db dep = .fetch := by
  change dep ∈ remote.filter (fun dep =>
    decide (syncAction ((localMap db).lookup dep.artifactID) dep = .fetch)) ↔ _
  rw [List.mem_filter, lookup_localMap, decide_eq_true_iff, actionFor]

theorem mem_toUpdateStatus {dep : ControlPlaneDeployment} :
    dep ∈ (diffOf order round db remote).toUpdateStatus ↔
      dep ∈ remote ∧ actionFor db dep = .updateStatus := by
  change dep ∈ remote.filter (fun dep =>
    decide (syncAction ((localMap db).lookup dep.artifactID) dep = .updateStatus)) ↔ _
  rw [List.mem_filter, lookup_localMap, decide_eq_true_iff, actionFor]

theorem mem_toDelete {uuid : String} :
    uuid ∈ (diffOf order round db remote).toDelete ↔
      (∃ row, localRow db uuid = some row) ∧ uuid ∉ remote.map (·.artifactID) := by
  change uuid ∈ (order.order round (localMap db).keys).filter
    (fun uuid => decide (uuid ∉ remote.map (·.artifactID))) ↔ _
  rw [List.mem_filter, order.mem_order, mem_keys_localMap, decide_eq_true_iff]

theorem diffOf_eq_empty_iff :
    diffOf order round db remote = ⟨[], [], []⟩ ↔
      (∀ dep ∈ remote, actionFor db dep = .skip) ∧
        ∀ uuid row, localRow db uuid = some row → uuid ∈ remote.map (·.artifactID) := by
  have hfields : diffOf order round db remote = ⟨[], [], []⟩ ↔
      (diffOf order round db remote).toFetch = [] ∧
        (diffOf order round db remote).toUpdateStatus = [] ∧
          (diffOf order round db remote).toDelete = [] := by
    cases diffOf order round db remote
    simp
  simp only [hfields, List.eq_nil_iff_forall_not_mem, mem_toFetch, mem_toUpdateStatus,
    mem_toDelete, not_and, not_not]
  constructor
  · rintro ⟨hfetch, hstatus, hdelete⟩
    refine ⟨fun dep hdep => ?_, fun uuid row hrow => hdelete uuid ⟨row, hrow⟩⟩
    cases haction : actionFor db dep with
    | skip => rfl
    | fetch => exact absurd haction (hfetch dep hdep)
    | updateStatus => exact absurd haction (hstatus dep hdep)
  · rintro ⟨hskip, hlisted⟩
    refine ⟨fun dep hdep => ?_, fun dep hdep => ?_, fun uuid ⟨row, hrow⟩ => hlisted uuid row hrow⟩
    · rw [hskip dep hdep]
      exact SyncAction.noConfusion
    · rw [hskip dep hdep]
      exact SyncAction.noConfusion

end Difference

/-! ## The phases -/

structure Matches (dep : ControlPlaneDeployment) (state : DesiredState) (row : Artifact) :
    Prop where
  deploymentID : row.deploymentID = dep.deploymentID
  desiredState : row.desiredState = state
  origin : row.origin = .controlPlane
  deployedAt : row.deployedAt = some dep.deployedAt

def IsNewer (dep : ControlPlaneDeployment) (stored : Option Artifact) : Prop :=
  ∀ row ∈ stored, ∀ old ∈ row.deployedAt, old < dep.deployedAt

instance (dep : ControlPlaneDeployment) (stored : Option Artifact) :
    Decidable (IsNewer dep stored) :=
  inferInstanceAs (Decidable (∀ row ∈ stored, ∀ old ∈ row.deployedAt, old < dep.deployedAt))

theorem accepts_of_isNewer {dep : ControlPlaneDeployment} {stored : Option Artifact}
    (hnewer : IsNewer dep stored) {row : Artifact} (hrow : row.deployedAt = some dep.deployedAt) :
    ArtifactDB.accepts row stored = true := by
  unfold ArtifactDB.accepts
  cases stored with
  | none => rfl
  | some stored =>
    dsimp only
    cases hold : stored.deployedAt with
    | none => rfl
    | some old => simpa [hrow] using hnewer stored rfl old hold

section Fetches

variable {c : Client} {yamlMap : GoMap String String} {state next : SyncState}
  {dep : ControlPlaneDeployment}

theorem createFromYAML_ok {yamlData : String} {db after : ArtifactDB}
    (hok : c.createFromYAML db yamlData dep = .ok after) :
    ∃ manifest affected, db.upsertConfig (targetID manifest dep)
      (fetchedRow manifest dep) = .ok (after, affected) := by
  unfold createFromYAML at hok
  split at hok
  · obtain ⟨_, hthrow, -⟩ := bind_eq_ok.mp hok
    cases hthrow
  obtain ⟨manifest, -, hok⟩ := bind_eq_ok.mp hok
  obtain ⟨_, -, hok⟩ := bind_eq_ok.mp hok
  obtain ⟨⟨written, affected⟩, hupsert, hok⟩ := bind_eq_ok.mp hok
  rw [← Except.ok.inj hok]
  exact ⟨manifest, affected, hupsert⟩

theorem log_ne_nil (message : String) : (state.logError message).log ≠ [] := by
  simp [SyncState.logError]

def Fetches (state : SyncState) (dep : ControlPlaneDeployment) (next : SyncState) : Prop :=
  ∃ manifest affected, state.db.upsertConfig (targetID manifest dep)
    (fetchedRow manifest dep) = .ok (next.db, affected)

theorem fetches_of_quiet (hquiet : (c.processFetched yamlMap state dep).log = []) :
    state.log = [] ∧ Fetches state dep (c.processFetched yamlMap state dep) := by
  unfold processFetched at hquiet ⊢
  cases hyaml : yamlMap.lookup dep.deploymentID with
  | none =>
    rw [hyaml] at hquiet
    exact absurd hquiet (log_ne_nil _)
  | some yamlData =>
    rw [hyaml] at hquiet
    dsimp only at hquiet ⊢
    split at hquiet
    · exact absurd hquiet (log_ne_nil _)
    rename_i hservice
    rw [if_neg hservice]
    cases hcreate : c.createFromYAML state.db yamlData dep with
    | error message =>
      rw [hcreate] at hquiet
      exact absurd hquiet (log_ne_nil _)
    | ok db =>
      rw [hcreate] at hquiet
      exact ⟨hquiet, createFromYAML_ok hcreate⟩

theorem steps_of_batch {batch : List ControlPlaneDeployment}
    (hquiet : (c.processSyncFetchBatch state batch).log = []) :
    state.log = [] ∧ Steps Fetches state batch (c.processSyncFetchBatch state batch) := by
  unfold processSyncFetchBatch at hquiet ⊢
  cases hfetch : c.batchFetchDeployments (batch.map (·.deploymentID)) with
  | error message =>
    rw [hfetch] at hquiet
    exact absurd hquiet (log_ne_nil _)
  | ok yamlMap =>
    rw [hfetch] at hquiet
    exact steps_of_foldl (fun state : SyncState => state.log = [])
      (fun state dep h => (fetches_of_quiet h).1) (fun state dep h => (fetches_of_quiet h).2)
      batch hquiet

theorem steps_of_fetches {deployments : List ControlPlaneDeployment}
    (hquiet : (c.processSyncFetches state deployments).log = []) :
    state.log = [] ∧ Steps Fetches state (grouped fetchOrder (·.kind) deployments)
      (c.processSyncFetches state deployments) := by
  have hsize : 0 < c.batchSize := by
    unfold batchSize
    split
    · decide
    · omega
  obtain ⟨hstart, hsteps⟩ := steps_of_foldl (fun state : SyncState => state.log = [])
    (fun state batch h => (steps_of_batch h).1) (fun state batch h => (steps_of_batch h).2)
    _ hquiet
  have hflat := hsteps.flatten
  rw [flatten_batches hsize le_rfl] at hflat
  exact ⟨hstart, hflat⟩

theorem targetID_ne_empty (manifest : Manifest) : targetID manifest dep ≠ "" := by
  unfold targetID
  split
  · exact manifest.fallbackID.property
  · assumption

theorem Fetches.keyed (hfetches : Fetches state dep next)
    (hready : dep.artifactID ≠ "" ∧ IsNewer dep (state.db.rows.lookup dep.artifactID)) :
    (∀ other, other ≠ dep.artifactID → next.db.rows.lookup other = state.db.rows.lookup other) ∧
      ∃ row, next.db.rows.lookup dep.artifactID = some row ∧ Matches dep .deployed row := by
  obtain ⟨manifest, affected, hupsert⟩ := hfetches
  have htarget : targetID manifest dep = dep.artifactID := if_neg hready.1
  rw [htarget] at hupsert
  refine ⟨fun other hother => ArtifactDB.lookup_upsertConfig_ne hupsert hother, _,
    ArtifactDB.lookup_upsertConfig hupsert (accepts_of_isNewer hready.2 rfl), ?_⟩
  exact ⟨rfl, rfl, rfl, rfl⟩

theorem Fetches.lookup_empty (hfetches : Fetches state dep next) :
    next.db.rows.lookup "" = state.db.rows.lookup "" := by
  obtain ⟨manifest, affected, hupsert⟩ := hfetches
  exact ArtifactDB.lookup_upsertConfig_ne hupsert (targetID_ne_empty manifest).symm

end Fetches

section StatusUpdates

variable {state next : SyncState} {dep : ControlPlaneDeployment}

def UpdatesStatus (state : SyncState) (dep : ControlPlaneDeployment) (next : SyncState) : Prop :=
  ∃ cfg desiredState affected, state.db.rows.lookup dep.artifactID = some cfg ∧
    parseDesiredState dep.state = some desiredState ∧
      state.db.upsertConfig dep.artifactID (statusRow cfg desiredState dep) =
        .ok (next.db, affected)

theorem updatesStatus_of_quiet (hquiet : (processSyncStatusUpdate state dep).log = []) :
    state.log = [] ∧ UpdatesStatus state dep (processSyncStatusUpdate state dep) := by
  unfold processSyncStatusUpdate at hquiet ⊢
  cases hlookup : state.db.rows.lookup dep.artifactID with
  | none =>
    rw [hlookup] at hquiet
    exact absurd hquiet (log_ne_nil _)
  | some cfg =>
    rw [hlookup] at hquiet
    cases hstate : parseDesiredState dep.state with
    | none =>
      rw [hstate] at hquiet
      exact absurd hquiet (log_ne_nil _)
    | some desiredState =>
      rw [hstate] at hquiet
      dsimp only at hquiet ⊢
      cases hupsert : state.db.upsertConfig dep.artifactID (statusRow cfg desiredState dep) with
      | error message =>
        rw [hupsert] at hquiet
        exact absurd hquiet (log_ne_nil _)
      | ok result =>
        rw [hupsert] at hquiet
        exact ⟨hquiet, cfg, desiredState, result.2, hlookup, hstate, hupsert⟩

theorem UpdatesStatus.keyed (hupdates : UpdatesStatus state dep next)
    (hready : IsNewer dep (state.db.rows.lookup dep.artifactID) ∧
      ∀ row ∈ state.db.rows.lookup dep.artifactID, row.origin = .controlPlane) :
    (∀ other, other ≠ dep.artifactID → next.db.rows.lookup other = state.db.rows.lookup other) ∧
      ∃ desiredState row, parseDesiredState dep.state = some desiredState ∧
        next.db.rows.lookup dep.artifactID = some row ∧ Matches dep desiredState row := by
  obtain ⟨cfg, desiredState, affected, hlookup, hstate, hupsert⟩ := hupdates
  refine ⟨fun other hother => ArtifactDB.lookup_upsertConfig_ne hupsert hother, desiredState, _,
    hstate, ArtifactDB.lookup_upsertConfig hupsert (accepts_of_isNewer hready.1 rfl), ?_⟩
  exact ⟨rfl, rfl, hready.2 cfg hlookup, rfl⟩

end StatusUpdates

section Deletions

variable {c : Client} {state : SyncState} {uuid : String} {row : Artifact}

theorem findAPIConfig_of_lookup {db : ArtifactDB} (hlookup : db.rows.lookup uuid = some row) :
    findAPIConfig db uuid = some uuid :=
  if_pos (AList.lookup_isSome.mp (Option.isSome_of_eq_some hlookup))

theorem lookup_processSyncDeletion (hlookup : state.db.rows.lookup uuid = some row)
    (hquiet : (c.processSyncDeletion state (uuid, row.kind)).log = []) (other : String) :
    (c.processSyncDeletion state (uuid, row.kind)).db.rows.lookup other =
      if other = uuid ∧ c.lacksService row.kind = false then none
      else state.db.rows.lookup other := by
  unfold processSyncDeletion at hquiet ⊢
  dsimp only at hquiet ⊢
  by_cases hrest : row.kind = "RestApi"
  · have hservice : c.lacksService row.kind = false := by simp [lacksService, hrest]
    rw [if_pos hrest, findAPIConfig_of_lookup hlookup] at hquiet ⊢
    cases hdelete : state.db.deleteConfig uuid with
    | error message =>
      rw [hdelete] at hquiet
      exact absurd hquiet (log_ne_nil _)
    | ok db =>
      rw [ArtifactDB.deleteConfig_ok hdelete]
      simp [hservice]
  rw [if_neg hrest] at hquiet ⊢
  by_cases hservice : c.lacksService row.kind = true
  · simp [hservice]
  rw [if_neg hservice] at hquiet ⊢
  unfold deleteByHandle at hquiet ⊢
  rw [findAPIConfig_of_lookup hlookup, Option.bind_some, hlookup] at hquiet ⊢
  dsimp only at hquiet ⊢
  cases hfound : state.db.getConfigByKindAndHandle row.kind row.handle with
  | none =>
    rw [hfound] at hquiet
    exact absurd hquiet (log_ne_nil _)
  | some found =>
    obtain rfl := ArtifactDB.getConfigByKindAndHandle_eq hlookup hfound
    rw [hfound] at hquiet
    dsimp only at hquiet ⊢
    cases hdelete : state.db.deleteConfig found with
    | error message =>
      rw [hdelete] at hquiet
      exact absurd hquiet (log_ne_nil _)
    | ok db =>
      rw [ArtifactDB.deleteConfig_ok hdelete]
      simp [hservice]

theorem quiet_of_deleteByHandle {kind : String}
    (hquiet : (deleteByHandle state kind uuid).log = []) : state.log = [] := by
  unfold deleteByHandle at hquiet
  split at hquiet
  · exact absurd hquiet (log_ne_nil _)
  split at hquiet
  · exact absurd hquiet (log_ne_nil _)
  split at hquiet
  · exact absurd hquiet (log_ne_nil _)
  · exact hquiet

theorem quiet_of_processSyncDeletion {entry : String × String}
    (hquiet : (c.processSyncDeletion state entry).log = []) : state.log = [] := by
  unfold processSyncDeletion at hquiet
  dsimp only at hquiet
  split at hquiet
  · split at hquiet
    · exact hquiet
    split at hquiet
    · exact absurd hquiet (log_ne_nil _)
    · exact hquiet
  split at hquiet
  · exact hquiet
  · exact quiet_of_deleteByHandle hquiet

variable (c) in
def Client.deletes (kind : String) : Bool :=
  kind ∈ deletionOrder && !c.lacksService kind

theorem lookup_processSyncDeletions {ids : List String} (hids : ids.Nodup)
    (hquiet : (c.processSyncDeletions state ids).log = []) :
    state.log = [] ∧ ∀ uuid, (c.processSyncDeletions state ids).db.rows.lookup uuid =
      if uuid ∈ ids ∧ (state.db.rows.lookup uuid).any (fun row => c.deletes row.kind) then none
      else state.db.rows.lookup uuid := by
  let entries := ids.filterMap fun id => (state.db.rows.lookup id).map fun cfg => (id, cfg.kind)
  have hentries : ∀ entry : String × String, entry ∈ entries ↔
      entry.1 ∈ ids ∧ ∃ row, state.db.rows.lookup entry.1 = some row ∧ row.kind = entry.2 := by
    intro entry
    simp only [entries, List.mem_filterMap, Option.map_eq_some_iff]
    constructor
    · rintro ⟨id, hid, row, hrow, rfl⟩
      exact ⟨hid, row, hrow, rfl⟩
    · rintro ⟨hid, row, hrow, hkind⟩
      exact ⟨entry.1, hid, row, hrow, Prod.ext rfl hkind⟩
  have hkeys : ((grouped deletionOrder (·.2) entries).map Prod.fst).Nodup := by
    refine nodup_map_grouped (by decide) (List.Nodup.map_on ?_ (hids.filterMap ?_))
    · intro left hleft right hright heq
      obtain ⟨-, row, hrow, hkind⟩ := (hentries left).mp hleft
      obtain ⟨-, other, hother, hotherKind⟩ := (hentries right).mp hright
      rw [heq] at hrow
      obtain rfl := Option.some.inj (hrow.symm.trans hother)
      exact Prod.ext heq (hkind.symm.trans hotherKind)
    · intro left right entry hleft hright
      obtain ⟨_, -, rfl⟩ := Option.map_eq_some_iff.mp hleft
      obtain ⟨_, -, heq⟩ := Option.map_eq_some_iff.mp hright
      exact (congrArg Prod.fst heq).symm
  have hchain : state.log = [] ∧
      Steps (fun state entry next => c.processSyncDeletion state entry = next ∧ next.log = [])
        state (grouped deletionOrder (·.2) entries) (c.processSyncDeletions state ids) :=
    steps_of_foldl (fun state : SyncState => state.log = [])
      (fun state entry h => quiet_of_processSyncDeletion h) (fun state entry h => ⟨rfl, h⟩) _ hquiet
  obtain ⟨hstart, hsteps⟩ := hchain
  have hready : ∀ entry ∈ grouped deletionOrder (·.2) entries,
      ∃ row, state.db.rows.lookup entry.1 = some row ∧ row.kind = entry.2 :=
    fun entry hentry => ((hentries entry).mp (mem_grouped.mp hentry).1).2
  obtain ⟨hframe, hwritten⟩ := hsteps.keyed Prod.fst
    (fun state uuid => state.db.rows.lookup uuid)
    (fun entry value => ∃ row, value = some row ∧ row.kind = entry.2)
    (fun entry value result => result = if c.lacksService entry.2 = false then none else value)
    (fun state entry next hstep hrow => by
      obtain ⟨rfl, hnext⟩ := hstep
      obtain ⟨row, hlookup, hkind⟩ := hrow
      obtain ⟨id, kind⟩ := entry
      subst hkind
      have hresult := lookup_processSyncDeletion hlookup hnext
      constructor
      · intro other hother
        rw [hresult other, if_neg fun h => hother h.1]
      · simp [hresult id]) hkeys hready
  refine ⟨hstart, fun uuid => ?_⟩
  by_cases hdeleted : uuid ∈ ids ∧
      (state.db.rows.lookup uuid).any (fun row => c.deletes row.kind) = true
  · rw [if_pos hdeleted]
    obtain ⟨row, hrow, hkind⟩ :
        ∃ row, state.db.rows.lookup uuid = some row ∧ c.deletes row.kind = true := by
      cases hrow : state.db.rows.lookup uuid with
      | none => simp [hrow] at hdeleted
      | some row => exact ⟨row, rfl, by simpa [hrow] using hdeleted.2⟩
    simp only [deletes, Bool.and_eq_true, decide_eq_true_eq, Bool.not_eq_true'] at hkind
    have hentry : (uuid, row.kind) ∈ grouped deletionOrder (·.2) entries :=
      mem_grouped.mpr ⟨(hentries _).mpr ⟨hdeleted.1, row, hrow, rfl⟩, hkind.1⟩
    have hresult := hwritten _ hentry
    rwa [if_pos hkind.2] at hresult
  · rw [if_neg hdeleted]
    by_cases hkey : uuid ∈ (grouped deletionOrder (·.2) entries).map Prod.fst
    · -- the row is of a kind whose service is missing
      obtain ⟨entry, hentry, rfl⟩ := List.mem_map.mp hkey
      obtain ⟨hmem, horder⟩ := mem_grouped.mp hentry
      obtain ⟨hid, row, hrow, hkind⟩ := (hentries entry).mp hmem
      have hservice : c.lacksService entry.2 ≠ false := by
        intro hservice
        refine hdeleted ⟨hid, ?_⟩
        rw [hrow, Option.any_some, deletes, hkind, hservice]
        simpa using horder
      have hresult := hwritten entry hentry
      rwa [if_neg hservice] at hresult
    · exact hframe uuid hkey

end Deletions

end ApiPlatform.Controller.ControlPlane
