import ApiPlatform.Controller.ApiKeys.Table
import ApiPlatform.Foundation.Fallible

/-!
# The bulk synchronisation of API keys

`syncAPIKeysForExistingArtifacts` (`pkg/controlplane/client.go`): for one kind
after the other the fetched keys are upserted by artifact and name, guarded by
their time, and then the keys of the artifacts of the kind whose UUID was not
fetched are deleted.  The deletion knows neither the source of a key nor its
time.
-/

namespace ApiPlatform.Controller.ApiKeys

open Foundation KeyTable

/-! ## The code -/

inductive ArtifactKind where
  | restApi
  | webSubApi
  | webBrokerApi
  | llmProvider
  | llmProxy
  | other (name : String)
  deriving DecidableEq

def onPremSupportedAPIKeyKinds (kind : ArtifactKind) : Bool :=
  kind = .restApi

def syncedKinds : List ArtifactKind :=
  [.restApi, .webSubApi, .webBrokerApi, .llmProvider, .llmProxy]

/-- What a run reads: the stored artifacts with their kinds, and what the control plane
answers for a kind, if it answers, which are keys of artifacts of that kind. -/
structure BulkSync where
  onPrem : Bool
  configs : List (ArtifactKind × String)
  fetchAPIKeysByKind : ArtifactKind → Option (List APIKey)
  kindOf : String → ArtifactKind
  configs_kind : ∀ config ∈ configs, kindOf config.2 = config.1
  fetched_kind : ∀ kind keys, fetchAPIKeysByKind kind = some keys →
    ∀ key ∈ keys, kindOf key.artifactUUID = kind

def BulkSync.artifactUUIDsByKind (sync : BulkSync) (kind : ArtifactKind) : List String :=
  (sync.configs.filter (·.1 = kind)).map (·.2)

namespace KeyTable

variable (table : KeyTable)

def listAPIKeysForArtifactsNotIn (artifactUUIDs keyUUIDs : List String) : List APIKey :=
  table.rows.filter fun row =>
    decide (row.artifactUUID ∈ artifactUUIDs) && decide (row.uuid ∉ keyUUIDs)

def deleteAPIKeysByUUIDs (uuids : List String) : KeyTable :=
  table.keepRows fun row => decide (row.uuid ∉ uuids)

end KeyTable

/-- The table and the keys whose upsert failed; the loop goes on after a failure. -/
structure SyncState where
  table : KeyTable
  failed : List APIKey

def SyncState.upsert (state : SyncState) (key : APIKey) : SyncState :=
  if key.uuid = "" then state
  else
    match state.table.upsertAPIKey key with
    | .ok table => { state with table := table }
    | .error _ => { state with failed := state.failed ++ [key] }

def fetchedUUIDs (keys : List APIKey) : List String :=
  (keys.filter (·.uuid ≠ "")).map (·.uuid)

def KeyTable.reconcile (table : KeyTable) (artifactUUIDs : List String) (keys : List APIKey) :
    KeyTable :=
  table.deleteAPIKeysByUUIDs
    ((table.listAPIKeysForArtifactsNotIn artifactUUIDs (fetchedUUIDs keys)).map (·.uuid))

def SyncState.syncKind (state : SyncState) (artifactUUIDs : List String) (keys : List APIKey) :
    SyncState :=
  let state := keys.foldl SyncState.upsert state
  { state with table := state.table.reconcile artifactUUIDs keys }

def BulkSync.next (sync : BulkSync) (state : SyncState) (kind : ArtifactKind) : SyncState :=
  if sync.onPrem && !onPremSupportedAPIKeyKinds kind then state
  else
    match sync.fetchAPIKeysByKind kind with
    | none => state
    | some keys => state.syncKind (sync.artifactUUIDsByKind kind) keys

def syncAPIKeysForExistingArtifacts (sync : BulkSync) (table : KeyTable) : SyncState :=
  syncedKinds.foldl sync.next ⟨table, []⟩

/-! ## The property -/

/-- A kind that is synchronised: its artifacts and the keys fetched for it. -/
structure Round where
  kind : ArtifactKind
  artifactUUIDs : List String
  keys : List APIKey

def BulkSync.round (sync : BulkSync) (kind : ArtifactKind) : Option Round :=
  if sync.onPrem && !onPremSupportedAPIKeyKinds kind then none
  else (sync.fetchAPIKeysByKind kind).map (⟨kind, sync.artifactUUIDsByKind kind, ·⟩)

def BulkSync.rounds (sync : BulkSync) : List Round :=
  syncedKinds.filterMap sync.round

/-- What an upsert takes from a fetched key. -/
def APIKey.values (key : APIKey) : String × String × String × APIKeyStatus × Time × Option Time :=
  (key.uuid, key.apiKey, key.maskedAPIKey, key.status, key.updatedAt, key.expiresAt)

def APIKey.Agrees (row key : APIKey) : Prop :=
  row.values = key.values

theorem APIKey.Agrees.uuid {row key : APIKey} (hagrees : row.Agrees key) : row.uuid = key.uuid :=
  congrArg Prod.fst hagrees

theorem APIKey.Agrees.updatedAt {row key : APIKey} (hagrees : row.Agrees key) :
    row.updatedAt = key.updatedAt :=
  congrArg (·.2.2.2.2.1) hagrees

def Round.keysAt (round : Round) (id : KeyID) : List APIKey :=
  round.keys.filter (·.id = id)

/-- The row of an identifier before and after a run: it stays when it is newer than a key that was
fetched for it; one of a stored artifact that is not local was fetched or is newer; and each fetched
key is stored unless the row is local or newer. -/
structure Round.SyncedAt (round : Round) (id : KeyID) (stored after : Option APIKey) : Prop where
  newerKept : ∀ row ∈ stored, ∀ key ∈ round.keysAt id, key.updatedAt < row.updatedAt →
    after = some row
  fetched : ∀ row ∈ after, id.artifactUUID ∈ round.artifactUUIDs → row.source ≠ "local" →
    ∃ key ∈ round.keysAt id,
      row.Agrees key ∨ stored = some row ∧ key.updatedAt < row.updatedAt
  stored : ∀ key ∈ round.keysAt id, ∃ row, after = some row ∧ (row.Agrees key ∨
    stored = some row ∧ (row.source = "local" ∨ key.updatedAt < row.updatedAt))

structure Synced (table : KeyTable) (rounds : List Round) (final : KeyTable) : Prop where
  localKept : ∀ id, ∀ row ∈ table.rowAt id, row.source = "local" → final.rowAt id = some row
  rounds : ∀ round ∈ rounds, ∀ id, round.SyncedAt id (table.rowAt id) (final.rowAt id)

/-! ## The condition -/

/-- No key is newer than the row; a key without UUID is skipped. -/
def APIKey.Stands (row : APIKey) (keys : List APIKey) : Prop :=
  ∀ key ∈ keys, key.uuid ≠ "" → key.updatedAt ≤ row.updatedAt

/-- The keys of one artifact and name are one key, perhaps fetched several times. -/
def OneKey (keys : List APIKey) : Prop :=
  ∀ key ∈ keys, key.uuid ≠ "" ∧ ∀ other ∈ keys, other.Agrees key

/-- A row that stands is known to the deletion exactly when it is local or fetched, and each key
that is fetched for it is older than it or agrees with it, unless it is local. -/
structure Round.Spares (round : Round) (id : KeyID) (row : APIKey) : Prop where
  notStale : id.artifactUUID ∈ round.artifactUUIDs →
    (row.uuid ∈ fetchedUUIDs round.keys ↔ row.source = "local" ∨ round.keysAt id ≠ [])
  notNewer : ∀ key ∈ round.keysAt id,
    row.source = "local" ∨ key.updatedAt < row.updatedAt ∨ row.Agrees key

/-- What a round asks of the stored row of an identifier: when the row stands, it is spared;
otherwise it is not local, and one key is fetched. -/
structure Round.Reconcilable (round : Round) (id : KeyID) (stored : Option APIKey) : Prop where
  standing : ∀ row ∈ stored, row.Stands (round.keysAt id) → round.Spares id row
  replaced : ∀ row ∈ stored, ¬ row.Stands (round.keysAt id) → row.source ≠ "local"
  one : (∀ row ∈ stored, ¬ row.Stands (round.keysAt id)) → OneKey (round.keysAt id)

/-! ## A run without failures -/

def KeyTable.upsertAll (table : KeyTable) (keys : List APIKey) : Except StorageError KeyTable :=
  keys.foldlM upsertAPIKey table

def KeyTable.syncRound (table : KeyTable) (round : Round) : Except StorageError KeyTable :=
  (table.upsertAll (round.keys.filter (·.uuid ≠ ""))).map
    (·.reconcile round.artifactUUIDs round.keys)

section Successful

theorem upsertAll_of_foldl {keys : List APIKey} : ∀ {state : SyncState},
    (keys.foldl SyncState.upsert state).failed = [] → state.failed = [] ∧
      state.table.upsertAll (keys.filter (·.uuid ≠ "")) =
        .ok (keys.foldl SyncState.upsert state).table := by
  induction keys with
  | nil => exact fun hfailed => ⟨hfailed, rfl⟩
  | cons key rest ih =>
    intro state hfailed
    rw [List.foldl_cons] at hfailed ⊢
    obtain ⟨hnext, hrest⟩ := ih hfailed
    by_cases huuid : key.uuid = ""
    · have hupsert : state.upsert key = state := if_pos huuid
      rw [hupsert] at hnext hrest ⊢
      exact ⟨hnext, by simpa [huuid] using hrest⟩
    · rw [List.filter_cons_of_pos (by simpa using huuid)]
      cases hresult : state.table.upsertAPIKey key with
      | error problem =>
        simp [SyncState.upsert, huuid, hresult] at hnext
      | ok table =>
        have hupsert : state.upsert key = { state with table := table } := by
          simp [SyncState.upsert, huuid, hresult]
        rw [hupsert] at hnext hrest ⊢
        refine ⟨hnext, ?_⟩
        rw [upsertAll, List.foldlM_cons, hresult]
        exact hrest

theorem syncRounds_of_run {sync : BulkSync} {kinds : List ArtifactKind} :
    ∀ {state : SyncState}, (kinds.foldl sync.next state).failed = [] → state.failed = [] ∧
      (kinds.filterMap sync.round).foldlM syncRound state.table =
        .ok (kinds.foldl sync.next state).table := by
  induction kinds with
  | nil => exact fun hfailed => ⟨hfailed, rfl⟩
  | cons kind rest ih =>
    intro state hfailed
    rw [List.foldl_cons] at hfailed ⊢
    obtain ⟨hnext, hrest⟩ := ih hfailed
    by_cases hskipped : (sync.onPrem && !onPremSupportedAPIKeyKinds kind) = true
    · have hround : sync.round kind = none := if_pos hskipped
      have hsame : sync.next state kind = state := if_pos hskipped
      rw [List.filterMap_cons_none hround, hsame]
      rw [hsame] at hnext hrest
      exact ⟨hnext, hrest⟩
    · cases hfetch : sync.fetchAPIKeysByKind kind with
      | none =>
        have hround : sync.round kind = none := by
          rw [BulkSync.round, if_neg hskipped, hfetch, Option.map_none]
        have hsame : sync.next state kind = state := by
          rw [BulkSync.next, if_neg hskipped, hfetch]
        rw [List.filterMap_cons_none hround, hsame]
        rw [hsame] at hnext hrest
        exact ⟨hnext, hrest⟩
      | some keys =>
        have hround : sync.round kind = some ⟨kind, sync.artifactUUIDsByKind kind, keys⟩ := by
          rw [BulkSync.round, if_neg hskipped, hfetch, Option.map_some]
        have hstep : sync.next state kind =
            state.syncKind (sync.artifactUUIDsByKind kind) keys := by
          rw [BulkSync.next, if_neg hskipped, hfetch]
        rw [hstep] at hnext hrest ⊢
        obtain ⟨hstart, hupserts⟩ := upsertAll_of_foldl hnext
        refine ⟨hstart, ?_⟩
        rw [List.filterMap_cons_some hround, List.foldlM_cons, syncRound, hupserts]
        exact hrest

end Successful

/-! ## The row of an identifier -/

section Rows

variable {table next final : KeyTable} {keys : List APIKey} {round : Round} {rounds : List Round}
  {stored : Option APIKey} {id : KeyID}

def upsertedBy (keys : List APIKey) (stored : Option APIKey) : Option APIKey :=
  keys.foldl (fun row key => some (upserted key row)) stored

theorem rowAt_upsertAll : ∀ {table : KeyTable}, table.upsertAll keys = .ok next →
    next.rowAt id = upsertedBy (keys.filter (·.id = id)) (table.rowAt id) := by
  induction keys with
  | nil =>
    intro table hrun
    rw [← Except.ok.inj hrun]
    rfl
  | cons key rest ih =>
    intro table hrun
    obtain ⟨middle, hupsert, hrest⟩ := bind_eq_ok.mp hrun
    rw [ih hrest, rowAt_upsertAPIKey_eq id hupsert]
    by_cases hid : id = key.id
    · rw [if_pos hid, List.filter_cons_of_pos (by simp [hid]), upsertedBy, upsertedBy,
        List.foldl_cons]
    · rw [if_neg hid, List.filter_cons_of_neg (by simp [Ne.symm hid])]

theorem rowAt_reconcile {artifactUUIDs : List String} :
    (table.reconcile artifactUUIDs keys).rowAt id = (table.rowAt id).filter fun row =>
      decide (id.artifactUUID ∈ artifactUUIDs → row.uuid ∈ fetchedUUIDs keys) := by
  rw [reconcile, deleteAPIKeysByUUIDs, rowAt_keepRows]
  cases hstored : table.rowAt id with
  | none => rfl
  | some row =>
    obtain ⟨hrow, rfl⟩ := rowAt_eq_some_iff.mp hstored
    rw [Option.filter_some, Option.filter_some]
    congr 1
    rw [decide_eq_true_eq, decide_eq_true_eq, List.mem_map, not_exists, eq_iff_iff]
    constructor
    · intro hfresh hartifact
      by_contra hstale
      refine hfresh row ⟨List.mem_filter.mpr ⟨hrow, ?_⟩, rfl⟩
      simp [show row.artifactUUID ∈ artifactUUIDs from hartifact, hstale]
    · rintro hfetched stale ⟨hstale, huuid⟩
      obtain ⟨hmem, hnotFetched⟩ := List.mem_filter.mp hstale
      obtain rfl := List.inj_on_of_nodup_map table.unique.uuids hmem hrow huuid
      simp only [Bool.and_eq_true, decide_eq_true_eq] at hnotFetched
      exact hnotFetched.2 (hfetched hnotFetched.1)

def Round.rowAfter (round : Round) (id : KeyID) (stored : Option APIKey) : Option APIKey :=
  (upsertedBy ((round.keysAt id).filter (·.uuid ≠ "")) stored).filter fun row =>
    decide (id.artifactUUID ∈ round.artifactUUIDs → row.uuid ∈ fetchedUUIDs round.keys)

theorem rowAt_syncRound (hsync : table.syncRound round = .ok next) :
    next.rowAt id = round.rowAfter id (table.rowAt id) := by
  obtain ⟨upserted, hupserts, rfl⟩ := map_eq_ok.mp hsync
  rw [rowAt_reconcile, rowAt_upsertAll hupserts, Round.rowAfter, Round.keysAt, List.filter_filter,
    List.filter_filter]
  simp only [Bool.and_comm]

/-! ## Rounds of other kinds -/

structure Round.OfKind (kindOf : String → ArtifactKind) (round : Round) : Prop where
  artifacts : ∀ uuid ∈ round.artifactUUIDs, kindOf uuid = round.kind
  keys : ∀ key ∈ round.keys, kindOf key.artifactUUID = round.kind

variable {kindOf : String → ArtifactKind}

theorem Round.OfKind.keysAt_eq_nil (hround : round.OfKind kindOf)
    (hkind : kindOf id.artifactUUID ≠ round.kind) : round.keysAt id = [] := by
  refine List.filter_eq_nil_iff.mpr fun key hkey hid => hkind ?_
  have hsame : key.id = id := of_decide_eq_true hid
  rw [← hsame]
  exact hround.keys key hkey

theorem Round.OfKind.rowAfter_eq (hround : round.OfKind kindOf)
    (hkind : kindOf id.artifactUUID ≠ round.kind) : round.rowAfter id stored = stored := by
  have hartifact : id.artifactUUID ∉ round.artifactUUIDs :=
    fun hmem => hkind (hround.artifacts _ hmem)
  rw [Round.rowAfter, hround.keysAt_eq_nil hkind]
  cases stored <;> simp [upsertedBy, hartifact]

theorem Round.OfKind.reconcilable (hround : round.OfKind kindOf)
    (hkind : kindOf id.artifactUUID ≠ round.kind) : round.Reconcilable id stored := by
  have hkeys := hround.keysAt_eq_nil hkind
  refine ⟨fun row _ _ => ⟨fun hmem => absurd (hround.artifacts _ hmem) hkind, ?_⟩, ?_, ?_⟩
  · simp [hkeys]
  · simp [hkeys, APIKey.Stands]
  · simp [hkeys, OneKey]

theorem rowAt_syncRounds_of_ne (hrounds : ∀ round ∈ rounds, round.OfKind kindOf)
    (hkind : ∀ round ∈ rounds, kindOf id.artifactUUID ≠ round.kind)
    (hrun : rounds.foldlM syncRound table = .ok final) : final.rowAt id = table.rowAt id := by
  refine foldlM_ok_invariant (KeyTable.rowAt · id = table.rowAt id) ?_ rfl hrun
  intro round hround state next hsync hsame
  rw [rowAt_syncRound hsync, (hrounds round hround).rowAfter_eq (hkind round hround), hsame]

theorem rowAt_syncRounds (hrounds : ∀ round ∈ rounds, round.OfKind kindOf)
    (hkinds : (rounds.map (·.kind)).Nodup) (hround : round ∈ rounds)
    (hkind : kindOf id.artifactUUID = round.kind)
    (hrun : rounds.foldlM syncRound table = .ok final) :
    final.rowAt id = round.rowAfter id (table.rowAt id) := by
  obtain ⟨before, after, rfl⟩ := List.append_of_mem hround
  rw [List.foldlM_append] at hrun
  obtain ⟨middle, hbefore, hrest⟩ := bind_eq_ok.mp hrun
  obtain ⟨next, hsync, hafter⟩ := bind_eq_ok.mp hrest
  rw [List.map_append, List.map_cons, List.nodup_append, List.nodup_cons] at hkinds
  obtain ⟨-, ⟨hlater, -⟩, hearlier⟩ := hkinds
  have hbeforeRow : middle.rowAt id = table.rowAt id := by
    refine rowAt_syncRounds_of_ne (fun other hother => hrounds other (by simp [hother])) ?_ hbefore
    intro other hother hsame
    exact hearlier _ (List.mem_map_of_mem hother) _ List.mem_cons_self (hsame.symm.trans hkind)
  have hafterRow : final.rowAt id = next.rowAt id := by
    refine rowAt_syncRounds_of_ne (fun other hother => hrounds other (by simp [hother])) ?_ hafter
    intro other hother hsame
    exact hlater (List.mem_map.mpr ⟨other, hother, hsame.symm.trans hkind⟩)
  rw [hafterRow, rowAt_syncRound hsync, hbeforeRow]

/-! ## One identifier -/

theorem upsertedBy_of_stands {row : APIKey}
    (hstands : ∀ key ∈ keys, key.updatedAt ≤ row.updatedAt) :
    upsertedBy keys (some row) = some row := by
  induction keys with
  | nil => rfl
  | cons key rest ih =>
    have hkey : upserted key (some row) = row :=
      if_neg (not_lt.mpr (hstands key List.mem_cons_self))
    rw [upsertedBy, List.foldl_cons, hkey]
    exact ih fun other hother => hstands other (List.mem_cons_of_mem _ hother)

theorem upsertedBy_cases : ∀ {stored : Option APIKey}, upsertedBy keys stored = stored ∨
    ∃ row, upsertedBy keys stored = some row ∧ ∃ key ∈ keys, row.Agrees key := by
  induction keys with
  | nil => exact .inl rfl
  | cons key rest ih =>
    intro stored
    have hkey : some (upserted key stored) = stored ∨ (upserted key stored).Agrees key := by
      cases stored with
      | none => exact .inr rfl
      | some row =>
        by_cases holder : row.updatedAt < key.updatedAt
        · rw [upserted, if_pos holder]
          exact .inr rfl
        · exact .inl (congrArg some (if_neg holder))
    rcases @ih (some (upserted key stored)) with hsame | ⟨row, hrow, other, hother, hagrees⟩
    · rcases hkey with hstored | hagrees
      · exact .inl (hsame.trans hstored)
      · exact .inr ⟨_, hsame, key, List.mem_cons_self, hagrees⟩
    · exact .inr ⟨row, hrow, other, List.mem_cons_of_mem _ hother, hagrees⟩

theorem le_upserted {key row : APIKey} (hstored : stored = some row) :
    row.updatedAt ≤ (upserted key stored).updatedAt ∧
      key.updatedAt ≤ (upserted key stored).updatedAt := by
  rw [hstored, upserted]
  split
  next hlt => exact ⟨hlt.le, le_rfl⟩
  next hnot => exact ⟨le_rfl, not_lt.mp hnot⟩

theorem le_upsertedBy : ∀ {row : APIKey}, ∃ after, upsertedBy keys (some row) = some after ∧
    row.updatedAt ≤ after.updatedAt := by
  induction keys with
  | nil => exact ⟨_, rfl, le_rfl⟩
  | cons key rest ih =>
    intro row
    obtain ⟨after, hafter, hle⟩ := @ih (upserted key (some row))
    exact ⟨after, hafter, (le_upserted rfl).1.trans hle⟩

/-- A key that is newer than the stored row, or finds none, leaves its values or gives way to a key
that is not older. -/
theorem exists_upsertedBy {newer : APIKey} (hmem : newer ∈ keys)
    (hnewer : ∀ row ∈ stored, row.updatedAt < newer.updatedAt) :
    ∃ row, upsertedBy keys stored = some row ∧ newer.updatedAt ≤ row.updatedAt ∧
      ∃ key ∈ keys, row.Agrees key := by
  have hrow : ∃ row, upsertedBy keys stored = some row ∧ newer.updatedAt ≤ row.updatedAt := by
    obtain ⟨before, after, rfl⟩ := List.append_of_mem hmem
    obtain ⟨row, hrow, hle⟩ :=
      @le_upsertedBy after (upserted newer (upsertedBy before stored))
    refine ⟨row, by rw [← hrow, upsertedBy, List.foldl_append]; rfl, le_trans ?_ hle⟩
    cases hbefore : upsertedBy before stored with
    | none => exact le_rfl
    | some old => exact (le_upserted rfl).2
  obtain ⟨row, hrow, hle⟩ := hrow
  rcases @upsertedBy_cases keys stored with hsame | ⟨other, hother, hagrees⟩
  · exact absurd (hnewer row (hsame.symm.trans hrow)) (not_lt.mpr hle)
  · obtain rfl := Option.some.inj (hrow.symm.trans hother)
    exact ⟨row, hrow, hle, hagrees⟩

def Round.KeepsLocal (round : Round) (id : KeyID) (stored : Option APIKey) : Prop :=
  ∀ row ∈ stored, row.source = "local" → round.rowAfter id stored = some row

theorem Round.syncedAt_iff_spares {row : APIKey} (hstands : row.Stands (round.keysAt id)) :
    round.KeepsLocal id (some row) ∧ round.SyncedAt id (some row) (round.rowAfter id (some row)) ↔
      round.Spares id row := by
  have hafter : round.rowAfter id (some row) = (some row).filter fun row =>
      decide (id.artifactUUID ∈ round.artifactUUIDs → row.uuid ∈ fetchedUUIDs round.keys) := by
    rw [Round.rowAfter, upsertedBy_of_stands]
    intro key hkey
    obtain ⟨hmem, huuid⟩ := List.mem_filter.mp hkey
    exact hstands key hmem (by simpa using huuid)
  rw [Round.KeepsLocal, hafter]
  by_cases hkept : id.artifactUUID ∈ round.artifactUUIDs → row.uuid ∈ fetchedUUIDs round.keys
  · rw [Option.filter_some, if_pos (decide_eq_true hkept)]
    constructor
    · rintro ⟨-, hsynced⟩
      refine ⟨fun hartifact => iff_of_true (hkept hartifact) ?_, fun key hkey => ?_⟩
      · by_contra hneither
        push Not at hneither
        obtain ⟨key, hkey, -⟩ := hsynced.fetched row rfl hartifact hneither.1
        rw [hneither.2] at hkey
        cases hkey
      · obtain ⟨found, hfound, hcases⟩ := hsynced.stored key hkey
        obtain rfl := Option.some.inj hfound
        tauto
    · intro hspares
      refine ⟨fun found hfound _ => hfound, ?_, ?_, fun key hkey => ⟨row, rfl, ?_⟩⟩
      · exact fun found hfound _ _ _ => hfound
      · intro found hfound hartifact hsource
        obtain rfl := Option.some.inj hfound
        have hkeys := ((hspares.notStale hartifact).mp (hkept hartifact)).resolve_left hsource
        obtain ⟨key, hkey⟩ := List.exists_mem_of_ne_nil _ hkeys
        refine ⟨key, hkey, ?_⟩
        have hcases := hspares.notNewer key hkey
        tauto
      · have hcases := hspares.notNewer key hkey
        tauto
  · rw [Option.filter_some, if_neg (by simpa using hkept)]
    push Not at hkept
    constructor
    · rintro ⟨hlocalKept, hsynced⟩
      refine ⟨fun _ => iff_of_false hkept.2 ?_, fun key hkey => ?_⟩
      · rintro (hlocal | hkeys)
        · cases hlocalKept row rfl hlocal
        · obtain ⟨key, hkey⟩ := List.exists_mem_of_ne_nil _ hkeys
          obtain ⟨found, hfound, -⟩ := hsynced.stored key hkey
          cases hfound
      · obtain ⟨found, hfound, -⟩ := hsynced.stored key hkey
        cases hfound
    · intro hspares
      have hneither := (hspares.notStale hkept.1).not.mp hkept.2
      push Not at hneither
      refine ⟨fun found hfound hlocal => ?_, ?_, by simp, ?_⟩
      · exact absurd (Option.some.inj hfound ▸ hlocal) hneither.1
      · simp [hneither.2]
      · simp [hneither.2]

theorem Round.syncedAt_iff_of_newer {newer : APIKey}
    (hmem : newer ∈ (round.keysAt id).filter (·.uuid ≠ ""))
    (hnewer : ∀ row ∈ stored, row.updatedAt < newer.updatedAt) :
    round.KeepsLocal id stored ∧ round.SyncedAt id stored (round.rowAfter id stored) ↔
      (∀ row ∈ stored, row.source ≠ "local") ∧ OneKey (round.keysAt id) := by
  obtain ⟨after, hupserted, hle, key, hkey, hagrees⟩ := exists_upsertedBy hmem hnewer
  obtain ⟨hkey, huuid⟩ := List.mem_filter.mp hkey
  have hfetched : after.uuid ∈ fetchedUUIDs round.keys := by
    rw [hagrees.uuid]
    exact List.mem_map_of_mem (List.mem_filter.mpr ⟨List.mem_of_mem_filter hkey, huuid⟩)
  have hafter : round.rowAfter id stored = some after := by
    rw [Round.rowAfter, hupserted, Option.filter_some, if_pos (by simp [hfetched])]
  have hother : ∀ row ∈ stored, row ≠ after := by
    rintro row hrow rfl
    exact absurd (hnewer row hrow) (not_lt.mpr hle)
  rw [Round.KeepsLocal, hafter]
  constructor
  · rintro ⟨hlocalKept, hsynced⟩
    have hall : ∀ other ∈ round.keysAt id, after.Agrees other := by
      intro other hmem
      obtain ⟨found, hfound, hcases⟩ := hsynced.stored other hmem
      obtain rfl := Option.some.inj hfound
      exact hcases.resolve_right fun hstored => hother after hstored.1 rfl
    refine ⟨fun row hrow hlocal => ?_, fun other hmem => ⟨?_, fun second hsecond => ?_⟩⟩
    · exact hother row hrow (Option.some.inj (hlocalKept row hrow hlocal)).symm
    · rw [← (hall other hmem).uuid, hagrees.uuid]
      simpa using huuid
    · exact (hall second hsecond).symm.trans (hall other hmem)
  · rintro ⟨hsource, hone⟩
    have hall : ∀ other ∈ round.keysAt id, after.Agrees other :=
      fun other hmem => hagrees.trans ((hone other hmem).2 key hkey)
    refine ⟨fun row hrow hlocal => absurd hlocal (hsource row hrow), ?_, ?_, ?_⟩
    · intro row hrow other hmem holder
      have hlater := hnewer row hrow
      rw [(hall other hmem).updatedAt] at hle
      exact absurd holder (not_lt.mpr (hlater.le.trans hle))
    · intro found hfound _ _
      exact ⟨key, hkey, .inl (Option.some.inj hfound ▸ hagrees)⟩
    · exact fun other hmem => ⟨after, rfl, .inl (hall other hmem)⟩

theorem Round.syncedAt_iff_oneKey (hreplaced : ∀ row ∈ stored, ¬ row.Stands (round.keysAt id)) :
    round.KeepsLocal id stored ∧ round.SyncedAt id stored (round.rowAfter id stored) ↔
      (∀ row ∈ stored, row.source ≠ "local") ∧ OneKey (round.keysAt id) := by
  by_cases hnewer : ∃ newer ∈ (round.keysAt id).filter (·.uuid ≠ ""),
      ∀ row ∈ stored, row.updatedAt < newer.updatedAt
  · obtain ⟨newer, hmem, hnewer⟩ := hnewer
    exact Round.syncedAt_iff_of_newer hmem hnewer
  · -- nothing is stored and nothing is upserted
    have hnone : stored = none := by
      cases stored with
      | none => rfl
      | some row =>
        have hnot := hreplaced row rfl
        unfold APIKey.Stands at hnot
        push Not at hnot
        obtain ⟨key, hkey, huuid, hlt⟩ := hnot
        refine absurd ⟨key, List.mem_filter.mpr ⟨hkey, by simpa using huuid⟩, ?_⟩ hnewer
        exact fun found hfound => Option.some.inj hfound ▸ hlt
    subst hnone
    have hskipped : ∀ key ∈ round.keysAt id, key.uuid = "" := by
      intro key hkey
      by_contra huuid
      exact hnewer ⟨key, List.mem_filter.mpr ⟨hkey, by simpa using huuid⟩, by simp⟩
    have hafter : round.rowAfter id none = none := by
      rw [Round.rowAfter, List.filter_eq_nil_iff.mpr (by simpa using hskipped)]
      rfl
    rw [Round.KeepsLocal, hafter]
    constructor
    · rintro ⟨-, hsynced⟩
      refine ⟨by simp, fun key hkey => ?_⟩
      obtain ⟨row, hrow, -⟩ := hsynced.stored key hkey
      cases hrow
    · rintro ⟨-, hone⟩
      exact ⟨by simp, by simp, by simp,
        fun key hkey => absurd (hskipped key hkey) (hone key hkey).1⟩

theorem Round.syncedAt_iff :
    round.KeepsLocal id stored ∧ round.SyncedAt id stored (round.rowAfter id stored) ↔
      round.Reconcilable id stored := by
  by_cases hstands : ∃ row ∈ stored, row.Stands (round.keysAt id)
  · obtain ⟨row, rfl, hstands⟩ := hstands
    rw [Round.syncedAt_iff_spares hstands]
    constructor
    · intro hspares
      refine ⟨fun found hfound _ => ?_, fun found hfound hnot => ?_, fun hnone => ?_⟩
      · exact Option.some.inj hfound ▸ hspares
      · exact absurd (Option.some.inj hfound ▸ hstands) hnot
      · exact absurd hstands (hnone row rfl)
    · exact fun hreconcilable => hreconcilable.standing row rfl hstands
  · push Not at hstands
    rw [Round.syncedAt_iff_oneKey hstands]
    constructor
    · rintro ⟨hsource, hone⟩
      exact ⟨fun row hrow hrowStands => absurd hrowStands (hstands row hrow),
        fun row hrow _ => hsource row hrow, fun _ => hone⟩
    · intro hreconcilable
      exact ⟨fun row hrow => hreconcilable.replaced row hrow (hstands row hrow),
        hreconcilable.one hstands⟩

theorem synced_iff (hrounds : ∀ round ∈ rounds, round.OfKind kindOf)
    (hkinds : (rounds.map (·.kind)).Nodup) (hrun : rounds.foldlM syncRound table = .ok final) :
    Synced table rounds final ↔
      ∀ round ∈ rounds, ∀ id, round.Reconcilable id (table.rowAt id) := by
  constructor
  · intro hsynced round hround id
    by_cases hkind : kindOf id.artifactUUID = round.kind
    · have hafter := rowAt_syncRounds hrounds hkinds hround hkind hrun
      rw [← Round.syncedAt_iff, Round.KeepsLocal, ← hafter]
      exact ⟨hsynced.localKept id, hsynced.rounds round hround id⟩
    · exact (hrounds round hround).reconcilable hkind
  · intro hreconcilable
    have hat : ∀ {round id}, round ∈ rounds → kindOf id.artifactUUID = round.kind →
        (∀ row ∈ table.rowAt id, row.source = "local" → final.rowAt id = some row) ∧
          round.SyncedAt id (table.rowAt id) (final.rowAt id) := by
      intro round id hround hkind
      rw [rowAt_syncRounds hrounds hkinds hround hkind hrun]
      exact Round.syncedAt_iff.mpr (hreconcilable round hround id)
    refine ⟨fun id row hrow hlocal => ?_, fun round hround id => ?_⟩
    · by_cases hkind : ∃ round ∈ rounds, kindOf id.artifactUUID = round.kind
      · obtain ⟨round, hround, hkind⟩ := hkind
        exact (hat hround hkind).1 row hrow hlocal
      · push Not at hkind
        rwa [rowAt_syncRounds_of_ne hrounds hkind hrun]
    · by_cases hkind : kindOf id.artifactUUID = round.kind
      · exact (hat hround hkind).2
      · have hkeys := (hrounds round hround).keysAt_eq_nil hkind
        refine ⟨by simp [hkeys], fun _ _ hmem => ?_, by simp [hkeys]⟩
        exact absurd ((hrounds round hround).artifacts _ hmem) hkind

end Rows

theorem BulkSync.ofKind_of_mem_rounds (sync : BulkSync) :
    ∀ round ∈ sync.rounds, round.OfKind sync.kindOf := by
  intro round hround
  obtain ⟨kind, -, hkind⟩ := List.mem_filterMap.mp hround
  unfold BulkSync.round at hkind
  split_ifs at hkind
  obtain ⟨keys, hfetched, rfl⟩ := Option.map_eq_some_iff.mp hkind
  refine ⟨fun uuid huuid => ?_, sync.fetched_kind kind keys hfetched⟩
  obtain ⟨config, hconfig, rfl⟩ := List.mem_map.mp huuid
  obtain ⟨hmem, hsame⟩ := List.mem_filter.mp hconfig
  exact (sync.configs_kind config hmem).trans (of_decide_eq_true hsame)

theorem BulkSync.nodup_kinds (sync : BulkSync) : (sync.rounds.map (·.kind)).Nodup := by
  rw [BulkSync.rounds, List.map_filterMap]
  refine List.Nodup.filterMap (fun kind other found hkind hother => ?_) (by decide)
  have hsame : ∀ kind, found ∈ (sync.round kind).map (·.kind) → found = kind := by
    intro kind hfound
    obtain ⟨round, hround, rfl⟩ := Option.map_eq_some_iff.mp hfound
    unfold BulkSync.round at hround
    split_ifs at hround
    obtain ⟨keys, -, rfl⟩ := Option.map_eq_some_iff.mp hround
    rfl
  exact (hsame kind hkind).symm.trans (hsame other hother)

section Samples

def storedKey (uuid name source : String) (updatedAt : Time) : APIKey where
  uuid := uuid
  name := name
  apiKey := uuid
  maskedAPIKey := "***"
  artifactUUID := "pets"
  status := .active
  createdAt := 0
  createdBy := "admin"
  updatedAt := updatedAt
  expiresAt := none
  source := source
  externalRefId := none
  issuer := none

def singleRow (row : APIKey) : KeyTable where
  rows := [row]
  unique := ⟨List.nodup_singleton _, List.nodup_singleton _, List.nodup_singleton _⟩

theorem rowAt_singleRow (row : APIKey) (id : KeyID) :
    (singleRow row).rowAt id = if row.id = id then some row else none := by
  simp only [rowAt, singleRow, List.find?_singleton, beq_iff_eq]

def restSync (keys : List APIKey) : BulkSync where
  onPrem := true
  configs := [(.restApi, "pets")]
  fetchAPIKeysByKind := fun kind => if kind = .restApi then some keys else none
  kindOf := fun _ => .restApi
  configs_kind := by simp
  fetched_kind := by
    intro kind fetched hfetched key _
    split_ifs at hfetched with hkind
    exact hkind.symm

end Samples

end ApiPlatform.Controller.ApiKeys
