import ApiPlatform.Controller.Models
import ApiPlatform.Foundation.GoStrings
import ApiPlatform.Foundation.Selection

/-!
# The table of API keys

The table `api_keys` and the statements that read and write it
(`pkg/storage/sql_store.go`).  A table carries the uniqueness constraints of the
schema; a write that would break one of them is rejected.
-/

namespace ApiPlatform.Controller.ApiKeys

open Foundation

inductive APIKeyStatus where
  | active
  | revoked
  | expired
  deriving DecidableEq

@[ext]
structure KeyID where
  artifactUUID : String
  name : String
  deriving DecidableEq

structure APIKey where
  uuid : String
  name : String
  apiKey : String
  maskedAPIKey : String
  artifactUUID : String
  status : APIKeyStatus
  createdAt : Time
  createdBy : String
  updatedAt : Time
  expiresAt : Option Time
  source : String
  externalRefId : Option String
  issuer : Option String
  deriving DecidableEq

def APIKey.id (key : APIKey) : KeyID :=
  ⟨key.artifactUUID, key.name⟩

/-! ## Constraints -/

structure UniqueKeys (rows : List APIKey) : Prop where
  hashes : (rows.map (·.apiKey)).Nodup
  ids : (rows.map APIKey.id).Nodup
  uuids : (rows.map (·.uuid)).Nodup

instance (rows : List APIKey) : Decidable (UniqueKeys rows) :=
  decidable_of_iff
    ((rows.map (·.apiKey)).Nodup ∧ (rows.map APIKey.id).Nodup ∧ (rows.map (·.uuid)).Nodup)
    ⟨fun ⟨hhashes, hids, huuids⟩ => ⟨hhashes, hids, huuids⟩,
      fun hunique => ⟨hunique.hashes, hunique.ids, hunique.uuids⟩⟩

structure KeyTable where
  rows : List APIKey
  unique : UniqueKeys rows

def KeyTable.empty : KeyTable :=
  ⟨[], ⟨List.nodup_nil, List.nodup_nil, List.nodup_nil⟩⟩

inductive StorageError where
  | conflict
  deriving DecidableEq

def StorageError.message : StorageError → String
  | .conflict => "configuration already exists: API key value already exists"

def commit (rows : List APIKey) : Except StorageError KeyTable :=
  if hunique : UniqueKeys rows then .ok ⟨rows, hunique⟩ else .error .conflict

theorem rows_of_commit {rows : List APIKey} {table : KeyTable} (hcommit : commit rows = .ok table) :
    table.rows = rows := by
  unfold commit at hcommit
  split at hcommit
  · cases hcommit
    rfl
  · cases hcommit

/-! ## Statements -/

namespace KeyTable

variable (table : KeyTable)

def rowAt (id : KeyID) : Option APIKey :=
  table.rows.find? (·.id == id)

def getAPIKeysByAPIAndName (apiId name : String) : Option APIKey :=
  table.rowAt ⟨apiId, name⟩

def getAPIKeyByID (uuid : String) : Option APIKey :=
  table.rows.find? (·.uuid == uuid)

def getAPIKeysByAPI (apiId : String) : List APIKey :=
  table.rows.filter (·.artifactUUID == apiId)

def countActiveAPIKeysByUserAndAPI (apiId userID : String) : Nat :=
  table.rows.countP fun row =>
    row.artifactUUID == apiId && row.createdBy == userID && row.status == .active

/-- The row that the guarded update of an upsert leaves; the creator stays. -/
def upsertRow (row key : APIKey) : APIKey :=
  { row with
    uuid := key.uuid
    apiKey := key.apiKey
    maskedAPIKey := key.maskedAPIKey
    status := key.status
    updatedAt := key.updatedAt
    expiresAt := key.expiresAt
    source := if row.source ≠ "" then row.source else key.source
    externalRefId := key.externalRefId.or row.externalRefId
    issuer := if row.issuer.getD "" ≠ "" then row.issuer else key.issuer }

def upsertAPIKey (key : APIKey) : Except StorageError KeyTable :=
  let isOlder := fun row : APIKey => row.id = key.id ∧ row.updatedAt < key.updatedAt
  if table.rows.any isOlder then
    commit (table.rows.map fun row => if isOlder row then upsertRow row key else row)
  else if table.rows.any (·.id = key.id) then .ok table
  else commit (table.rows ++ [key])

def updateRow (row key : APIKey) : APIKey :=
  { row with
    apiKey := key.apiKey
    maskedAPIKey := key.maskedAPIKey
    status := key.status
    createdBy := key.createdBy
    updatedAt := key.updatedAt
    expiresAt := key.expiresAt
    source := key.source
    externalRefId := key.externalRefId }

def updateAPIKey (key : APIKey) : Except StorageError KeyTable :=
  commit (table.rows.map fun row => if row.id = key.id then updateRow row key else row)

def keepRows (keep : APIKey → Bool) : KeyTable where
  rows := table.rows.filter keep
  unique :=
    { hashes := table.unique.hashes.sublist (List.filter_sublist.map _)
      ids := table.unique.ids.sublist (List.filter_sublist.map _)
      uuids := table.unique.uuids.sublist (List.filter_sublist.map _) }

def removeAPIKeyAPIAndName (apiId name : String) : KeyTable :=
  table.keepRows (·.id ≠ ⟨apiId, name⟩)

def removeAPIKeysAPI (apiId : String) : KeyTable :=
  table.keepRows (·.artifactUUID ≠ apiId)

end KeyTable

/-! ## What a statement can do to a row -/

section Effects

variable {table next : KeyTable} {key row : APIKey}

theorem eq_of_id_eq {other : APIKey} (hrow : row ∈ table.rows) (hother : other ∈ table.rows)
    (hid : row.id = other.id) : row = other :=
  List.inj_on_of_nodup_map table.unique.ids hrow hother hid

theorem mem_upsertAPIKey (hupsert : table.upsertAPIKey key = .ok next) (hrow : row ∈ table.rows)
    (hkept : ¬ (row.id = key.id ∧ row.updatedAt < key.updatedAt)) : row ∈ next.rows := by
  unfold KeyTable.upsertAPIKey at hupsert
  dsimp only at hupsert
  split at hupsert
  · rw [rows_of_commit hupsert]
    exact List.mem_map.mpr ⟨row, hrow, if_neg hkept⟩
  · split at hupsert
    · cases hupsert
      exact hrow
    · rw [rows_of_commit hupsert]
      exact List.mem_append_left _ hrow

theorem mem_updateAPIKey (hupdate : table.updateAPIKey key = .ok next) (hrow : row ∈ table.rows)
    (hkept : row.id ≠ key.id) : row ∈ next.rows := by
  rw [rows_of_commit hupdate]
  exact List.mem_map.mpr ⟨row, hrow, if_neg hkept⟩

theorem mem_removeAPIKeyAPIAndName {apiId name : String} :
    row ∈ (table.removeAPIKeyAPIAndName apiId name).rows ↔
      row ∈ table.rows ∧ row.id ≠ ⟨apiId, name⟩ := by
  simp [KeyTable.removeAPIKeyAPIAndName, KeyTable.keepRows]

end Effects

/-! ## The row of an identifier -/

section Rows

variable {table next : KeyTable} {key row : APIKey} {id : KeyID}

theorem rowAt_eq_some_iff : table.rowAt id = some row ↔ row ∈ table.rows ∧ row.id = id := by
  refine (find?_eq_some_iff_of_unique fun _ hleft _ hright hfirst hsecond => ?_).trans (by simp)
  exact eq_of_id_eq hleft hright ((beq_iff_eq.mp hfirst).trans (beq_iff_eq.mp hsecond).symm)

theorem getAPIKeyByID_eq_some_iff {uuid : String} :
    table.getAPIKeyByID uuid = some row ↔ row ∈ table.rows ∧ row.uuid = uuid := by
  refine (find?_eq_some_iff_of_unique fun _ hleft _ hright hfirst hsecond => ?_).trans (by simp)
  exact List.inj_on_of_nodup_map table.unique.uuids hleft hright
    ((beq_iff_eq.mp hfirst).trans (beq_iff_eq.mp hsecond).symm)

theorem rowAt_of_map (id : KeyID) {change : APIKey → APIKey}
    (hrows : next.rows = table.rows.map change)
    (hid : ∀ row, (change row).id = row.id) : next.rowAt id = (table.rowAt id).map change := by
  unfold KeyTable.rowAt
  rw [hrows, List.find?_map]
  simp [hid]

theorem rowAt_updateAPIKey (id : KeyID) (hupdate : table.updateAPIKey key = .ok next) :
    next.rowAt id =
      if id = key.id then (table.rowAt id).map (KeyTable.updateRow · key) else table.rowAt id := by
  rw [rowAt_of_map id (rows_of_commit hupdate) fun row => by split <;> rfl]
  cases hrow : table.rowAt id with
  | none => simp
  | some row =>
    have hid := (rowAt_eq_some_iff.mp hrow).2
    by_cases hsame : id = key.id
    · simp [hid, hsame]
    · simp [hid, hsame]

def KeyTable.upserted (key : APIKey) : Option APIKey → APIKey
  | none => key
  | some row => if row.updatedAt < key.updatedAt then KeyTable.upsertRow row key else row

theorem rowAt_of_any (id : KeyID) {accepts : APIKey → Bool} (hany : table.rows.any accepts = true)
    (hid : ∀ row, accepts row = true → row.id = id) :
    ∃ row, table.rowAt id = some row ∧ accepts row = true := by
  obtain ⟨row, hrow, haccepts⟩ := List.any_eq_true.mp hany
  exact ⟨row, rowAt_eq_some_iff.mpr ⟨hrow, hid row haccepts⟩, haccepts⟩

theorem rowAt_upsertAPIKey_eq (id : KeyID) (hupsert : table.upsertAPIKey key = .ok next) :
    next.rowAt id =
      if id = key.id then some (KeyTable.upserted key (table.rowAt id)) else table.rowAt id := by
  unfold KeyTable.upsertAPIKey at hupsert
  dsimp only at hupsert
  split at hupsert
  next holder =>
    have hmap := rowAt_of_map id (rows_of_commit hupsert) (fun row => by split <;> rfl)
    rw [hmap]
    by_cases hid : id = key.id
    · obtain ⟨old, hold, holder⟩ := rowAt_of_any key.id holder
        fun row haccepts => (of_decide_eq_true haccepts).1
      have holder := of_decide_eq_true holder
      rw [hid, hold]
      simp [KeyTable.upserted, holder]
    · cases hrow : table.rowAt id with
      | none => simp [hid]
      | some row => simp [(rowAt_eq_some_iff.mp hrow).2, hid]
  next hnotOlder =>
    split at hupsert
    next hexists =>
      cases hupsert
      by_cases hid : id = key.id
      · obtain ⟨row, hrow, _⟩ := rowAt_of_any key.id hexists
          fun row haccepts => of_decide_eq_true haccepts
        obtain ⟨hmem, hrowID⟩ := rowAt_eq_some_iff.mp hrow
        have hnewer : ¬ row.updatedAt < key.updatedAt := fun hlt =>
          hnotOlder (List.any_eq_true.mpr ⟨row, hmem, decide_eq_true ⟨hrowID, hlt⟩⟩)
        simp [hid, hrow, KeyTable.upserted, hnewer]
      · rw [if_neg hid]
    next habsent =>
      unfold KeyTable.rowAt
      rw [rows_of_commit hupsert, List.find?_append]
      by_cases hid : id = key.id
      · have hnone : table.rows.find? (·.id == key.id) = none := by
          rw [List.find?_eq_none]
          intro row hrow hsame
          refine habsent (List.any_eq_true.mpr ⟨row, hrow, ?_⟩)
          simpa using hsame
        simp [hid, hnone, KeyTable.upserted]
      · simp [hid, Ne.symm hid]

theorem rowAt_upsertAPIKey (hupsert : table.upsertAPIKey key = .ok next) :
    next.rowAt id = table.rowAt id ∨
      id = key.id ∧ ∃ row, next.rowAt id = some row ∧ row.uuid = key.uuid ∧
        row.status = key.status := by
  rw [rowAt_upsertAPIKey_eq id hupsert]
  split
  next hid =>
    cases hrow : table.rowAt id with
    | none => exact .inr ⟨hid, _, rfl, rfl, rfl⟩
    | some row =>
      by_cases holder : row.updatedAt < key.updatedAt
      · exact .inr ⟨hid, _, rfl, by simp [KeyTable.upserted, holder, KeyTable.upsertRow],
          by simp [KeyTable.upserted, holder, KeyTable.upsertRow]⟩
      · simp [KeyTable.upserted, holder]
  next => exact .inl rfl

theorem rowAt_keepRows {keep : APIKey → Bool} :
    (table.keepRows keep).rowAt id = (table.rowAt id).filter keep := by
  apply Option.ext
  intro row
  simp only [rowAt_eq_some_iff, Option.filter_eq_some_iff, KeyTable.keepRows, List.mem_filter]
  exact and_right_comm

theorem rowAt_keepRows_of_kept {keep : APIKey → Bool}
    (hkept : ∀ row ∈ table.rowAt id, keep row = true) :
    (table.keepRows keep).rowAt id = table.rowAt id := by
  rw [rowAt_keepRows]
  cases hrow : table.rowAt id with
  | none => rfl
  | some row => simp [hkept row hrow]

end Rows

end ApiPlatform.Controller.ApiKeys
