import ApiPlatform.Controller.StoredConfig

/-!
# The artifacts in the database

The `artifacts` table of `pkg/storage/sql_store.go`, for one gateway: a row for
every UUID, with the unique constraints of the schema.  `UpsertConfig` writes a
row only if its deployment is newer than the one that is stored.
-/

namespace ApiPlatform.Controller.Storage

open Foundation

inductive Origin where
  | controlPlane
  | gatewayAPI
  deriving DecidableEq

structure Artifact where
  kind : String
  handle : String
  displayName : String
  version : String
  desiredState : DesiredState
  deploymentID : String
  origin : Origin
  deployedAt : Option Time
  cpArtifactID : String
  deriving DecidableEq

/-- The rows violate `UNIQUE(kind, handle)` or `UNIQUE(kind, display_name, version)`. -/
def Artifact.clashes (row other : Artifact) : Bool :=
  other.kind == row.kind &&
    (other.handle == row.handle ||
      (other.displayName == row.displayName && other.version == row.version))

structure ArtifactDB where
  rows : GoMap String Artifact
  unique : ∀ left right leftRow rightRow, rows.lookup left = some leftRow →
    rows.lookup right = some rightRow → leftRow.clashes rightRow = true → left = right

theorem Artifact.clashes_comm (row other : Artifact) : row.clashes other = other.clashes row := by
  simp only [Artifact.clashes, Bool.beq_comm]

namespace ArtifactDB

def singleton (uuid : String) (row : Artifact) : ArtifactDB where
  rows := (∅ : GoMap String Artifact).insert uuid row
  unique := by
    have hkey : ∀ key stored, ((∅ : GoMap String Artifact).insert uuid row).lookup key =
        some stored → key = uuid := by
      intro key stored hlookup
      by_contra hne
      rw [AList.lookup_insert_ne hne, AList.lookup_empty] at hlookup
      cases hlookup
    intro left right leftRow rightRow hleft hright _
    rw [hkey left leftRow hleft, hkey right rightRow hright]

section Reads

variable (db : ArtifactDB)

def findUUID (test : Artifact → Bool) : Option String :=
  db.rows.keys.find? fun uuid => (db.rows.lookup uuid).any test

def getConfigByKindAndHandle (kind handle : String) : Option String :=
  db.findUUID fun row => row.kind == kind && row.handle == handle

def getConfigByKindNameAndVersion (kind displayName version : String) : Option String :=
  db.findUUID fun row =>
    row.kind == kind && (row.displayName == displayName && row.version == version)

def getConfigByCPArtifactID (cpArtifactID : String) : Option String :=
  db.findUUID fun row => row.cpArtifactID != "" && row.cpArtifactID == cpArtifactID

def getAllConfigsByOrigin (origin : Origin) : List (String × Artifact) :=
  db.rows.keys.filterMap fun uuid =>
    (db.rows.lookup uuid).bind fun row => if row.origin = origin then some (uuid, row) else none

end Reads

/-! ## Writes -/

section Writes

variable (db : ArtifactDB) (uuid : String) (row : Artifact)

def isTaken : Bool :=
  db.rows.keys.any fun other => other != uuid && (db.rows.lookup other).any row.clashes

theorem not_clashes_of_not_isTaken (hfree : db.isTaken uuid row = false) {other : String}
    {stored : Artifact} (hother : other ≠ uuid) (hlookup : db.rows.lookup other = some stored) :
    row.clashes stored = false := by
  have hkey : other ∈ db.rows.keys :=
    AList.mem_keys.mp (AList.lookup_isSome.mp (Option.isSome_of_eq_some hlookup))
  have hchecked := List.any_eq_false.mp hfree other hkey
  simpa [hother, hlookup] using hchecked

def insertRow (hfree : db.isTaken uuid row = false) : ArtifactDB where
  rows := db.rows.insert uuid row
  unique := by
    intro left right leftRow rightRow hleft hright hclash
    rcases lookup_insert_eq_some_iff.mp hleft with ⟨rfl, rfl⟩ | ⟨hleftKey, hfound⟩
    · rcases lookup_insert_eq_some_iff.mp hright with ⟨hrightKey, -⟩ | ⟨hrightKey, hright⟩
      · exact hrightKey.symm
      · simp [db.not_clashes_of_not_isTaken _ _ hfree hrightKey hright] at hclash
    · rcases lookup_insert_eq_some_iff.mp hright with ⟨rfl, rfl⟩ | ⟨-, hright⟩
      · rw [Artifact.clashes_comm] at hclash
        simp [db.not_clashes_of_not_isTaken _ _ hfree hleftKey hfound] at hclash
      · exact db.unique left right leftRow rightRow hfound hright hclash

/-- The guard `deployed_at IS NULL OR deployed_at < ?`; a row that is absent is inserted. -/
def accepts (stored : Option Artifact) : Bool :=
  match stored with
  | none => true
  | some stored =>
    match stored.deployedAt, row.deployedAt with
    | none, _ => true
    | some old, some new => old < new
    | some _, none => false

def written (stored : Option Artifact) : Artifact :=
  { row with cpArtifactID := (stored.map (·.cpArtifactID)).getD row.cpArtifactID }

def upsertConfig : Except String (ArtifactDB × Bool) :=
  if row.handle = "" then .error "handle (metadata.name) is required and cannot be empty"
  else
    let stored := db.rows.lookup uuid
    if accepts row stored then
      if hfree : db.isTaken uuid (written row stored) = false then
        .ok (db.insertRow uuid (written row stored) hfree, true)
      else .error "failed to upsert artifact: unique constraint violated"
    else .ok (db, false)

def deleteConfig : Except String ArtifactDB :=
  if uuid ∈ db.rows then
    .ok
      { rows := db.rows.erase uuid
        unique := by
          intro left right leftRow rightRow hleft hright hclash
          exact db.unique left right leftRow rightRow (lookup_erase_eq_some_iff.mp hleft).2
            (lookup_erase_eq_some_iff.mp hright).2 hclash }
  else .error ("configuration not found: id=" ++ uuid)

end Writes

/-! ## What the operations do -/

section Specifications

variable {db after : ArtifactDB} {uuid other : String} {row : Artifact} {affected : Bool}

section

variable (hok : db.upsertConfig uuid row = .ok (after, affected))
include hok

theorem upsertConfig_ok :
    after.rows = if accepts row (db.rows.lookup uuid) then
      db.rows.insert uuid (written row (db.rows.lookup uuid)) else db.rows := by
  unfold upsertConfig at hok
  split at hok
  · cases hok
  dsimp only at hok
  split at hok
  · rename_i haccepts
    rw [if_pos haccepts]
    split at hok
    · obtain ⟨rfl, -⟩ := Prod.mk.inj (Except.ok.inj hok)
      rfl
    · cases hok
  · rename_i hrejects
    rw [if_neg hrejects]
    obtain ⟨rfl, -⟩ := Prod.mk.inj (Except.ok.inj hok)
    rfl

theorem lookup_upsertConfig_ne
    (hother : other ≠ uuid) : after.rows.lookup other = db.rows.lookup other := by
  rw [upsertConfig_ok hok]
  split
  · exact AList.lookup_insert_ne hother
  · rfl

theorem lookup_upsertConfig
    (haccepts : accepts row (db.rows.lookup uuid) = true) :
    after.rows.lookup uuid = some (written row (db.rows.lookup uuid)) := by
  rw [upsertConfig_ok hok, if_pos haccepts, AList.lookup_insert]

end

theorem deleteConfig_ok (hok : db.deleteConfig uuid = .ok after) (other : String) :
    after.rows.lookup other = if other = uuid then none else db.rows.lookup other := by
  unfold deleteConfig at hok
  split at hok
  · rw [← Except.ok.inj hok]
    exact lookup_erase_eq uuid
  · cases hok

theorem findUUID_some {test : Artifact → Bool} (hfound : db.findUUID test = some uuid) :
    ∃ row, db.rows.lookup uuid = some row ∧ test row = true := by
  have htest := List.find?_some hfound
  cases hlookup : db.rows.lookup uuid with
  | none => simp [hlookup] at htest
  | some row => exact ⟨row, rfl, by simpa [hlookup] using htest⟩

theorem getConfigByKindAndHandle_eq (hlookup : db.rows.lookup uuid = some row)
    (hfound : db.getConfigByKindAndHandle row.kind row.handle = some other) : other = uuid := by
  obtain ⟨found, hother, htest⟩ := findUUID_some hfound
  refine db.unique other uuid found row hother hlookup ?_
  simp only [Bool.and_eq_true, beq_iff_eq] at htest
  simp [Artifact.clashes, htest]

theorem mem_getAllConfigsByOrigin {origin : Origin} {entry : String × Artifact} :
    entry ∈ db.getAllConfigsByOrigin origin ↔
      db.rows.lookup entry.1 = some entry.2 ∧ entry.2.origin = origin := by
  rw [getAllConfigsByOrigin, List.mem_filterMap]
  constructor
  · rintro ⟨key, -, hentry⟩
    obtain ⟨stored, hlookup, hstored⟩ := Option.bind_eq_some_iff.mp hentry
    split at hstored
    · rename_i horigin
      obtain rfl := Option.some.inj hstored
      exact ⟨hlookup, horigin⟩
    · cases hstored
  · rintro ⟨hlookup, horigin⟩
    have hkey : entry.1 ∈ db.rows.keys :=
      AList.mem_keys.mp (AList.lookup_isSome.mp (Option.isSome_of_eq_some hlookup))
    exact ⟨entry.1, hkey, by simp [hlookup, horigin]⟩

end Specifications

end ArtifactDB

end ApiPlatform.Controller.Storage
