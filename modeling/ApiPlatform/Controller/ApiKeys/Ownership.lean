import ApiPlatform.Controller.ApiKeys.Outcomes
import ApiPlatform.Foundation.Runs

/-!
# Ownership of API keys

Update, regeneration and revocation ask who created the key before they write.
Creation does not: it writes through an upsert keyed by artifact and name.  In
every history in which no creation names an older key of another user, a key
changes only by its creator or by the revocation of an administrator.
-/

namespace ApiPlatform.Controller.ApiKeys

open Foundation APIKeyService KeyTable

/-! ## The property and the condition -/

/-- The key is still there, with its creator, hash, status and expiry. -/
def IsKept (row : APIKey) (table : KeyTable) : Prop :=
  ∃ kept ∈ table.rows, kept.id = row.id ∧ kept.createdBy = row.createdBy ∧
    kept.apiKey = row.apiKey ∧ kept.status = row.status ∧ kept.expiresAt = row.expiresAt

def Call.IsAdminRevocation : Call → Prop
  | .revoke params => isAdmin params.user = true
  | _ => False

def OnlyOwnerOrAdminChanges (before : KeyTable) (request : Request) (after : KeyTable) : Prop :=
  ∀ row ∈ before.rows, IsKept row after ∨ request.call.user.userID = row.createdBy ∨
    request.call.IsAdminRevocation

/-- The creation that a call amounts to: its own, or that of an update of a key
that does not exist. -/
def Request.creation (table : KeyTable) (request : Request) : Option APIKeyCreationParams :=
  match request.call with
  | .create params => some params
  | .update params =>
    match resolveConfig request.environment params.kind params.handle with
    | .error _ => none
    | .ok apiId =>
      match table.getAPIKeysByAPIAndName apiId params.apiKeyName with
      | some _ => none
      | none => some (creationOfUpdate params)
  | .regenerate _ => none
  | .revoke _ => none

/-- A creation asks for the name of an older key of another user. -/
def NamesForeignKey (table : KeyTable) (request : Request) : Prop :=
  ∃ params, request.creation table = some params ∧ isGiven params.request.name = true ∧
    ∃ row ∈ table.rows,
      resolveConfig request.environment params.kind params.handle = .ok row.artifactUUID ∧
      row.name = trimmed params.request.name ∧
      row.updatedAt < params.updatedAt.getD request.environment.now ∧
      row.createdBy ≠ params.user.userID

/-! ## Creation -/

section Creation

variable {service : APIKeyService} {table next : KeyTable} {environment : Environment}
  {params : APIKeyCreationParams} {key : APIKey} {draw : Draw}

theorem mem_createAPIKey {row : APIKey}
    (hcreate : service.createAPIKey table environment params = .ok ⟨next, key, draw⟩)
    (hrow : row ∈ table.rows)
    (hforeign : isGiven params.request.name = true →
      resolveConfig environment params.kind params.handle = .ok row.artifactUUID →
      row.name = trimmed params.request.name →
      row.updatedAt < params.updatedAt.getD environment.now → row.createdBy = params.user.userID) :
    row ∈ next.rows ∨ params.user.userID = row.createdBy := by
  obtain ⟨apiId, -, hresolve, hcreated, hupsert, -⟩ := createAPIKey_ok hcreate
  by_cases holder : row.id = key.id ∧ row.updatedAt < key.updatedAt
  · obtain ⟨hid, hbefore⟩ := holder
    have hrowArtifact : row.artifactUUID = apiId :=
      (congrArg KeyID.artifactUUID hid).trans hcreated.artifact
    have hrowName : row.name = key.name := congrArg KeyID.name hid
    rcases hcreated.name with ⟨hgiven, hkeyName⟩ | ⟨_, hfree⟩
    · right
      exact (hforeign hgiven (hrowArtifact ▸ hresolve) (hrowName.trans hkeyName)
        (hcreated.updated ▸ hbefore)).symm
    · -- a generated name is free, so no row has it
      rw [getAPIKeysByAPIAndName, rowAt, List.find?_eq_none] at hfree
      have hrowId : row.id = ⟨apiId, key.name⟩ := by
        rw [APIKey.id, hrowArtifact, hrowName]
      exact absurd hrowId (by simpa using hfree row hrow)
  · exact Or.inl (mem_upsertAPIKey hupsert hrow holder)

end Creation

/-! ## Update, regeneration and revocation -/

section Checked

variable {service : APIKeyService} {table next : KeyTable} {environment : Environment}
  {key row : APIKey}

theorem mem_update_of_creator {existing updated : APIKey} {user : AuthContext}
    (hexisting : existing ∈ table.rows) (hcreator : existing.createdBy = user.userID)
    (hid : updated.id = existing.id) (hupdate : table.updateAPIKey updated = .ok next)
    (hrow : row ∈ table.rows) : row ∈ next.rows ∨ user.userID = row.createdBy := by
  by_cases hrowId : row.id = updated.id
  · have heq := eq_of_id_eq hrow hexisting (hrowId.trans hid)
    exact Or.inr (heq ▸ hcreator.symm)
  · exact Or.inl (mem_updateAPIKey hupdate hrow hrowId)

theorem mem_regenerateAPIKey {params : APIKeyRegenerationParams} {saved : SavedKey}
    (hregenerate : service.regenerateAPIKey table environment params = .ok saved)
    (hrow : row ∈ table.rows) : row ∈ saved.table.rows ∨ params.user.userID = row.createdBy := by
  obtain ⟨apiId, existing, hexisting, hcreator, hregenerated, hupdate⟩ :=
    regenerateAPIKey_ok hregenerate
  exact mem_update_of_creator (rowAt_eq_some_iff.mp hexisting).1 hcreator hregenerated.id hupdate
    hrow

theorem mem_revokeAPIKey {params : APIKeyRevocationParams}
    (hrevoke : revokeAPIKey table environment params = .ok next)
    (hrow : row ∈ table.rows) :
    row ∈ next.rows ∨ params.user.userID = row.createdBy ∨
      isAdmin params.user = true := by
  obtain ⟨apiId, -, hrevoke⟩ := bind_eq_ok.mp hrevoke
  split at hrevoke
  · cases hrevoke
    exact Or.inl hrow
  rename_i found hfound
  obtain ⟨hmem, hid⟩ := rowAt_eq_some_iff.mp hfound
  split at hrevoke
  · cases hrevoke
  rename_i hallowed
  split at hrevoke
  · cases hrevoke
    exact Or.inl hrow
  obtain ⟨revoked, hrevoked, hrevoke⟩ := bind_eq_ok.mp hrevoke
  cases hrevoke
  by_cases hrowId : row.id = found.id
  · right
    obtain rfl := eq_of_id_eq hrow hmem hrowId
    have hmay : canRevokeAPIKey params.user row = true := by
      simpa using hallowed
    rw [canRevokeAPIKey, Bool.or_eq_true, beq_iff_eq] at hmay
    rcases hmay with hadmin | hcreator
    · exact Or.inr hadmin
    · exact Or.inl hcreator.symm
  · left
    have hkept : row ∈ revoked.rows :=
      mem_updateAPIKey (mapError_eq_ok.mp hrevoked) hrow hrowId
    have hfoundName : (⟨apiId, found.name⟩ : KeyID) = found.id := by
      have hartifact : found.artifactUUID = apiId := congrArg KeyID.artifactUUID hid
      rw [APIKey.id, hartifact]
    exact mem_removeAPIKeyAPIAndName.mpr ⟨hkept, hfoundName ▸ hrowId⟩

end Checked

/-! ## Histories -/

section Histories

variable {service : APIKeyService}

theorem mem_step {table : KeyTable} {request : Request} {row : APIKey} (hrow : row ∈ table.rows)
    (hnames : ¬ NamesForeignKey table request) :
    row ∈ (service.step table request).rows ∨ request.call.user.userID = row.createdBy ∨
      request.call.IsAdminRevocation := by
  have hcreation : ∀ {params : APIKeyCreationParams} {saved : SavedKey},
      request.creation table = some params →
      service.createAPIKey table request.environment params = .ok saved →
      row ∈ saved.table.rows ∨ params.user.userID = row.createdBy := by
    intro params saved hparams hcreate
    refine mem_createAPIKey hcreate hrow ?_
    intro hgiven hresolve hname hbefore
    by_contra hforeign
    exact hnames ⟨params, hparams, hgiven, row, hrow, hresolve, hname, hbefore, hforeign⟩
  unfold step
  cases hperform : service.perform table request with
  | error message => exact Or.inl hrow
  | ok next =>
    unfold perform at hperform
    cases hcall : request.call with
    | create params =>
      simp only [hcall] at hperform
      obtain ⟨saved, hcreate, rfl⟩ := map_eq_ok.mp hperform
      have hparams : request.creation table = some params := by
        simp [Request.creation, hcall]
      exact (hcreation hparams hcreate).imp_right Or.inl
    | update params =>
      simp only [hcall] at hperform
      obtain ⟨⟨stored, key⟩, hupdate, rfl⟩ := map_eq_ok.mp hperform
      obtain ⟨apiId, hresolve, houtcome⟩ := updateAPIKey_ok hupdate
      rcases houtcome with ⟨hnone, draw, hcreate⟩ |
        ⟨existing, hexisting, hcreator, hupdated, hstored⟩
      · have hparams :
            request.creation table = some (creationOfUpdate params) := by
          simp [Request.creation, hcall, hresolve, getAPIKeysByAPIAndName, hnone]
        exact (hcreation hparams hcreate).imp_right Or.inl
      · have hmem := (rowAt_eq_some_iff.mp hexisting).1
        exact (mem_update_of_creator hmem hcreator hupdated.id hstored hrow).imp_right Or.inl
    | regenerate params =>
      simp only [hcall] at hperform
      obtain ⟨saved, hregenerate, rfl⟩ := map_eq_ok.mp hperform
      exact (mem_regenerateAPIKey hregenerate hrow).imp_right Or.inl
    | revoke params =>
      simp only [hcall] at hperform
      exact mem_revokeAPIKey hperform hrow

theorem keys_changed_only_by_owner_or_admin (service : APIKeyService) (start : KeyTable)
    (history : List Request)
    (hconforms : Conforms service.step (fun table request => ¬ NamesForeignKey table request)
      start history) :
    ∀ pre request post, history = pre ++ request :: post →
      OnlyOwnerOrAdminChanges (run service.step start pre) request
        (run service.step start (pre ++ [request])) := by
  rintro pre request post rfl row hrow
  rw [run_append]
  rcases mem_step hrow hconforms.allowed with hkept | hchanged
  · exact Or.inl ⟨row, hkept, rfl, rfl, rfl, rfl, rfl⟩
  · exact Or.inr hchanged

end Histories

/-! ## Two users -/

def generates (user name : String) (now : Time) : Request where
  environment := ordersAt now (user ++ name) ("apip_" ++ (user ++ name))
  call := .create (orderKeyOf user name)

def aliceKey : APIKey where
  uuid := "alicemobile"
  name := "mobile"
  apiKey := "sha256:apip_alicemobile"
  maskedAPIKey := "***obile"
  artifactUUID := "orders-api"
  status := .active
  createdAt := 1
  createdBy := "alice"
  updatedAt := 1
  expiresAt := none
  source := "local"
  externalRefId := none
  issuer := none

theorem rows_after_alice :
    (plainService.step empty (generates "alice" "mobile" 1)).rows = [aliceKey] := by
  decide +kernel

theorem bob_with_own_name_keeps_alice_key :
    OnlyOwnerOrAdminChanges
      (run plainService.step empty [generates "alice" "mobile" 1])
      (generates "bob" "desktop" 2)
      (run plainService.step empty
        [generates "alice" "mobile" 1, generates "bob" "desktop" 2]) := by
  refine keys_changed_only_by_owner_or_admin plainService empty
    [generates "alice" "mobile" 1, generates "bob" "desktop" 2] ⟨?_, ?_, trivial⟩ [_] _ [] rfl
  · rintro ⟨params, -, -, row, hrow, -⟩
    exact absurd hrow List.not_mem_nil
  · rintro ⟨params, hparams, -, row, hrow, -, hname, -⟩
    rw [rows_after_alice, List.mem_singleton] at hrow
    obtain rfl : _ = params := Option.some.inj hparams
    rw [hrow] at hname
    exact absurd hname (by decide)

/-- Bob generates a key under the name of Alice's key: her row now holds his hash. -/
theorem bob_takes_alice_key :
    ¬ OnlyOwnerOrAdminChanges
      (run plainService.step empty [generates "alice" "mobile" 1])
      (generates "bob" "mobile" 2)
      (run plainService.step empty
        [generates "alice" "mobile" 1, generates "bob" "mobile" 2]) := by
  intro honly
  have hrow : aliceKey ∈
      (run plainService.step empty [generates "alice" "mobile" 1]).rows := by
    exact List.mem_cons_self
  have hhashes : (run plainService.step empty
      [generates "alice" "mobile" 1, generates "bob" "mobile" 2]).rows.map
        (fun row => (row.createdBy, row.apiKey)) = [("alice", "sha256:apip_bobmobile")] := by
    decide +kernel
  rcases honly aliceKey hrow with ⟨kept, hkept, -, -, hhash, -⟩ | howner | hadmin
  · have hpair := List.mem_map_of_mem (f := fun row : APIKey => (row.createdBy, row.apiKey)) hkept
    rw [hhashes, List.mem_singleton, Prod.mk.injEq, hhash] at hpair
    exact absurd hpair.2 (by decide)
  · exact absurd howner (by decide)
  · exact hadmin

end ApiPlatform.Controller.ApiKeys
