import ApiPlatform.Controller.ApiKeys.Service
import ApiPlatform.Foundation.Fallible

/-!
# What a successful call of the key service has done

For each function of the service, what is known of the key and of the table when it
returns without an error.
-/

namespace ApiPlatform.Controller.ApiKeys

open Foundation APIKeyService

variable {draw : Draw} {apiId : String} {now : Time}

variable {service : APIKeyService} {table next : KeyTable} {environment : Environment}
  {key : APIKey}

/-! ## Creation -/

section Creation

variable {params : APIKeyCreationParams}

theorem creationName_ok {handle name : String} {request : APIKeyCreationRequest}
    (hname : creationName table draw apiId handle request = .ok name) :
    (isGiven request.name = true ∧ name = trimmed request.name) ∨
      (isGiven request.name = false ∧ table.getAPIKeysByAPIAndName apiId name = none) := by
  unfold creationName at hname
  split at hname
  next hgiven =>
    obtain ⟨valid, -, hname⟩ := bind_eq_ok.mp hname
    cases hname
    exact .inl ⟨hgiven, rfl⟩
  next hmissing =>
    unfold generateUniqueAPIKeyName at hname
    dsimp only at hname
    split at hname
    next found hfound =>
      cases hname
      exact .inr ⟨by simpa using hmissing, by simpa using List.find?_some hfound⟩
    next => cases hname

structure CreatedFrom (service : APIKeyService) (table : KeyTable) (now : Time) (draw : Draw)
    (apiId : String) (params : APIKeyCreationParams) (key : APIKey) : Prop where
  artifact : key.artifactUUID = apiId
  uuid : key.uuid = if isGiven params.uuid then trimmed params.uuid else draw.uuid
  value : ∃ mask,
    service.creationValue draw params.request params.apiKeyHashes = .ok (key.apiKey, mask)
  expiry : service.requestedExpiry now params.request.expiresAt params.request.expiresIn none =
    .ok key.expiresAt
  active : key.status = .active
  updated : key.updatedAt = params.updatedAt.getD now
  name : (isGiven params.request.name = true ∧ key.name = trimmed params.request.name) ∨
    (isGiven params.request.name = false ∧ table.getAPIKeysByAPIAndName apiId key.name = none)

theorem createAPIKeyFromRequest_ok
    (hcreate : service.createAPIKeyFromRequest table now draw apiId params = .ok key) :
    CreatedFrom service table now draw apiId params key := by
  obtain ⟨value, hvalue, hcreate⟩ := bind_eq_ok.mp hcreate
  obtain ⟨name, hname, hcreate⟩ := bind_eq_ok.mp hcreate
  obtain ⟨expiresAt, hexpiry, hcreate⟩ := bind_eq_ok.mp hcreate
  cases hcreate
  exact ⟨rfl, rfl, ⟨value.2, hvalue⟩, hexpiry, rfl, rfl, creationName_ok hname⟩

theorem createAPIKey_ok {saved : SavedKey}
    (hcreate : service.createAPIKey table environment params = .ok saved) :
    ∃ apiId first, resolveConfig environment params.kind params.handle = .ok apiId ∧
      CreatedFrom service table environment.now saved.draw apiId params saved.key ∧
      table.upsertAPIKey saved.key = .ok saved.table ∧
      CreatedFrom service table environment.now environment.first apiId params first ∧
      ((saved.draw = environment.first ∧ saved.key = first) ∨
        ∃ problem, table.upsertAPIKey first = .error problem) := by
  obtain ⟨apiId, hresolve, hcreate⟩ := bind_eq_ok.mp hcreate
  obtain ⟨within, -, hcreate⟩ := bind_eq_ok.mp hcreate
  obtain ⟨first, hfirst, hcreate⟩ := bind_eq_ok.mp hcreate
  have hfirst := createAPIKeyFromRequest_ok (mapError_eq_ok.mp hfirst)
  refine ⟨apiId, first, hresolve, ?_⟩
  split at hcreate
  next stored hstored =>
    cases hcreate
    exact ⟨hfirst, hstored, hfirst, .inl ⟨rfl, rfl⟩⟩
  next problem hproblem =>
    split at hcreate
    · cases hcreate
    · obtain ⟨again, hagain, hcreate⟩ := bind_eq_ok.mp hcreate
      obtain ⟨stored, hstored, hcreate⟩ := bind_eq_ok.mp hcreate
      cases hcreate
      exact ⟨createAPIKeyFromRequest_ok (mapError_eq_ok.mp hagain), mapError_eq_ok.mp hstored,
        hfirst, .inr ⟨problem, hproblem⟩⟩

end Creation

/-! ## Update -/

section Update

variable {params : APIKeyUpdateParams} {existing updated : APIKey}

structure UpdatedFrom (service : APIKeyService) (now : Time) (existing : APIKey)
    (params : APIKeyUpdateParams) (updated : APIKey) : Prop where
  id : updated.id = existing.id
  value : ∃ mask, service.providedValue params.request params.apiKeyHashes =
    .ok (updated.apiKey, mask)
  expiry : service.requestedExpiry now params.request.expiresAt params.request.expiresIn none =
    .ok updated.expiresAt
  updatedAt : updated.updatedAt = params.updatedAt.getD now

theorem updateAPIKeyFromRequest_ok
    (hupdate : service.updateAPIKeyFromRequest now existing params = .ok updated) :
    UpdatedFrom service now existing params updated := by
  unfold updateAPIKeyFromRequest at hupdate
  dsimp only at hupdate
  split at hupdate
  · cases hupdate
  · obtain ⟨value, hvalue, hupdate⟩ := bind_eq_ok.mp hupdate
    obtain ⟨expiresAt, hexpiry, hupdate⟩ := bind_eq_ok.mp hupdate
    cases hupdate
    exact ⟨rfl, ⟨value.2, hvalue⟩, hexpiry, rfl⟩

theorem updateAPIKey_ok
    (hupdate : service.updateAPIKey table environment params = .ok (next, key)) :
    ∃ apiId, resolveConfig environment params.kind params.handle = .ok apiId ∧
      ((table.rowAt ⟨apiId, params.apiKeyName⟩ = none ∧
          ∃ draw, service.createAPIKey table environment (creationOfUpdate params) =
            .ok ⟨next, key, draw⟩) ∨
        ∃ existing, table.rowAt ⟨apiId, params.apiKeyName⟩ = some existing ∧
          existing.createdBy = params.user.userID ∧
          UpdatedFrom service environment.now existing params key ∧
          table.updateAPIKey key = .ok next) := by
  unfold updateAPIKey at hupdate
  dsimp only at hupdate
  split at hupdate
  · cases hupdate
  obtain ⟨apiId, hresolve, hupdate⟩ := bind_eq_ok.mp hupdate
  refine ⟨apiId, hresolve, ?_⟩
  split at hupdate
  next hnone =>
    split at hupdate
    · obtain ⟨saved, hsaved, hupdate⟩ := bind_eq_ok.mp hupdate
      cases hupdate
      exact .inl ⟨hnone, saved.draw, mapError_eq_ok.mp hsaved⟩
    · cases hupdate
  next existing hexisting =>
    right
    split at hupdate
    · cases hupdate
    split at hupdate
    · cases hupdate
    next hallowed =>
      obtain ⟨updated, hupdated, hupdate⟩ := bind_eq_ok.mp hupdate
      obtain ⟨stored, hstored, hupdate⟩ := bind_eq_ok.mp hupdate
      cases hupdate
      exact ⟨existing, hexisting, by simpa [canRegenerateAPIKey] using hallowed,
        updateAPIKeyFromRequest_ok (mapError_eq_ok.mp hupdated), mapError_eq_ok.mp hstored⟩

end Update

/-! ## Regeneration -/

section Regeneration

variable {params : APIKeyRegenerationParams} {existing : APIKey}

structure RegeneratedFrom (service : APIKeyService) (draw : Draw) (existing regenerated : APIKey) :
    Prop where
  id : regenerated.id = existing.id
  uuid : regenerated.uuid = existing.uuid
  value : service.hashAPIKey draw.apiKeyValue = .ok regenerated.apiKey
  active : regenerated.status = .active

theorem regeneratedKey_ok
    (hregenerate : service.regeneratedKey now draw existing params = .ok key) :
    RegeneratedFrom service draw existing key := by
  obtain ⟨hash, hhash, hregenerate⟩ := bind_eq_ok.mp hregenerate
  obtain ⟨expiresAt, -, hregenerate⟩ := bind_eq_ok.mp hregenerate
  cases hregenerate
  exact ⟨rfl, rfl, mapError_eq_ok.mp hhash, rfl⟩

theorem regenerateAPIKey_ok {saved : SavedKey}
    (hregenerate : service.regenerateAPIKey table environment params = .ok saved) :
    ∃ apiId existing, table.rowAt ⟨apiId, params.apiKeyName⟩ = some existing ∧
      existing.createdBy = params.user.userID ∧
      RegeneratedFrom service saved.draw existing saved.key ∧
      table.updateAPIKey saved.key = .ok saved.table := by
  obtain ⟨apiId, -, hregenerate⟩ := bind_eq_ok.mp hregenerate
  split at hregenerate
  · cases hregenerate
  next existing hexisting =>
    split at hregenerate
    · cases hregenerate
    next hallowed =>
      refine ⟨apiId, existing, hexisting, by simpa [canRegenerateAPIKey] using hallowed, ?_⟩
      obtain ⟨regenerated, hregenerated, hregenerate⟩ := bind_eq_ok.mp hregenerate
      split at hregenerate
      next stored hstored =>
        cases hregenerate
        exact ⟨regeneratedKey_ok (mapError_eq_ok.mp hregenerated), hstored⟩
      next =>
        obtain ⟨again, hagain, hregenerate⟩ := bind_eq_ok.mp hregenerate
        obtain ⟨stored, hstored, hregenerate⟩ := bind_eq_ok.mp hregenerate
        cases hregenerate
        exact ⟨regeneratedKey_ok (mapError_eq_ok.mp hagain), mapError_eq_ok.mp hstored⟩

end Regeneration

end ApiPlatform.Controller.ApiKeys
