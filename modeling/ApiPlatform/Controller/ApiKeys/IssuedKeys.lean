import ApiPlatform.Controller.ApiKeys.Outcomes
import ApiPlatform.Controller.EventListener.Listener

/-!
# Keys that are given to a caller

A call that generates a key answers with its plaintext and publishes an event for the
replicas.  The row is written by an upsert, which keeps a row that is not older; the
service does not ask whether the row was written.
-/

namespace ApiPlatform.Controller.ApiKeys

open Foundation
open Controller.EventListener (Event buildAPIKeyEntityID)

/-- What a call leaves: the table, the key that was to be saved, the plaintext of its answer and
the event that it publishes. -/
structure IssuedKey where
  table : KeyTable
  key : APIKey
  plainAPIKey : Option String
  event : Event

/-- The plaintext is given only for a key that the service generated. -/
def responseAPIKey (plainAPIKey : String) (isExternalKeyInjection : Bool) : Option String :=
  if plainAPIKey ≠ "" ∧ isExternalKeyInjection = false then some plainAPIKey else none

namespace APIKeyService

variable (service : APIKeyService)

def createAPIKeyResponse (table : KeyTable) (environment : Environment)
    (params : APIKeyCreationParams) : Except String IssuedKey := do
  let saved ← service.createAPIKey table environment params
  let external := isExternalKeyInjection params.request params.apiKeyHashes
  pure ⟨saved.table, saved.key, responseAPIKey saved.draw.apiKeyValue external,
    ⟨.apiKey, .create, buildAPIKeyEntityID saved.key.artifactUUID saved.key.uuid⟩⟩

def regenerateAPIKeyResponse (table : KeyTable) (environment : Environment)
    (params : APIKeyRegenerationParams) : Except String IssuedKey := do
  let saved ← service.regenerateAPIKey table environment params
  pure ⟨saved.table, saved.key, responseAPIKey saved.draw.apiKeyValue false,
    ⟨.apiKey, .update, buildAPIKeyEntityID saved.key.artifactUUID saved.key.uuid⟩⟩

end APIKeyService

/-! ## The property and the condition -/

inductive IssueCall where
  | create (params : APIKeyCreationParams)
  | regenerate (params : APIKeyRegenerationParams)

def APIKeyService.issue (service : APIKeyService) (table : KeyTable) (environment : Environment) :
    IssueCall → Except String IssuedKey
  | .create params => service.createAPIKeyResponse table environment params
  | .regenerate params => service.regenerateAPIKeyResponse table environment params

/-- The row of the key accepts the plaintext, and the event names the row. -/
def IssuedKey.Accepts (service : APIKeyService) (issued : IssuedKey) (plainAPIKey : String) :
    Prop :=
  ∃ row, issued.table.rowAt issued.key.id = some row ∧ row.status = .active ∧
    service.hashAPIKey plainAPIKey = .ok row.apiKey ∧
    issued.event.entityID = buildAPIKeyEntityID issued.key.artifactUUID row.uuid

/-- A row that already has the name is older than the new key, or it is already the row of that
key. -/
def IssueCall.Supersedes (service : APIKeyService) (table : KeyTable) (environment : Environment) :
    IssueCall → Prop
  | .create params =>
    ∀ apiId row, resolveConfig environment params.kind params.handle = .ok apiId →
      isGiven params.request.name = true →
      table.rowAt ⟨apiId, trimmed params.request.name⟩ = some row →
      row.updatedAt < params.updatedAt.getD environment.now ∨
        (row.status = .active ∧
          service.hashAPIKey environment.first.apiKeyValue = .ok row.apiKey ∧
          row.uuid = if isGiven params.uuid then trimmed params.uuid else environment.first.uuid)
  | .regenerate _ => True

/-! ## Creation -/

section Creation

variable {service : APIKeyService} {table : KeyTable} {environment : Environment}
  {issued : IssuedKey} {plainAPIKey : String}

theorem responseAPIKey_eq_some {value : String} {external : Bool}
    (hplain : responseAPIKey value external = some plainAPIKey) :
    external = false ∧ value = plainAPIKey := by
  unfold responseAPIKey at hplain
  split at hplain
  next hgiven =>
    cases hplain
    exact ⟨hgiven.2, rfl⟩
  next => cases hplain

theorem upsertAPIKey_of_not_older {key row : APIKey} (hrow : table.rowAt key.id = some row)
    (hnewer : ¬ row.updatedAt < key.updatedAt) : table.upsertAPIKey key = .ok table := by
  obtain ⟨hmem, hid⟩ := rowAt_eq_some_iff.mp hrow
  unfold KeyTable.upsertAPIKey
  rw [if_neg, if_pos]
  · exact List.any_eq_true.mpr ⟨row, hmem, decide_eq_true hid⟩
  · intro hany
    obtain ⟨older, holder, hbefore⟩ := rowAt_of_any key.id hany
      fun other haccepts => (of_decide_eq_true haccepts).1
    rw [hrow] at holder
    cases holder
    exact hnewer (of_decide_eq_true hbefore).2

theorem createAPIKeyResponse_ok {params : APIKeyCreationParams}
    (hcreate : service.createAPIKeyResponse table environment params = .ok issued)
    (hplain : issued.plainAPIKey = some plainAPIKey) :
    ∃ apiId draw first, resolveConfig environment params.kind params.handle = .ok apiId ∧
      CreatedFrom service table environment.now environment.first apiId params first ∧
      CreatedFrom service table environment.now draw apiId params issued.key ∧
      service.hashAPIKey plainAPIKey = .ok issued.key.apiKey ∧
      table.upsertAPIKey issued.key = .ok issued.table ∧
      issued.event.entityID = buildAPIKeyEntityID apiId issued.key.uuid ∧
      ((plainAPIKey = environment.first.apiKeyValue ∧ first = issued.key) ∨
        ∃ problem, table.upsertAPIKey first = .error problem) := by
  obtain ⟨saved, hsaved, hcreate⟩ := bind_eq_ok.mp hcreate
  cases hcreate
  obtain ⟨apiId, first, hresolve, hcreated, hupsert, hfirst, hdraw⟩ := createAPIKey_ok hsaved
  obtain ⟨hlocal, rfl⟩ := responseAPIKey_eq_some hplain
  obtain ⟨mask, hmask⟩ := hcreated.value
  rw [APIKeyService.creationValue, hlocal, if_neg (by simp)] at hmask
  obtain ⟨hash, hhash, hpair⟩ := bind_eq_ok.mp hmask
  cases hpair
  refine ⟨apiId, saved.draw, first, hresolve, hfirst, hcreated, mapError_eq_ok.mp hhash, hupsert,
    by rw [hcreated.artifact], ?_⟩
  rcases hdraw with ⟨hsame, hkey⟩ | hproblem
  · exact .inl ⟨by rw [hsame], hkey.symm⟩
  · exact .inr hproblem

theorem buildAPIKeyEntityID_inj {apiID left right : String}
    (hsame : buildAPIKeyEntityID apiID left = buildAPIKeyEntityID apiID right) : left = right := by
  simpa [buildAPIKeyEntityID, String.toList_append] using hsame

theorem createAPIKeyResponse_accepts_iff {params : APIKeyCreationParams}
    (hcreate : service.createAPIKeyResponse table environment params = .ok issued)
    (hplain : issued.plainAPIKey = some plainAPIKey) :
    issued.Accepts service plainAPIKey ↔
      (IssueCall.create params).Supersedes service table environment := by
  obtain ⟨apiId, draw, first, hresolve, hfirst, hcreated, hhash, hupsert, hevent, hdraw⟩ :=
    createAPIKeyResponse_ok hcreate hplain
  have hartifact := hcreated.artifact
  have hstored := rowAt_upsertAPIKey_eq issued.key.id hupsert
  rw [if_pos rfl] at hstored
  -- the condition speaks of the row that the upsert finds
  have hfound {row : APIKey} {apiId' : String}
      (hresolve' : resolveConfig environment params.kind params.handle = .ok apiId')
      (hgiven : isGiven params.request.name = true)
      (hrow : table.rowAt ⟨apiId', trimmed params.request.name⟩ = some row) :
      table.rowAt issued.key.id = some row := by
    rw [hresolve] at hresolve'
    cases hresolve'
    rcases hcreated.name with ⟨-, hname⟩ | ⟨hmissing, -⟩
    · rw [APIKey.id, hname, hartifact, hrow]
    · rw [hgiven] at hmissing
      cases hmissing
  cases hold : table.rowAt issued.key.id with
  | none =>
    rw [hold] at hstored
    refine iff_of_true ⟨_, hstored, hcreated.active, hhash, hartifact ▸ hevent⟩ ?_
    intro apiId' row hresolve' hgiven hrow
    rw [hfound hresolve' hgiven hrow] at hold
    cases hold
  | some row =>
    rw [hold] at hstored
    by_cases holder : row.updatedAt < issued.key.updatedAt
    · rw [KeyTable.upserted, if_pos holder] at hstored
      refine iff_of_true ⟨_, hstored, hcreated.active, hhash, hartifact ▸ hevent⟩ ?_
      intro apiId' row' hresolve' hgiven hrow
      rw [hfound hresolve' hgiven hrow] at hold
      cases hold
      exact .inl (hcreated.updated ▸ holder)
    · rw [KeyTable.upserted, if_neg holder] at hstored
      obtain ⟨hgiven, hname⟩ : isGiven params.request.name = true ∧
          issued.key.name = trimmed params.request.name := by
        rcases hcreated.name with hgiven | ⟨-, hfree⟩
        · exact hgiven
        · rw [KeyTable.getAPIKeysByAPIAndName, ← hartifact] at hfree
          exact absurd (hold.symm.trans hfree) (by simp)
      -- the first key has the same name and time, so it was not refused
      obtain ⟨rfl, rfl⟩ : plainAPIKey = environment.first.apiKeyValue ∧ first = issued.key := by
        rcases hdraw with hsame | ⟨problem, hproblem⟩
        · exact hsame
        · have hfirstID : first.id = issued.key.id := by
            rcases hfirst.name with ⟨-, hfirstName⟩ | ⟨hmissing, -⟩
            · rw [APIKey.id, APIKey.id, hfirst.artifact, hartifact, hfirstName, hname]
            · rw [hgiven] at hmissing
              cases hmissing
          rw [← hfirstID] at hold
          have hnewer : ¬ row.updatedAt < first.updatedAt := by
            rw [hfirst.updated, ← hcreated.updated]
            exact holder
          rw [upsertAPIKey_of_not_older hold hnewer] at hproblem
          cases hproblem
      constructor
      · rintro ⟨stored, hrow, hactive, haccepts, hnames⟩ apiId' row' hresolve' hgiven' hrow'
        rw [hfound hresolve' hgiven' hrow'] at hold
        cases hold
        rw [hstored] at hrow
        cases hrow
        rw [hevent, hartifact] at hnames
        exact .inr ⟨hactive, haccepts, (buildAPIKeyEntityID_inj hnames).symm.trans hfirst.uuid⟩
      · intro hsupersedes
        have hrow : table.rowAt ⟨apiId, trimmed params.request.name⟩ = some row := by
          rw [← hname, ← hartifact]
          exact hold
        rcases hsupersedes apiId row hresolve hgiven hrow with hbefore | ⟨hactive, haccepts, huuid⟩
        · rw [← hcreated.updated] at hbefore
          exact absurd hbefore holder
        · exact ⟨row, hstored, hactive, haccepts, by rw [hevent, hartifact, huuid, hfirst.uuid]⟩

end Creation

/-! ## Regeneration -/

theorem regenerateAPIKeyResponse_accepts {service : APIKeyService} {table : KeyTable}
    {environment : Environment} {params : APIKeyRegenerationParams} {issued : IssuedKey}
    {plainAPIKey : String}
    (hregenerate : service.regenerateAPIKeyResponse table environment params = .ok issued)
    (hplain : issued.plainAPIKey = some plainAPIKey) : issued.Accepts service plainAPIKey := by
  obtain ⟨saved, hsaved, hregenerate⟩ := bind_eq_ok.mp hregenerate
  cases hregenerate
  obtain ⟨apiId, existing, hexisting, -, hregenerated, hupdate⟩ := regenerateAPIKey_ok hsaved
  obtain ⟨-, rfl⟩ := responseAPIKey_eq_some hplain
  have hrow := rowAt_updateAPIKey saved.key.id hupdate
  have hid := hregenerated.id.trans (rowAt_eq_some_iff.mp hexisting).2
  rw [if_pos rfl, hid, hexisting, Option.map_some, ← hid] at hrow
  exact ⟨_, hrow, hregenerated.active, hregenerated.value,
    by simp [hregenerated.uuid, KeyTable.updateRow]⟩

/-- A plaintext key that a call gives out is the key of the row of its name, and the event names
that row, if and only if the key supersedes the row that already had its name. -/
theorem issued_key_accepted_iff (service : APIKeyService) (table : KeyTable)
    (environment : Environment) (call : IssueCall) {issued : IssuedKey} {plainAPIKey : String}
    (hissue : service.issue table environment call = .ok issued)
    (hplain : issued.plainAPIKey = some plainAPIKey) :
    issued.Accepts service plainAPIKey ↔ call.Supersedes service table environment := by
  cases call with
  | create params => exact createAPIKeyResponse_accepts_iff hissue hplain
  | regenerate params => exact iff_of_true (regenerateAPIKeyResponse_accepts hissue hplain) trivial

/-! ## A clock that is behind -/

def clockAt (now : Time) : Environment :=
  ordersAt now "k2" "apip_2"

def createMobile : IssueCall :=
  .create (orderKeyOf "alice" "mobile")

def mobileTable : KeyTable where
  rows :=
    [{ uuid := "k1", name := "mobile", apiKey := "sha256:apip_1", maskedAPIKey := "***ip_1"
       artifactUUID := "orders-api", status := .active, createdAt := 5, createdBy := "alice"
       updatedAt := 5, expiresAt := none, source := "external", externalRefId := none
       issuer := none }]
  unique := by decide

def IssuedKey.view (issued : IssuedKey) : Option String × Event × List (String × String) :=
  (issued.plainAPIKey, issued.event, issued.table.rows.map fun row => (row.uuid, row.apiKey))

theorem later_key_accepted :
    ∃ issued, plainService.issue mobileTable (clockAt 6) createMobile = .ok issued ∧
      issued.Accepts plainService "apip_2" := by
  obtain ⟨issued, hissue, hview⟩ :
      ∃ issued, plainService.issue mobileTable (clockAt 6) createMobile = .ok issued ∧
        issued.plainAPIKey = some "apip_2" := by
    refine ⟨_, rfl, ?_⟩
    decide +kernel
  refine ⟨issued, hissue,
    (issued_key_accepted_iff plainService mobileTable (clockAt 6) createMobile hissue hview).mpr ?_⟩
  rintro apiId row hresolve - hrow
  cases hresolve
  have hfound : mobileTable.rowAt ⟨"orders-api", "mobile"⟩ = mobileTable.rows.head? := by
    decide +kernel
  cases hfound.symm.trans hrow
  exact .inl (by decide)

/-- At time 1 the row of the name, which the control plane wrote with time 5, is kept: the caller
is given a key whose hash is nowhere, and the event names a UUID that no row has. -/
theorem issued_key_not_stored :
    (plainService.issue mobileTable (clockAt 1) createMobile).map IssuedKey.view =
      .ok (some "apip_2", ⟨.apiKey, .create, "orders-api_k2"⟩, [("k1", "sha256:apip_1")]) := by
  decide +kernel

end ApiPlatform.Controller.ApiKeys
