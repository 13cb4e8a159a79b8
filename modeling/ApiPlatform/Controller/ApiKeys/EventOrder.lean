import ApiPlatform.Controller.ApiKeys.Outcomes
import ApiPlatform.Foundation.Runs

/-!
# Key events that come late

The control plane sends an event for each key that it creates or updates, and the events
may come in any order.  A creation goes through the guarded upsert.  An update of a key
that exists is written without a guard, and an update of a key that does not exist
becomes a creation that takes the time of the gateway for the time of the event.
-/

namespace ApiPlatform.Controller.ApiKeys

open Foundation APIKeyService

variable {hash : String} {uuid : Option String} {createdAt : Option Time}

namespace APIKeyService

section Events

variable (service : APIKeyService) (table : KeyTable) (environment : Environment)
  (getArtifactConfigByID : String → Option (String × String))

def createExternalAPIKeyFromEvent (artifactUUID user : String) (request : APIKeyCreationRequest)
    (uuid apiKeyHashes : Option String) (createdAt updatedAt : Option Time) :
    Except String (KeyTable × APIKey) :=
  match getArtifactConfigByID artifactUUID with
  | none => .error ("artifact not found for UUID " ++ artifactUUID)
  | some (kind, handle) =>
    (service.createAPIKey table environment
      { kind := kind
        handle := handle
        request := request
        user := { userID := user, roles := [] }
        uuid := uuid
        apiKeyHashes := apiKeyHashes
        createdAt := createdAt
        updatedAt := updatedAt }).map fun saved => (saved.table, saved.key)

def updateExternalAPIKeyFromEvent (artifactUUID apiKeyName : String)
    (request : APIKeyCreationRequest) (apiKeyHashes : Option String) (user : String)
    (updatedAt : Option Time) : Except String (KeyTable × APIKey) :=
  match getArtifactConfigByID artifactUUID with
  | none => .error ("artifact not found for UUID " ++ artifactUUID)
  | some (kind, handle) =>
    service.updateAPIKey table environment
      { kind := kind
        handle := handle
        apiKeyName := apiKeyName
        request := request
        user := { userID := user, roles := [] }
        apiKeyHashes := apiKeyHashes
        updatedAt := updatedAt }

end Events

end APIKeyService

inductive KeyEventAction where
  | created (uuid : Option String) (createdAt : Option Time)
  | updated

/-- An event of the control plane, and what the call that applies it meets. -/
structure KeyEvent where
  environment : Environment
  getArtifactConfigByID : String → Option (String × String)
  action : KeyEventAction
  artifactUUID : String
  keyName : String
  user : String
  maskedApiKey : String
  apiKeyHashes : String
  expiresAt : Option Time
  externalRefId : Option String
  issuer : Option String
  updatedAt : Time

def KeyEvent.request (event : KeyEvent) : APIKeyCreationRequest where
  name := some event.keyName
  apiKey := none
  maskedApiKey := some event.maskedApiKey
  expiresAt := event.expiresAt
  expiresIn := none
  externalRefId := event.externalRefId
  issuer := event.issuer

namespace APIKeyService

variable (service : APIKeyService)

def applyEvent (table : KeyTable) (event : KeyEvent) : Except String (KeyTable × APIKey) :=
  match event.action with
  | .created uuid createdAt =>
    service.createExternalAPIKeyFromEvent table event.environment event.getArtifactConfigByID
      event.artifactUUID event.user event.request uuid (some event.apiKeyHashes) createdAt
      (some event.updatedAt)
  | .updated =>
    service.updateExternalAPIKeyFromEvent table event.environment event.getArtifactConfigByID
      event.artifactUUID event.keyName event.request (some event.apiKeyHashes) event.user
      (some event.updatedAt)

def eventStep (table : KeyTable) (event : KeyEvent) : KeyTable :=
  match service.applyEvent table event with
  | .ok (next, _) => next
  | .error _ => table

end APIKeyService

/-! ## The property and the condition -/

/-- The event is about the key, comes from its user and carries the hash of an external key. -/
structure KeyEvent.IsFor (event : KeyEvent) (id : KeyID) (user : String) : Prop where
  resolves : ∃ kind handle, event.getArtifactConfigByID event.artifactUUID = some (kind, handle) ∧
    event.environment.getConfigByKindAndHandle (defaultKind kind) handle = some id.artifactUUID
  name : event.keyName = id.name
  user : event.user = user
  external : isGiven (some event.apiKeyHashes) = true

/-- The row has the hash and the expiry of the event, written with the given time. -/
structure KeyEvent.Wrote (service : APIKeyService) (event : KeyEvent) (time : Time) (row : APIKey) :
    Prop where
  hash : service.extractSHA256Hash (trimmed (some event.apiKeyHashes)) = .ok row.apiKey
  expiry : row.expiresAt = event.expiresAt
  updatedAt : row.updatedAt = time

/-- The row under the identifier has the hash, the expiry and the time of the newest event. -/
def NewestStored (service : APIKeyService) (id : KeyID) (events : List KeyEvent)
    (table : KeyTable) : Prop :=
  ∀ newest ∈ events, (∀ other ∈ events, other.updatedAt ≤ newest.updatedAt) →
    ∃ row, table.rowAt id = some row ∧ newest.Wrote service newest.updatedAt row

/-- An update finds an older row; without a row, its time is that of the gateway. -/
def KeyEvent.InOrder (id : KeyID) (table : KeyTable) (event : KeyEvent) : Prop :=
  match event.action with
  | .created _ _ => True
  | .updated =>
    match table.rowAt id with
    | none => event.environment.now = event.updatedAt
    | some row => row.updatedAt < event.updatedAt

/-! ## Names and values -/

theorem isSpace_of_isKeyNameFrom {chars : List Char} {inWord : Bool}
    (hname : isKeyNameFrom inWord chars = true) : ∀ char ∈ chars, isSpace char = false := by
  have hspaces : ∀ space ∈ spaces, isNameChar space = false := by
    simp [spaces, isNameChar, Char.isDigit]
  induction chars generalizing inWord with
  | nil => simp
  | cons first rest ih =>
    unfold isKeyNameFrom at hname
    split at hname
    next hfirst =>
      exact List.forall_mem_cons.mpr ⟨isSpace_eq_false hfirst hspaces, ih hname⟩
    next =>
      simp only [Bool.and_eq_true] at hname
      refine List.forall_mem_cons.mpr ⟨?_, ih hname.2⟩
      have hseparator : first = '-' ∨ first = '_' := by simpa [isSeparator] using hname.1.2
      rcases hseparator with rfl | rfl <;> decide

theorem trimmed_of_valid {name : String} (hvalid : validateAPIKeyName name = .ok ()) :
    trimmed (some name) = name ∧ isGiven (some name) = true := by
  unfold validateAPIKeyName at hvalid
  split at hvalid
  · cases hvalid
  next hnonempty =>
    repeat' split at hvalid
    all_goals cases hvalid
    next hpattern =>
      have hself : trimSpace name = name :=
        trimSpace_eq_self (isSpace_of_isKeyNameFrom (by simpa using hpattern))
      simp [trimmed, isGiven, hself, hnonempty]

section Effects

variable {service : APIKeyService} {table next : KeyTable} {event : KeyEvent} {id : KeyID}
  {user : String} {key : APIKey}

theorem extractSHA256Hash_of_providedValue {hashes : Option String} {mask : String}
    (hvalue : service.providedValue event.request hashes = .ok (hash, mask)) :
    service.extractSHA256Hash (trimmed hashes) = .ok hash := by
  obtain ⟨found, hfound, hpair⟩ := bind_eq_ok.mp hvalue
  cases hpair
  exact mapError_eq_ok.mp hfound

theorem expiry_of_requestedExpiry {now : Time} {expiry : Option Time}
    (hexpiry : service.requestedExpiry now event.request.expiresAt event.request.expiresIn none =
      .ok expiry) : expiry = event.expiresAt := by
  unfold requestedExpiry KeyEvent.request at hexpiry
  cases htime : event.expiresAt with
  | none =>
    simp only [htime] at hexpiry
    cases hexpiry
    rfl
  | some time =>
    simp only [htime, pure_bind] at hexpiry
    split at hexpiry
    · cases hexpiry
    · cases hexpiry
      rfl

theorem KeyEvent.IsFor.resolveConfig (hfor : event.IsFor id user) {kind handle : String}
    (hconfig : event.getArtifactConfigByID event.artifactUUID = some (kind, handle))
    {apiId : String} (hresolve : ApiKeys.resolveConfig event.environment kind handle = .ok apiId) :
    apiId = id.artifactUUID := by
  obtain ⟨kind', handle', hconfig', hfound⟩ := hfor.resolves
  rw [hconfig] at hconfig'
  cases hconfig'
  rw [ApiKeys.resolveConfig, hfound] at hresolve
  exact (Except.ok.inj hresolve).symm

theorem defaultKind_defaultKind (kind : String) :
    defaultKind (defaultKind kind) = defaultKind kind := by
  unfold defaultKind
  split <;> simp_all

theorem created_wrote {params : APIKeyCreationParams} {draw : Draw} (hfor : event.IsFor id user)
    (hvalid : validateAPIKeyName id.name = .ok ())
    (hresolves : ∀ apiId, resolveConfig event.environment params.kind params.handle = .ok apiId →
      apiId = id.artifactUUID) (hrequest : params.request = event.request)
    (hhashes : params.apiKeyHashes = some event.apiKeyHashes)
    (hcreate : service.createAPIKey table event.environment params = .ok ⟨next, key, draw⟩) :
    key.id = id ∧
      event.Wrote service (params.updatedAt.getD event.environment.now) key ∧
      table.upsertAPIKey key = .ok next := by
  obtain ⟨apiId, -, hresolve, hcreated, hupsert, -⟩ := createAPIKey_ok hcreate
  obtain ⟨htrimmed, hgiven⟩ := trimmed_of_valid hvalid
  have hname : event.request.name = some id.name := congrArg some hfor.name
  obtain ⟨mask, hvalue⟩ := hcreated.value
  have hexternal : isExternalKeyInjection params.request params.apiKeyHashes = true := by
    simp [isExternalKeyInjection, hhashes, hfor.external]
  rw [creationValue, if_pos hexternal, hrequest, hhashes] at hvalue
  have hexpiry := hcreated.expiry
  rw [hrequest] at hexpiry
  refine ⟨?_, ⟨extractSHA256Hash_of_providedValue hvalue, expiry_of_requestedExpiry hexpiry,
    hcreated.updated⟩, hupsert⟩
  rcases hcreated.name with ⟨-, hkeyName⟩ | ⟨hmissing, -⟩
  · rw [hrequest, hname, htrimmed] at hkeyName
    rw [APIKey.id, hcreated.artifact, hresolves apiId hresolve, hkeyName]
  · rw [hrequest, hname, hgiven] at hmissing
    cases hmissing

theorem applyEvent_created (hfor : event.IsFor id user)
    (hvalid : validateAPIKeyName id.name = .ok ())
    (haction : event.action = .created uuid createdAt)
    (happly : service.applyEvent table event = .ok (next, key)) :
    event.Wrote service event.updatedAt key ∧
      next.rowAt id = some (KeyTable.upserted key (table.rowAt id)) := by
  obtain ⟨kind, handle, hconfig, -⟩ := hfor.resolves
  simp only [applyEvent, haction, createExternalAPIKeyFromEvent,
    hconfig] at happly
  have hresolves : ∀ apiId, resolveConfig event.environment kind handle = .ok apiId →
      apiId = id.artifactUUID := fun _ => hfor.resolveConfig hconfig
  obtain ⟨saved, hcreate, hsaved⟩ := map_eq_ok.mp happly
  cases hsaved
  obtain ⟨hid, hwrote, hupsert⟩ := created_wrote hfor hvalid hresolves rfl rfl hcreate
  refine ⟨hwrote, ?_⟩
  rw [rowAt_upsertAPIKey_eq id hupsert, if_pos hid.symm]

theorem applyEvent_updated (hfor : event.IsFor id user)
    (hvalid : validateAPIKeyName id.name = .ok ()) (haction : event.action = .updated)
    (happly : service.applyEvent table event = .ok (next, key)) :
    ∃ row, next.rowAt id = some row ∧
      event.Wrote service
        (if (table.rowAt id).isSome then event.updatedAt else event.environment.now) row := by
  obtain ⟨kind, handle, hconfig, -⟩ := hfor.resolves
  simp only [applyEvent, haction, updateExternalAPIKeyFromEvent,
    hconfig] at happly
  obtain ⟨apiId, hresolve, houtcome⟩ := updateAPIKey_ok happly
  have hapi := hfor.resolveConfig hconfig hresolve
  have hid : (⟨apiId, event.keyName⟩ : KeyID) = id := by rw [hapi, hfor.name]
  simp only [hid] at houtcome
  rcases houtcome with ⟨hnone, draw, hcreate⟩ | ⟨existing, hexisting, -, hupdated, hupdate⟩
  · have hresolves : ∀ apiId,
        resolveConfig event.environment (defaultKind kind) handle = .ok apiId →
          apiId = id.artifactUUID := by
      intro apiId' hresolve'
      refine hfor.resolveConfig hconfig ?_
      rw [← hresolve', resolveConfig, resolveConfig, defaultKind_defaultKind]
    obtain ⟨hkey, hwrote, hupsert⟩ := created_wrote hfor hvalid hresolves rfl rfl hcreate
    rw [hnone]
    refine ⟨key, ?_, hwrote⟩
    rw [rowAt_upsertAPIKey_eq id hupsert, if_pos hkey.symm, hnone]
    rfl
  · obtain ⟨mask, hvalue⟩ := hupdated.value
    have hkey : key.id = id := hupdated.id.trans (rowAt_eq_some_iff.mp hexisting).2
    have hrow := rowAt_updateAPIKey id hupdate
    rw [if_pos hkey.symm, hexisting, Option.map_some] at hrow
    refine ⟨_, hrow, extractSHA256Hash_of_providedValue hvalue,
      expiry_of_requestedExpiry hupdated.expiry, ?_⟩
    rw [hexisting]
    exact hupdated.updatedAt

end Effects

/-! ## Orders of events -/

section Orders

variable {service : APIKeyService} {table next : KeyTable} {event : KeyEvent} {id : KeyID}
  {user : String} {row : APIKey} {seen : List KeyEvent}

theorem exists_newest (hseen : seen ≠ []) :
    ∃ newest ∈ seen, ∀ other ∈ seen, other.updatedAt ≤ newest.updatedAt := by
  obtain ⟨newest, hnewest, hmax⟩ := Set.exists_max_image { event | event ∈ seen }
    KeyEvent.updatedAt seen.finite_toSet (List.exists_mem_of_ne_nil seen hseen)
  exact ⟨newest, hnewest, hmax⟩

/-- The table after the events that were applied to a table without the key. -/
structure StoresEvents (service : APIKeyService) (id : KeyID) (seen : List KeyEvent)
    (table : KeyTable) : Prop where
  absent : seen = [] → table.rowAt id = none
  newest : NewestStored service id seen table

theorem StoresEvents.eq_nil (hstores : StoresEvents service id seen table)
    (hnone : table.rowAt id = none) : seen = [] := by
  by_contra hseen
  obtain ⟨newest, hnewest, hmax⟩ := exists_newest hseen
  obtain ⟨row, hrow, -⟩ := hstores.newest newest hnewest hmax
  rw [hnone] at hrow
  cases hrow

theorem StoresEvents.exists_of_row (hstores : StoresEvents service id seen table)
    (hrow : table.rowAt id = some row) :
    ∃ newest ∈ seen, newest.updatedAt = row.updatedAt ∧
      ∀ other ∈ seen, other.updatedAt ≤ newest.updatedAt := by
  have hseen : seen ≠ [] := by
    intro hnil
    rw [hstores.absent hnil] at hrow
    cases hrow
  obtain ⟨newest, hnewest, hmax⟩ := exists_newest hseen
  obtain ⟨stored, hstored, hwrote⟩ := hstores.newest newest hnewest hmax
  rw [hrow] at hstored
  cases hstored
  exact ⟨newest, hnewest, hwrote.updatedAt.symm, hmax⟩

theorem newestStored_of_wrote (hrow : next.rowAt id = some row)
    (hwrote : event.Wrote service event.updatedAt row)
    (hnewer : ∀ other ∈ seen, other.updatedAt < event.updatedAt) :
    NewestStored service id (seen ++ [event]) next := by
  intro newest hnewest hmax
  rcases List.mem_append.mp hnewest with hseen | hevent
  · have hbefore := hnewer newest hseen
    exact absurd (hmax event (by simp)) (not_le.mpr hbefore)
  · rw [List.mem_singleton.mp hevent]
    exact ⟨row, hrow, hwrote⟩

theorem newestStored_of_kept (hstores : StoresEvents service id seen table)
    (hrow : table.rowAt id = some row) (hkept : next.rowAt id = some row)
    (hfresh : event.updatedAt ∉ seen.map (·.updatedAt)) (hlate : event.updatedAt ≤ row.updatedAt) :
    NewestStored service id (seen ++ [event]) next := by
  obtain ⟨first, hfirst, htime, -⟩ := hstores.exists_of_row hrow
  intro newest hnewest hmax
  rcases List.mem_append.mp hnewest with hseen | hevent
  · rw [hkept, ← hrow]
    exact hstores.newest newest hseen fun other hother => hmax other (by simp [hother])
  · rw [List.mem_singleton.mp hevent] at hmax
    have hsame : first.updatedAt = event.updatedAt :=
      le_antisymm (hmax first (by simp [hfirst])) (htime ▸ hlate)
    exact absurd (List.mem_map.mpr ⟨first, hfirst, hsame⟩) hfresh

structure Applicable (service : APIKeyService) (id : KeyID) (user : String) (seen : List KeyEvent)
    (table : KeyTable) (event : KeyEvent) : Prop where
  isFor : event.IsFor id user
  succeeds : ∃ result, service.applyEvent table event = .ok result
  fresh : event.updatedAt ∉ seen.map (·.updatedAt)

theorem storesEvents_created (hvalid : validateAPIKeyName id.name = .ok ())
    (happlicable : Applicable service id user seen table event)
    (hstores : StoresEvents service id seen table)
    (haction : event.action = .created uuid createdAt) :
    NewestStored service id (seen ++ [event]) (service.eventStep table event) := by
  obtain ⟨⟨next, key⟩, happly⟩ := happlicable.succeeds
  obtain ⟨hwrote, hnext⟩ := applyEvent_created happlicable.isFor hvalid haction happly
  rw [eventStep, happly]
  cases hrow : table.rowAt id with
  | none =>
    rw [hrow] at hnext
    refine newestStored_of_wrote hnext hwrote ?_
    simp [hstores.eq_nil hrow]
  | some row =>
    rw [hrow] at hnext
    obtain ⟨newest, -, htime, hmax⟩ := hstores.exists_of_row hrow
    by_cases holder : row.updatedAt < key.updatedAt
    · rw [KeyTable.upserted, if_pos holder] at hnext
      rw [hwrote.updatedAt, ← htime] at holder
      refine newestStored_of_wrote hnext ⟨hwrote.hash, hwrote.expiry, hwrote.updatedAt⟩ ?_
      exact fun other hother => lt_of_le_of_lt (hmax other hother) holder
    · rw [KeyTable.upserted, if_neg holder] at hnext
      rw [hwrote.updatedAt, not_lt] at holder
      exact newestStored_of_kept hstores hrow hnext happlicable.fresh holder

theorem storesEvents_updated_iff (hvalid : validateAPIKeyName id.name = .ok ())
    (happlicable : Applicable service id user seen table event)
    (hstores : StoresEvents service id seen table) (haction : event.action = .updated) :
    event.InOrder id table ↔
      NewestStored service id (seen ++ [event]) (service.eventStep table event) := by
  obtain ⟨⟨next, key⟩, happly⟩ := happlicable.succeeds
  obtain ⟨row', hnext, hwrote⟩ := applyEvent_updated happlicable.isFor hvalid haction happly
  rw [KeyEvent.InOrder, haction, eventStep, happly]
  cases hrow : table.rowAt id with
  | none =>
    have hnil := hstores.eq_nil hrow
    rw [hrow] at hwrote
    constructor
    · intro hclock
      refine newestStored_of_wrote hnext (hclock ▸ hwrote) ?_
      simp [hnil]
    · intro hnewest
      obtain ⟨stored, hstored, hevent⟩ := hnewest event (by simp) (by simp [hnil])
      rw [hnext] at hstored
      cases hstored
      exact hwrote.updatedAt.symm.trans hevent.updatedAt
  | some row =>
    obtain ⟨first, hfirst, htime, hmax⟩ := hstores.exists_of_row hrow
    rw [hrow] at hwrote
    simp only
    constructor
    · intro holder
      rw [← htime] at holder
      exact newestStored_of_wrote hnext hwrote
        fun other hother => lt_of_le_of_lt (hmax other hother) holder
    · intro hnewest
      by_contra hlate
      rw [not_lt, ← htime] at hlate
      -- an older event has overwritten the newest one
      have hfirstMax : ∀ other ∈ seen ++ [event], other.updatedAt ≤ first.updatedAt := by
        intro other hother
        rcases List.mem_append.mp hother with hseen | hlast
        · exact hmax other hseen
        · rw [List.mem_singleton.mp hlast]
          exact hlate
      obtain ⟨stored, hstored, hevent⟩ := hnewest first (by simp [hfirst]) hfirstMax
      rw [hnext] at hstored
      cases hstored
      have hsame : first.updatedAt = event.updatedAt :=
        hevent.updatedAt.symm.trans hwrote.updatedAt
      exact happlicable.fresh (List.mem_map.mpr ⟨first, hfirst, hsame⟩)

theorem storesEvents_step_iff (hvalid : validateAPIKeyName id.name = .ok ())
    (happlicable : Applicable service id user seen table event)
    (hstores : StoresEvents service id seen table) :
    event.InOrder id table ↔
      StoresEvents service id (seen ++ [event]) (service.eventStep table event) := by
  have hstored : StoresEvents service id (seen ++ [event]) (service.eventStep table event) ↔
      NewestStored service id (seen ++ [event]) (service.eventStep table event) :=
    ⟨fun hafter => hafter.newest, fun hnewest => ⟨by simp, hnewest⟩⟩
  rw [hstored]
  cases haction : event.action with
  | created uuid createdAt =>
    refine iff_of_true ?_ (storesEvents_created hvalid happlicable hstores haction)
    rw [KeyEvent.InOrder, haction]
    trivial
  | updated => exact storesEvents_updated_iff hvalid happlicable hstores haction

end Orders

/-- Applied in any order, the events of a key leave the hash, the expiry and the time of the
newest event after each of them, if and only if every update finds an older row (or, without a
row, has the time of the gateway). -/
theorem newest_event_stored_iff (service : APIKeyService) (id : KeyID) (user : String)
    (hvalid : validateAPIKeyName id.name = .ok ()) {start : KeyTable}
    (hstart : start.rowAt id = none) (events : List KeyEvent)
    (hfor : ∀ event ∈ events, event.IsFor id user) (htimes : (events.map (·.updatedAt)).Nodup)
    (hsucceeds : Conforms service.eventStep
      (fun table event => ∃ result, service.applyEvent table event = .ok result) start events) :
    (∀ pre, pre <+: events → NewestStored service id pre (run service.eventStep start pre)) ↔
      Conforms service.eventStep (fun table event => event.InOrder id table) start events := by
  have hpossible : ∀ pre event, pre ++ [event] <+: events →
      Applicable service id user pre (run service.eventStep start pre) event := by
    rintro pre event ⟨post, rfl⟩
    rw [List.append_assoc] at hsucceeds
    refine ⟨hfor event (by simp), hsucceeds.allowed, ?_⟩
    rw [List.map_append, List.map_append] at htimes
    have hdisjoint := (List.nodup_append.mp (List.nodup_append.mp htimes).1).2.2
    exact fun hmem => hdisjoint _ hmem _ (by simp) rfl
  have hhistory := conforms_iff_forall_history
    (fun _ _ _ happlicable hstores => storesEvents_step_iff hvalid happlicable hstores)
    hpossible ⟨fun _ => hstart, by simp [NewestStored]⟩
  rw [hhistory]
  refine forall₂_congr fun pre hpre => ⟨fun hnewest => ⟨?_, hnewest⟩, fun hstores => hstores.newest⟩
  rintro rfl
  exact hstart

/-! ## A late update -/

def ordersMobile : KeyID :=
  ⟨"orders-api", "mobile"⟩

def mobileEvent (action : KeyEventAction) (hash : String) (updatedAt : Time) : KeyEvent where
  environment := ordersAt 100 "k1" ""
  getArtifactConfigByID := fun _ => some ("RestApi", "orders")
  action := action
  artifactUUID := "orders-api"
  keyName := "mobile"
  user := "alice"
  maskedApiKey := "***"
  apiKeyHashes := hashesOf hash
  expiresAt := none
  externalRefId := none
  issuer := none
  updatedAt := updatedAt

def storedValues (table : KeyTable) : List (String × Time) :=
  table.rows.map fun row => (row.apiKey, row.updatedAt)

theorem newer_update_stored :
    NewestStored plainService ordersMobile
      [mobileEvent (.created none none) "h1" 10, mobileEvent .updated "h2" 20]
      (run plainService.eventStep .empty
        [mobileEvent (.created none none) "h1" 10, mobileEvent .updated "h2" 20]) := by
  refine (newest_event_stored_iff plainService ordersMobile "alice" (by decide +kernel) rfl
    [mobileEvent (.created none none) "h1" 10, mobileEvent .updated "h2" 20] ?_ (by decide)
    ⟨⟨_, rfl⟩, ⟨_, rfl⟩, trivial⟩).mpr ⟨trivial, ?_, trivial⟩ _ (List.prefix_refl _)
  · simp only [List.forall_mem_cons, List.not_mem_nil, false_implies, implies_true, and_true]
    exact ⟨⟨⟨"RestApi", "orders", rfl, rfl⟩, rfl, rfl, by decide +kernel⟩,
      ⟨"RestApi", "orders", rfl, rfl⟩, rfl, rfl, by decide +kernel⟩
  · have hstored : ((plainService.eventStep .empty
        (mobileEvent (.created none none) "h1" 10)).rowAt ordersMobile).map (·.updatedAt) =
          some 10 := by
      decide +kernel
    obtain ⟨row, hrow, htime⟩ := Option.map_eq_some_iff.mp hstored
    simp only [KeyEvent.InOrder, mobileEvent] at hrow ⊢
    rw [hrow]
    simp [htime]

/-- The update with time 20 overwrites the newer one, and an update that comes before the key
exists is stored with the time of the gateway, so that the newer creation is dropped. -/
theorem late_update_overwrites :
    storedValues (run plainService.eventStep .empty
        [mobileEvent (.created none none) "h1" 10, mobileEvent .updated "h3" 30,
          mobileEvent .updated "h2" 20]) = [("h2", 20)] ∧
      storedValues (run plainService.eventStep .empty
        [mobileEvent .updated "h2" 20, mobileEvent (.created none none) "h3" 30]) =
          [("h2", 100)] := by
  decide +kernel

end ApiPlatform.Controller.ApiKeys
