import ApiPlatform.Controller.ApiKeys.Table

/-!
# The API key service

`pkg/utils/api_key.go`: creation, update, regeneration and revocation of keys.
Each call runs in an environment that gives the clock, the random values that
the call draws and the artifacts that it can resolve; a call that fails leaves
the table as it is.
-/

namespace ApiPlatform.Controller.ApiKeys

open Foundation

/-! ## Requests -/

structure AuthContext where
  userID : String
  roles : List String
  deriving DecidableEq

inductive ExpiryUnit where
  | seconds
  | minutes
  | hours
  | days
  | weeks
  | months
  | unsupported (unit : String)
  deriving DecidableEq

structure ExpiresIn where
  duration : Int
  unit : ExpiryUnit
  deriving DecidableEq

structure APIKeyCreationRequest where
  name : Option String
  apiKey : Option String
  maskedApiKey : Option String
  expiresAt : Option Time
  expiresIn : Option ExpiresIn
  externalRefId : Option String
  issuer : Option String
  deriving DecidableEq

structure APIKeyCreationParams where
  kind : String
  handle : String
  request : APIKeyCreationRequest
  user : AuthContext
  uuid : Option String
  apiKeyHashes : Option String
  createdAt : Option Time
  updatedAt : Option Time
  deriving DecidableEq

structure APIKeyUpdateParams where
  kind : String
  handle : String
  apiKeyName : String
  request : APIKeyCreationRequest
  user : AuthContext
  apiKeyHashes : Option String
  updatedAt : Option Time
  deriving DecidableEq

structure APIKeyRegenerationParams where
  kind : String
  handle : String
  apiKeyName : String
  expiresAt : Option Time
  expiresIn : Option ExpiresIn
  user : AuthContext
  deriving DecidableEq

structure APIKeyRevocationParams where
  kind : String
  handle : String
  apiKeyName : String
  user : AuthContext
  deriving DecidableEq

/-- The random values of one attempt to create or regenerate a key. -/
structure Draw where
  shortUniqueID : String
  uuid : String
  apiKeyValue : String
  namePadding : Nat → String
  suffixes : List String

/-- What a call meets: the clock, the draws of its first attempt and of its retry,
and the artifacts by kind and handle. -/
structure Environment where
  now : Time
  first : Draw
  retry : Draw
  getConfigByKindAndHandle : String → String → Option String

/-- The service with the hash function and the JSON reader that it calls. -/
structure APIKeyService where
  apiKeysPerUserPerAPI : Nat
  sha256Hex : String → String
  parseHashes : String → Except String (GoMap String String)
  formatTime : Time → String

/-! ## Names -/

def isNameChar (char : Char) : Bool :=
  char.isDigit || ('a' ≤ char && char ≤ 'z')

def isSeparator (char : Char) : Bool :=
  char == '-' || char == '_'

/-- The pattern `^[a-z0-9]+([_-][a-z0-9]+)*$`, read after a character of a word
(`true`) or after a separator (`false`). -/
def isKeyNameFrom : Bool → List Char → Bool
  | inWord, [] => inWord
  | inWord, char :: rest =>
    if isNameChar char then isKeyNameFrom true rest
    else inWord && isSeparator char && isKeyNameFrom false rest

def validateAPIKeyName (name : String) : Except String Unit :=
  if name = "" then .error "API key name cannot be empty"
  else if len name < 3 then
    .error "API key name is too short (minimum 3 characters required)"
  else if len name > 63 then
    .error "API key name is too long (maximum 63 characters allowed)"
  else if !isKeyNameFrom false name.toList then
    .error ("API key name must be lowercase alphanumeric with hyphens or underscores " ++
      "(no consecutive separators, cannot start/end with hyphen or underscore)")
  else .ok ()

def collapseHyphens : List Char → List Char
  | '-' :: '-' :: rest => collapseHyphens ('-' :: rest)
  | char :: rest => char :: collapseHyphens rest
  | [] => []

def trimRightHyphens (chars : List Char) : List Char :=
  (chars.reverse.dropWhile (· == '-')).reverse

/-- After the invalid characters are gone every character is one byte long. -/
def truncateName (chars : List Char) : List Char :=
  if chars.length > 63 then trimRightHyphens (chars.take 63) else chars

def generateAPIKeyName (padding : Nat → String) (displayName : String) : String :=
  let lowered := (toLower (trimSpace displayName)).toList
  let hyphenated := lowered.map fun char => if char = ' ' ∨ char = '_' then '-' else char
  let valid := hyphenated.filter fun char => isNameChar char || char == '-'
  let trimmed := trimRightHyphens ((collapseHyphens valid).dropWhile (· == '-'))
  let name := truncateName trimmed
  if name.length < 3 then
    let padded := (padding (3 - name.length)).toList
    String.ofList (truncateName (if name.isEmpty then padded else name ++ '-' :: padded))
  else String.ofList name

def withSuffix (baseName suffix : String) : String :=
  if len (baseName ++ "-" ++ suffix) > 63 then
    String.ofList (baseName.toList.take (63 - len suffix - 1)) ++ "-" ++ suffix
  else baseName ++ "-" ++ suffix

/-- The base name, else the first free name among those with a random suffix. -/
def generateUniqueAPIKeyName (table : KeyTable) (draw : Draw) (apiId displayName : String)
    (maxRetries : Nat) : Except String String :=
  let baseName := generateAPIKeyName draw.namePadding displayName
  let candidates := baseName :: (draw.suffixes.take maxRetries).map (withSuffix baseName)
  match candidates.find? fun name => (table.getAPIKeysByAPIAndName apiId name).isNone with
  | some name => .ok name
  | none => .error ("failed to generate unique name after " ++ toString maxRetries ++ " attempts")

/-! ## Values and expiry -/

def isGiven (text : Option String) : Bool :=
  match text with
  | some value => trimSpace value != ""
  | none => false

def trimmed (text : Option String) : String :=
  trimSpace (text.getD "")

def givenText (text : Option String) : Option String :=
  if isGiven text then some (trimmed text) else none

def maskAPIKey (apiKey : String) : String :=
  if len apiKey ≤ 5 then "********"
  else "***" ++ String.ofList (apiKey.toList.drop (apiKey.toList.length - 5))

def unitLength : ExpiryUnit → Except String Duration
  | .seconds => .ok 1000000000
  | .minutes => .ok (60 * 1000000000)
  | .hours => .ok (3600 * 1000000000)
  | .days => .ok (24 * 3600 * 1000000000)
  | .weeks => .ok (7 * 24 * 3600 * 1000000000)
  | .months => .ok (30 * 24 * 3600 * 1000000000)
  | .unsupported unit => .error ("unsupported expiration unit: " ++ unit)

namespace APIKeyService

variable (service : APIKeyService)

def pastExpiryMessage (expiresAt now : Time) : String :=
  "API key expiration time must be in the future, got: " ++ service.formatTime expiresAt ++
    " (current time: " ++ service.formatTime now ++ ")"

def requestedExpiry (now : Time) (expiresAt : Option Time) (expiresIn : Option ExpiresIn)
    (otherwise : Option Time) : Except String (Option Time) := do
  let expiry ←
    match expiresAt, expiresIn with
    | some time, _ => pure (some time)
    | none, some period => do
      let unit ← unitLength period.unit
      pure (some (now + Int.bmod (period.duration * unit) (2 ^ 64)))
    | none, none => pure otherwise
  match expiry with
  | some time => if time < now then throw (service.pastExpiryMessage time now) else pure expiry
  | none => pure expiry

def hashAPIKey (plainAPIKey : String) : Except String String :=
  if trimSpace plainAPIKey = "" then .error "API key cannot be empty"
  else .ok (service.sha256Hex (trimSpace plainAPIKey))

def extractSHA256Hash (apiKeyHashes : String) : Except String String :=
  match service.parseHashes apiKeyHashes with
  | .error message => .error ("invalid apiKeyHashes format: " ++ message)
  | .ok hashes =>
    match hashes.lookup "sha256" with
    | none => .error "apiKeyHashes must contain a non-empty 'sha256' entry"
    | some hash =>
      if trimSpace hash = "" then
        .error "apiKeyHashes must contain a non-empty 'sha256' entry"
      else .ok (trimSpace hash)

/-- The hash and the mask of a key value that the caller provides. -/
def providedValue (request : APIKeyCreationRequest) (apiKeyHashes : Option String) :
    Except String (String × String) :=
  if isGiven request.apiKey then do
    let hash ← (service.hashAPIKey (trimmed request.apiKey)).mapError
      ("failed to hash API key: " ++ ·)
    pure (hash, maskAPIKey (trimmed request.apiKey))
  else do
    let hash ← (service.extractSHA256Hash (trimmed apiKeyHashes)).mapError
      ("invalid apiKeyHashes: " ++ ·)
    pure (hash, trimmed request.maskedApiKey)

/-! ## Creation -/

def enforceAPIKeyLimit (table : KeyTable) (apiId userID : String) : Except String Unit :=
  let currentCount := table.countActiveAPIKeysByUserAndAPI apiId userID
  if currentCount ≥ service.apiKeysPerUserPerAPI then
    .error ("API key limit exceeded: user has " ++ toString currentCount ++
      " active keys, maximum allowed is " ++ toString service.apiKeysPerUserPerAPI)
  else .ok ()

def isExternalKeyInjection (request : APIKeyCreationRequest) (apiKeyHashes : Option String) :
    Bool :=
  isGiven apiKeyHashes || isGiven request.apiKey

/-- The hash and the mask of a new key: of the provided value, else of a random one. -/
def creationValue (draw : Draw) (request : APIKeyCreationRequest) (apiKeyHashes : Option String) :
    Except String (String × String) :=
  if isExternalKeyInjection request apiKeyHashes then service.providedValue request apiKeyHashes
  else do
    let hash ← (service.hashAPIKey draw.apiKeyValue).mapError ("failed to hash API key: " ++ ·)
    pure (hash, maskAPIKey draw.apiKeyValue)

/-- The name of a new key: the one in the request, else a free one. -/
def creationName (table : KeyTable) (draw : Draw) (apiId handle : String)
    (request : APIKeyCreationRequest) : Except String String :=
  if isGiven request.name then do
    (validateAPIKeyName (trimmed request.name)).mapError ("invalid name: " ++ ·)
    pure (trimmed request.name)
  else
    (generateUniqueAPIKeyName table draw apiId
      (handle ++ "-key-" ++ String.ofList (draw.shortUniqueID.toList.take 8)) 5).mapError
        ("failed to generate unique API key name: " ++ ·)

def createAPIKeyFromRequest (table : KeyTable) (now : Time) (draw : Draw) (apiId : String)
    (params : APIKeyCreationParams) : Except String APIKey := do
  let request := params.request
  let external := isExternalKeyInjection request params.apiKeyHashes
  let (hash, mask) ← service.creationValue draw request params.apiKeyHashes
  let name ← creationName table draw apiId params.handle request
  let expiresAt ← service.requestedExpiry now request.expiresAt request.expiresIn none
  pure
    { uuid := if isGiven params.uuid then trimmed params.uuid else draw.uuid
      name := name
      apiKey := hash
      maskedAPIKey := mask
      artifactUUID := apiId
      status := .active
      createdAt := params.createdAt.getD now
      createdBy := params.user.userID
      updatedAt := params.updatedAt.getD now
      expiresAt := expiresAt
      source := if external then "external" else "local"
      externalRefId := givenText request.externalRefId
      issuer := givenText request.issuer }

end APIKeyService

def defaultKind (kind : String) : String :=
  if kind = "" then "RestApi" else kind

def notFoundMessage (handle : String) : String :=
  "configuration not found: API configuration handle '" ++ handle ++ "' not found"

def resolveConfig (environment : Environment) (kind handle : String) : Except String String :=
  match environment.getConfigByKindAndHandle (defaultKind kind) handle with
  | some apiId => .ok apiId
  | none => .error (notFoundMessage handle)

/-- What a call that generates a key leaves: the table, the key and the draw that it is of. -/
structure SavedKey where
  table : KeyTable
  key : APIKey
  draw : Draw

namespace APIKeyService

variable (service : APIKeyService)

def createAPIKey (table : KeyTable) (environment : Environment) (params : APIKeyCreationParams) :
    Except String SavedKey := do
  let apiId ← resolveConfig environment params.kind params.handle
  service.enforceAPIKeyLimit table apiId params.user.userID
  let key ← (service.createAPIKeyFromRequest table environment.now environment.first apiId
    params).mapError ("failed to generate API key: " ++ ·)
  match table.upsertAPIKey key with
  | .ok next => pure ⟨next, key, environment.first⟩
  | .error problem =>
    if isExternalKeyInjection params.request params.apiKeyHashes then
      throw ("failed to save API key to database: " ++ problem.message)
    else do
      let key ← (service.createAPIKeyFromRequest table environment.now environment.retry apiId
        params).mapError ("failed to generate API key after collision: " ++ ·)
      let next ← (table.upsertAPIKey key).mapError
        fun problem => "failed to save API key after retry: " ++ problem.message
      pure ⟨next, key, environment.retry⟩

/-! ## Update, regeneration and revocation -/

def isAdmin (user : AuthContext) : Bool :=
  user.roles.contains "admin"

def canRevokeAPIKey (user : AuthContext) (key : APIKey) : Bool :=
  isAdmin user || key.createdBy == user.userID

def canRegenerateAPIKey (user : AuthContext) (key : APIKey) : Bool :=
  key.createdBy == user.userID

def updateAPIKeyFromRequest (now : Time) (existing : APIKey) (params : APIKeyUpdateParams) :
    Except String APIKey := do
  let request := params.request
  if !isGiven request.apiKey && !isGiven params.apiKeyHashes then
    throw "apiKey or apiKeyHashes is required for update"
  let (hash, mask) ← service.providedValue request params.apiKeyHashes
  let expiresAt ← service.requestedExpiry now request.expiresAt request.expiresIn none
  pure
    { existing with
      apiKey := hash
      maskedAPIKey := mask
      status := .active
      updatedAt := params.updatedAt.getD now
      expiresAt := expiresAt
      externalRefId := none
      issuer := none }

/-- The creation that an update falls back to when there is no such key. -/
def creationOfUpdate (params : APIKeyUpdateParams) : APIKeyCreationParams :=
  { kind := defaultKind params.kind
    handle := params.handle
    request := { params.request with name := some params.apiKeyName }
    user := params.user
    uuid := none
    apiKeyHashes := params.apiKeyHashes
    createdAt := none
    updatedAt := none }

def nameMismatchMessage (bodyName urlName : String) : String :=
  "API key name mismatch: name in request body '" ++ bodyName ++
    "' must match the key name in URL '" ++ urlName ++ "'"

def updateAPIKey (table : KeyTable) (environment : Environment) (params : APIKeyUpdateParams) :
    Except String (KeyTable × APIKey) := do
  let bodyName := params.request.name.getD ""
  if bodyName ≠ "" ∧ bodyName ≠ params.apiKeyName then
    throw (nameMismatchMessage bodyName params.apiKeyName)
  let apiId ← resolveConfig environment params.kind params.handle
  match table.getAPIKeysByAPIAndName apiId params.apiKeyName with
  | none =>
    if isGiven params.apiKeyHashes then
      let saved ← (service.createAPIKey table environment (creationOfUpdate params)).mapError
        ("failed to create new API key: " ++ ·)
      pure (saved.table, saved.key)
    else
      throw ("configuration not found: API key '" ++ params.apiKeyName ++
        "' not found for API '" ++ params.handle ++ "' and no api_key value provided to create one")
  | some existing =>
    if existing.source ≠ "external" then
      throw ("operation not allowed: updates are only allowed for externally generated API keys" ++
        ". For locally generated keys, please use the regenerate endpoint to create a new key")
    if !canRegenerateAPIKey params.user existing then
      throw ("not authorized to update API key '" ++ params.apiKeyName ++ "'")
    let updated ← (service.updateAPIKeyFromRequest environment.now existing params).mapError
      ("failed to update API key from request: " ++ ·)
    let next ← (table.updateAPIKey updated).mapError
      fun problem => "failed to update API key in database: " ++ problem.message
    pure (next, updated)

def regeneratedKey (now : Time) (draw : Draw) (existing : APIKey)
    (params : APIKeyRegenerationParams) : Except String APIKey := do
  let hash ← (service.hashAPIKey draw.apiKeyValue).mapError
    ("failed to hash regenerated API key: " ++ ·)
  let expiresAt ← service.requestedExpiry now params.expiresAt params.expiresIn existing.expiresAt
  pure
    { existing with
      apiKey := hash
      maskedAPIKey := maskAPIKey draw.apiKeyValue
      status := .active
      updatedAt := now
      expiresAt := expiresAt
      externalRefId := none
      issuer := none }

def regenerateAPIKey (table : KeyTable) (environment : Environment)
    (params : APIKeyRegenerationParams) : Except String SavedKey := do
  let apiId ← resolveConfig environment params.kind params.handle
  match table.getAPIKeysByAPIAndName apiId params.apiKeyName with
  | none =>
    throw ("configuration not found: API key '" ++ params.apiKeyName ++ "' not found for API '" ++
      params.handle ++ "'")
  | some existing =>
    if !canRegenerateAPIKey params.user existing then
      throw ("API key regeneration failed for API: '" ++ params.handle ++ "'")
    let regenerated ← (service.regeneratedKey environment.now environment.first existing
      params).mapError ("failed to regenerate API key: " ++ ·)
    match table.updateAPIKey regenerated with
    | .ok next => pure ⟨next, regenerated, environment.first⟩
    | .error .conflict => do
      let regenerated ← (service.regeneratedKey environment.now environment.retry existing
        params).mapError ("failed to regenerate API key after collision: " ++ ·)
      let next ← (table.updateAPIKey regenerated).mapError
        fun problem => "failed to save regenerated API key after retry: " ++ problem.message
      pure ⟨next, regenerated, environment.retry⟩

/-- A key that does not exist is reported as revoked, so that nothing leaks. -/
def revokeAPIKey (table : KeyTable) (environment : Environment)
    (params : APIKeyRevocationParams) : Except String KeyTable := do
  let apiId ← resolveConfig environment params.kind params.handle
  match table.getAPIKeysByAPIAndName apiId params.apiKeyName with
  | none => pure table
  | some key =>
    if !canRevokeAPIKey params.user key then
      throw ("API key revocation failed for API: '" ++ params.handle ++ "'")
    else if key.status = .revoked then pure table
    else do
      let revoked ← (table.updateAPIKey
        { key with status := .revoked, updatedAt := environment.now }).mapError
          fun problem => "failed to revoke API key: " ++ problem.message
      pure (revoked.removeAPIKeyAPIAndName apiId key.name)

end APIKeyService

/-! ## Histories -/

inductive Call where
  | create (params : APIKeyCreationParams)
  | update (params : APIKeyUpdateParams)
  | regenerate (params : APIKeyRegenerationParams)
  | revoke (params : APIKeyRevocationParams)
  deriving DecidableEq

def Call.user : Call → AuthContext
  | .create params => params.user
  | .update params => params.user
  | .regenerate params => params.user
  | .revoke params => params.user

structure Request where
  environment : Environment
  call : Call

namespace APIKeyService

variable (service : APIKeyService)

def perform (table : KeyTable) (request : Request) : Except String KeyTable :=
  match request.call with
  | .create params => (service.createAPIKey table request.environment params).map (·.table)
  | .update params => (service.updateAPIKey table request.environment params).map (·.1)
  | .regenerate params => (service.regenerateAPIKey table request.environment params).map (·.table)
  | .revoke params => revokeAPIKey table request.environment params

def step (table : KeyTable) (request : Request) : KeyTable :=
  match service.perform table request with
  | .ok next => next
  | .error _ => table

end APIKeyService

/-! ## A service for one API -/

def hashesOf (hash : String) : String :=
  "\x7b\"sha256\":\"" ++ hash ++ "\"\x7d"

def plainService : APIKeyService where
  apiKeysPerUserPerAPI := 10
  sha256Hex := fun value => "sha256:" ++ value
  parseHashes := fun text =>
    let hash := trimSuffix (trimPrefix text "\x7b\"sha256\":\"") "\"\x7d"
    if text = hashesOf hash ∧ '"' ∉ hash.toList then
      .ok ((∅ : GoMap String String).insert "sha256" hash)
    else .error "invalid character"
  formatTime := fun time => toString time

/-- The API `orders` at a time, when every draw gives the same values. -/
def ordersAt (now : Time) (uuid apiKeyValue : String) : Environment :=
  let draw : Draw := ⟨uuid, uuid, apiKeyValue, fun _ => "0", []⟩
  { now := now, first := draw, retry := draw
    getConfigByKindAndHandle := fun _ _ => some "orders-api" }

def orderKeyOf (user name : String) : APIKeyCreationParams where
  kind := ""
  handle := "orders"
  request :=
    { name := some name, apiKey := none, maskedApiKey := none, expiresAt := none
      expiresIn := none, externalRefId := none, issuer := none }
  user := { userID := user, roles := [] }
  uuid := none
  apiKeyHashes := none
  createdAt := none
  updatedAt := none

end ApiPlatform.Controller.ApiKeys
