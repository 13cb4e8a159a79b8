import ApiPlatform.Foundation.Selection
import ApiPlatform.Controller.Api
import ApiPlatform.Controller.Llm.Paths

/-!
# From an LLM provider to a REST API

`transformProvider` of `pkg/utils/llm_transformer.go`.  The operations of the
derived API are collected in a registry keyed by path and method.  A registry
entry holds the policies of its operation; the operation's path and method are
those of its key.
-/

namespace ApiPlatform.Controller.Llm

open Foundation
open Controller.Api

structure PathMethodKey where
  path : String
  method : String
  deriving DecidableEq

abbrev OperationRegistry := GoMap PathMethodKey (List Api.Policy)

inductive TransformError where
  | templateNotFound (handle : String)
  | policyDefinitionMissing (name : String)
  | unsupportedAuthType (type : String)
  | unsupportedAccessControlMode (mode : String)
  deriving DecidableEq

/-! ## Constants -/

def wildcardHTTPMethods : List String :=
  ["GET", "POST", "PUT", "PATCH", "DELETE", "OPTIONS"]

def accessControlDenyPolicyName : String :=
  "respond"

def upstreamAuthApikeyPolicyName : String :=
  "set-headers"

def accessControlDenyPolicyParams : Params :=
  ((AList.insert "statusCode" (ParamValue.json "404") ∅).insert "body"
    (ParamValue.text "\x7b\"message\": \"Resource not found.\"\x7d")).insert "headers"
      (ParamValue.headers [("Content-Type", "application/json")])

def denyPolicy (version : String) : Api.Policy :=
  { name := accessControlDenyPolicyName, version := version
    params := accessControlDenyPolicyParams, executionCondition := none }

/-! ## Methods and exceptions -/

def expandLLMPolicyMethods (methods : List String) : List String :=
  if methods = ["*"] then wildcardHTTPMethods else methods

def exceptionKeys (exceptions : List RouteException) : List PathMethodKey :=
  exceptions.flatMap fun exception =>
    (expandLLMPolicyMethods exception.methods).map (PathMethodKey.mk exception.path)

def isDeniedByException (policyPath policyMethod : String)
    (deniedPathMethods : List PathMethodKey) : Bool :=
  deniedPathMethods.contains ⟨policyPath, policyMethod⟩ ||
    deniedPathMethods.any fun denied =>
      denied.method == policyMethod && underWildcard policyPath denied.path

def isAllowedByAccessControl (policyPath policyMethod : String)
    (normalizedExceptions : List PathMethodKey) : Bool :=
  normalizedExceptions.any fun key =>
    key.method == policyMethod && (key.path == policyPath || underWildcard policyPath key.path)

/-! ## The registry -/

def ensureOperation (registry : OperationRegistry) (key : PathMethodKey) : OperationRegistry :=
  if (registry.lookup key).isSome then registry else registry.insert key []

def appendOperationPolicy (registry : OperationRegistry) (key : PathMethodKey)
    (policy : Api.Policy) : OperationRegistry :=
  registry.insert key ((registry.lookup key).getD [] ++ [policy])

def getOperationsForMethod (registry : OperationRegistry) (method : String) :
    List PathMethodKey :=
  registry.keys.filter (·.method == method)

def hasDenyPolicy (policies : List Api.Policy) (denyPolicyVersion : String) : Bool :=
  denyPolicyVersion != "" && policies.any fun policy =>
    policy.name == accessControlDenyPolicyName && policy.version == denyPolicyVersion

def denyAppliesToTarget (targetPath policyMethod denyPolicyVersion : String)
    (registry : OperationRegistry) : Bool :=
  denyPolicyVersion != "" && registry.entries.any fun entry =>
    entry.1.method == policyMethod && hasDenyPolicy entry.2 denyPolicyVersion &&
      pathsMatch targetPath entry.1.path

/-! ## Template resources -/

def shouldPreferTemplateResourceMapping (candidatePath selectedPath : String) : Bool :=
  if hasWildcard candidatePath ≠ hasWildcard selectedPath then !hasWildcard candidatePath
  else len candidatePath > len selectedPath

def selectTemplateResourceMapping (resources : List ResourceMapping) (resourcePath : String) :
    Option ResourceMapping :=
  resources.foldl
    (fun selected candidate =>
      if pathsMatch resourcePath candidate.resource then
        match selected with
        | none => some candidate
        | some current =>
          if shouldPreferTemplateResourceMapping candidate.resource current.resource then
            some candidate
          else selected
      else selected)
    none

def addTargetPath (template : LLMProviderTemplateData) (opPath : String)
    (expanded : List String) (mapping : ResourceMapping) : List String :=
  if pathsMatch mapping.resource opPath then
    match selectTemplateResourceMapping template.resources mapping.resource with
    | none => expanded
    | some selected =>
      if pathsMatch selected.resource opPath = false ∨ selected.resource = opPath ∨
          selected.resource ∈ expanded then expanded
      else expanded ++ [selected.resource]
  else expanded

def expandPolicyTargetPaths (template : LLMProviderTemplateData) (opPath : String) :
    List String :=
  if hasWildcard opPath then
    template.resources.foldl (addTargetPath template opPath) [] ++ [opPath]
  else [opPath]

def setExtractionParam (key : String) (identifier : Option ExtractionIdentifier)
    (params : Params) : Params :=
  match identifier with
  | none => params
  | some identifier =>
    params.insert key (.extraction identifier.location identifier.identifier)

/-- The fields of the template, respectively of one resource mapping. -/
def applyExtractionFields (params : Params) (fields : ExtractionFields) : Params :=
  setExtractionParam "remainingTokens" fields.remainingTokens <|
  setExtractionParam "totalTokens" fields.totalTokens <|
  setExtractionParam "completionTokens" fields.completionTokens <|
  setExtractionParam "promptTokens" fields.promptTokens <|
  setExtractionParam "responseModel" fields.responseModel <|
  setExtractionParam "requestModel" fields.requestModel params

def buildTemplateParams (template : LLMProviderTemplateData) (resourcePath : String) : Params :=
  let base := applyExtractionFields ∅ template.fields
  match selectTemplateResourceMapping template.resources resourcePath with
  | none => base
  | some mapping => applyExtractionFields base mapping.fields

def mergeParams (base extra : Params) : Params :=
  extra.entries.foldl (fun merged entry => merged.insert entry.1 entry.2) base

/-! ## Attachments -/

def legacyToOperationPolicy (policy : LLMPolicy) : OperationPolicy :=
  { name := policy.name, version := policy.version, executionCondition := none
    paths := policy.paths }

def collectOperationLevelLLMPolicies (provider : LLMProviderConfigData) :
    List OperationPolicy :=
  provider.operationPolicies ++ provider.policies.map legacyToOperationPolicy

structure LLMPolicyAttachment where
  policy : OperationPolicy
  pathEntry : OperationPolicyPath
  deriving DecidableEq

def policyAttachments (policies : List OperationPolicy) : List LLMPolicyAttachment :=
  policies.flatMap fun policy => policy.paths.map (LLMPolicyAttachment.mk policy)

def shouldAttachPathBefore (leftPath rightPath : String) : Bool :=
  if hasWildcard leftPath ≠ hasWildcard rightPath then hasWildcard leftPath
  else if len leftPath ≠ len rightPath then len leftPath < len rightPath
  else leftPath < rightPath

def orderedLLMPolicyAttachments (policies : List OperationPolicy) : List LLMPolicyAttachment :=
  (policyAttachments policies).insertionSort fun left right =>
    shouldAttachPathBefore right.pathEntry.path left.pathEntry.path = false

def isStrictMethodSubset (left right : List String) : Bool :=
  let leftSet := (expandLLMPolicyMethods left).dedup
  let rightSet := (expandLLMPolicyMethods right).dedup
  leftSet.length != 0 && leftSet.length < rightSet.length && leftSet.all (rightSet.contains ·)

def isMoreSpecificAttachment (left right : OperationPolicyPath) : Bool :=
  if isMoreSpecificPath left.path right.path then true
  else if isMoreSpecificPath right.path left.path then false
  else isStrictMethodSubset left.methods right.methods

def moreSpecificPolicyAttachmentCovers (targetPath method : String)
    (current : LLMPolicyAttachment) : Bool :=
  current.policy.paths.any fun other =>
    pathsMatch targetPath other.path &&
      (expandLLMPolicyMethods other.methods).contains method &&
      isMoreSpecificAttachment other current.pathEntry

def registerExplicitLLMPolicyOperations (registry : OperationRegistry)
    (policies : List OperationPolicy) (shouldRegister : String → String → Bool) :
    OperationRegistry :=
  (policyAttachments policies).foldl
    (fun registry attachment =>
      (expandLLMPolicyMethods attachment.pathEntry.methods).foldl
        (fun registry method =>
          if shouldRegister attachment.pathEntry.path method then
            ensureOperation registry ⟨attachment.pathEntry.path, method⟩
          else registry)
        registry)
    registry

/-! ## Attaching the policies

The loops of the two access control modes differ only in what they skip. -/

structure AttachmentGuards where
  skipAttachment : String → String → Bool
  skipOperation : List Api.Policy → Bool
  skipTarget : OperationRegistry → String → String → Bool

def denyAllGuards : AttachmentGuards :=
  { skipAttachment := fun _ _ => false
    skipOperation := fun _ => false
    skipTarget := fun _ _ _ => false }

def allowAllGuards (denyPolicyVersion : String) (deniedPathMethods : List PathMethodKey) :
    AttachmentGuards :=
  { skipAttachment := fun path method => isDeniedByException path method deniedPathMethods
    skipOperation := fun policies => hasDenyPolicy policies denyPolicyVersion
    skipTarget := fun registry path method =>
      denyAppliesToTarget path method denyPolicyVersion registry }

structure AttachmentState where
  registry : OperationRegistry
  attachedPolicyPaths : List String

def attachedPolicy (template : LLMProviderTemplateData) (attachment : LLMPolicyAttachment)
    (targetPath : String) : Api.Policy :=
  { name := attachment.policy.name
    version := attachment.policy.version
    executionCondition := attachment.policy.executionCondition
    params := mergeParams attachment.pathEntry.params (buildTemplateParams template targetPath) }

section Attach

variable (guards : AttachmentGuards) (template : LLMProviderTemplateData)

def attachToTarget (attachment : LLMPolicyAttachment) (method : String)
    (state : AttachmentState) (targetPath : String) : AttachmentState :=
  if targetPath ∈ state.attachedPolicyPaths then state
  else if moreSpecificPolicyAttachmentCovers targetPath method attachment then state
  else
    let registry := ensureOperation state.registry ⟨targetPath, method⟩
    if guards.skipTarget registry targetPath method then { state with registry := registry }
    else
      { registry := appendOperationPolicy registry ⟨targetPath, method⟩
          (attachedPolicy template attachment targetPath)
        attachedPolicyPaths := targetPath :: state.attachedPolicyPaths }

def attachToOperation (attachment : LLMPolicyAttachment) (method : String)
    (state : AttachmentState) (key : PathMethodKey) : AttachmentState :=
  if guards.skipOperation ((state.registry.lookup key).getD []) then state
  else if pathsMatch key.path attachment.pathEntry.path then
    (expandPolicyTargetPaths template key.path).foldl
      (attachToTarget guards template attachment method) state
  else state

variable (iteration : MapIteration PathMethodKey)

def attachForMethod (registry : OperationRegistry)
    (job : (LLMPolicyAttachment × String) × Nat) : OperationRegistry :=
  let attachment := job.1.1
  let method := job.1.2
  if guards.skipAttachment attachment.pathEntry.path method then registry
  else
    ((iteration.order (job.2 + 1) (getOperationsForMethod registry method)).foldl
      (attachToOperation guards template attachment method) ⟨registry, []⟩).registry

def attachmentJobs (policies : List OperationPolicy) : List (LLMPolicyAttachment × String) :=
  (orderedLLMPolicyAttachments policies).flatMap fun attachment =>
    (expandLLMPolicyMethods attachment.pathEntry.methods).map (Prod.mk attachment)

def attachPolicies (policies : List OperationPolicy) (registry : OperationRegistry) :
    OperationRegistry :=
  (attachmentJobs policies).zipIdx.foldl (attachForMethod guards template iteration) registry

end Attach

/-! ## The access control modes -/

def catchAllRegistry : OperationRegistry :=
  wildcardHTTPMethods.foldl (fun registry method => registry.insert ⟨"/*", method⟩ []) ∅

def denyRegistry (denyPolicyVersion : String) (exceptions : List RouteException) :
    OperationRegistry :=
  (exceptionKeys exceptions).foldl
    (fun registry key =>
      appendOperationPolicy (ensureOperation registry key) key (denyPolicy denyPolicyVersion))
    catchAllRegistry

def allowAllRegistry (denyPolicyVersion : String) (template : LLMProviderTemplateData)
    (iteration : MapIteration PathMethodKey) (provider : LLMProviderConfigData) :
    OperationRegistry :=
  let deniedPathMethods := exceptionKeys provider.exceptions
  let policies := collectOperationLevelLLMPolicies provider
  attachPolicies (allowAllGuards denyPolicyVersion deniedPathMethods) template iteration policies
    (registerExplicitLLMPolicyOperations (denyRegistry denyPolicyVersion provider.exceptions)
      policies fun path method => !isDeniedByException path method deniedPathMethods)

def denyAllRegistry (template : LLMProviderTemplateData) (iteration : MapIteration PathMethodKey)
    (provider : LLMProviderConfigData) : OperationRegistry :=
  let normalizedExceptions := exceptionKeys provider.exceptions
  let policies := collectOperationLevelLLMPolicies provider
  attachPolicies denyAllGuards template iteration policies
    (registerExplicitLLMPolicyOperations
      (normalizedExceptions.foldl (fun registry key => registry.insert key []) ∅)
      policies fun path method => isAllowedByAccessControl path method normalizedExceptions)

/-! ## The derived API -/

def shouldSwap (left right : Api.Operation) : Bool :=
  let leftPath := left.effectivePath
  let rightPath := right.effectivePath
  if hasWildcard leftPath ≠ hasWildcard rightPath then hasWildcard leftPath
  else if len leftPath ≠ len rightPath then len leftPath < len rightPath
  else if leftPath ≠ rightPath then rightPath < leftPath
  else right.effectiveMethod < left.effectiveMethod

def sortOperationsBySpecificity (operations : List Api.Operation) : List Api.Operation :=
  exchangeSort shouldSwap operations.length operations

def registryOperation (registry : OperationRegistry) (key : PathMethodKey) : Api.Operation :=
  { matchBlock := none, method := some key.method, path := some key.path
    policies := (registry.lookup key).getD [], resilience := none }

def finalizeOperation (provider : LLMProviderConfigData) (authPolicy : Option Api.Policy)
    (denyOpKeys : List PathMethodKey) (operation : Api.Operation) : Api.Operation :=
  { operation with
    policies := operation.policies ++ authPolicy.toList
    resilience :=
      if denyOpKeys.contains ⟨operation.effectivePath, operation.effectiveMethod⟩ then
        operation.resilience
      else provider.resilience.or operation.resilience }

def upstreamAuthPolicy (resolve : String → Option String) (provider : LLMProviderConfigData) :
    Except TransformError (Option Api.Policy) :=
  match provider.upstreamAuth with
  | none => .ok none
  | some auth =>
    if auth.type = "api-key" then
      match resolve upstreamAuthApikeyPolicyName with
      | none => .error (.policyDefinitionMissing upstreamAuthApikeyPolicyName)
      | some version =>
        .ok (some
          { name := upstreamAuthApikeyPolicyName, version := version
            params := AList.insert "request" (.headers [(auth.header, auth.value)]) ∅
            executionCondition := none })
    else if auth.type = "other" ∨ auth.type = "none" then .ok none
    else .error (.unsupportedAuthType auth.type)

/-- The version of the deny policy; it is only resolved when there are exceptions. -/
def denyPolicyVersion (resolve : String → Option String) (provider : LLMProviderConfigData) :
    Except TransformError String :=
  if provider.exceptions = [] then .ok ""
  else
    match resolve accessControlDenyPolicyName with
    | none => .error (.policyDefinitionMissing accessControlDenyPolicyName)
    | some version => .ok version

/-- The registry of the provider's mode and the keys of the routes made only to deny. -/
def accessControlRegistry (resolve : String → Option String)
    (template : LLMProviderTemplateData) (iteration : MapIteration PathMethodKey)
    (provider : LLMProviderConfigData) :
    Except TransformError (OperationRegistry × List PathMethodKey) :=
  if provider.accessControlMode = "allow_all" then do
    let version ← denyPolicyVersion resolve provider
    return (allowAllRegistry version template iteration provider,
      exceptionKeys provider.exceptions)
  else if provider.accessControlMode = "deny_all" then
    .ok (denyAllRegistry template iteration provider, [])
  else .error (.unsupportedAccessControlMode provider.accessControlMode)

def transformProvider (resolve : String → Option String)
    (getTemplateByHandle : String → Option LLMProviderTemplateData)
    (iteration : MapIteration PathMethodKey)
    (provider : LLMProviderConfigData) : Except TransformError APIConfigData := do
  let template ←
    match getTemplateByHandle provider.template with
    | none => .error (.templateNotFound provider.template)
    | some template => .ok template
  let authPolicy ← upstreamAuthPolicy resolve provider
  let (registry, denyOpKeys) ← accessControlRegistry resolve template iteration provider
  let operations := sortOperationsBySpecificity
    ((iteration.order 0 registry.keys).map (registryOperation registry))
  return {
    displayName := provider.displayName
    version := provider.version
    context := provider.context.getD "/"
    vhosts := provider.vhost.map fun vhost => { main := vhost, sandbox := none }
    upstreamMain :=
      match provider.upstreamRef with
      | some ref =>
        if trimSpace ref ≠ "" then { url := none, ref := some ref, hostRewrite := none }
        else { url := provider.upstreamUrl, ref := none, hostRewrite := none }
      | none => { url := provider.upstreamUrl, ref := none, hostRewrite := none }
    upstreamSandbox := none
    upstreamDefinitions := provider.upstreamDefinitions
    policies := provider.globalPolicies
    resilience := none
    operations := operations.map (finalizeOperation provider authPolicy denyOpKeys) }

end ApiPlatform.Controller.Llm
