import ApiPlatform.Operator.Attachment
import ApiPlatform.Operator.Backends

/-!
# Compilation of a route

An HTTPRoute becomes the configuration of one API: an operation for every match
and method, the policies of its rule, and upstream definitions for the
backends.
-/

namespace ApiPlatform.Operator

open Foundation

/-! ## The compiled configuration -/

/-- A policy of an APIPolicy resource, with its parameters as JSON text. -/
structure ExtensionPolicy where
  name : String
  version : String
  params : String
  deriving DecidableEq

inductive Policy where
  | extension (policy : ExtensionPolicy)
  | setHeaders (append : Bool) (headers : List (String × String))
  | removeHeaders (headers : List String)
  | redirect (statusCode : Int) (scheme hostname : Option String) (port : Option Int)
      (path : Option HTTPPathModifier)
  | respond (statusCode : Int)
  | dynamicEndpoint (targetUpstream : String)
  deriving DecidableEq

inductive OperationPathMatchType where
  | exact
  | pathPrefix
  deriving DecidableEq

structure OperationHeaderMatch where
  name : String
  value : String
  type : String
  deriving DecidableEq

structure Operation where
  method : String
  path : String
  pathType : OperationPathMatchType
  headers : List OperationHeaderMatch
  policies : List Policy
  deriving DecidableEq

structure WeightedUpstream where
  url : String
  weight : Option Int
  deriving DecidableEq

structure UpstreamDefinition where
  name : String
  upstreams : List WeightedUpstream
  deriving DecidableEq

inductive Upstream where
  | url (url : String)
  | ref (name : String)
  deriving DecidableEq

structure APIConfigData where
  context : String
  displayName : String
  operations : List Operation
  main : Upstream
  version : String
  policies : List Policy
  upstreamDefinitions : List UpstreamDefinition
  vhosts : Option String
  deriving DecidableEq

/-! ## Matches -/

def pathMatchTypeFromHTTPRoute (m : Option HTTPPathMatch) : OperationPathMatchType :=
  match m.bind (·.type) with
  | some .pathPrefix => .pathPrefix
  | _ => .exact

def operationPathFromMatch (m : HTTPRouteMatch) : String :=
  let value := trimSpace ((m.path.bind (·.value)).getD "")
  let pathVal :=
    if value = "" then "/" else if hasPrefix value "/" then value else "/" ++ value
  if pathMatchTypeFromHTTPRoute m.path = .pathPrefix then
    if pathVal = "/" then "/*"
    else if hasSuffix pathVal "/*" then pathVal
    else trimSuffix pathVal "/" ++ "/*"
  else pathVal

def mapHTTPHeaderMatches (headers : List HTTPHeaderMatch) : List OperationHeaderMatch :=
  headers.map fun header =>
    { name := header.name
      value := header.value
      type := if header.type = some .regularExpression then "RegularExpression" else "Exact" }

def allRESTAPIOperationMethods : List String :=
  ["GET", "POST", "PUT", "PATCH", "DELETE", "HEAD", "OPTIONS"]

def restAPIOperationMethodsForHTTPRouteMatch (m : HTTPRouteMatch) : List String :=
  match m.method with
  | some method => [method]
  | none => allRESTAPIOperationMethods

/-! ## Filters -/

def defaultRedirectStatus : Int := 302

def redirectPathParams : HTTPPathModifier → Option HTTPPathModifier
  | .fullPath (some value) => some (.fullPath (some value))
  | .prefixMatch (some value) => some (.prefixMatch (some value))
  | _ => none

def redirectPolicyFromFilter (f : HTTPRequestRedirectFilter) : Policy :=
  .redirect (f.statusCode.getD defaultRedirectStatus) (f.scheme.filter (· ≠ "")) f.hostname f.port
    (f.path.bind redirectPathParams)

def headerModifierPolicies (filter : HTTPHeaderFilter) : List Policy :=
  (if filter.set = [] then [] else [.setHeaders false filter.set]) ++
  (if filter.add = [] then [] else [.setHeaders true filter.add]) ++
  (if filter.remove = [] then [] else [.removeHeaders filter.remove])

def filterPolicies : HTTPRouteFilter → List Policy
  | .requestHeaderModifier (some filter) => headerModifierPolicies filter
  | .requestRedirect (some filter) => [redirectPolicyFromFilter filter]
  | _ => []

def isRedirect : HTTPRouteFilter → Bool
  | .requestRedirect (some _) => true
  | _ => false

/-- The policies of the filters, and whether one of them redirects. -/
def policiesFromHTTPRouteFilters (filters : List HTTPRouteFilter) : List Policy × Bool :=
  (filters.flatMap filterPolicies, filters.any isRedirect)

/-! ## Upstream definitions -/

def sanitizeUpstreamDefName (name : String) : String :=
  replaceAll (replaceAll name "." "-") "/" "-"

def upstreamDefinitionNameForService (svcNS svcName : String) (port : Int) : String :=
  sanitizeUpstreamDefName (svcNS ++ "-" ++ svcName ++ "-" ++ toString port)

def weightedDefinitionName (ruleIdx : Nat) : String :=
  "rule-" ++ toString ruleIdx ++ "-weighted"

abbrev Definitions := GoMap String UpstreamDefinition

def needsDynamicEndpoint (defs : Definitions) : Bool :=
  1 < defs.keys.length

def backendsForRule (resolution : HTTPRouteBackendResolution) (ruleIdx : Nat) :
    List ResolvedBackendRef :=
  resolution.refs.filter (·.ruleIndex = ruleIdx)

def ruleHasUnresolvedBackends (refs : List ResolvedBackendRef) : Bool :=
  refs.any fun ref => !ref.ok

def allRuleBackendsResolved (refs : List ResolvedBackendRef) : Bool :=
  !refs.isEmpty && refs.all (·.ok)

def ruleHasBackendRefs (rule : HTTPRouteRule) : Bool :=
  !rule.backendRefs.isEmpty

def isWeightedRule (refs : List ResolvedBackendRef) : Bool :=
  1 < refs.length && allRuleBackendsResolved refs

def weightedUpstreams (refs : List ResolvedBackendRef) : List WeightedUpstream :=
  refs.filterMap fun ref =>
    let weight := ref.weight.getD 1
    if weight = 0 then none else some { url := ref.url, weight := some weight }

def ResolvedBackendRef.definitionName (ref : ResolvedBackendRef) : String :=
  upstreamDefinitionNameForService ref.serviceNS ref.serviceName ref.port

/-- The definition of a Service, unless there is one under its name. -/
def addServiceDefinition (defs : Definitions) (ref : ResolvedBackendRef) : Definitions :=
  if ref.ok && (defs.lookup ref.definitionName).isNone then
    defs.insert ref.definitionName
      { name := ref.definitionName, upstreams := [{ url := ref.url, weight := none }] }
  else defs

def addRuleDefinitions (defs : Definitions) (ruleIdx : Nat) (refs : List ResolvedBackendRef) :
    Definitions :=
  if isWeightedRule refs then
    defs.insert (weightedDefinitionName ruleIdx)
      { name := weightedDefinitionName ruleIdx, upstreams := weightedUpstreams refs }
  else refs.foldl addServiceDefinition defs

/-! ## Rules -/

structure CompileState where
  defsByName : Definitions
  ops : List Operation
  mainUpstreamRef : Option String

/-- What the operator reads besides Services: the policies of the APIPolicy resources that a rule
or the route refers to, and the parameters with their `valueFrom` references resolved. -/
structure PolicySource where
  extensionPolicies : Nat → HTTPRouteRule → Except String (List ExtensionPolicy)
  apiPolicies : Except String (List ExtensionPolicy)
  resolveValueFrom : String → Except String String

def routingPolicies (defs : Definitions) (ruleIdx : Nat) (rule : HTTPRouteRule) (hasRedirect : Bool)
    (refs : List ResolvedBackendRef) : List Policy :=
  if !hasRedirect && (!ruleHasBackendRefs rule || ruleHasUnresolvedBackends refs) then
    [.respond 500]
  else if hasRedirect then []
  else if isWeightedRule refs then [.dynamicEndpoint (weightedDefinitionName ruleIdx)]
  else
    match refs with
    | [ref] =>
      if ref.ok && needsDynamicEndpoint defs then [.dynamicEndpoint ref.definitionName] else []
    | _ => []

def ruleOperations (rule : HTTPRouteRule) (policies : List Policy) : List Operation :=
  rule.matches.flatMap fun m =>
    (restAPIOperationMethodsForHTTPRouteMatch m).map fun method =>
      { method := method
        path := operationPathFromMatch m
        pathType := pathMatchTypeFromHTTPRoute m.path
        headers := mapHTTPHeaderMatches m.headers
        policies := policies }

def compileRule (source : PolicySource) (resolution : HTTPRouteBackendResolution)
    (state : CompileState) (rule : HTTPRouteRule) (ruleIdx : Nat) : Except String CompileState := do
  let rulePolicies ← source.extensionPolicies ruleIdx rule
  let (fromFilters, hasRedirect) := policiesFromHTTPRouteFilters rule.filters
  let refs := backendsForRule resolution ruleIdx
  let defs := addRuleDefinitions state.defsByName ruleIdx refs
  if rule.matches = [] then
    .error ("rule[" ++ toString ruleIdx ++
      "] has no matches; add at least one rule.matches entry")
  else
    pure {
      defsByName := defs
      ops := state.ops ++ ruleOperations rule (rulePolicies.map .extension ++ fromFilters ++
        routingPolicies defs ruleIdx rule hasRedirect refs)
      mainUpstreamRef := state.mainUpstreamRef <|>
        if isWeightedRule refs then some (weightedDefinitionName ruleIdx) else none }

/-! ## The whole route -/

def annDisplayName : String := "gateway.api-platform.wso2.com/display-name"

def annAPIVersion : String := "gateway.api-platform.wso2.com/api-version"

def annContext : String := "gateway.api-platform.wso2.com/context"

def normalizeContext (raw : String) : String :=
  "/" ++ trimChar '/' (trimSpace raw)

/-- Only the parameters of policies that come from resources hold `valueFrom` references. -/
def PolicySource.resolvePolicy (source : PolicySource) : Policy → Except String Policy
  | .extension policy => do
    let params ← source.resolveValueFrom policy.params
    pure (.extension { policy with params := params })
  | policy => .ok policy

def PolicySource.resolveOperation (source : PolicySource) (op : Operation) :
    Except String Operation := do
  let policies ← op.policies.mapM source.resolvePolicy
  pure { op with policies := policies }

def mainUpstream (state : CompileState) (placeholderURL : String) : Upstream :=
  match state.mainUpstreamRef with
  | some name => .ref name
  | none =>
    match state.defsByName.keys with
    | [name] =>
      if needsDynamicEndpoint state.defsByName then .ref name
      else .url (if placeholderURL = "" then "http://127.0.0.1:1" else placeholderURL)
    | _ => .url (if placeholderURL = "" then "http://127.0.0.1:1" else placeholderURL)

def sortedDefinitions (defs : Definitions) : List UpstreamDefinition :=
  (defs.entries.map (·.2)).insertionSort fun left right => left.name ≤ right.name

def vhostsField (main : String) (additional : List String) : Option String :=
  if main = "" then none else some (";".intercalate (main :: additional))

def buildAPIConfigFromHTTPRoute (c : Client) (source : PolicySource) (parentGW : Option Gateway)
    (route : HTTPRoute) (parentTargets : List ParentReference) (clusterDomain : String) :
    Except String APIConfigData := do
  if route.rules = [] then .error "HTTPRoute has no rules"
  else
    let resolution ← resolveHTTPRouteBackendRefs c route clusterDomain
    let displayName := (route.annotations.lookup annDisplayName).getD ""
    let version := (route.annotations.lookup annAPIVersion).getD ""
    let (vhostMain, vhostList) ← deriveVhosts c parentGW route parentTargets
    let state ← route.rules.zipIdx.foldlM
      (fun state (rule, ruleIdx) => compileRule source resolution state rule ruleIdx)
      { defsByName := ∅, ops := [], mainUpstreamRef := none }
    if state.ops = [] then .error "no operations derived from HTTPRoute"
    else
      let apiPolicies ← source.apiPolicies
      let resolvedAPIPolicies ← (apiPolicies.map Policy.extension).mapM source.resolvePolicy
      let operations ← state.ops.mapM source.resolveOperation
      pure {
        context := normalizeContext ((route.annotations.lookup annContext).getD "")
        displayName := if displayName = "" then route.name else displayName
        operations := operations
        main := mainUpstream state resolution.placeholderURL
        version := if version = "" then "v1.0" else version
        policies := resolvedAPIPolicies
        upstreamDefinitions := sortedDefinitions state.defsByName
        vhosts := vhostsField vhostMain vhostList }

end ApiPlatform.Operator
