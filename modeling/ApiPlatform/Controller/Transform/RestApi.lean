import ApiPlatform.Controller.PolicyVersion
import ApiPlatform.Controller.StoredConfig
import ApiPlatform.Controller.Xds.RouteName

/-!
# The REST API transformer

`pkg/transform/restapi.go`: a stored REST API becomes a runtime deploy
configuration, with one route and one policy chain for every operation on every
virtual host.
-/

namespace ApiPlatform.Controller.Transform

open Foundation
open Controller.Api
open Controller.Xds

/-- A parsed URL; `host` includes the port when the URL names one. -/
structure URL where
  scheme : String
  host : String
  hostname : String
  port : String
  path : String
  deriving DecidableEq

structure Library where
  parseURL : String → Except String URL
  parseDuration : String → Except String Duration
  formatDuration : Duration → String
  quote : String → String
  /-- The hexadecimal form of the first eight bytes of the SHA-256 sum. -/
  digest : String → String

structure RouterConfig where
  mainVhostDefault : String
  sandboxVhostDefault : String
  deriving DecidableEq

structure SystemConfig where
  analyticsEnabled : Bool
  trafficLoggingEnabled : Bool
  requestBody : Bool
  responseBody : Bool
  requestHeaders : Bool
  responseHeaders : Bool
  deriving DecidableEq

structure RestAPITransformer where
  library : Library
  routerConfig : RouterConfig
  systemConfig : Option SystemConfig
  policyDefinitions : List PolicyDefinition

/-! ## Project and virtual hosts -/

def extractProjectID (cfg : StoredConfig) : String :=
  match cfg.getAnnotations.bind (·.lookup "gateway.api-platform.wso2.com/project-id") with
  | some projectID => projectID
  | none =>
    match cfg.getLabels.bind (·.lookup "project-id") with
    | some projectID => projectID
    | none => ""

def splitVhosts (raw : String) : List String :=
  (split ';' raw).foldl (fun out part =>
    let vhost := trimSpace part
    if vhost = "" ∨ vhost ∈ out then out else out ++ [vhost]) []

def mainVhosts (router : RouterConfig) (apiData : APIConfigData) : List String :=
  match apiData.vhosts with
  | none => [router.mainVhostDefault]
  | some vhosts =>
    match splitVhosts vhosts.main with
    | [] => [router.mainVhostDefault]
    | parsed => parsed

def effectiveSandboxVhost (router : RouterConfig) (apiData : APIConfigData) : String :=
  match apiData.vhosts.bind (·.sandbox) with
  | none => router.sandboxVhostDefault
  | some vhost => if trimSpace vhost = "" then router.sandboxVhostDefault else vhost

def isPresent (text : Option String) : Bool :=
  match text with
  | some value => trimSpace value != ""
  | none => false

def hasSandbox (apiData : APIConfigData) : Bool :=
  match apiData.upstreamSandbox with
  | some sandbox => isPresent sandbox.url || isPresent sandbox.ref
  | none => false

def useClusterHeader (apiData : APIConfigData) : Bool :=
  !apiData.upstreamDefinitions.isEmpty || hasSandbox apiData

def routeVhosts (router : RouterConfig) (apiData : APIConfigData) : List String :=
  mainVhosts router apiData ++
    if hasSandbox apiData then [effectiveSandboxVhost router apiData] else []

/-! ## Upstreams -/

def resolvePort (url : URL) : Nat :=
  match if url.port = "" then none else atoi url.port with
  | some port => port.toNat
  | none => if url.scheme = "https" then 443 else 80

def sanitizeUpstreamDefinitionName (name : String) : String :=
  replaceAll (replaceAll name "." "_") ":" "_"

def sanitizeEnvoyClusterName (host scheme : String) : String :=
  "cluster_" ++ scheme ++ "_" ++ replaceAll (replaceAll host "." "_") ":" "_"

def resolveUpstreamURL (name : String) (upstream : Upstream)
    (definitions : List UpstreamDefinition) : Except String (String × Option String) :=
  if isPresent upstream.url then .ok (trimSpace (upstream.url.getD ""), none)
  else if isPresent upstream.ref then
    let refName := trimSpace (upstream.ref.getD "")
    if definitions.isEmpty then
      .error ("upstream definition '" ++ refName ++ "' referenced but no definitions provided")
    else
    match definitions.find? (·.name == refName) with
    | none => .error ("upstream definition '" ++ refName ++ "' not found")
    | some definition =>
      match definition.upstreams with
      | [] => .error ("upstream definition '" ++ refName ++ "' has no URLs")
      | first :: _ =>
        if first.url = "" then
          .error ("upstream definition '" ++ refName ++ "' has no URLs")
        else .ok (first.url, some (definition.basePath.getD ""))
  else .error (name ++ " upstream has no URL or ref")

def lookupUpstreamDefinition (ref : String) (definitions : List UpstreamDefinition) :
    Option UpstreamDefinition :=
  definitions.find? fun definition => trimSpace definition.name == trimSpace ref

/-- A timeout, if one is given, with the texts of its two errors. -/
def parsePositiveDuration (library : Library) (invalid : String → String) (notPositive : String)
    (timeout : Option String) : Except String (Option Duration) :=
  match timeout with
  | none => .ok none
  | some text =>
    let trimmed := trimSpace text
    if trimmed = "" then .ok none
    else
      match library.parseDuration trimmed with
      | .error message => .error (invalid trimmed ++ message)
      | .ok duration =>
        if duration ≤ 0 then .error (notPositive ++ library.formatDuration duration)
        else .ok (some duration)

def definitionConnectTimeout (library : Library) (definition : Option UpstreamDefinition) :
    Except String (Option Duration) :=
  parsePositiveDuration library
    (fun text => "invalid connect timeout " ++ library.quote text ++ ": ")
    "connect timeout must be positive, got " (definition.bind (·.connectTimeout))

def parseBackendURL (library : Library) (unparsable incomplete rawURL : String) :
    Except String URL := do
  let parsedURL ← (library.parseURL rawURL).mapError (unparsable ++ ·)
  if parsedURL.host = "" ∨ (parsedURL.scheme ≠ "http" ∧ parsedURL.scheme ≠ "https") then
    throw (incomplete ++ "must include host and http/https scheme")
  else pure parsedURL

/-- A resolved upstream with the cluster that is registered under its key. -/
structure UpstreamClusterResult where
  clusterKey : String
  envoyClusterName : String
  basePath : String
  url : String
  cluster : UpstreamCluster
  deriving DecidableEq

def UpstreamClusterResult.upstreamInfo (result : UpstreamClusterResult) : UpstreamInfo :=
  { clusterName := result.envoyClusterName, url := result.url, basePath := result.basePath }

def addUpstreamCluster (library : Library) (upstreamName : String) (upstream : Upstream)
    (definitions : List UpstreamDefinition) : Except String UpstreamClusterResult := do
  let (rawURL, refBasePath) ← resolveUpstreamURL upstreamName upstream definitions
  let invalid := "invalid " ++ upstreamName ++ " upstream URL: "
  let parsedURL ← parseBackendURL library invalid invalid rawURL
  let port := resolvePort parsedURL
  let givenPath := refBasePath.getD parsedURL.path
  let basePath := if givenPath = "" then "/" else givenPath
  let connectTimeout ←
    if isPresent upstream.ref then
      (definitionConnectTimeout library
        (lookupUpstreamDefinition (upstream.ref.getD "") definitions)).mapError
          ((upstreamName ++ " upstream: ") ++ ·)
    else pure none
  pure
    { clusterKey := "upstream_" ++ upstreamName ++ "_" ++ parsedURL.hostname ++ "_" ++ toString port
      envoyClusterName := sanitizeEnvoyClusterName parsedURL.host parsedURL.scheme
      basePath := basePath
      url := parsedURL.scheme ++ "://" ++ parsedURL.host
      cluster :=
        { name := ""
          basePath := basePath
          endpoints := [{ host := parsedURL.hostname, port := port, weight := none }]
          tlsEnabled := parsedURL.scheme == "https"
          connectTimeout := connectTimeout } }

/-! ## Upstream definitions -/

def definitionEndpoint (library : Library) (definitionName : String) (target : UpstreamTarget) :
    Except String (Endpoint × Bool) := do
  let parsedURL ← (library.parseURL target.url).mapError
    (("invalid URL in upstream definition '" ++ definitionName ++ "': ") ++ ·)
  pure ({ host := parsedURL.hostname, port := resolvePort parsedURL, weight := target.weight },
    parsedURL.scheme == "https")

def addUpstreamDefinition (library : Library) (cfg : StoredConfig)
    (clusters : GoMap String UpstreamCluster) (definition : UpstreamDefinition) :
    Except String (GoMap String UpstreamCluster) :=
  match definition.upstreams with
  | [] => .ok clusters
  | first :: _ =>
    if first.url = "" then .ok clusters
    else do
      let clusterKey := "upstream_" ++ cfg.kind ++ "_" ++ cfg.uuid ++ "_" ++
        sanitizeUpstreamDefinitionName definition.name
      let basePath := if definition.basePath.getD "" = "" then "/" else definition.basePath.getD ""
      let connectTimeout ← (definitionConnectTimeout library (some definition)).mapError
        (("upstream definition '" ++ definition.name ++ "': ") ++ ·)
      let targets ← definition.upstreams.mapM (definitionEndpoint library definition.name)
      let tlsExists := targets.any (·.2)
      let plaintextExists := targets.any (!·.2)
      if tlsExists && plaintextExists then
        throw ("upstream definition '" ++ definition.name ++
          "' mixes https and non-https endpoints; " ++
          "all endpoints in a definition must use the same scheme")
      pure (clusters.insert clusterKey
        { name := definition.name
          basePath := basePath
          endpoints := targets.map (·.1)
          tlsEnabled := tlsExists
          connectTimeout := connectTimeout })

/-! ## Policy chains -/

def convertAPIPolicyToSDK (policy : Api.Policy) (attachedTo resolvedVersion : String) : Policy :=
  { name := policy.name
    version := resolvedVersion
    params := if attachedTo = "" then policy.params
      else policy.params.insert "attachedTo" (.text attachedTo)
    executionCondition := policy.executionCondition }

namespace RestAPITransformer

def resolveVersion (t : RestAPITransformer) (policy : Api.Policy) : Except String String :=
  resolvePolicyVersion t.policyDefinitions (buildLatestVersionIndex t.policyDefinitions)
    policy.name policy.version

def collectAPIPolicies (t : RestAPITransformer) (policies : List Api.Policy) :
    GoMap String Policy :=
  policies.foldl (fun result policy =>
    match t.resolveVersion policy with
    | .error _ => result
    | .ok resolved =>
      result.insert policy.name (convertAPIPolicyToSDK policy "api" (majorVersion resolved))) ∅

def buildPolicyChain (t : RestAPITransformer) (apiPolicies : GoMap String Policy)
    (specPolicies opPolicies : List Api.Policy) : List Policy :=
  (specPolicies.filterMap fun policy => apiPolicies.lookup policy.name) ++
    opPolicies.filterMap fun policy =>
      match t.resolveVersion policy with
      | .error _ => none
      | .ok resolved => some (convertAPIPolicyToSDK policy "route" (majorVersion resolved))

end RestAPITransformer

def analyticsSystemPolicyName : String :=
  "wso2_apip_sys_analytics"

def boolParam (value : Bool) : ParamValue :=
  .json (if value then "true" else "false")

/-- The collector is the only system policy; no route gives it further parameters. -/
def injectSystemPolicies (policies : List Policy) (config : Option SystemConfig) : List Policy :=
  match config with
  | none => policies
  | some config =>
    if config.analyticsEnabled || config.trafficLoggingEnabled then
      { name := analyticsSystemPolicyName
        version := "v1"
        params := insertAll ∅
          [("request_body", boolParam config.requestBody),
           ("response_body", boolParam config.responseBody),
           ("request_headers", boolParam config.requestHeaders),
           ("response_headers", boolParam config.responseHeaders)]
        executionCondition := none } :: policies
    else policies

/-! ## Routes -/

def routeHeaderMatches (operation : Operation) : List RouteHeaderMatch :=
  operation.effectiveHeaders.map fun header =>
    { name := header.name, value := header.value, type := header.type.getD "Exact" }

def buildRouteTimeout (opTimeout apiTimeout opIdle apiIdle : Option Duration) :
    Option RouteTimeout :=
  match opTimeout.or apiTimeout, opIdle.or apiIdle with
  | none, none => none
  | timeout, idle => some { timeout := timeout, idleTimeout := idle }

def autoHostRewrite (upstream : Upstream) : Bool :=
  upstream.hostRewrite != some "manual"

structure RouteTables where
  routes : GoMap String Route
  policyChains : GoMap String PolicyChain
  deriving DecidableEq

namespace RestAPITransformer

variable (t : RestAPITransformer) (apiData : APIConfigData)

def routeKey (operation : Operation) (vhost : String) : String :=
  generateRouteNameWithDiscriminator operation.effectiveMethod apiData.context apiData.version
    operation.effectivePath vhost
    (headerMatchDiscriminator t.library.digest (routeHeaderMatches operation))

def routeKeys : List String :=
  apiData.operations.flatMap fun operation =>
    (routeVhosts t.routerConfig apiData).map (t.routeKey apiData operation)

def mainRoute (mainUpstream : UpstreamClusterResult) (operation : Operation) (order : Nat)
    (timeout : Option RouteTimeout) (vhost : String) : Route :=
  { method := operation.effectiveMethod
    path := constructFullPath apiData.context apiData.version operation.effectivePath
    operationPath := operation.effectivePath
    pathMatchType := operation.effectivePathMatchType
    matchHeaders := routeHeaderMatches operation
    vhost := vhost
    autoHostRewrite := Transform.autoHostRewrite apiData.upstreamMain
    timeout := timeout
    upstream :=
      { clusterKey := mainUpstream.clusterKey
        useClusterHeader := useClusterHeader apiData
        defaultCluster := if useClusterHeader apiData then mainUpstream.clusterKey else ""
        default := some mainUpstream.upstreamInfo }
    order := order }

def operationChain (operation : Operation) : PolicyChain :=
  { policies := injectSystemPolicies
      (t.buildPolicyChain (t.collectAPIPolicies apiData.policies) apiData.policies
        operation.policies) t.systemConfig }

def addRoute (mainUpstream : UpstreamClusterResult) (operation : Operation) (order : Nat)
    (timeout : Option RouteTimeout) (tables : RouteTables) (vhost : String) : RouteTables :=
  let key := t.routeKey apiData operation vhost
  { routes := tables.routes.insert key
      (mainRoute apiData mainUpstream operation order timeout vhost)
    policyChains := tables.policyChains.insert key (t.operationChain apiData operation) }

def addOperation (mainUpstream : UpstreamClusterResult)
    (apiTimeouts : Option Duration × Option Duration) (tables : RouteTables)
    (job : Operation × Nat) : Except String RouteTables := do
  let operation := job.1
  let (opTimeout, opIdleTimeout) ←
    (resolveResilience t.library.parseDuration t.library.quote operation.resilience).mapError
      (("invalid resilience for operation " ++ operation.effectiveMethod ++ " " ++
        operation.effectivePath ++ ": ") ++ ·)
  let timeout := buildRouteTimeout opTimeout apiTimeouts.1 opIdleTimeout apiTimeouts.2
  pure ((routeVhosts t.routerConfig apiData).foldl
    (t.addRoute apiData mainUpstream operation job.2 timeout) tables)

def repointed (sandbox : Upstream) (sandboxUpstream : UpstreamClusterResult) (route : Route) :
    Route :=
  { route with
    autoHostRewrite := Transform.autoHostRewrite sandbox
    upstream :=
      { clusterKey := sandboxUpstream.clusterKey
        useClusterHeader := useClusterHeader apiData
        defaultCluster := if useClusterHeader apiData then sandboxUpstream.clusterKey else ""
        default := some sandboxUpstream.upstreamInfo } }

/-- The route of an operation on the sandbox host is re-pointed to the sandbox cluster. -/
def patchSandboxRoute (sandbox : Upstream) (sandboxUpstream : UpstreamClusterResult)
    (routes : GoMap String Route) (operation : Operation) : GoMap String Route :=
  let key := t.routeKey apiData operation (effectiveSandboxVhost t.routerConfig apiData)
  match routes.lookup key with
  | none => routes
  | some route => routes.insert key (repointed apiData sandbox sandboxUpstream route)

/-- The sandbox upstream and the routes that are re-pointed to it. -/
def addSandbox (clusters : GoMap String UpstreamCluster) (routes : GoMap String Route) :
    Except String (GoMap String UpstreamCluster × GoMap String Route) :=
  match apiData.upstreamSandbox with
  | none => .ok (clusters, routes)
  | some sandbox =>
    if !hasSandbox apiData then .ok (clusters, routes)
    else do
      let sandboxUpstream ←
        (addUpstreamCluster t.library "sandbox" sandbox apiData.upstreamDefinitions).mapError
          ("failed to resolve sandbox upstream: " ++ ·)
      pure (clusters.insert sandboxUpstream.clusterKey sandboxUpstream.cluster,
        apiData.operations.foldl (t.patchSandboxRoute apiData sandbox sandboxUpstream) routes)

end RestAPITransformer

/-! ## The transformation -/

namespace RestAPITransformer

def sandboxConflictMessage (t : RestAPITransformer) (vhost : String) : String :=
  "sandbox upstream is configured but resolves to the same vhost " ++ t.library.quote vhost ++
    " as a main upstream; configure distinct vhosts to avoid route conflicts"

def transformSpec (t : RestAPITransformer) (cfg : StoredConfig) (apiData : APIConfigData) :
    Except String RuntimeDeployConfig := do
  let mainUpstream ←
    (addUpstreamCluster t.library "main" apiData.upstreamMain
      apiData.upstreamDefinitions).mapError ("failed to resolve main upstream: " ++ ·)
  let sandboxVhost := effectiveSandboxVhost t.routerConfig apiData
  if hasSandbox apiData ∧ sandboxVhost ∈ mainVhosts t.routerConfig apiData then
    throw (t.sandboxConflictMessage sandboxVhost)
  let apiTimeouts ←
    (resolveResilience t.library.parseDuration t.library.quote apiData.resilience).mapError
      ("invalid API-level resilience: " ++ ·)
  let tables ← apiData.operations.zipIdx.foldlM (t.addOperation apiData mainUpstream apiTimeouts)
    ⟨∅, ∅⟩
  let clusters ← apiData.upstreamDefinitions.foldlM (addUpstreamDefinition t.library cfg)
    ((∅ : GoMap String UpstreamCluster).insert mainUpstream.clusterKey mainUpstream.cluster)
  let (clusters, routes) ← t.addSandbox apiData clusters tables.routes
  pure
    { metadata :=
        { uuid := cfg.uuid
          kind := cfg.kind
          handle := cfg.handle
          version := apiData.version
          displayName := apiData.displayName
          projectID := extractProjectID cfg
          llm := none }
      context := replaceAll apiData.context "$version" apiData.version
      policyChainResolver := "route-key"
      routes := routes
      policyChains := tables.policyChains
      upstreamClusters := clusters
      sensitiveValues := cfg.sensitiveValues }

def transform (t : RestAPITransformer) (cfg : StoredConfig) : Except String RuntimeDeployConfig :=
  match cfg.configuration with
  | .restAPI api => t.transformSpec cfg api.spec
  | _ => .error "configuration is not a RestAPI"

end RestAPITransformer

end ApiPlatform.Controller.Transform
