import ApiPlatform.Controller.Transform.Registry
import ApiPlatform.Controller.Xds.RouteSorter

/-!
# The Envoy snapshot

`TranslateConfigs` and `translateRuntimeConfig` of `pkg/xds/translator.go`: the
deployed configurations become routes, grouped by virtual host and sorted by
priority, and clusters.  Undeployed configurations are left out.
-/

namespace ApiPlatform.Controller.Xds

open Foundation
open Controller.Api
open Controller.Transform

variable {rdc : RuntimeDeployConfig} {route : EnvoyRoute} {cfg : StoredConfig}
  {iteration : MapIteration String} {configs : List StoredConfig}

structure VHostEntry where
  default : String
  domains : List String
  deriving DecidableEq

structure SnapshotConfig extends TranslatorConfig where
  connectTimeoutMs : Nat
  mainVhost : VHostEntry
  sandboxVhost : VHostEntry
  deriving DecidableEq

structure EnvoyCluster where
  name : String
  endpoints : List Endpoint
  tlsEnabled : Bool
  connectTimeout : Duration
  deriving DecidableEq

structure VirtualHost where
  name : String
  domains : List String
  routes : List EnvoyRoute
  deriving DecidableEq

structure EnvoySnapshot where
  virtualHosts : List VirtualHost
  clusters : GoMap String EnvoyCluster
  deriving DecidableEq

/-- The translation that does not go through a runtime configuration: the routes that it builds
for one operation, and whether the durations of the resilience settings can be read. -/
structure LegacyPath where
  validate : StoredConfig → Except String Unit
  createRoute : StoredConfig → Api.Operation → EnvoyRoute
  createSandboxRoute : StoredConfig → Api.Operation → EnvoyRoute

structure Translator where
  config : SnapshotConfig
  registry : Registry
  legacy : LegacyPath

/-! ## One runtime configuration -/

def effectiveConnectTimeout (config : SnapshotConfig) (connectTimeout : Option Duration) :
    Duration :=
  match connectTimeout with
  | some timeout => timeout
  | none => if config.connectTimeoutMs = 0 then 5000000000 else config.connectTimeoutMs * 1000000

/-- The endpoint of a cluster with one upstream; its weight plays no role. -/
def processEndpoint (tlsEnabled : Bool) (endpoint : Endpoint) : Endpoint :=
  { host := endpoint.host
    port := if endpoint.port < 2 ^ 32 then endpoint.port else if tlsEnabled then 443 else 80
    weight := none }

def weightedEndpoint (endpoint : Endpoint) : Endpoint :=
  { host := endpoint.host
    port := endpoint.port % 2 ^ 32
    weight := (endpoint.weight.filter (0 < ·)).map (· % 2 ^ 32) }

def createClusterFromRDC (config : SnapshotConfig) (name : String) (upstream : UpstreamCluster) :
    Option EnvoyCluster :=
  match upstream.endpoints with
  | [] => none
  | [endpoint] => some
      { name := name
        endpoints := [processEndpoint upstream.tlsEnabled endpoint]
        tlsEnabled := upstream.tlsEnabled
        connectTimeout := effectiveConnectTimeout config upstream.connectTimeout }
  | endpoints => some
      { name := name
        endpoints := endpoints.map weightedEndpoint
        tlsEnabled := upstream.tlsEnabled
        connectTimeout := effectiveConnectTimeout config upstream.connectTimeout }

/-- The routes in ascending order of the operation, then of the route key. -/
def RouteNotAfter (rdc : RuntimeDeployConfig) (left right : String) : Prop :=
  let order := fun key => (rdc.routes.lookup key).map (·.order)
  if order left ≠ order right then (order left).getD 0 ≤ (order right).getD 0 else left ≤ right

instance (rdc : RuntimeDeployConfig) : DecidableRel (RouteNotAfter rdc) := fun left right => by
  unfold RouteNotAfter
  infer_instance

def runtimeRoutes (config : SnapshotConfig) (rdc : RuntimeDeployConfig) : List EnvoyRoute :=
  (rdc.routes.keys.insertionSort (RouteNotAfter rdc)).filterMap fun key =>
    (rdc.routes.lookup key).map fun route =>
      createRouteFromRDC config.toTranslatorConfig key route rdc

def runtimeClusters (config : SnapshotConfig) (order : List String → List String)
    (rdc : RuntimeDeployConfig) : List EnvoyCluster :=
  (order rdc.upstreamClusters.keys).filterMap fun key =>
    (rdc.upstreamClusters.lookup key).bind (createClusterFromRDC config key)

/-! ## Clusters of the legacy path -/

def parseTimeout (library : Library) (timeout : Option String) :
    Except String (Option Duration) :=
  parsePositiveDuration library (fun _ => "invalid timeout format: ")
    "timeout must be positive, got: " timeout

def createCluster (config : SnapshotConfig) (name : String) (url : URL)
    (connectTimeout : Option Duration) : EnvoyCluster :=
  { name := name
    endpoints := [processEndpoint (url.scheme == "https")
      { host := url.hostname, port := resolvePort url, weight := none }]
    tlsEnabled := url.scheme == "https"
    connectTimeout := effectiveConnectTimeout config connectTimeout }

def resolveLegacyURL (upstreamName : String) (upstream : Upstream)
    (definitions : List UpstreamDefinition) :
    Except String (String × Option UpstreamDefinition) :=
  if isPresent upstream.url then .ok (trimSpace (upstream.url.getD ""), none)
  else if isPresent upstream.ref then
    let refName := trimSpace (upstream.ref.getD "")
    match definitions.find? (·.name == refName) with
    | none =>
      .error ("failed to resolve " ++ upstreamName ++ " upstream ref: upstream definition '" ++
        refName ++ "' not found" ++
          if definitions.isEmpty then ": no definitions provided" else "")
    | some definition =>
      match definition.upstreams with
      | [] => .error ("upstream definition '" ++ refName ++ "' has no URLs configured")
      | first :: _ =>
        if first.url = "" then
          .error ("upstream definition '" ++ refName ++ "' has no URLs configured")
        else .ok (first.url, some definition)
  else .error ("no " ++ upstreamName ++ " upstream configured")

def resolveUpstreamCluster (library : Library) (config : SnapshotConfig) (upstreamName : String)
    (upstream : Upstream) (definitions : List UpstreamDefinition) :
    Except String EnvoyCluster := do
  let (rawURL, definition) ← resolveLegacyURL upstreamName upstream definitions
  let timeout ← (parseTimeout library (definition.bind (·.connectTimeout))).mapError
    (("invalid timeout in upstream definition '" ++ trimSpace (upstream.ref.getD "") ++ "': ") ++ ·)
  let invalid := "invalid " ++ upstreamName ++ " upstream URL: "
  let parsedURL ← parseBackendURL library invalid invalid rawURL
  pure (createCluster config (sanitizeEnvoyClusterName parsedURL.host parsedURL.scheme) parsedURL
    timeout)

def definitionClusterName (cfg : StoredConfig) (definition : UpstreamDefinition) : String :=
  "upstream_" ++ cfg.kind ++ "_" ++ cfg.uuid ++ "_" ++
    sanitizeUpstreamDefinitionName definition.name

def definitionCluster (library : Library) (config : SnapshotConfig) (cfg : StoredConfig)
    (definition : UpstreamDefinition) : Except String EnvoyCluster := do
  let rawURL := (definition.upstreams.head?.map (·.url)).getD ""
  if rawURL = "" then
    throw ("upstream definition '" ++ definition.name ++ "' has no URLs configured")
  let parsedURL ← parseBackendURL library
    ("invalid URL in upstream definition '" ++ definition.name ++ "': ")
    ("invalid upstream definition '" ++ definition.name ++ "' URL: ") rawURL
  let timeout ← (parseTimeout library definition.connectTimeout).mapError
    (("invalid timeout in upstream definition '" ++ definition.name ++ "': ") ++ ·)
  pure (createCluster config (definitionClusterName cfg definition) parsedURL timeout)

def legacySlotClusters (library : Library) (config : SnapshotConfig) (apiData : APIConfigData) :
    Except String (List EnvoyCluster) := do
  let mainCluster ← resolveUpstreamCluster library config "main" apiData.upstreamMain
    apiData.upstreamDefinitions
  match apiData.upstreamSandbox with
  | none => pure [mainCluster]
  | some sandbox => do
    let sandboxCluster ← resolveUpstreamCluster library config "sandbox" sandbox
      apiData.upstreamDefinitions
    pure [mainCluster, sandboxCluster]

/-- The clusters of `translateAPIConfig`: main, sandbox and upstream definitions. -/
def legacyClusters (library : Library) (config : SnapshotConfig) (cfg : StoredConfig)
    (apiData : APIConfigData) : Except String (List EnvoyCluster) := do
  let clusters ← legacySlotClusters library config apiData
  apiData.upstreamDefinitions.foldlM (fun clusters definition => do
    let cluster ← definitionCluster library config cfg definition
    pure (clusters ++ [cluster])) clusters

/-! ## One stored configuration -/

/-- The kinds whose routes are built from a runtime configuration. -/
def runtimeKinds : List String :=
  ["RestApi", "Mcp", "LlmProvider", "LlmProxy"]

def translateAPIConfig (t : Translator) (cfg : StoredConfig) :
    Except String (List EnvoyRoute × List EnvoyCluster) :=
  match cfg.configuration with
  | .restAPI api => do
    t.legacy.validate cfg
    let clusters ← legacyClusters t.registry.restT.library t.config cfg api.spec
    let sandboxRoutes :=
      if api.spec.upstreamSandbox.isSome then
        api.spec.operations.map (t.legacy.createSandboxRoute cfg)
      else []
    pure (api.spec.operations.map (t.legacy.createRoute cfg) ++ sandboxRoutes, clusters)
  | _ => .error "configuration is not a RestAPI"

/-- Support for event APIs is not compiled into the gateway controller. -/
def translateLegacy (t : Translator) (cfg : StoredConfig) :
    Except String (List EnvoyRoute × List EnvoyCluster) :=
  if cfg.kind = "WebSubApi" then
    .error "WebSubApi configured but event-gateway support is not compiled into this binary"
  else translateAPIConfig t cfg

namespace Translator

variable (t : Translator)

/-- The runtime path yields no routes when it fails or when the API has no operation. -/
def runtimePath (order : List String → List String) (cfg : StoredConfig) :
    List EnvoyRoute × List EnvoyCluster :=
  if cfg.kind ∈ runtimeKinds then
    match t.registry.transform cfg with
    | .ok rdc => (runtimeRoutes t.config rdc, runtimeClusters t.config order rdc)
    | .error _ => ([], [])
  else ([], [])

/-- The routes and clusters of one configuration; one that fails contributes none. -/
def translateConfig (order : List String → List String) (cfg : StoredConfig) :
    List EnvoyRoute × List EnvoyCluster :=
  let (routes, clusters) := t.runtimePath order cfg
  if routes ≠ [] then (routes, clusters)
  else
    match translateLegacy t cfg with
    | .ok translated => translated
    | .error _ => ([], [])

end Translator

/-! ## Virtual hosts -/

def routeVhost (route : EnvoyRoute) : Option String :=
  (split '|' route.name)[2]?

def addToVhost (vhostMap : GoMap String (List EnvoyRoute)) (route : EnvoyRoute) :
    GoMap String (List EnvoyRoute) :=
  match routeVhost route with
  | none => vhostMap
  | some vhost => vhostMap.insert vhost ((vhostMap.lookup vhost).getD [] ++ [route])

def groupByVhost (routes : List EnvoyRoute) : GoMap String (List EnvoyRoute) :=
  routes.foldl addToVhost ((∅ : GoMap String (List EnvoyRoute)).insert "*" [])

def appendDomainPatterns (out : List String) (domain : String) : List String :=
  let domain := trimSpace domain
  if domain = "" then out
  else if contains domain ":" then out ++ [domain]
  else out ++ [domain, domain ++ ":*"]

def getVHostDomains (config : SnapshotConfig) (vhost : String) : List String :=
  let mainDomains := config.mainVhost.domains.foldl appendDomainPatterns []
  let sandboxDomains := config.sandboxVhost.domains.foldl appendDomainPatterns []
  if vhost = config.mainVhost.default ∧ mainDomains ≠ [] then mainDomains
  else if vhost = config.sandboxVhost.default ∧ sandboxDomains ≠ [] then sandboxDomains
  else appendDomainPatterns [] vhost

def noAPIFound : EnvoyRoute :=
  { name := "no-api-found"
    routeMatch := { pathSpecifier := .pathPrefix "/", headers := [], queryParameters := [] }
    action := .directResponse 404 "\x7b\"error\":\"Not Found\"\x7d"
    requestHeadersToRemove := [] }

def virtualHost (config : SnapshotConfig) (vhost : String) (routes : List EnvoyRoute) :
    VirtualHost :=
  { name := vhost
    domains := getVHostDomains config vhost
    routes := sortRoutesByPriority routes ++ [noAPIFound] }

/-- `configs` is the content of the store in the order in which it is visited. -/
def Translator.translateConfigs (t : Translator) (iteration : MapIteration String)
    (configs : List StoredConfig) : EnvoySnapshot :=
  let live := configs.filter (·.desiredState ≠ .undeployed)
  let translated := live.zipIdx.map fun job =>
    t.translateConfig (iteration.order (job.2 + 1)) job.1
  let vhostMap := groupByVhost (translated.flatMap (·.1))
  { virtualHosts := (iteration.order 0 vhostMap.keys).filterMap fun vhost =>
      (vhostMap.lookup vhost).map (virtualHost t.config vhost)
    clusters := insertAll ∅
      ((translated.flatMap (·.2)).map fun cluster => (cluster.name, cluster)) }

/-! ## The routes of one configuration -/

theorem mem_runtimeRoutes {config : SnapshotConfig} :
    route ∈ runtimeRoutes config rdc ↔
      ∃ key rdcRoute, rdc.routes.lookup key = some rdcRoute ∧
        createRouteFromRDC config.toTranslatorConfig key rdcRoute rdc = route := by
  rw [runtimeRoutes, List.mem_filterMap]
  constructor
  · rintro ⟨key, -, hkey⟩
    obtain ⟨rdcRoute, hlookup, hroute⟩ := Option.map_eq_some_iff.mp hkey
    exact ⟨key, rdcRoute, hlookup, hroute⟩
  · rintro ⟨key, rdcRoute, hlookup, hroute⟩
    have hkey : key ∈ rdc.routes.keys :=
      AList.mem_keys.mp (AList.lookup_isSome.mp (Option.isSome_of_eq_some hlookup))
    refine ⟨key, (List.mem_insertionSort _).mpr hkey, ?_⟩
    rw [hlookup, Option.map_some, hroute]

theorem operations_eq_nil_of_routeKeys {t : RestAPITransformer} {apiData : Api.APIConfigData}
    (hkeys : t.routeKeys apiData = []) : apiData.operations = [] := by
  cases hoperations : apiData.operations with
  | nil => rfl
  | cons operation rest =>
    have hvhosts := mainVhosts_ne_nil t.routerConfig apiData
    simp [RestAPITransformer.routeKeys, routeVhosts, hoperations, hvhosts] at hkeys

theorem mem_runtimeKinds_of_transform {registry : Registry}
    (htransform : registry.transform cfg = .ok rdc) (hkind : cfg.kind ≠ "WebSubApi") :
    cfg.kind ∈ runtimeKinds := by
  unfold Registry.transform at htransform
  split at htransform
  · rename_i hrest
    simp only [List.mem_cons, List.not_mem_nil, or_false, hkind, false_or] at hrest
    rcases hrest with heq | heq <;> simp [runtimeKinds, heq]
  · split at htransform
    · rename_i hllm
      simp only [List.mem_cons, List.not_mem_nil, or_false] at hllm
      rcases hllm with heq | heq <;> simp [runtimeKinds, heq]
    · cases htransform

theorem translateLegacy_routes {t : Translator} {translated : List EnvoyRoute × List EnvoyCluster}
    (htransform : t.registry.transform cfg = .ok rdc)
    (hempty : cfg.kind ∈ runtimeKinds → t.registry.routeKeys cfg = [])
    (hlegacy : translateLegacy t cfg = .ok translated) : translated.1 = [] := by
  unfold translateLegacy at hlegacy
  split at hlegacy
  · cases hlegacy
  rename_i hkind
  have hkeys := hempty (mem_runtimeKinds_of_transform htransform hkind)
  unfold translateAPIConfig at hlegacy
  split at hlegacy
  · rename_i api hconfiguration
    have hoperations : api.spec.operations = [] := by
      unfold Registry.routeKeys at hkeys
      split at hkeys
      · simp only [LLMTransformer.restAPI, hconfiguration] at hkeys
        exact operations_eq_nil_of_routeKeys hkeys
      · simp only [hconfiguration] at hkeys
        exact operations_eq_nil_of_routeKeys hkeys
    obtain ⟨⟨⟩, -, hlegacy⟩ := bind_eq_ok.mp hlegacy
    obtain ⟨clusters, -, hlegacy⟩ := bind_eq_ok.mp hlegacy
    simp [← Except.ok.inj hlegacy, hoperations]
  · cases hlegacy

theorem mem_translateConfig {t : Translator} {order : List String → List String}
    (htransform : t.registry.transform cfg = .ok rdc) :
    route ∈ (t.translateConfig order cfg).1 ↔
      cfg.kind ∈ runtimeKinds ∧ route ∈ runtimeRoutes t.config rdc := by
  have htransformed := Registry.transform_ok htransform
  by_cases hroutes : cfg.kind ∈ runtimeKinds ∧ runtimeRoutes t.config rdc ≠ []
  · simp [Translator.translateConfig, Translator.runtimePath, htransform, hroutes]
  · have hempty : (t.runtimePath order cfg).1 = [] := by
      by_cases hkind : cfg.kind ∈ runtimeKinds
      · simpa [Translator.runtimePath, htransform, hkind] using hroutes
      · simp [Translator.runtimePath, hkind]
    have hnone : ¬ (cfg.kind ∈ runtimeKinds ∧ route ∈ runtimeRoutes t.config rdc) := by
      rintro ⟨hkind, hroute⟩
      exact hroutes ⟨hkind, List.ne_nil_of_mem hroute⟩
    have hkeys : cfg.kind ∈ runtimeKinds → t.registry.routeKeys cfg = [] := by
      intro hkind
      rw [List.eq_nil_iff_forall_not_mem]
      intro key hkey
      obtain ⟨rdcRoute, hlookup⟩ := Option.isSome_iff_exists.mp
        (AList.lookup_isSome.mpr ((htransformed.mem_routes key).mpr hkey))
      exact hroutes ⟨hkind, List.ne_nil_of_mem
        (mem_runtimeRoutes.mpr ⟨key, rdcRoute, hlookup, rfl⟩)⟩
    simp only [Translator.translateConfig, hempty, ne_eq, not_true_eq_false, if_false, hnone,
      iff_false]
    split
    · rename_i translated hlegacy
      rw [translateLegacy_routes htransform hkeys hlegacy]
      exact List.not_mem_nil
    · exact List.not_mem_nil

/-! ## The routes of the snapshot -/

def IsGrouped (vhostMap : GoMap String (List EnvoyRoute)) (route : EnvoyRoute) : Prop :=
  ∃ vhost routes, vhostMap.lookup vhost = some routes ∧ route ∈ routes

theorem isGrouped_addToVhost {vhostMap : GoMap String (List EnvoyRoute)} {added : EnvoyRoute} :
    IsGrouped (addToVhost vhostMap added) route ↔
      IsGrouped vhostMap route ∨ (route = added ∧ (routeVhost added).isSome) := by
  unfold addToVhost
  cases hvhost : routeVhost added with
  | none => simp
  | some vhost =>
    constructor
    · rintro ⟨other, routes, hlookup, hroute⟩
      rcases lookup_insert_eq_some_iff.mp hlookup with ⟨rfl, rfl⟩ | ⟨-, hlookup⟩
      · rw [List.mem_append, List.mem_singleton] at hroute
        rcases hroute with hroute | hroute
        · cases hprevious : vhostMap.lookup other with
          | none => simp [hprevious] at hroute
          | some previous =>
            exact Or.inl ⟨other, previous, hprevious, by simpa [hprevious] using hroute⟩
        · exact Or.inr ⟨hroute, rfl⟩
      · exact Or.inl ⟨other, routes, hlookup, hroute⟩
    · rintro (⟨other, routes, hlookup, hroute⟩ | ⟨rfl, -⟩)
      · by_cases hother : other = vhost
        · subst hother
          refine ⟨other, routes ++ [added], ?_, List.mem_append_left _ hroute⟩
          rw [AList.lookup_insert, hlookup, Option.getD_some]
        · exact ⟨other, routes, by rw [AList.lookup_insert_ne hother, hlookup], hroute⟩
      · exact ⟨vhost, _, AList.lookup_insert _, List.mem_append_right _ List.mem_cons_self⟩

theorem isGrouped_foldl {added : List EnvoyRoute} :
    ∀ {vhostMap : GoMap String (List EnvoyRoute)},
      IsGrouped (added.foldl addToVhost vhostMap) route ↔
        IsGrouped vhostMap route ∨ (route ∈ added ∧ (routeVhost route).isSome) := by
  induction added with
  | nil => simp
  | cons first rest ih =>
    intro vhostMap
    rw [List.foldl_cons, ih, isGrouped_addToVhost, List.mem_cons]
    by_cases hfirst : route = first
    · subst hfirst
      tauto
    · simp [hfirst]

theorem isGrouped_groupByVhost {routes : List EnvoyRoute} :
    IsGrouped (groupByVhost routes) route ↔ route ∈ routes ∧ (routeVhost route).isSome := by
  rw [groupByVhost, isGrouped_foldl]
  have hstart : ¬ IsGrouped ((∅ : GoMap String (List EnvoyRoute)).insert "*" []) route := by
    rintro ⟨vhost, routes, hlookup, hroute⟩
    rcases lookup_insert_eq_some_iff.mp hlookup with ⟨-, rfl⟩ | ⟨-, hnone⟩
    · cases hroute
    · cases hnone
  rw [or_iff_right hstart]

/-- A route belongs to a configuration when it is built from the runtime
configuration that the stored one transforms to. -/
def BelongsTo (t : Translator) (route : EnvoyRoute) (cfg : StoredConfig) : Prop :=
  ∃ rdc rdcRoute, t.registry.transform cfg = .ok rdc ∧
    rdc.routes.lookup route.name = some rdcRoute ∧
    createRouteFromRDC t.config.toTranslatorConfig route.name rdcRoute rdc = route

def IsLive (cfg : StoredConfig) : Prop :=
  cfg.desiredState ≠ .undeployed ∧ cfg.kind ∈ runtimeKinds

def EnvoySnapshot.HasRoute (snapshot : EnvoySnapshot) (route : EnvoyRoute) : Prop :=
  ∃ host ∈ snapshot.virtualHosts, route ∈ host.routes

theorem count_routeKey (t : RestAPITransformer) (apiData : Api.APIConfigData)
    (operation : Api.Operation) (vhost : String) :
    2 ≤ (t.routeKey apiData operation vhost).toList.count '|' := by
  unfold RestAPITransformer.routeKey generateRouteNameWithDiscriminator
  split <;> simp only [String.toList_append, List.count_append] <;>
    have hbar : "|".toList.count '|' = 1 := rfl
  · omega
  · omega

theorem routeVhost_isSome {registry : Registry} (hkey : route.name ∈ registry.routeKeys cfg) :
    (routeVhost route).isSome := by
  have hcount : 2 ≤ route.name.toList.count '|' := by
    unfold Registry.routeKeys at hkey
    split at hkey <;> split at hkey <;> try exact absurd hkey List.not_mem_nil
    all_goals
      obtain ⟨operation, -, hkey⟩ := List.mem_flatMap.mp hkey
      obtain ⟨vhost, -, hname⟩ := List.mem_map.mp hkey
      rw [← hname]
      exact count_routeKey _ _ _ _
  rw [routeVhost, isSome_getElem?, length_split]
  omega

theorem mem_flatMap_translateConfig {t : Translator}
    (htransform : ∀ cfg ∈ configs, ∃ rdc, t.registry.transform cfg = .ok rdc) :
    route ∈ ((configs.filter (·.desiredState ≠ .undeployed)).zipIdx.map fun job =>
        t.translateConfig (iteration.order (job.2 + 1)) job.1).flatMap (·.1) ↔
      ∃ cfg ∈ configs, IsLive cfg ∧ BelongsTo t route cfg := by
  rw [List.flatMap_map, List.mem_flatMap]
  constructor
  · rintro ⟨⟨cfg, index⟩, hjob, hroute⟩
    have hcfg := List.mem_filter.mp (List.fst_mem_of_mem_zipIdx hjob)
    obtain ⟨rdc, hrdc⟩ := htransform cfg hcfg.1
    obtain ⟨hkind, hmem⟩ := (mem_translateConfig hrdc).mp hroute
    obtain ⟨key, rdcRoute, hlookup, rfl⟩ := mem_runtimeRoutes.mp hmem
    exact ⟨cfg, hcfg.1, ⟨by simpa using hcfg.2, hkind⟩, rdc, rdcRoute, hrdc, hlookup, rfl⟩
  · rintro ⟨cfg, hcfg, ⟨hstate, hkind⟩, rdc, rdcRoute, hrdc, hlookup, hroute⟩
    have hlive : cfg ∈ configs.filter (·.desiredState ≠ .undeployed) :=
      List.mem_filter.mpr ⟨hcfg, by simpa using hstate⟩
    rw [← List.zipIdx_map_fst 0 (configs.filter _)] at hlive
    obtain ⟨job, hjob, rfl⟩ := List.mem_map.mp hlive
    refine ⟨job, hjob, (mem_translateConfig hrdc).mpr ⟨hkind, ?_⟩⟩
    exact mem_runtimeRoutes.mpr ⟨route.name, rdcRoute, hlookup, hroute⟩

theorem hasRoute_iff_isGrouped {t : Translator} (hroute : route ≠ noAPIFound) :
    (t.translateConfigs iteration configs).HasRoute route ↔
      IsGrouped (groupByVhost
        (((configs.filter (·.desiredState ≠ .undeployed)).zipIdx.map fun job =>
          t.translateConfig (iteration.order (job.2 + 1)) job.1).flatMap (·.1))) route := by
  constructor
  · rintro ⟨host, hhost, hmem⟩
    obtain ⟨vhost, -, hvhost⟩ := List.mem_filterMap.mp hhost
    obtain ⟨routes, hlookup, rfl⟩ := Option.map_eq_some_iff.mp hvhost
    refine ⟨vhost, routes, hlookup, ?_⟩
    rcases List.mem_append.mp hmem with hmem | hmem
    · exact mem_sortRoutesByPriority.mp hmem
    · exact absurd (List.mem_singleton.mp hmem) hroute
  · rintro ⟨vhost, routes, hlookup, hmem⟩
    have hkey := AList.mem_keys.mp (AList.lookup_isSome.mp (Option.isSome_of_eq_some hlookup))
    refine ⟨virtualHost t.config vhost routes, ?_,
      List.mem_append_left _ (mem_sortRoutesByPriority.mpr hmem)⟩
    exact List.mem_filterMap.mpr
      ⟨vhost, iteration.mem_order.mpr hkey, by rw [hlookup, Option.map_some]⟩

theorem hasRoute_iff {t : Translator}
    (htransform : ∀ cfg ∈ configs, ∃ rdc, t.registry.transform cfg = .ok rdc)
    (hroute : route ≠ noAPIFound) :
    (t.translateConfigs iteration configs).HasRoute route ↔
      ∃ cfg ∈ configs, IsLive cfg ∧ BelongsTo t route cfg := by
  rw [hasRoute_iff_isGrouped hroute, isGrouped_groupByVhost, mem_flatMap_translateConfig htransform,
    and_iff_left_iff_imp]
  rintro ⟨cfg, -, -, rdc, rdcRoute, hrdc, hlookup, -⟩
  have hmem := AList.lookup_isSome.mp (Option.isSome_of_eq_some hlookup)
  exact routeVhost_isSome (((Registry.transform_ok hrdc).mem_routes _).mp hmem)

theorem hasRoute_of_lookup {t : Translator} (iteration : MapIteration String) {key : String}
    {rdcRoute : Route} (htransform : ∀ cfg ∈ configs, ∃ rdc, t.registry.transform cfg = .ok rdc)
    (hcfg : cfg ∈ configs) (hlive : IsLive cfg) (hrdc : t.registry.transform cfg = .ok rdc)
    (hlookup : rdc.routes.lookup key = some rdcRoute) :
    (t.translateConfigs iteration configs).HasRoute
      (createRouteFromRDC t.config.toTranslatorConfig key rdcRoute rdc) := by
  have hne : createRouteFromRDC t.config.toTranslatorConfig key rdcRoute rdc ≠ noAPIFound := by
    intro heq
    cases congrArg EnvoyRoute.action heq
  exact (hasRoute_iff htransform hne).mpr ⟨cfg, hcfg, hlive, rdc, rdcRoute, hrdc, hlookup, rfl⟩

/-! ## A translator for REST APIs -/

def restTranslator (transformer : RestAPITransformer) : Translator where
  config :=
    { routeTimeoutMs := 60000
      routeIdleTimeoutMs := 300000
      appendMCPResourcePathToBackend := false
      connectTimeoutMs := 5000
      mainVhost := { default := "*", domains := [] }
      sandboxVhost := { default := "sandbox", domains := [] } }
  registry :=
    { restT := transformer
      llmT :=
        { restTransformer := transformer
          derive := fun _ => .error "no derivation"
          getByKindAndHandle := fun _ _ => none } }
  legacy :=
    { validate := fun _ => .error "no legacy path"
      createRoute := fun _ _ => noAPIFound
      createSandboxRoute := fun _ _ => noAPIFound }

end ApiPlatform.Controller.Xds
