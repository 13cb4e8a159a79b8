import ApiPlatform.Controller.Xds.Snapshot

/-!
# The policy snapshot

`pkg/policyxds`: the runtime configurations, stored by kind and handle, become
the policy chain and the route configuration that the policy engine looks up
under the name of an Envoy route.  Unlike the Envoy snapshot, the store keeps
undeployed configurations, and a key that two configurations share is served
for the one that is visited last.
-/

namespace ApiPlatform.Controller.PolicyXds

open Foundation
open Controller.Transform
open Controller.Xds

/-! ## The runtime store -/

abbrev RuntimeConfigStore := GoMap String RuntimeDeployConfig

def storeKey (kind handle : String) : String :=
  kind ++ ":" ++ handle

def upsertAPIConfig (registry : Registry) (store : RuntimeConfigStore) (cfg : StoredConfig) :
    Except String RuntimeConfigStore := do
  let rdc ← (registry.transform cfg).mapError ("failed to transform config: " ++ ·)
  pure (store.insert (storeKey cfg.kind cfg.handle) rdc)

/-- The handler of an API event; the desired state of the API plays no role. -/
def updatePoliciesForAPI (registry : Registry) (store : RuntimeConfigStore) (cfg : StoredConfig) :
    RuntimeConfigStore :=
  if cfg.kind = "WebSubApi" ∨ cfg.kind = "WebBrokerApi" then store
  else
    match upsertAPIConfig registry store cfg with
    | .ok updated => updated
    | .error _ => store

def runtimeStore (registry : Registry) (configs : List StoredConfig) : RuntimeConfigStore :=
  configs.foldl (updatePoliciesForAPI registry) ∅

/-! ## Resources -/

structure PolicyChainResource where
  routeKey : String
  policies : List Policy
  apiName : String
  version : String
  sensitiveValues : List String
  deriving DecidableEq

def createPolicyChainResource (routeKey : String) (chain : PolicyChain) (metadata : Metadata)
    (sensitiveValues : List String) : PolicyChainResource :=
  { routeKey := routeKey
    policies := chain.policies
    apiName := metadata.displayName
    version := metadata.version
    sensitiveValues := sensitiveValues }

structure RouteMetadata where
  uuid : String
  kind : String
  handle : String
  version : String
  displayName : String
  projectID : String
  apiContext : String
  vhost : String
  path : String
  llm : Option LLMMetadata
  deriving DecidableEq

def routeMetadata (rdc : RuntimeDeployConfig) (route : Route) : RouteMetadata :=
  { uuid := rdc.metadata.uuid
    kind := rdc.metadata.kind
    handle := rdc.metadata.handle
    version := rdc.metadata.version
    displayName := rdc.metadata.displayName
    projectID := rdc.metadata.projectID
    apiContext := rdc.context
    vhost := route.vhost
    path := route.operationPath
    llm := rdc.metadata.llm }

structure RouteConfigResource where
  routeKey : String
  metadata : RouteMetadata
  resolverName : String
  upstreamBasePath : String
  upstreamDefinitionPaths : GoMap String String
  defaultUpstreamCluster : Option String
  defaultUpstream : Option UpstreamInfo
  deriving DecidableEq

def upstreamBasePath (rdc : RuntimeDeployConfig) (route : Route) : String :=
  match rdc.upstreamClusters.lookup route.upstream.clusterKey with
  | some cluster => cluster.basePath
  | none => "/"

def upstreamDefPaths (order : List String → List String) (rdc : RuntimeDeployConfig) :
    GoMap String String :=
  insertAll ∅ ((order rdc.upstreamClusters.keys).filterMap fun key =>
    ((rdc.upstreamClusters.lookup key).filter (·.name ≠ "")).map fun cluster =>
      (cluster.name, cluster.basePath))

def createRouteConfigResource (routeKey : String) (rdc : RuntimeDeployConfig) (route : Route)
    (basePath : String) (definitionPaths : GoMap String String) : RouteConfigResource :=
  { routeKey := routeKey
    metadata := routeMetadata rdc route
    resolverName := rdc.policyChainResolver
    upstreamBasePath := basePath
    upstreamDefinitionPaths := definitionPaths
    defaultUpstreamCluster :=
      if route.upstream.useClusterHeader ∧ route.upstream.defaultCluster ≠ "" then
        some route.upstream.defaultCluster
      else none
    defaultUpstream := route.upstream.default }

/-! ## Translation -/

structure PolicySnapshot where
  policyResources : GoMap String PolicyChainResource
  routeResources : GoMap String RouteConfigResource
  deriving DecidableEq

def policyChainWrites (order : List String → List String) (rdc : RuntimeDeployConfig) :
    List (String × PolicyChainResource) :=
  (order rdc.policyChains.keys).filterMap fun key =>
    (rdc.policyChains.lookup key).map fun chain =>
      (key, createPolicyChainResource key chain rdc.metadata rdc.sensitiveValues)

def routeConfigWrites (order : List String → List String)
    (clusterOrder : Nat → List String → List String) (rdc : RuntimeDeployConfig) :
    List (String × RouteConfigResource) :=
  (order rdc.routes.keys).zipIdx.filterMap fun job =>
    (rdc.routes.lookup job.1).map fun route =>
      (job.1, createRouteConfigResource job.1 rdc route (upstreamBasePath rdc route)
        (upstreamDefPaths (clusterOrder job.2) rdc))

/-- The rounds of the iteration are numbered by the runtime configuration and,
within it, by the map that is visited. -/
def translateRuntimeConfigs (iteration : MapIteration String) (rdcs : List RuntimeDeployConfig) :
    PolicySnapshot :=
  { policyResources := insertAll ∅ (rdcs.zipIdx.flatMap fun job =>
      policyChainWrites (iteration.order (Nat.pair (job.2 + 1) 0)) job.1)
    routeResources := insertAll ∅ (rdcs.zipIdx.flatMap fun job =>
      routeConfigWrites (iteration.order (Nat.pair (job.2 + 1) 1))
        (fun index => iteration.order (Nat.pair (job.2 + 1) (index + 2))) job.1) }

def getAll (iteration : MapIteration String) (store : RuntimeConfigStore) :
    List RuntimeDeployConfig :=
  (iteration.order 0 store.keys).filterMap store.lookup

def updateSnapshot (iteration : MapIteration String) (store : RuntimeConfigStore) :
    PolicySnapshot :=
  translateRuntimeConfigs iteration (getAll iteration store)

/-! ## What is written under a key -/

section Writes

variable {rdc : RuntimeDeployConfig} {order : List String → List String}
  {clusterOrder : Nat → List String → List String} {key : String}

theorem mem_policyChainWrites {write : String × PolicyChainResource}
    (hwrite : write ∈ policyChainWrites order rdc) :
    ∃ chain, rdc.policyChains.lookup write.1 = some chain ∧
      write.2 = createPolicyChainResource write.1 chain rdc.metadata rdc.sensitiveValues := by
  obtain ⟨key, -, hkey⟩ := List.mem_filterMap.mp hwrite
  obtain ⟨chain, hlookup, rfl⟩ := Option.map_eq_some_iff.mp hkey
  exact ⟨chain, hlookup, rfl⟩

theorem mem_keys_policyChainWrites (horder : ∀ keys, (order keys).Perm keys)
    (hkey : key ∈ rdc.policyChains) :
    key ∈ (policyChainWrites order rdc).map Prod.fst := by
  obtain ⟨chain, hlookup⟩ := Option.isSome_iff_exists.mp (AList.lookup_isSome.mpr hkey)
  refine List.mem_map.mpr ⟨(key, createPolicyChainResource key chain rdc.metadata
    rdc.sensitiveValues), List.mem_filterMap.mpr ⟨key, ?_, by rw [hlookup, Option.map_some]⟩, rfl⟩
  exact (horder _).mem_iff.mpr (AList.mem_keys.mp hkey)

theorem mem_routeConfigWrites {write : String × RouteConfigResource}
    (hwrite : write ∈ routeConfigWrites order clusterOrder rdc) :
    ∃ route, rdc.routes.lookup write.1 = some route ∧
      write.2.metadata = routeMetadata rdc route := by
  obtain ⟨job, -, hjob⟩ := List.mem_filterMap.mp hwrite
  obtain ⟨route, hlookup, rfl⟩ := Option.map_eq_some_iff.mp hjob
  exact ⟨route, hlookup, rfl⟩

theorem mem_keys_routeConfigWrites (horder : ∀ keys, (order keys).Perm keys)
    (hkey : key ∈ rdc.routes) :
    key ∈ (routeConfigWrites order clusterOrder rdc).map Prod.fst := by
  obtain ⟨route, hlookup⟩ := Option.isSome_iff_exists.mp (AList.lookup_isSome.mpr hkey)
  have hordered : key ∈ order rdc.routes.keys :=
    (horder _).mem_iff.mpr (AList.mem_keys.mp hkey)
  rw [← List.zipIdx_map_fst 0 (order rdc.routes.keys)] at hordered
  obtain ⟨job, hjob, rfl⟩ := List.mem_map.mp hordered
  refine List.mem_map.mpr ⟨(job.1, createRouteConfigResource job.1 rdc route
    (upstreamBasePath rdc route) (upstreamDefPaths (clusterOrder job.2) rdc)),
    List.mem_filterMap.mpr ⟨job, hjob, ?_⟩, rfl⟩
  rw [hlookup, Option.map_some]

end Writes

/-! ## What is served under a key -/

section Served

variable {iteration : MapIteration String} {rdcs : List RuntimeDeployConfig}
  {rdc : RuntimeDeployConfig} {key : String}

theorem exists_job_of_mem (hrdc : rdc ∈ rdcs) : ∃ job ∈ rdcs.zipIdx, job.1 = rdc := by
  rw [← List.zipIdx_map_fst 0 rdcs] at hrdc
  exact List.mem_map.mp hrdc

theorem lookup_policyResources (hrdc : rdc ∈ rdcs) (hkey : key ∈ rdc.policyChains)
    (hown : ∀ other ∈ rdcs, key ∈ other.policyChains → other = rdc) :
    ∃ chain, rdc.policyChains.lookup key = some chain ∧
      (translateRuntimeConfigs iteration rdcs).policyResources.lookup key =
        some (createPolicyChainResource key chain rdc.metadata rdc.sensitiveValues) := by
  obtain ⟨resource, hlookup, chain, hchain, hresource⟩ : ∃ resource,
      (translateRuntimeConfigs iteration rdcs).policyResources.lookup key = some resource ∧
        ∃ chain, rdc.policyChains.lookup key = some chain ∧
          resource = createPolicyChainResource key chain rdc.metadata rdc.sensitiveValues := by
    refine exists_lookup_insertAll _ ?_ ?_
    · intro write hwrite hwriteKey
      obtain ⟨job, hjob, hmem⟩ := List.mem_flatMap.mp hwrite
      obtain ⟨chain, hchain, hresource⟩ := mem_policyChainWrites hmem
      rw [hwriteKey] at hchain hresource
      have hjobKey := AList.lookup_isSome.mp (Option.isSome_of_eq_some hchain)
      rw [hown job.1 (List.fst_mem_of_mem_zipIdx hjob) hjobKey] at hchain hresource
      exact ⟨chain, hchain, hresource⟩
    · obtain ⟨job, hjob, rfl⟩ := exists_job_of_mem hrdc
      rw [List.map_flatMap, List.mem_flatMap]
      exact ⟨job, hjob, mem_keys_policyChainWrites (iteration.perm _) hkey⟩
  exact ⟨chain, hchain, hresource ▸ hlookup⟩

theorem lookup_routeResources (hrdc : rdc ∈ rdcs) (hkey : key ∈ rdc.routes)
    (hown : ∀ other ∈ rdcs, key ∈ other.routes → other = rdc) :
    ∃ route resource, rdc.routes.lookup key = some route ∧
      (translateRuntimeConfigs iteration rdcs).routeResources.lookup key = some resource ∧
      resource.metadata = routeMetadata rdc route := by
  obtain ⟨resource, hlookup, route, hroute, hmetadata⟩ : ∃ resource,
      (translateRuntimeConfigs iteration rdcs).routeResources.lookup key = some resource ∧
        ∃ route, rdc.routes.lookup key = some route ∧
          resource.metadata = routeMetadata rdc route := by
    refine exists_lookup_insertAll _ ?_ ?_
    · intro write hwrite hwriteKey
      obtain ⟨job, hjob, hmem⟩ := List.mem_flatMap.mp hwrite
      obtain ⟨route, hroute, hmetadata⟩ := mem_routeConfigWrites hmem
      rw [hwriteKey] at hroute
      have hjobKey := AList.lookup_isSome.mp (Option.isSome_of_eq_some hroute)
      rw [hown job.1 (List.fst_mem_of_mem_zipIdx hjob) hjobKey] at hroute hmetadata
      exact ⟨route, hroute, hmetadata⟩
    · obtain ⟨job, hjob, rfl⟩ := exists_job_of_mem hrdc
      rw [List.map_flatMap, List.mem_flatMap]
      exact ⟨job, hjob, mem_keys_routeConfigWrites (iteration.perm _) hkey⟩
  exact ⟨route, resource, hroute, hlookup, hmetadata⟩

theorem lookup_routeResources_of_last (hkey : key ∈ rdc.routes) :
    ∃ resource, (translateRuntimeConfigs iteration (rdcs ++ [rdc])).routeResources.lookup key =
        some resource ∧ resource.metadata.uuid = rdc.metadata.uuid := by
  unfold translateRuntimeConfigs
  dsimp only
  rw [List.zipIdx_append, List.flatMap_append, insertAll_append]
  refine exists_lookup_insertAll
    (fun resource : RouteConfigResource => resource.metadata.uuid = rdc.metadata.uuid) ?_ ?_
  · intro write hwrite _
    rw [List.zipIdx_singleton, List.flatMap_singleton] at hwrite
    obtain ⟨route, -, hmetadata⟩ := mem_routeConfigWrites hwrite
    rw [hmetadata, routeMetadata]
  · rw [List.zipIdx_singleton, List.flatMap_singleton]
    exact mem_keys_routeConfigWrites (iteration.perm _) hkey

end Served

end ApiPlatform.Controller.PolicyXds
