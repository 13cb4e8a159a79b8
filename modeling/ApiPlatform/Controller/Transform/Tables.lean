import ApiPlatform.Foundation.Fallible
import ApiPlatform.Controller.Transform.RestApi

/-!
# What the REST API transformer writes

A transformation that succeeds has resolved the main upstream, written one route
and one policy chain for every operation on every virtual host, added the
clusters of the upstream definitions and then re-pointed the routes of the
sandbox host.  `TransformSteps` collects these steps; the tables are given as
lists of writes, in which a later write to a key wins.
-/

namespace ApiPlatform.Controller.Transform

open Foundation
open Controller.Api
open Controller.Xds

variable {mainUpstream : UpstreamClusterResult} {apiTimeouts : Option Duration × Option Duration}
  {tables : RouteTables} {rdc : RuntimeDeployConfig}

/-! ## Virtual hosts -/

theorem mainVhosts_ne_nil (router : RouterConfig) (apiData : APIConfigData) :
    mainVhosts router apiData ≠ [] := by
  unfold mainVhosts
  cases apiData.vhosts with
  | none => simp
  | some vhosts =>
    dsimp only
    split
    · simp
    · assumption

namespace RestAPITransformer

variable (t : RestAPITransformer) (apiData : APIConfigData)

/-! ## Writes -/

def routeTimeout (apiTimeouts : Option Duration × Option Duration) (operation : Operation) :
    Option RouteTimeout :=
  match resolveResilience t.library.parseDuration t.library.quote operation.resilience with
  | .ok timeouts => buildRouteTimeout timeouts.1 apiTimeouts.1 timeouts.2 apiTimeouts.2
  | .error _ => none

def routeWrites (mainUpstream : UpstreamClusterResult)
    (apiTimeouts : Option Duration × Option Duration) (jobs : List (Operation × Nat)) :
    List (String × Route) :=
  jobs.flatMap fun job => (routeVhosts t.routerConfig apiData).map fun vhost =>
    (t.routeKey apiData job.1 vhost,
      mainRoute apiData mainUpstream job.1 job.2 (t.routeTimeout apiTimeouts job.1) vhost)

def chainWrites (operations : List Operation) : List (String × PolicyChain) :=
  operations.flatMap fun operation => (routeVhosts t.routerConfig apiData).map fun vhost =>
    (t.routeKey apiData operation vhost, t.operationChain apiData operation)

theorem keys_routeWrites (mainUpstream : UpstreamClusterResult)
    (apiTimeouts : Option Duration × Option Duration) :
    (t.routeWrites apiData mainUpstream apiTimeouts apiData.operations.zipIdx).map Prod.fst =
      t.routeKeys apiData := by
  have hoperations : apiData.operations.zipIdx.map Prod.fst = apiData.operations :=
    List.zipIdx_map_fst 0 apiData.operations
  rw [routeKeys, ← hoperations, List.flatMap_map, routeWrites, List.map_flatMap]
  simp [Function.comp_def]

theorem keys_chainWrites :
    (t.chainWrites apiData apiData.operations).map Prod.fst = t.routeKeys apiData := by
  simp [chainWrites, routeKeys, List.map_flatMap, Function.comp_def]

variable {t apiData}

theorem addRoutes_eq {operation : Operation} {order : Nat} {timeout : Option RouteTimeout}
    (vhosts : List String) (tables : RouteTables) :
    vhosts.foldl (t.addRoute apiData mainUpstream operation order timeout) tables =
      { routes := insertAll tables.routes (vhosts.map fun vhost =>
          (t.routeKey apiData operation vhost,
            mainRoute apiData mainUpstream operation order timeout vhost))
        policyChains := insertAll tables.policyChains (vhosts.map fun vhost =>
          (t.routeKey apiData operation vhost, t.operationChain apiData operation)) } := by
  induction vhosts generalizing tables with
  | nil => rfl
  | cons vhost rest ih =>
    rw [List.foldl_cons, ih]
    rfl

theorem addOperation_ok {next : RouteTables} {job : Operation × Nat}
    (hstep : t.addOperation apiData mainUpstream apiTimeouts tables job = .ok next) :
    next.routes = insertAll tables.routes (t.routeWrites apiData mainUpstream apiTimeouts [job]) ∧
      next.policyChains = insertAll tables.policyChains (t.chainWrites apiData [job.1]) := by
  obtain ⟨timeouts, hresilience, hnext⟩ := bind_eq_ok.mp hstep
  have htimeouts := mapError_eq_ok.mp hresilience
  have htimeout : t.routeTimeout apiTimeouts job.1 =
      buildRouteTimeout timeouts.1 apiTimeouts.1 timeouts.2 apiTimeouts.2 := by
    simp [routeTimeout, htimeouts]
  have hnext := Except.ok.inj hnext
  rw [← hnext, addRoutes_eq]
  simp [routeWrites, chainWrites, htimeout]

theorem addOperations_ok
    (hrun : apiData.operations.zipIdx.foldlM (t.addOperation apiData mainUpstream apiTimeouts)
      ⟨∅, ∅⟩ = .ok tables) :
    tables.routes =
        insertAll ∅ (t.routeWrites apiData mainUpstream apiTimeouts apiData.operations.zipIdx) ∧
      tables.policyChains = insertAll ∅ (t.chainWrites apiData apiData.operations) := by
  have hinvariant := foldlM_ok_induction
    (fun (done : List (Operation × Nat)) (current : RouteTables) =>
      current.routes = insertAll ∅ (t.routeWrites apiData mainUpstream apiTimeouts done) ∧
        current.policyChains = insertAll ∅ (t.chainWrites apiData (done.map Prod.fst)))
    ⟨rfl, rfl⟩
    (fun done job current next hcurrent hstep => by
      obtain ⟨hroutes, hchains⟩ := addOperation_ok hstep
      rw [hroutes, hchains, hcurrent.1, hcurrent.2, ← insertAll_append, ← insertAll_append]
      simp [routeWrites, chainWrites])
    hrun
  rwa [List.zipIdx_map_fst] at hinvariant

/-! ## The sandbox patch -/

variable (t apiData) in
def sandboxKeys : List String :=
  apiData.operations.map fun operation =>
    t.routeKey apiData operation (effectiveSandboxVhost t.routerConfig apiData)

theorem lookup_patchSandboxRoute (sandbox : Upstream) (sandboxUpstream : UpstreamClusterResult)
    (routes : GoMap String Route) (operation : Operation) (key : String) :
    (t.patchSandboxRoute apiData sandbox sandboxUpstream routes operation).lookup key =
      if key = t.routeKey apiData operation (effectiveSandboxVhost t.routerConfig apiData) then
        (routes.lookup key).map (repointed apiData sandbox sandboxUpstream)
      else routes.lookup key := by
  unfold patchSandboxRoute
  dsimp only
  generalize t.routeKey apiData operation (effectiveSandboxVhost t.routerConfig apiData) = patched
  by_cases hkey : key = patched
  · subst hkey
    cases hroute : routes.lookup key with
    | none => simp [hroute]
    | some route =>
      rw [if_pos rfl, AList.lookup_insert, Option.map_some]
  · rw [if_neg hkey]
    cases routes.lookup patched with
    | none => rfl
    | some route => exact AList.lookup_insert_ne hkey

theorem lookup_patchSandboxRoutes (sandbox : Upstream) (sandboxUpstream : UpstreamClusterResult)
    (key : String) (operations : List Operation) (routes : GoMap String Route) :
    (operations.foldl (t.patchSandboxRoute apiData sandbox sandboxUpstream) routes).lookup key =
      if key ∈ operations.map (fun operation =>
          t.routeKey apiData operation (effectiveSandboxVhost t.routerConfig apiData)) then
        (routes.lookup key).map (repointed apiData sandbox sandboxUpstream)
      else routes.lookup key := by
  induction operations generalizing routes with
  | nil => simp
  | cons operation rest ih =>
    rw [List.foldl_cons, ih, lookup_patchSandboxRoute]
    simp only [List.map_cons, List.mem_cons]
    generalize t.routeKey apiData operation (effectiveSandboxVhost t.routerConfig apiData) =
      patched
    by_cases hkey : key = patched
    · simp only [hkey, true_or, if_true]
      split
      · cases routes.lookup key <;> rfl
      · rfl
    · simp [hkey]

end RestAPITransformer

/-! ## The steps of a transformation -/

/-- The sandbox upstream that is resolved and the tables that it leaves. -/
inductive SandboxStep (t : RestAPITransformer) (apiData : APIConfigData)
    (clusters : GoMap String UpstreamCluster) (routes : GoMap String Route)
    (rdc : RuntimeDeployConfig) : Prop where
  | absent (hsandbox : hasSandbox apiData = false) (hclusters : rdc.upstreamClusters = clusters)
      (hroutes : rdc.routes = routes)
  | present (sandbox : Upstream) (sandboxUpstream : UpstreamClusterResult)
      (hsandbox : hasSandbox apiData = true) (hupstream : apiData.upstreamSandbox = some sandbox)
      (hresolved : addUpstreamCluster t.library "sandbox" sandbox apiData.upstreamDefinitions =
        .ok sandboxUpstream)
      (hclusters : rdc.upstreamClusters =
        clusters.insert sandboxUpstream.clusterKey sandboxUpstream.cluster)
      (hroutes : rdc.routes =
        apiData.operations.foldl (t.patchSandboxRoute apiData sandbox sandboxUpstream) routes)

structure TransformSteps (t : RestAPITransformer) (cfg : StoredConfig) (apiData : APIConfigData)
    (rdc : RuntimeDeployConfig) (mainUpstream : UpstreamClusterResult)
    (apiTimeouts : Option Duration × Option Duration)
    (clusters : GoMap String UpstreamCluster) : Prop where
  uuid_eq : rdc.metadata.uuid = cfg.uuid
  main : addUpstreamCluster t.library "main" apiData.upstreamMain apiData.upstreamDefinitions =
    .ok mainUpstream
  vhosts_apart : ¬ (hasSandbox apiData ∧
    effectiveSandboxVhost t.routerConfig apiData ∈ mainVhosts t.routerConfig apiData)
  definitions : apiData.upstreamDefinitions.foldlM (addUpstreamDefinition t.library cfg)
    ((∅ : GoMap String UpstreamCluster).insert mainUpstream.clusterKey mainUpstream.cluster) =
      .ok clusters
  policyChains_eq : rdc.policyChains = insertAll ∅ (t.chainWrites apiData apiData.operations)
  sandbox : SandboxStep t apiData clusters
    (insertAll ∅ (t.routeWrites apiData mainUpstream apiTimeouts apiData.operations.zipIdx)) rdc

theorem RestAPITransformer.addSandbox_ok {t : RestAPITransformer} {apiData : APIConfigData}
    {clusters : GoMap String UpstreamCluster} {routes : GoMap String Route}
    (hadd : t.addSandbox apiData clusters routes = .ok (rdc.upstreamClusters, rdc.routes)) :
    SandboxStep t apiData clusters routes rdc := by
  unfold addSandbox at hadd
  split at hadd
  · rename_i hnone
    obtain ⟨hclusters, hroutes⟩ := Prod.mk.inj (Except.ok.inj hadd)
    exact .absent (by simp [hasSandbox, hnone]) hclusters.symm hroutes.symm
  · rename_i sandbox hsome
    split at hadd
    · rename_i habsent
      obtain ⟨hclusters, hroutes⟩ := Prod.mk.inj (Except.ok.inj hadd)
      exact .absent (by simpa using habsent) hclusters.symm hroutes.symm
    · rename_i hpresent
      obtain ⟨sandboxUpstream, hresolved, hpatched⟩ := bind_eq_ok.mp hadd
      obtain ⟨hclusters, hroutes⟩ := Prod.mk.inj (Except.ok.inj hpatched)
      exact .present sandbox sandboxUpstream (by simpa using hpresent) hsome
        (mapError_eq_ok.mp hresolved) hclusters.symm hroutes.symm

theorem RestAPITransformer.transformSpec_steps {t : RestAPITransformer} {cfg : StoredConfig}
    {apiData : APIConfigData} (htransform : t.transformSpec cfg apiData = .ok rdc) :
    ∃ mainUpstream apiTimeouts clusters,
      TransformSteps t cfg apiData rdc mainUpstream apiTimeouts clusters := by
  obtain ⟨mainUpstream, hmain, htransform⟩ := bind_eq_ok.mp htransform
  dsimp only at htransform
  split at htransform
  · obtain ⟨_, hthrow, -⟩ := bind_eq_ok.mp htransform
    cases hthrow
  rename_i hapart
  obtain ⟨apiTimeouts, -, htransform⟩ := bind_eq_ok.mp htransform
  obtain ⟨tables, htables, htransform⟩ := bind_eq_ok.mp htransform
  obtain ⟨clusters, hclusters, htransform⟩ := bind_eq_ok.mp htransform
  obtain ⟨patched, hpatched, htransform⟩ := bind_eq_ok.mp htransform
  obtain ⟨hroutes, hchains⟩ := addOperations_ok htables
  have hrdc := Except.ok.inj htransform
  refine ⟨mainUpstream, apiTimeouts, clusters, ?_, mapError_eq_ok.mp hmain, hapart, hclusters, ?_,
    addSandbox_ok ?_⟩
  · rw [← hrdc]
  · rw [← hrdc]
    exact hchains
  · rw [← hroutes, hpatched, ← hrdc]

/-! ## A small transformer -/

/-- As `net/url` reads a text with a scheme, a host, maybe a port, and a path. -/
def readURL (text : String) : URL :=
  let scheme := text.toList.takeWhile (· ≠ ':')
  let rest := text.toList.drop (scheme.length + 3)
  let host := rest.takeWhile (· ≠ '/')
  { scheme := .ofList scheme
    host := .ofList host
    hostname := .ofList (host.takeWhile (· ≠ ':'))
    port := .ofList ((host.dropWhile (· ≠ ':')).drop 1)
    path := .ofList (rest.dropWhile (· ≠ '/')) }

def backendTransformer : RestAPITransformer where
  library :=
    { parseURL := fun text => .ok (readURL text)
      parseDuration := fun _ => .error "no durations"
      formatDuration := fun _ => "0s"
      quote := fun text => "\"" ++ text ++ "\""
      digest := fun text => "#" ++ String.ofList (text.toList.filter (· != '|')) }
  routerConfig := { mainVhostDefault := "*", sandboxVhostDefault := "sandbox" }
  systemConfig := none
  policyDefinitions := [{ name := "set-headers", version := "v1.0.0" }]

def backendSpec (url : String) (policies : List Api.Policy) (operations : List Operation) :
    APIConfigData where
  displayName := "shop"
  version := "v1"
  context := "/shop"
  vhosts := none
  upstreamMain := { url := some url, ref := none, hostRewrite := none }
  upstreamSandbox := none
  upstreamDefinitions := []
  policies := policies
  resilience := none
  operations := operations

def backendConfig (uuid : String) (spec : APIConfigData) : StoredConfig where
  uuid := uuid
  kind := "RestApi"
  handle := uuid
  displayName := spec.displayName
  version := spec.version
  configuration := .restAPI { labels := none, annotations := none, spec := spec }
  sourceConfiguration := .mcpProxy ""
  desiredState := .deployed
  sensitiveValues := []

def getItems : Operation :=
  { matchBlock := none, method := some "GET", path := some "/items", policies := []
    resilience := none }

end ApiPlatform.Controller.Transform
