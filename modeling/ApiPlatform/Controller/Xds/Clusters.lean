import ApiPlatform.Controller.Xds.ClusterNames

/-!
# The clusters of the snapshot

All configurations write their clusters into one map.  The name of a main or
sandbox cluster is made of the host and the port of its upstream; the TLS setting
and the connect timeout are no part of it, so two APIs with one host and port
share a cluster, and the one that is translated last decides.
-/

namespace ApiPlatform.Controller.Xds

open Foundation
open Controller.Api
open Controller.Transform

variable {config : SnapshotConfig} {apiData : APIConfigData} {registry : Registry} {api : RestAPI}
  {configs : List StoredConfig}

variable {cluster : EnvoyCluster} {slot : Slot} {upstream : UpstreamClusterResult}

/-! ## The clusters of the snapshot -/

theorem mem_runtimeClusters {iteration : MapIteration String} {round : Nat}
    {rdc : RuntimeDeployConfig} :
    cluster ∈ runtimeClusters config (iteration.order round) rdc ↔
      ∃ key upstream, rdc.upstreamClusters.lookup key = some upstream ∧
        createClusterFromRDC config key upstream = some cluster := by
  rw [runtimeClusters, List.mem_filterMap]
  constructor
  · rintro ⟨key, -, hkey⟩
    obtain ⟨upstream, hlookup, hcreate⟩ := Option.bind_eq_some_iff.mp hkey
    exact ⟨key, upstream, hlookup, hcreate⟩
  · rintro ⟨key, upstream, hlookup, hcreate⟩
    have hkey : key ∈ rdc.upstreamClusters.keys :=
      AList.mem_keys.mp (AList.lookup_isSome.mp (Option.isSome_of_eq_some hlookup))
    refine ⟨key, iteration.mem_order.mpr hkey, ?_⟩
    rw [hlookup, Option.bind_some, hcreate]

def slotCluster (config : SnapshotConfig) (upstream : UpstreamClusterResult) : EnvoyCluster :=
  { name := upstream.clusterKey
    endpoints := upstream.cluster.endpoints.map (processEndpoint upstream.cluster.tlsEnabled)
    tlsEnabled := upstream.cluster.tlsEnabled
    connectTimeout := effectiveConnectTimeout config upstream.cluster.connectTimeout }

theorem createClusterFromRDC_slot {t : RestAPITransformer} (config : SnapshotConfig)
    (hresolves : Resolves t apiData slot upstream) :
    createClusterFromRDC config upstream.clusterKey upstream.cluster =
      some (slotCluster config upstream) := by
  obtain ⟨endpoint, hendpoints, -, -⟩ := hresolves.key_eq
  simp [createClusterFromRDC, slotCluster, hendpoints]

theorem name_of_createClusterFromRDC {name : String} {upstream : UpstreamCluster}
    (hcreate : createClusterFromRDC config name upstream = some cluster) : cluster.name = name := by
  unfold createClusterFromRDC at hcreate
  split at hcreate
  · cases hcreate
  · rw [← Option.some.inj hcreate]
  · rw [← Option.some.inj hcreate]

def IsServed (t : Translator) (cfg : StoredConfig) (slot : Slot)
    (upstream : UpstreamClusterResult) : Prop :=
  ∃ api, cfg.configuration = .restAPI api ∧ api.spec.operations ≠ [] ∧
    Resolves t.registry.restT api.spec slot upstream

theorem transform_restApi {cfg : StoredConfig} {rdc : RuntimeDeployConfig}
    (hkind : cfg.kind = "RestApi") (htransform : registry.transform cfg = .ok rdc) :
    ∃ api mainUpstream apiTimeouts clusters, cfg.configuration = .restAPI api ∧
      TransformSteps registry.restT cfg api.spec rdc mainUpstream apiTimeouts clusters := by
  rw [Registry.transform, if_pos (by simp [hkind])] at htransform
  unfold RestAPITransformer.transform at htransform
  split at htransform
  · rename_i api hconfiguration
    obtain ⟨mainUpstream, apiTimeouts, clusters, hsteps⟩ :=
      RestAPITransformer.transformSpec_steps htransform
    exact ⟨api, mainUpstream, apiTimeouts, clusters, hconfiguration, hsteps⟩
  · cases htransform

theorem routeKeys_restApi {cfg : StoredConfig} (hkind : cfg.kind = "RestApi")
    (hconfiguration : cfg.configuration = .restAPI api) :
    registry.routeKeys cfg = registry.restT.routeKeys api.spec := by
  rw [Registry.routeKeys, if_neg (by simp [hkind]), hconfiguration]

section Snapshot

variable {t : Translator} {cfg : StoredConfig} {iteration : MapIteration String} {round : Nat}
  {rdc : RuntimeDeployConfig} (hkind : cfg.kind = "RestApi")
  (htransform : t.registry.transform cfg = .ok rdc)
include hkind htransform

theorem operations_ne_nil_of_lookup (hconfiguration : cfg.configuration = .restAPI api)
    {key : String} {route : Route} (hlookup : rdc.routes.lookup key = some route) :
    api.spec.operations ≠ [] := by
  intro hnil
  have hkey := ((Registry.transform_ok htransform).mem_routes key).mp
    (AList.lookup_isSome.mp (Option.isSome_of_eq_some hlookup))
  rw [routeKeys_restApi hkind hconfiguration] at hkey
  simp [RestAPITransformer.routeKeys, hnil] at hkey

theorem mem_clusters_of_isServed (hserved : IsServed t cfg slot upstream) :
    slotCluster t.config upstream ∈ (t.translateConfig (iteration.order round) cfg).2 := by
  obtain ⟨api, hconfiguration, hoperations, hresolves⟩ := hserved
  obtain ⟨api', mainUpstream, apiTimeouts, clusters, hconfiguration', hsteps⟩ :=
    transform_restApi hkind htransform
  obtain rfl : api = api' := by simpa [hconfiguration] using hconfiguration'
  obtain ⟨key, hkey, -⟩ := exists_routeSlot hsteps hoperations hresolves
  rw [← routeKeys_restApi hkind hconfiguration] at hkey
  obtain ⟨route, hroute⟩ := Option.isSome_iff_exists.mp (AList.lookup_isSome.mpr
    (((Registry.transform_ok htransform).mem_routes key).mpr hkey))
  have hroutes : runtimeRoutes t.config rdc ≠ [] :=
    List.ne_nil_of_mem (mem_runtimeRoutes.mpr ⟨key, route, hroute, rfl⟩)
  have hruntime : cfg.kind ∈ runtimeKinds := by simp [runtimeKinds, hkind]
  have hclusters : (t.translateConfig (iteration.order round) cfg).2 =
      runtimeClusters t.config (iteration.order round) rdc := by
    simp [Translator.translateConfig, Translator.runtimePath, htransform, hruntime, hroutes]
  rw [hclusters, mem_runtimeClusters]
  exact ⟨upstream.clusterKey, upstream.cluster, lookup_upstreamClusters hsteps hkind hresolves,
    createClusterFromRDC_slot t.config hresolves⟩

theorem isServed_of_mem_clusters
    (hcluster : cluster ∈ (t.translateConfig (iteration.order round) cfg).2)
    (hname : ¬ IsOtherName cluster.name) :
    ∃ slot upstream, IsServed t cfg slot upstream ∧ cluster = slotCluster t.config upstream := by
  obtain ⟨api, mainUpstream, apiTimeouts, clusters, hconfiguration, hsteps⟩ :=
    transform_restApi hkind htransform
  have hruntime : cfg.kind ∈ runtimeKinds := by simp [runtimeKinds, hkind]
  unfold Translator.translateConfig Translator.runtimePath at hcluster
  rw [if_pos hruntime, htransform] at hcluster
  dsimp only at hcluster
  split at hcluster
  · rename_i hroutes
    obtain ⟨route, hroute⟩ := List.exists_mem_of_ne_nil _ hroutes
    obtain ⟨key, rdcRoute, hlookup, -⟩ := mem_runtimeRoutes.mp hroute
    have hoperations := operations_ne_nil_of_lookup hkind htransform hconfiguration hlookup
    obtain ⟨name, found, hfound, hcreate⟩ := mem_runtimeClusters.mp hcluster
    have hnamed := name_of_createClusterFromRDC hcreate
    obtain ⟨slot, upstream, hresolves, rfl, rfl⟩ :=
      resolves_of_lookup hsteps hkind (hnamed ▸ hname) hfound
    rw [createClusterFromRDC_slot t.config hresolves] at hcreate
    exact ⟨slot, upstream, ⟨api, hconfiguration, hoperations, hresolves⟩,
      (Option.some.inj hcreate).symm⟩
  · -- the legacy path only makes clusters of other names
    split at hcluster
    · rename_i translated htranslated
      rw [translateLegacy, if_neg (by simp [hkind]), translateAPIConfig, hconfiguration]
        at htranslated
      obtain ⟨⟨⟩, -, htranslated⟩ := bind_eq_ok.mp htranslated
      obtain ⟨clusters, hbuilt, htranslated⟩ := bind_eq_ok.mp htranslated
      rw [← Except.ok.inj htranslated] at hcluster
      exact absurd (legacyClusters_other hkind hbuilt cluster hcluster) hname
    · exact absurd hcluster List.not_mem_nil

end Snapshot

def Translator.clusterWrites (t : Translator) (iteration : MapIteration String)
    (configs : List StoredConfig) : List (String × EnvoyCluster) :=
  (((configs.filter (·.desiredState ≠ .undeployed)).zipIdx.map fun job =>
    t.translateConfig (iteration.order (job.2 + 1)) job.1).flatMap (·.2)).map
      fun cluster => (cluster.name, cluster)

theorem mem_clusterWrites {t : Translator} {iteration : MapIteration String}
    {write : String × EnvoyCluster} :
    write ∈ t.clusterWrites iteration configs ↔
      ∃ job ∈ (configs.filter (·.desiredState ≠ .undeployed)).zipIdx,
        write.2 ∈ (t.translateConfig (iteration.order (job.2 + 1)) job.1).2 ∧
          write.1 = write.2.name := by
  simp only [Translator.clusterWrites, List.mem_map, List.mem_flatMap]
  constructor
  · rintro ⟨cluster, ⟨_, ⟨job, hjob, rfl⟩, hcluster⟩, rfl⟩
    exact ⟨job, hjob, hcluster, rfl⟩
  · rintro ⟨job, hjob, hcluster, hname⟩
    exact ⟨write.2, ⟨_, ⟨job, hjob, rfl⟩, hcluster⟩, Prod.ext hname.symm rfl⟩

/-- The cluster that is left under the name of an upstream was written for an upstream of the
same slot with the same host and port. -/
theorem exists_cluster_of_isServed {t : Translator} (iteration : MapIteration String)
    (hkind : ∀ cfg ∈ configs, cfg.kind = "RestApi")
    (htransform : ∀ cfg ∈ configs, ∃ rdc, t.registry.transform cfg = .ok rdc) {cfg : StoredConfig}
    (hcfg : cfg ∈ configs) (hlive : IsLive cfg) (hserved : IsServed t cfg slot upstream) :
    ∃ writer ∈ configs, IsLive writer ∧ ∃ written, IsServed t writer slot written ∧
      written.cluster.endpoints = upstream.cluster.endpoints ∧
        (t.translateConfigs iteration configs).clusters.lookup upstream.clusterKey =
          some (slotCluster t.config written) := by
  obtain ⟨api, -, -, hresolves⟩ := id hserved
  have hkey : upstream.clusterKey ∈ (t.clusterWrites iteration configs).map Prod.fst := by
    have hmem : cfg ∈ configs.filter (·.desiredState ≠ .undeployed) :=
      List.mem_filter.mpr ⟨hcfg, by simpa using hlive.1⟩
    rw [← List.zipIdx_map_fst 0 (configs.filter _)] at hmem
    obtain ⟨job, hjob, rfl⟩ := List.mem_map.mp hmem
    obtain ⟨rdc, hrdc⟩ := htransform job.1 hcfg
    exact List.mem_map.mpr ⟨(upstream.clusterKey, slotCluster t.config upstream),
      mem_clusterWrites.mpr
        ⟨job, hjob, mem_clusters_of_isServed (hkind job.1 hcfg) hrdc hserved, rfl⟩, rfl⟩
  have hwrites : ∀ write ∈ t.clusterWrites iteration configs, write.1 = upstream.clusterKey →
      ∃ writer ∈ configs, IsLive writer ∧ ∃ written, IsServed t writer slot written ∧
        written.cluster.endpoints = upstream.cluster.endpoints ∧
          write.2 = slotCluster t.config written := by
    intro write hwrite hname
    obtain ⟨⟨writer, round⟩, hjob, hcluster, hnamed⟩ := mem_clusterWrites.mp hwrite
    have hwriter := List.mem_filter.mp (List.fst_mem_of_mem_zipIdx hjob)
    obtain ⟨rdc, hrdc⟩ := htransform writer hwriter.1
    have hown : ¬ IsOtherName write.2.name := by
      rw [← hnamed, hname]
      exact hresolves.not_other
    obtain ⟨other, written, hwritten, heq⟩ :=
      isServed_of_mem_clusters (hkind writer hwriter.1) hrdc hcluster hown
    obtain ⟨writerAPI, -, -, hwrittenResolves⟩ := id hwritten
    obtain ⟨rfl, hendpoints⟩ := hwrittenResolves.key_inj hresolves (by
      rw [← hname, hnamed, heq]
      rfl)
    exact ⟨writer, hwriter.1,
      ⟨by simpa using hwriter.2, by simp [runtimeKinds, hkind writer hwriter.1]⟩,
      written, hwritten, hendpoints, heq⟩
  obtain ⟨cluster, hlookup, writer, hwriter, hwriterLive, written, hwritten, hendpoints, rfl⟩ :=
    exists_lookup_insertAll
      (fun cluster => ∃ writer ∈ configs, IsLive writer ∧ ∃ written,
        IsServed t writer slot written ∧
          written.cluster.endpoints = upstream.cluster.endpoints ∧
            cluster = slotCluster t.config written) hwrites hkey
  exact ⟨writer, hwriter, hwriterLive, written, hwritten, hendpoints, hlookup⟩

/-! ## Routes and their upstreams -/

/-- The cluster has the host, the port, the TLS setting and the connect timeout of the upstream. -/
structure EnvoyCluster.Reaches (config : SnapshotConfig) (cluster : EnvoyCluster)
    (upstream : UpstreamClusterResult) : Prop where
  endpoints : cluster.endpoints = upstream.cluster.endpoints
  tls : cluster.tlsEnabled = upstream.cluster.tlsEnabled
  connectTimeout :
    cluster.connectTimeout = effectiveConnectTimeout config upstream.cluster.connectTimeout

/-- Every route of the snapshot refers to a cluster that reaches the main, or the sandbox,
upstream of the API that the route belongs to. -/
def RoutesKeepUpstreams (t : Translator) (iteration : MapIteration String)
    (configs : List StoredConfig) : Prop :=
  ∀ route, (t.translateConfigs iteration configs).HasRoute route →
    ∀ cfg ∈ configs, IsLive cfg → ∀ api rdc rdcRoute, cfg.configuration = .restAPI api →
      t.registry.transform cfg = .ok rdc → rdc.routes.lookup route.name = some rdcRoute →
      createRouteFromRDC t.config.toTranslatorConfig route.name rdcRoute rdc = route →
        ∃ upstream, Resolves t.registry.restT api.spec
            (routeSlot t.registry.restT api.spec route.name) upstream ∧
          ∃ cluster, (t.translateConfigs iteration configs).clusters.lookup
              (referredCluster rdcRoute) = some cluster ∧ cluster.Reaches t.config upstream

/-- Live APIs that share the host and the port of a slot agree on TLS and on the connect timeout,
and no port is replaced by the default of its scheme, as one is that has no 32 bits. -/
structure SharedHostsAgree (t : Translator) (configs : List StoredConfig) : Prop where
  agree : ∀ left ∈ configs, IsLive left → ∀ right ∈ configs, IsLive right →
    ∀ slot upstream other, IsServed t left slot upstream → IsServed t right slot other →
      upstream.cluster.endpoints = other.cluster.endpoints →
        upstream.cluster.tlsEnabled = other.cluster.tlsEnabled ∧
          effectiveConnectTimeout t.config upstream.cluster.connectTimeout =
            effectiveConnectTimeout t.config other.cluster.connectTimeout
  ports : ∀ cfg ∈ configs, IsLive cfg → ∀ slot upstream, IsServed t cfg slot upstream →
    ∀ endpoint ∈ upstream.cluster.endpoints, endpoint.port < 2 ^ 32

theorem map_processEndpoint_eq_iff {t : RestAPITransformer}
    (hresolves : Resolves t apiData slot upstream) (tlsEnabled : Bool) :
    upstream.cluster.endpoints.map (processEndpoint tlsEnabled) = upstream.cluster.endpoints ↔
      ∀ endpoint ∈ upstream.cluster.endpoints, endpoint.port < 2 ^ 32 := by
  obtain ⟨⟨host, port, weight⟩, hendpoints, rfl, -⟩ := hresolves.key_eq
  rw [hendpoints]
  cases tlsEnabled with
  | false | true =>
    simp [processEndpoint]
    omega

def portTranslator : Translator :=
  restTranslator backendTransformer

def shopAndOther (url : String) : List StoredConfig :=
  [backendConfig "shop" (backendSpec "http://backend:8443" [] [getItems]),
    backendConfig "other" { backendSpec url [] [getItems] with context := "/other" }]

theorem shopAndOther_transform (url : String)
    (hok : ∀ cfg ∈ shopAndOther url, (portTranslator.registry.transform cfg).isOk = true) :
    ∀ cfg ∈ shopAndOther url, ∃ rdc, portTranslator.registry.transform cfg = .ok rdc := by
  intro cfg hcfg
  cases hresult : portTranslator.registry.transform cfg with
  | error message =>
    have hcomputed := hok cfg hcfg
    rw [hresult] at hcomputed
    cases hcomputed
  | ok rdc => exact ⟨rdc, rfl⟩

def clearCluster : UpstreamCluster where
  name := ""
  basePath := "/"
  endpoints := [{ host := "backend", port := 8443, weight := none }]
  tlsEnabled := false
  connectTimeout := none

theorem resolves_clear {spec : APIConfigData} (hsandbox : hasSandbox spec = false)
    (hmain : (addUpstreamCluster backendTransformer.library "main" spec.upstreamMain
      spec.upstreamDefinitions).toOption.map (·.cluster) = some clearCluster)
    (hresolves : Resolves backendTransformer spec slot upstream) :
    upstream.cluster = clearCluster := by
  cases hresolves with
  | main hresolved =>
    rw [hresolved] at hmain
    exact Option.some.inj hmain
  | sandbox hpresent _ _ =>
    rw [hsandbox] at hpresent
    contradiction

theorem served_clear {cfg : StoredConfig} (hcfg : cfg ∈ shopAndOther "http://backend:8443")
    (hserved : IsServed portTranslator cfg slot upstream) : upstream.cluster = clearCluster := by
  obtain ⟨api, hconfiguration, -, hresolves⟩ := hserved
  simp only [shopAndOther, List.mem_cons, List.not_mem_nil, or_false] at hcfg
  rcases hcfg with rfl | rfl
  · cases hconfiguration
    exact resolves_clear (by decide +kernel) (by decide +kernel) hresolves
  · cases hconfiguration
    exact resolves_clear (by decide +kernel) (by decide +kernel) hresolves

end ApiPlatform.Controller.Xds
