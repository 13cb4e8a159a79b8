import ApiPlatform.Controller.Transform.RouteKeys
import ApiPlatform.Controller.Xds.Snapshot

/-!
# Cluster names

A main or sandbox cluster is named after the host and the port of its upstream.
Such a name is never that of a cluster of the legacy path or of an upstream
definition, and it gives back the slot, the host and the port.  A route of an API
refers to the cluster of its slot.
-/

namespace ApiPlatform.Controller.Xds

open Foundation
open Controller.Api
open Controller.Transform

variable {upstreamName : String} {definitions : List UpstreamDefinition} {cluster : EnvoyCluster}
  {t' : RestAPITransformer} {otherData : APIConfigData} {otherUpstream : UpstreamClusterResult}

variable {library : Library} {config : SnapshotConfig} {route : Route} {key : String}

/-! ## Names -/

inductive Slot where
  | main
  | sandbox
  deriving DecidableEq

def Slot.name : Slot → String
  | .main => "main"
  | .sandbox => "sandbox"

def slotKey (slot : Slot) (hostname : String) (port : Nat) : String :=
  "upstream_" ++ slot.name ++ "_" ++ hostname ++ "_" ++ toString port

/-- The names that are not those of a main or sandbox cluster of the runtime path. -/
def IsOtherName (name : String) : Prop :=
  (∃ rest, name = "cluster_" ++ rest) ∨ ∃ rest, name = "upstream_RestApi_" ++ rest

theorem underscore_not_mem_toString (port : Nat) : '_' ∉ (toString port).toList := by
  simp

theorem toList_slotKey (slot : Slot) (hostname : String) (port : Nat) :
    (slotKey slot hostname port).toList =
      ("upstream_" ++ slot.name ++ "_" ++ hostname).toList ++ '_' :: (toString port).toList := by
  simp [slotKey]

variable {other : Slot}

theorem slotKey_inj {slot : Slot} {hostname otherHostname : String} {port otherPort : Nat}
    (heq : slotKey slot hostname port = slotKey other otherHostname otherPort) :
    slot = other ∧ hostname = otherHostname ∧ port = otherPort := by
  have hchars := congrArg String.toList heq
  rw [toList_slotKey, toList_slotKey] at hchars
  -- the digits of the port are what follows the last underscore
  have hports := congrArg (afterLast '_') hchars
  rw [afterLast_append_cons (underscore_not_mem_toString port),
    afterLast_append_cons (underscore_not_mem_toString otherPort), String.toList_inj] at hports
  cases slot <;> cases other <;> simp_all [Slot.name, String.toList_inj]

theorem slotKey_not_other (slot : Slot) (hostname : String) (port : Nat) :
    ¬ IsOtherName (slotKey slot hostname port) := by
  rintro (⟨rest, heq⟩ | ⟨rest, heq⟩)
  · have hchars := congrArg String.toList heq
    simp [slotKey] at hchars
  · have hchars := congrArg String.toList heq
    cases slot <;> simp [slotKey, Slot.name] at hchars

theorem sanitizeEnvoyClusterName_other (host scheme : String) :
    IsOtherName (sanitizeEnvoyClusterName host scheme) :=
  .inl ⟨scheme ++ ("_" ++ replaceAll (replaceAll host "." "_") ":" "_"), by
    simp [sanitizeEnvoyClusterName, String.append_assoc]⟩

theorem definitionClusterName_other {cfg : StoredConfig} (hkind : cfg.kind = "RestApi")
    (definition : UpstreamDefinition) : IsOtherName (definitionClusterName cfg definition) := by
  refine .inr ⟨cfg.uuid ++ ("_" ++ sanitizeUpstreamDefinitionName definition.name), ?_⟩
  rw [← String.toList_inj, definitionClusterName, hkind]
  simp

theorem resolveUpstreamCluster_other {upstream : Upstream}
    (hok : resolveUpstreamCluster library config upstreamName upstream definitions = .ok cluster) :
    IsOtherName cluster.name := by
  obtain ⟨⟨rawURL, definition⟩, -, hok⟩ := bind_eq_ok.mp hok
  obtain ⟨timeout, -, hok⟩ := bind_eq_ok.mp hok
  obtain ⟨parsedURL, -, hok⟩ := bind_eq_ok.mp hok
  rw [← Except.ok.inj hok]
  exact sanitizeEnvoyClusterName_other _ _

theorem definitionCluster_other {cfg : StoredConfig} (hkind : cfg.kind = "RestApi")
    {definition : UpstreamDefinition}
    (hok : definitionCluster library config cfg definition = .ok cluster) :
    IsOtherName cluster.name := by
  unfold definitionCluster at hok
  dsimp only at hok
  split at hok
  · obtain ⟨_, hthrow, -⟩ := bind_eq_ok.mp hok
    cases hthrow
  obtain ⟨parsedURL, -, hok⟩ := bind_eq_ok.mp hok
  obtain ⟨timeout, -, hok⟩ := bind_eq_ok.mp hok
  rw [← Except.ok.inj hok]
  exact definitionClusterName_other hkind definition

theorem legacySlotClusters_other {apiData : APIConfigData} {clusters : List EnvoyCluster}
    (hok : legacySlotClusters library config apiData = .ok clusters) :
    ∀ cluster ∈ clusters, IsOtherName cluster.name := by
  intro cluster hcluster
  obtain ⟨mainCluster, hmain, hok⟩ := bind_eq_ok.mp hok
  cases hsandbox : apiData.upstreamSandbox with
  | none =>
    rw [hsandbox] at hok
    rw [← Except.ok.inj hok, List.mem_singleton] at hcluster
    rw [hcluster]
    exact resolveUpstreamCluster_other hmain
  | some sandbox =>
    rw [hsandbox] at hok
    obtain ⟨sandboxCluster, hresolved, hok⟩ := bind_eq_ok.mp hok
    rw [← Except.ok.inj hok, List.mem_cons, List.mem_singleton] at hcluster
    rcases hcluster with rfl | rfl
    · exact resolveUpstreamCluster_other hmain
    · exact resolveUpstreamCluster_other hresolved

theorem legacyClusters_other {cfg : StoredConfig} (hkind : cfg.kind = "RestApi")
    {apiData : APIConfigData} {clusters : List EnvoyCluster}
    (hok : legacyClusters library config cfg apiData = .ok clusters) :
    ∀ cluster ∈ clusters, IsOtherName cluster.name := by
  obtain ⟨slots, hslots, hok⟩ := bind_eq_ok.mp hok
  refine foldlM_ok_induction
    (fun _ current => ∀ cluster ∈ current, IsOtherName cluster.name)
    (legacySlotClusters_other hslots) ?_ hok
  intro done definition current next hcurrent hstep cluster hcluster
  obtain ⟨added, hadded, hnext⟩ := bind_eq_ok.mp hstep
  rw [← Except.ok.inj hnext, List.mem_append, List.mem_singleton] at hcluster
  rcases hcluster with hcluster | rfl
  · exact hcurrent cluster hcluster
  · exact definitionCluster_other hkind hadded

/-! ## The upstreams of an API -/

inductive Resolves (t : RestAPITransformer) (apiData : APIConfigData) :
    Slot → UpstreamClusterResult → Prop where
  | main {upstream : UpstreamClusterResult}
      (hresolved : addUpstreamCluster t.library "main" apiData.upstreamMain
        apiData.upstreamDefinitions = .ok upstream) : Resolves t apiData .main upstream
  | sandbox {sandbox : Upstream} {upstream : UpstreamClusterResult}
      (hsandbox : hasSandbox apiData = true) (hupstream : apiData.upstreamSandbox = some sandbox)
      (hresolved : addUpstreamCluster t.library "sandbox" sandbox apiData.upstreamDefinitions =
        .ok upstream) : Resolves t apiData .sandbox upstream

theorem addUpstreamCluster_ok {upstream : Upstream} {result : UpstreamClusterResult}
    (hok : addUpstreamCluster library upstreamName upstream definitions = .ok result) :
    ∃ endpoint : Endpoint, result.cluster.endpoints = [endpoint] ∧ endpoint.weight = none ∧
      result.clusterKey = "upstream_" ++ upstreamName ++ "_" ++ endpoint.host ++ "_" ++
        toString endpoint.port := by
  obtain ⟨⟨rawURL, refBasePath⟩, -, hok⟩ := bind_eq_ok.mp hok
  obtain ⟨parsedURL, -, hok⟩ := bind_eq_ok.mp hok
  refine ⟨⟨parsedURL.hostname, resolvePort parsedURL, none⟩, ?_⟩
  split at hok
  · obtain ⟨connectTimeout, -, hok⟩ := bind_eq_ok.mp hok
    rw [← Except.ok.inj hok]
    exact ⟨rfl, rfl, rfl⟩
  · rw [← Except.ok.inj hok]
    exact ⟨rfl, rfl, rfl⟩

section Resolved

variable {t : RestAPITransformer} {apiData : APIConfigData} {slot : Slot}
  {upstream : UpstreamClusterResult}

section

variable (hresolves : Resolves t apiData slot upstream)
include hresolves

theorem Resolves.key_eq :
    ∃ endpoint : Endpoint, upstream.cluster.endpoints = [endpoint] ∧ endpoint.weight = none ∧
      upstream.clusterKey = slotKey slot endpoint.host endpoint.port := by
  cases hresolves with
  | main hresolved | sandbox _ _ hresolved => exact addUpstreamCluster_ok hresolved

theorem Resolves.unique {other : UpstreamClusterResult} (hother : Resolves t apiData slot other) :
    upstream = other := by
  cases hresolves with
  | main hresolved =>
    cases hother with
    | main hotherResolved => exact Except.ok.inj (hresolved.symm.trans hotherResolved)
  | sandbox _ hupstream hresolved =>
    cases hother with
    | sandbox _ hotherUpstream hotherResolved =>
      obtain rfl := Option.some.inj (hupstream.symm.trans hotherUpstream)
      exact Except.ok.inj (hresolved.symm.trans hotherResolved)

theorem Resolves.key_inj (hother : Resolves t' otherData other otherUpstream)
    (heq : upstream.clusterKey = otherUpstream.clusterKey) :
    slot = other ∧ upstream.cluster.endpoints = otherUpstream.cluster.endpoints := by
  obtain ⟨⟨host, port, weight⟩, hendpoints, rfl, hkey⟩ := hresolves.key_eq
  obtain ⟨⟨otherHost, otherPort, otherWeight⟩, hotherEndpoints, rfl, hotherKey⟩ := hother.key_eq
  rw [hkey, hotherKey] at heq
  obtain ⟨rfl, rfl, rfl⟩ := slotKey_inj heq
  exact ⟨rfl, hendpoints.trans hotherEndpoints.symm⟩

theorem Resolves.key_congr (hother : Resolves t' otherData slot otherUpstream)
    (heq : upstream.cluster.endpoints = otherUpstream.cluster.endpoints) :
    upstream.clusterKey = otherUpstream.clusterKey := by
  obtain ⟨endpoint, hendpoints, -, hkey⟩ := hresolves.key_eq
  obtain ⟨otherEndpoint, hotherEndpoints, -, hotherKey⟩ := hother.key_eq
  rw [hendpoints, hotherEndpoints, List.singleton_inj] at heq
  rw [hkey, hotherKey, heq]

theorem Resolves.not_other :
    ¬ IsOtherName upstream.clusterKey := by
  obtain ⟨endpoint, -, -, hkey⟩ := hresolves.key_eq
  rw [hkey]
  exact slotKey_not_other slot endpoint.host endpoint.port

end

end Resolved

/-! ## The tables of one API -/

/-- A route with the key of an operation on the sandbox host belongs to the sandbox. -/
def routeSlot (t : RestAPITransformer) (apiData : APIConfigData) (key : String) : Slot :=
  if hasSandbox apiData ∧ key ∈ t.sandboxKeys apiData then .sandbox else .main

def referredCluster (route : Route) : String :=
  if route.upstream.useClusterHeader then route.upstream.defaultCluster
  else route.upstream.clusterKey

theorem referredCluster_eq {apiData : APIConfigData} {upstream : UpstreamClusterResult}
    (hroute : route.upstream = slotUpstream apiData upstream) :
    referredCluster route = upstream.clusterKey := by
  rw [referredCluster, hroute, slotUpstream]
  split
  · rfl
  · rfl

section Tables

variable {t : RestAPITransformer} {cfg : StoredConfig} {apiData : APIConfigData}
  {rdc : RuntimeDeployConfig} {mainUpstream : UpstreamClusterResult}
  {apiTimeouts : Option Duration × Option Duration} {clusters : GoMap String UpstreamCluster}

theorem lookup_routeWrites (hlookup : (insertAll ∅ (t.routeWrites apiData mainUpstream apiTimeouts
      apiData.operations.zipIdx)).lookup key = some route) :
    route.upstream = slotUpstream apiData mainUpstream := by
  have hkey : key ∈ (t.routeWrites apiData mainUpstream apiTimeouts
      apiData.operations.zipIdx).map Prod.fst := by
    have hmem := AList.lookup_isSome.mp (Option.isSome_of_eq_some hlookup)
    rwa [mem_insertAll, or_iff_right (AList.notMem_empty key)] at hmem
  obtain ⟨stored, hstored, hupstream⟩ := exists_lookup_insertAll
    (fun route : Route => route.upstream = slotUpstream apiData mainUpstream)
    (fun write hwrite _ => by
      obtain ⟨job, -, hmap⟩ := List.mem_flatMap.mp hwrite
      obtain ⟨vhost, -, rfl⟩ := List.mem_map.mp hmap
      rfl) hkey
  rwa [Option.some.inj (hlookup.symm.trans hstored)]

section

variable (hsteps : TransformSteps t cfg apiData rdc mainUpstream apiTimeouts clusters)
include hsteps

theorem route_upstream_eq (hlookup : rdc.routes.lookup key = some route) :
    ∃ upstream, Resolves t apiData (routeSlot t apiData key) upstream ∧
      route.upstream = slotUpstream apiData upstream := by
  cases hsteps.sandbox with
  | absent habsent _ hroutes =>
    rw [hroutes] at hlookup
    refine ⟨mainUpstream, ?_, lookup_routeWrites hlookup⟩
    rw [routeSlot, if_neg (by simp [habsent])]
    exact .main hsteps.main
  | present sandbox sandboxUpstream hsandbox hupstream hresolved _ hroutes =>
    rw [hroutes, RestAPITransformer.lookup_patchSandboxRoutes,
      ← RestAPITransformer.sandboxKeys] at hlookup
    by_cases hkey : key ∈ t.sandboxKeys apiData
    · rw [routeSlot, if_pos ⟨hsandbox, hkey⟩]
      rw [if_pos hkey] at hlookup
      obtain ⟨original, -, rfl⟩ := Option.map_eq_some_iff.mp hlookup
      exact ⟨sandboxUpstream, .sandbox hsandbox hupstream hresolved, rfl⟩
    · rw [routeSlot, if_neg fun h => hkey h.2]
      rw [if_neg hkey] at hlookup
      exact ⟨mainUpstream, .main hsteps.main, lookup_routeWrites hlookup⟩

theorem lookup_definitions (hkind : cfg.kind = "RestApi") (hkey : ¬ IsOtherName key) :
    clusters.lookup key = ((∅ : GoMap String UpstreamCluster).insert mainUpstream.clusterKey
      mainUpstream.cluster).lookup key := by
  refine foldlM_ok_induction
    (fun _ current => current.lookup key = ((∅ : GoMap String UpstreamCluster).insert
      mainUpstream.clusterKey mainUpstream.cluster).lookup key) rfl ?_ hsteps.definitions
  intro done definition current next hcurrent hstep
  rw [← hcurrent]
  unfold addUpstreamDefinition at hstep
  split at hstep
  · rw [Except.ok.inj hstep]
  split at hstep
  · rw [Except.ok.inj hstep]
  obtain ⟨connectTimeout, -, hstep⟩ := bind_eq_ok.mp hstep
  obtain ⟨targets, -, hstep⟩ := bind_eq_ok.mp hstep
  dsimp only at hstep
  split at hstep
  · obtain ⟨_, hthrow, -⟩ := bind_eq_ok.mp hstep
    cases hthrow
  · rw [← Except.ok.inj hstep]
    refine AList.lookup_insert_ne fun heq => hkey ?_
    rw [heq]
    exact definitionClusterName_other hkind definition

theorem lookup_upstreamClusters (hkind : cfg.kind = "RestApi") {slot : Slot}
    {upstream : UpstreamClusterResult} (hresolves : Resolves t apiData slot upstream) :
    rdc.upstreamClusters.lookup upstream.clusterKey = some upstream.cluster := by
  have hmain : slot = .main →
      clusters.lookup upstream.clusterKey = some upstream.cluster := by
    rintro rfl
    rw [lookup_definitions hsteps hkind hresolves.not_other,
      Resolves.unique hresolves (.main hsteps.main), AList.lookup_insert]
  cases hsteps.sandbox with
  | absent habsent hclusters _ =>
    rw [hclusters]
    cases hresolves with
    | main _ => exact hmain rfl
    | sandbox hsandbox _ _ => simp [habsent] at hsandbox
  | present sandbox sandboxUpstream hsandbox hupstream hresolved hclusters _ =>
    have hpresent : Resolves t apiData .sandbox sandboxUpstream :=
      .sandbox hsandbox hupstream hresolved
    rw [hclusters]
    cases slot with
    | main =>
      rw [AList.lookup_insert_ne fun heq => by cases (hresolves.key_inj hpresent heq).1]
      exact hmain rfl
    | sandbox => rw [hresolves.unique hpresent, AList.lookup_insert]

theorem resolves_of_lookup (hkind : cfg.kind = "RestApi") (hkey : ¬ IsOtherName key)
    {cluster : UpstreamCluster} (hlookup : rdc.upstreamClusters.lookup key = some cluster) :
    ∃ slot upstream, Resolves t apiData slot upstream ∧ key = upstream.clusterKey ∧
      cluster = upstream.cluster := by
  have hmain : clusters.lookup key = some cluster →
      ∃ slot upstream, Resolves t apiData slot upstream ∧ key = upstream.clusterKey ∧
        cluster = upstream.cluster := by
    intro hfound
    rw [lookup_definitions hsteps hkind hkey] at hfound
    rcases lookup_insert_eq_some_iff.mp hfound with ⟨heq, rfl⟩ | ⟨-, hnone⟩
    · exact ⟨.main, mainUpstream, .main hsteps.main, heq, rfl⟩
    · cases hnone
  cases hsteps.sandbox with
  | absent _ hclusters _ => exact hmain (hclusters ▸ hlookup)
  | present sandbox sandboxUpstream hsandbox hupstream hresolved hclusters _ =>
    rw [hclusters] at hlookup
    rcases lookup_insert_eq_some_iff.mp hlookup with ⟨heq, rfl⟩ | ⟨-, hfound⟩
    · exact ⟨.sandbox, sandboxUpstream, .sandbox hsandbox hupstream hresolved, heq, rfl⟩
    · exact hmain hfound

end

variable (t apiData) in
def keyAround (operation : Api.Operation) : String × String :=
  (operation.effectiveMethod ++ "|" ++
      constructFullPath apiData.context apiData.version operation.effectivePath ++ "|",
    if discriminator t.library.digest operation = "" then ""
    else "|" ++ discriminator t.library.digest operation)

theorem toList_routeKey (operation : Api.Operation) (vhost : String) :
    (t.routeKey apiData operation vhost).toList =
      (keyAround t apiData operation).1.toList ++
        (vhost.toList ++ (keyAround t apiData operation).2.toList) := by
  change String.toList (if discriminator t.library.digest operation = "" then _ else _) = _
  unfold keyAround
  split
  · simp
  · simp [discriminator]

/-- Some route of an API with operations belongs to each slot that resolves: the keys on a main
host are not all keys on the sandbox host, whatever texts methods, paths and hosts are. -/
theorem exists_routeSlot
    (hsteps : TransformSteps t cfg apiData rdc mainUpstream apiTimeouts clusters)
    (hoperations : apiData.operations ≠ []) {slot : Slot} {upstream : UpstreamClusterResult}
    (hresolves : Resolves t apiData slot upstream) :
    ∃ key ∈ t.routeKeys apiData, routeSlot t apiData key = slot := by
  cases hresolves with
  | sandbox hsandbox _ _ =>
    obtain ⟨operation, hoperation⟩ := List.exists_mem_of_ne_nil _ hoperations
    refine ⟨t.routeKey apiData operation (effectiveSandboxVhost t.routerConfig apiData), ?_,
      if_pos ⟨hsandbox, List.mem_map.mpr ⟨operation, hoperation, rfl⟩⟩⟩
    refine List.mem_flatMap.mpr ⟨operation, hoperation, List.mem_map.mpr ⟨_, ?_, rfl⟩⟩
    simp [routeVhosts, hsandbox]
  | main _ =>
    obtain ⟨vhost, hvhost⟩ := List.exists_mem_of_ne_nil _ (mainVhosts_ne_nil t.routerConfig apiData)
    by_cases hsandbox : hasSandbox apiData = true
    · have hne : vhost.toList ≠ (effectiveSandboxVhost t.routerConfig apiData).toList := by
        intro heq
        exact hsteps.vhosts_apart ⟨hsandbox, String.toList_inj.mp heq ▸ hvhost⟩
      obtain ⟨operation, hoperation, hapart⟩ := exists_filled_not_mem hoperations
        (fun operation => (keyAround t apiData operation).1.toList)
        (fun operation => (keyAround t apiData operation).2.toList) hne
      refine ⟨t.routeKey apiData operation vhost, List.mem_flatMap.mpr ⟨operation, hoperation,
        List.mem_map.mpr ⟨vhost, List.mem_append_left _ hvhost, rfl⟩⟩, if_neg ?_⟩
      rintro ⟨-, hkey⟩
      obtain ⟨other, hother, heq⟩ := List.mem_map.mp hkey
      refine hapart other hother ?_
      rw [← toList_routeKey, ← toList_routeKey, heq]
    · obtain ⟨operation, hoperation⟩ := List.exists_mem_of_ne_nil _ hoperations
      exact ⟨t.routeKey apiData operation vhost, List.mem_flatMap.mpr ⟨operation, hoperation,
        List.mem_map.mpr ⟨vhost, List.mem_append_left _ hvhost, rfl⟩⟩,
        if_neg fun h => hsandbox h.1⟩

end Tables

end ApiPlatform.Controller.Xds
