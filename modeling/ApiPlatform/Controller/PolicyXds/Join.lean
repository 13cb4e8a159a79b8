import ApiPlatform.Controller.PolicyXds.Snapshot

/-!
# Joining routes with policies

The policy engine finds the policies of a request under the name of the Envoy
route that was picked.  Every live route meets the policies and the metadata of
its own API, whatever the order of the stores, exactly when no other stored
configuration, deployed or not, has one of its route keys.
-/

namespace ApiPlatform.Controller.PolicyXds

open Foundation
open Controller.Transform
open Controller.Xds

variable {kind : String} {iteration : MapIteration String} {store : RuntimeConfigStore}

variable {registry : Registry} {cfg : StoredConfig} {rdc : RuntimeDeployConfig} {key : String}

/-- The configurations in the store: identifiers are unique, and so are handles
among the configurations of one kind. -/
structure StoredConfigs where
  configs : List StoredConfig
  uuid_unique : ∀ cfg ∈ configs, ∀ other ∈ configs, cfg.uuid = other.uuid → cfg = other
  handle_unique : ∀ cfg ∈ configs, ∀ other ∈ configs,
    cfg.kind = other.kind → cfg.handle = other.handle → cfg = other

/-! ## The runtime store holds every configuration -/

theorem kind_handle_of_storeKey {handle kind' handle' : String} (hkind : ':' ∉ kind.toList)
    (hkind' : ':' ∉ kind'.toList) (hkey : storeKey kind handle = storeKey kind' handle') :
    kind = kind' ∧ handle = handle' := by
  have hchars : kind.toList ++ ':' :: handle.toList = kind'.toList ++ ':' :: handle'.toList := by
    have htexts := congrArg String.toList hkey
    simpa [storeKey, String.toList_append] using htexts
  have hstop : ∀ {pre : List Char} (post : List Char), ':' ∉ pre →
      (pre ++ ':' :: post).takeWhile (· != ':') = pre := by
    intro pre post hpre
    have hall : ∀ char ∈ pre, (char != ':') = true := by
      intro char hchar
      have hne : char ≠ ':' := fun heq => hpre (heq ▸ hchar)
      simpa using hne
    rw [List.takeWhile_append_of_pos hall]
    simp
  have hkinds : kind.toList = kind'.toList := by
    rw [← hstop handle.toList hkind, hchars, hstop handle'.toList hkind']
  refine ⟨String.toList_inj.mp hkinds, String.toList_inj.mp ?_⟩
  rw [hkinds] at hchars
  simpa using List.append_cancel_left hchars

theorem colon_not_mem_of_mem_runtimeKinds (hkind : kind ∈ runtimeKinds) : ':' ∉ kind.toList := by
  simp only [runtimeKinds, List.mem_cons, List.not_mem_nil, or_false] at hkind
  rcases hkind with rfl | rfl | rfl | rfl <;> decide

def storeWrite (registry : Registry) (cfg : StoredConfig) :
    Option (String × RuntimeDeployConfig) :=
  if cfg.kind ∈ runtimeKinds then
    (registry.transform cfg).toOption.map fun rdc => (storeKey cfg.kind cfg.handle, rdc)
  else none

theorem updatePoliciesForAPI_eq (registry : Registry) (store : RuntimeConfigStore)
    (cfg : StoredConfig) :
    updatePoliciesForAPI registry store cfg =
      insertAll store (storeWrite registry cfg).toList := by
  by_cases hevent : cfg.kind = "WebSubApi" ∨ cfg.kind = "WebBrokerApi"
  · have hkind : cfg.kind ∉ runtimeKinds := by
      rcases hevent with heq | heq <;> simp [runtimeKinds, heq]
    simp [updatePoliciesForAPI, storeWrite, hevent, hkind, insertAll]
  · rw [updatePoliciesForAPI, if_neg hevent]
    cases htransform : registry.transform cfg with
    | error message =>
      simp [upsertAPIConfig, storeWrite, htransform, bind, Except.bind, Except.mapError,
        Except.toOption, insertAll]
    | ok rdc =>
      have hkind := mem_runtimeKinds_of_transform htransform (fun heq => hevent (Or.inl heq))
      simp [upsertAPIConfig, storeWrite, htransform, hkind, bind, Except.bind, Except.mapError,
        pure, Except.pure, Except.toOption, insertAll]

theorem runtimeStore_eq (registry : Registry) (configs : List StoredConfig) :
    runtimeStore registry configs = insertAll ∅ (configs.filterMap (storeWrite registry)) := by
  have hfold : ∀ store : RuntimeConfigStore,
      configs.foldl (updatePoliciesForAPI registry) store =
        insertAll store (configs.filterMap (storeWrite registry)) := by
    induction configs with
    | nil => exact fun store => rfl
    | cons cfg rest ih =>
      intro store
      rw [List.foldl_cons, ih, updatePoliciesForAPI_eq, ← insertAll_append]
      cases hwrite : storeWrite registry cfg with
      | none => rw [List.filterMap_cons_none hwrite, Option.toList_none, List.nil_append]
      | some write =>
        rw [List.filterMap_cons_some hwrite, Option.toList_some, List.singleton_append]
  exact hfold ∅

theorem storeWrite_eq_some_iff {write : String × RuntimeDeployConfig} :
    storeWrite registry cfg = some write ↔
      cfg.kind ∈ runtimeKinds ∧ registry.transform cfg = .ok write.2 ∧
        write.1 = storeKey cfg.kind cfg.handle := by
  unfold storeWrite
  by_cases hkind : cfg.kind ∈ runtimeKinds
  · rw [if_pos hkind]
    cases htransform : registry.transform cfg with
    | error message => simp [Except.toOption]
    | ok rdc =>
      simp only [Except.toOption, Option.map_some, Option.some.injEq, hkind, true_and,
        Except.ok.injEq]
      constructor
      · rintro rfl
        exact ⟨rfl, rfl⟩
      · rintro ⟨rfl, hkey⟩
        exact Prod.ext hkey.symm rfl
  · simp [hkind]

theorem lookup_runtimeStore {stored : StoredConfigs} (hcfg : cfg ∈ stored.configs)
    (hkind : cfg.kind ∈ runtimeKinds) (htransform : registry.transform cfg = .ok rdc) :
    (runtimeStore registry stored.configs).lookup (storeKey cfg.kind cfg.handle) = some rdc := by
  have hwrite : (storeKey cfg.kind cfg.handle, rdc) ∈
      stored.configs.filterMap (storeWrite registry) :=
    List.mem_filterMap.mpr
      ⟨cfg, hcfg, storeWrite_eq_some_iff.mpr ⟨hkind, htransform, rfl⟩⟩
  -- no other configuration has this kind and handle
  have hall : ∀ write ∈ stored.configs.filterMap (storeWrite registry),
      write.1 = storeKey cfg.kind cfg.handle → write.2 = rdc := by
    intro write hmem hkey
    obtain ⟨other, hother, hotherWrite⟩ := List.mem_filterMap.mp hmem
    obtain ⟨hotherKind, hotherTransform, hotherKey⟩ := storeWrite_eq_some_iff.mp hotherWrite
    obtain ⟨hkindEq, hhandleEq⟩ := kind_handle_of_storeKey
      (colon_not_mem_of_mem_runtimeKinds hotherKind) (colon_not_mem_of_mem_runtimeKinds hkind)
      (hotherKey.symm.trans hkey)
    obtain rfl := stored.handle_unique other hother cfg hcfg hkindEq hhandleEq
    exact Except.ok.inj (hotherTransform.symm.trans htransform)
  rw [runtimeStore_eq]
  obtain ⟨value, hlookup, hvalue⟩ : ∃ value,
      (insertAll ∅ (stored.configs.filterMap (storeWrite registry))).lookup
        (storeKey cfg.kind cfg.handle) = some value ∧ value = rdc :=
    exists_lookup_insertAll _ hall (List.mem_map_of_mem hwrite)
  rw [hlookup, hvalue]

theorem exists_of_lookup_runtimeStore {configs : List StoredConfig}
    (hlookup : (runtimeStore registry configs).lookup key = some rdc) :
    ∃ cfg ∈ configs, cfg.kind ∈ runtimeKinds ∧ registry.transform cfg = .ok rdc := by
  rw [runtimeStore_eq] at hlookup
  by_cases hkey : key ∈ (configs.filterMap (storeWrite registry)).map Prod.fst
  · obtain ⟨value, hvalue, hwrite⟩ : ∃ value,
        (insertAll ∅ (configs.filterMap (storeWrite registry))).lookup key = some value ∧
          ∃ cfg ∈ configs, cfg.kind ∈ runtimeKinds ∧ registry.transform cfg = .ok value := by
      refine exists_lookup_insertAll _ ?_ hkey
      intro write hmem _
      obtain ⟨cfg, hcfg, hcfgWrite⟩ := List.mem_filterMap.mp hmem
      obtain ⟨hkind, htransform, -⟩ := storeWrite_eq_some_iff.mp hcfgWrite
      exact ⟨cfg, hcfg, hkind, htransform⟩
    obtain rfl : rdc = value := Option.some.inj (hlookup.symm.trans hvalue)
    exact hwrite
  · rw [lookup_insertAll_of_not_mem hkey, AList.lookup_empty] at hlookup
    cases hlookup

theorem mem_getAll :
    rdc ∈ getAll iteration store ↔ ∃ key, store.lookup key = some rdc := by
  rw [getAll, List.mem_filterMap]
  constructor
  · rintro ⟨key, -, hlookup⟩
    exact ⟨key, hlookup⟩
  · rintro ⟨key, hlookup⟩
    have hkey := AList.lookup_isSome.mp (Option.isSome_of_eq_some hlookup)
    exact ⟨key, iteration.mem_order.mpr (AList.mem_keys.mp hkey), hlookup⟩

/-! ## The join -/

/-- The snapshot serves, under a route key, the policy chain and the metadata that
a runtime configuration has for it. -/
structure ServedFor (snapshot : PolicySnapshot) (key : String) (rdc : RuntimeDeployConfig) :
    Prop where
  chain : ∃ chain, rdc.policyChains.lookup key = some chain ∧
    snapshot.policyResources.lookup key =
      some (createPolicyChainResource key chain rdc.metadata rdc.sensitiveValues)
  metadata : ∃ route resource, rdc.routes.lookup key = some route ∧
    snapshot.routeResources.lookup key = some resource ∧
    resource.metadata = routeMetadata rdc route

/-- Every route of the Envoy snapshot meets the policies and the metadata of the
API it belongs to. -/
def RoutesMeetOwnPolicies (t : Translator) (configs : List StoredConfig)
    (envoyOrder policyOrder : MapIteration String) : Prop :=
  ∀ route, (t.translateConfigs envoyOrder configs).HasRoute route →
    ∀ cfg ∈ configs, IsLive cfg → BelongsTo t route cfg →
      ∀ rdc, t.registry.transform cfg = .ok rdc →
        ServedFor (updateSnapshot policyOrder (runtimeStore t.registry configs)) route.name rdc

/-- No other stored configuration, live or not, has a route key of a live one. -/
def RouteKeysUnshared (registry : Registry) (configs : List StoredConfig) : Prop :=
  ∀ cfg ∈ configs, IsLive cfg → ∀ other ∈ configs, other.kind ∈ runtimeKinds →
    ∀ key ∈ registry.routeKeys cfg, key ∈ registry.routeKeys other → other = cfg

section Join

variable {t : Translator} {stored : StoredConfigs}

theorem servedFor_of_unshared (hunshared : RouteKeysUnshared t.registry stored.configs)
    (hcfg : cfg ∈ stored.configs) (hlive : IsLive cfg)
    (htransform : t.registry.transform cfg = .ok rdc) (hkey : key ∈ t.registry.routeKeys cfg) :
    ServedFor (updateSnapshot iteration (runtimeStore t.registry stored.configs)) key rdc := by
  have htransformed := Registry.transform_ok htransform
  -- every runtime configuration that has the key is the one of `cfg`
  have hown : ∀ other, other ∈ getAll iteration (runtimeStore t.registry stored.configs) →
      (key ∈ other.routes ∨ key ∈ other.policyChains) → other = rdc := by
    intro other hother hotherKey
    obtain ⟨storedKey, hlookup⟩ := mem_getAll.mp hother
    obtain ⟨otherCfg, hotherCfg, hotherKind, hotherTransform⟩ :=
      exists_of_lookup_runtimeStore hlookup
    have hotherFrom := Registry.transform_ok hotherTransform
    have hshared : key ∈ t.registry.routeKeys otherCfg :=
      hotherKey.elim (hotherFrom.mem_routes key).mp (hotherFrom.mem_policyChains key).mp
    obtain rfl := hunshared cfg hcfg hlive otherCfg hotherCfg hotherKind key hkey hshared
    exact Except.ok.inj (hotherTransform.symm.trans htransform)
  have hmem : rdc ∈ getAll iteration (runtimeStore t.registry stored.configs) :=
    mem_getAll.mpr ⟨_, lookup_runtimeStore hcfg hlive.2 htransform⟩
  constructor
  · exact lookup_policyResources hmem ((htransformed.mem_policyChains key).mpr hkey)
      (fun other hother hotherKey => hown other hother (Or.inr hotherKey))
  · exact lookup_routeResources hmem ((htransformed.mem_routes key).mpr hkey)
      (fun other hother hotherKey => hown other hother (Or.inl hotherKey))

def visitLast (key : String) : MapIteration String where
  order := fun _ keys => keys.filter (· ≠ key) ++ keys.filter (¬ · ≠ key)
  perm := fun _ keys => by
    simpa using List.filter_append_perm (fun other => decide (other ≠ key)) keys

theorem getAll_visitLast (hlookup : store.lookup key = some rdc) :
    ∃ rdcs, getAll (visitLast key) store = rdcs ++ [rdc] := by
  have hkey : key ∈ store.keys :=
    AList.mem_keys.mp (AList.lookup_isSome.mp (Option.isSome_of_eq_some hlookup))
  have hlast : store.keys.filter (fun other => ¬ other ≠ key) = [key] := by
    have heq : store.keys.filter (fun other => ¬ other ≠ key) =
        store.keys.filter (fun other => other == key) := by
      refine List.filter_congr fun other _ => ?_
      rw [Bool.eq_iff_iff]
      simp
    rw [heq, List.filter_beq, List.count_eq_one_of_mem store.keys_nodup hkey, List.replicate_one]
  simp only [getAll, visitLast, List.filterMap_append]
  rw [hlast]
  simp [hlookup]

theorem unshared_of_servedFor
    (htransform : ∀ cfg ∈ stored.configs, ∃ rdc, t.registry.transform cfg = .ok rdc)
    (hmeet : ∀ envoyOrder policyOrder,
      RoutesMeetOwnPolicies t stored.configs envoyOrder policyOrder) :
    RouteKeysUnshared t.registry stored.configs := by
  intro cfg hcfg hlive other hother hotherKind key hkey hotherKey
  obtain ⟨rdc, hrdc⟩ := htransform cfg hcfg
  obtain ⟨otherRdc, hotherRdc⟩ := htransform other hother
  have hfrom := Registry.transform_ok hrdc
  have hotherFrom := Registry.transform_ok hotherRdc
  obtain ⟨rdcRoute, hrdcRoute⟩ := Option.isSome_iff_exists.mp
    (AList.lookup_isSome.mpr ((hfrom.mem_routes key).mpr hkey))
  -- the route of `cfg` under the shared key is in the Envoy snapshot
  have hroute := hasRoute_of_lookup (storedOrder String) htransform hcfg hlive hrdc hrdcRoute
  have hserved := hmeet (storedOrder String) (visitLast (storeKey other.kind other.handle)) _
    hroute cfg hcfg hlive ⟨rdc, rdcRoute, hrdc, hrdcRoute, rfl⟩ rdc hrdc
  -- but when `other` is visited last, its metadata is served there
  obtain ⟨rdcs, hrdcs⟩ := getAll_visitLast (lookup_runtimeStore hother hotherKind hotherRdc)
  obtain ⟨served, resource, -, hresource, hmetadata⟩ := hserved.metadata
  rw [updateSnapshot, hrdcs] at hresource
  obtain ⟨last, hlast, huuid⟩ := lookup_routeResources_of_last
    ((hotherFrom.mem_routes key).mpr hotherKey)
  obtain rfl : last = resource := Option.some.inj (hlast.symm.trans hresource)
  refine stored.uuid_unique other hother cfg hcfg ?_
  calc other.uuid = otherRdc.metadata.uuid := hotherFrom.uuid_eq.symm
    _ = last.metadata.uuid := huuid.symm
    _ = rdc.metadata.uuid := by rw [hmetadata, routeMetadata]
    _ = cfg.uuid := hfrom.uuid_eq

theorem routes_meet_own_policies_iff_unshared (t : Translator) (stored : StoredConfigs)
    (htransform : ∀ cfg ∈ stored.configs, ∃ rdc, t.registry.transform cfg = .ok rdc) :
    (∀ envoyOrder policyOrder, RoutesMeetOwnPolicies t stored.configs envoyOrder policyOrder) ↔
      RouteKeysUnshared t.registry stored.configs := by
  constructor
  · exact unshared_of_servedFor htransform
  · intro hunshared envoyOrder policyOrder route _ cfg hcfg hlive hbelongs rdc hrdc
    obtain ⟨rdc', rdcRoute, hrdc', hlookup, -⟩ := hbelongs
    have hmem := AList.lookup_isSome.mp (Option.isSome_of_eq_some hlookup)
    exact servedFor_of_unshared hunshared hcfg hlive hrdc
      (((Registry.transform_ok hrdc').mem_routes _).mp hmem)

end Join

/-! ## Two APIs -/

def backendTranslator : Translator :=
  restTranslator { backendTransformer with
    policyDefinitions := [{ name := "jwt-auth", version := "v1.0.0" }] }

def itemsAPI (uuid context : String) (state : DesiredState) (policies : List Api.Policy) :
    StoredConfig where
  uuid := uuid
  kind := "RestApi"
  handle := uuid
  displayName := uuid
  version := "v1"
  configuration := .restAPI
    { labels := none
      annotations := none
      spec :=
        { displayName := uuid
          version := "v1"
          context := context
          vhosts := none
          upstreamMain := { url := some "http://backend", ref := none, hostRewrite := none }
          upstreamSandbox := none
          upstreamDefinitions := []
          policies := policies
          resilience := none
          operations :=
            [{ matchBlock := none, method := some "GET", path := some "/items", policies := []
               resilience := none }] } }
  sourceConfiguration := .mcpProxy ""
  desiredState := state
  sensitiveValues := []

def jwtAuth : Api.Policy :=
  { name := "jwt-auth", version := "v1", params := ∅, executionCondition := none }

def shopAnd (context : String) (state : DesiredState) : StoredConfigs where
  configs := [itemsAPI "live" "/shop" .deployed [jwtAuth], itemsAPI "other" context state []]
  uuid_unique := by simp [itemsAPI]
  handle_unique := by simp [itemsAPI]

theorem shop_and_cart_meet_own_policies :
    RouteKeysUnshared backendTranslator.registry (shopAnd "/cart" .deployed).configs ∧
      ∀ envoyOrder policyOrder, RoutesMeetOwnPolicies backendTranslator
        (shopAnd "/cart" .deployed).configs envoyOrder policyOrder := by
  have htransform : ∀ cfg ∈ (shopAnd "/cart" .deployed).configs,
      ∃ rdc, backendTranslator.registry.transform cfg = .ok rdc := by
    intro cfg hcfg
    refine exists_ok_of_isOk ?_
    revert cfg
    decide +kernel
  have hunshared :
      RouteKeysUnshared backendTranslator.registry (shopAnd "/cart" .deployed).configs := by
    intro cfg hcfg _ other hother _ key hkey hotherKey
    simp only [shopAnd, List.mem_cons, List.not_mem_nil, or_false] at hcfg hother
    rcases hcfg with rfl | rfl <;> rcases hother with rfl | rfl
    · rfl
    · exact absurd hotherKey ((by decide +kernel : ∀ key ∈ _, key ∉ _) key hkey)
    · exact absurd hotherKey ((by decide +kernel : ∀ key ∈ _, key ∉ _) key hkey)
    · rfl
  exact ⟨hunshared,
    (routes_meet_own_policies_iff_unshared backendTranslator _ htransform).mpr hunshared⟩

/-- An undeployed API with the same context takes the token policy off the live
route: it is visited last, and its chain is empty. -/
theorem undeployed_shop_serves_live_route :
    ¬ RoutesMeetOwnPolicies backendTranslator (shopAnd "/shop" .undeployed).configs
      (storedOrder String) (visitLast (storeKey "RestApi" "other")) := by
  let configs := (shopAnd "/shop" .undeployed).configs
  let live := itemsAPI "live" "/shop" .deployed [jwtAuth]
  have htransform : ∀ cfg ∈ configs,
      ∃ rdc, backendTranslator.registry.transform cfg = .ok rdc := by
    intro cfg hcfg
    refine exists_ok_of_isOk ?_
    revert cfg
    decide +kernel
  have hcfg : live ∈ configs := List.mem_cons_self
  have hlive : IsLive live := by
    unfold IsLive
    decide
  obtain ⟨rdc, hrdc⟩ := htransform live hcfg
  have hchains : (rdc.policyChains.lookup "GET|/shop/items|*").map (·.policies.length) =
      some 1 := by
    have hcomputed : ((backendTranslator.registry.transform live).toOption.bind fun rdc =>
        (rdc.policyChains.lookup "GET|/shop/items|*").map (·.policies.length)) = some 1 := by
      decide +kernel
    simpa [hrdc, Except.toOption] using hcomputed
  have hserved : ((updateSnapshot (visitLast (storeKey "RestApi" "other"))
      (runtimeStore backendTranslator.registry configs)).policyResources.lookup
        "GET|/shop/items|*").map (·.policies.length) = some 0 := by
    decide +kernel
  obtain ⟨rdcRoute, hrdcRoute⟩ : ∃ route, rdc.routes.lookup "GET|/shop/items|*" = some route := by
    have hkey : "GET|/shop/items|*" ∈ backendTranslator.registry.routeKeys live := by
      decide +kernel
    exact Option.isSome_iff_exists.mp
      (AList.lookup_isSome.mpr (((Registry.transform_ok hrdc).mem_routes _).mpr hkey))
  intro hmeet
  have hroute := hasRoute_of_lookup (storedOrder String) htransform hcfg hlive hrdc hrdcRoute
  obtain ⟨chain, hchain, hresource⟩ :=
    (hmeet _ hroute live hcfg hlive ⟨rdc, rdcRoute, hrdc, hrdcRoute, rfl⟩ rdc hrdc).chain
  simp only [createRouteFromRDC] at hchain hresource
  rw [hresource, Option.map_some, Option.some.injEq] at hserved
  rw [hchain, Option.map_some, Option.some.injEq] at hchains
  exact absurd (hserved.symm.trans hchains) (by decide)

end ApiPlatform.Controller.PolicyXds
