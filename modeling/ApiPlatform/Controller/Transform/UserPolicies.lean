import ApiPlatform.Foundation.Selection
import ApiPlatform.Controller.Transform.Tables

/-!
# The policies of an operation

The API-level policies go through a map keyed by their name before they are put
in front of the policies of each operation.  An operation gets the policies
that its API asks for if and only if policies that share a name agree.
-/

namespace ApiPlatform.Controller.Transform

open Foundation
open Controller.Api

namespace RestAPITransformer

variable (t : RestAPITransformer)

/-- What a policy contributes to a chain: nothing if its version does not resolve. -/
def instanceOf (attachedTo : String) (policy : Api.Policy) : Option Policy :=
  match t.resolveVersion policy with
  | .error _ => none
  | .ok resolved => some (convertAPIPolicyToSDK policy attachedTo (majorVersion resolved))

/-- The policies that an API asks for on an operation, in the order of the specification. -/
def userPolicies (apiData : APIConfigData) (operation : Operation) : List Policy :=
  apiData.policies.filterMap (t.instanceOf "api") ++
    operation.policies.filterMap (t.instanceOf "route")

/-- API-level policies of one name are the same instance, or none of them resolves. -/
def NamesakesAgree (policies : List Api.Policy) : Prop :=
  ∀ policy ∈ policies, ∀ other ∈ policies, policy.name = other.name →
    t.instanceOf "api" policy = t.instanceOf "api" other

instance (policies : List Api.Policy) : Decidable (t.NamesakesAgree policies) :=
  inferInstanceAs (Decidable (∀ policy ∈ policies, ∀ other ∈ policies, _ → _))

/-- Operations that share a route key ask for the same policies of their own. -/
def SharedKeysAgree (apiData : APIConfigData) : Prop :=
  ∀ operation ∈ apiData.operations, ∀ other ∈ apiData.operations,
    ∀ vhost ∈ routeVhosts t.routerConfig apiData, ∀ otherVhost ∈ routeVhosts t.routerConfig apiData,
      t.routeKey apiData operation vhost = t.routeKey apiData other otherVhost →
        operation.policies.filterMap (t.instanceOf "route") =
          other.policies.filterMap (t.instanceOf "route")

instance (apiData : APIConfigData) : Decidable (t.SharedKeysAgree apiData) :=
  inferInstanceAs (Decidable (∀ operation ∈ _, ∀ other ∈ _, ∀ vhost ∈ _, ∀ otherVhost ∈ _, _ → _))

/-! ## The map of API-level policies -/

theorem collectAPIPolicies_eq (policies : List Api.Policy) :
    t.collectAPIPolicies policies =
      insertAll ∅ (policies.filterMap fun policy =>
        (t.instanceOf "api" policy).map (Prod.mk policy.name)) := by
  unfold collectAPIPolicies
  generalize (∅ : GoMap String Policy) = start
  induction policies generalizing start with
  | nil => rfl
  | cons policy rest ih =>
    rw [List.foldl_cons, ih]
    cases hresolved : t.resolveVersion policy with
    | error message => simp [instanceOf, hresolved]
    | ok resolved =>
      simp only [instanceOf, hresolved, List.filterMap_cons, Option.map_some]
      rfl

theorem isSome_lookup_of_instanceOf {policies : List Api.Policy} {policy : Api.Policy}
    (hpolicy : policy ∈ policies) (hsome : (t.instanceOf "api" policy).isSome) :
    ((t.collectAPIPolicies policies).lookup policy.name).isSome := by
  obtain ⟨value, hvalue⟩ := Option.isSome_iff_exists.mp hsome
  rw [AList.lookup_isSome, collectAPIPolicies_eq, mem_insertAll]
  refine .inr (List.mem_map.mpr ⟨(policy.name, value), ?_, rfl⟩)
  exact List.mem_filterMap.mpr ⟨policy, hpolicy, by rw [hvalue, Option.map_some]⟩

theorem lookup_collectAPIPolicies {policies : List Api.Policy}
    (hagree : t.NamesakesAgree policies) {policy : Api.Policy} (hpolicy : policy ∈ policies) :
    (t.collectAPIPolicies policies).lookup policy.name = t.instanceOf "api" policy := by
  have hwrites : ∀ write ∈ policies.filterMap (fun policy =>
      (t.instanceOf "api" policy).map (Prod.mk policy.name)),
        write.1 = policy.name → some write.2 = t.instanceOf "api" policy := by
    intro write hwrite hname
    obtain ⟨other, hother, hmap⟩ := List.mem_filterMap.mp hwrite
    obtain ⟨value, hvalue, rfl⟩ := Option.map_eq_some_iff.mp hmap
    rw [← hagree other hother policy hpolicy hname, hvalue]
  cases hinstance : t.instanceOf "api" policy with
  | none =>
    -- no policy of this name resolves, so the map has no entry for it
    rw [AList.lookup_eq_none, collectAPIPolicies_eq, mem_insertAll]
    rintro (hempty | hkey)
    · exact AList.notMem_empty _ hempty
    · obtain ⟨write, hwrite, hname⟩ := List.mem_map.mp hkey
      have hsome := hwrites write hwrite hname
      rw [hinstance] at hsome
      contradiction
  | some value =>
    have hsome := t.isSome_lookup_of_instanceOf hpolicy (by simp [hinstance])
    rw [AList.lookup_isSome, collectAPIPolicies_eq, mem_insertAll,
      or_iff_right (AList.notMem_empty _)] at hsome
    obtain ⟨stored, hlookup, hstored⟩ := exists_lookup_insertAll
      (fun stored => some stored = t.instanceOf "api" policy) hwrites hsome
    rw [collectAPIPolicies_eq, hlookup, hstored, hinstance]

theorem apiPolicies_eq_iff (policies : List Api.Policy) :
    (policies.filterMap fun policy => (t.collectAPIPolicies policies).lookup policy.name) =
        policies.filterMap (t.instanceOf "api") ↔ t.NamesakesAgree policies := by
  rw [filterMap_eq_filterMap_iff fun policy => t.isSome_lookup_of_instanceOf]
  constructor
  · intro hall policy hpolicy other hother hname
    rw [← hall policy hpolicy, ← hall other hother, hname]
  · intro hagree policy hpolicy
    exact t.lookup_collectAPIPolicies hagree hpolicy

/-! ## The chain of an operation -/

theorem injectSystemPolicies_injective (config : Option SystemConfig) :
    Function.Injective fun policies => injectSystemPolicies policies config := by
  intro left right heq
  unfold injectSystemPolicies at heq
  split at heq
  · exact heq
  · split at heq
    · exact (List.cons.inj heq).2
    · exact heq

theorem operationChain_eq_iff (apiData : APIConfigData) (operation : Operation) :
    t.operationChain apiData operation =
        { policies := injectSystemPolicies (t.userPolicies apiData operation) t.systemConfig } ↔
      t.NamesakesAgree apiData.policies := by
  rw [← apiPolicies_eq_iff, operationChain, PolicyChain.mk.injEq,
    (injectSystemPolicies_injective t.systemConfig).eq_iff, userPolicies]
  exact List.append_left_inj _

variable {t} {apiData : APIConfigData}

theorem lookup_chainWrites {operations : List Operation} {operation : Operation} {vhost : String}
    (hoperation : operation ∈ operations) (hvhost : vhost ∈ routeVhosts t.routerConfig apiData) :
    ∃ writer ∈ operations, ∃ other ∈ routeVhosts t.routerConfig apiData,
      t.routeKey apiData writer other = t.routeKey apiData operation vhost ∧
        (insertAll ∅ (t.chainWrites apiData operations)).lookup
          (t.routeKey apiData operation vhost) = some (t.operationChain apiData writer) := by
  have hwrite : (t.routeKey apiData operation vhost, t.operationChain apiData operation) ∈
      t.chainWrites apiData operations :=
    List.mem_flatMap.mpr ⟨operation, hoperation, List.mem_map.mpr ⟨vhost, hvhost, rfl⟩⟩
  obtain ⟨chain, hlookup, writer, hwriter, other, hother, hwritten, rfl⟩ := exists_lookup_insertAll
    (fun chain => ∃ writer ∈ operations, ∃ other ∈ routeVhosts t.routerConfig apiData,
      t.routeKey apiData writer other = t.routeKey apiData operation vhost ∧
        chain = t.operationChain apiData writer)
    (fun write hwrite hname => by
      obtain ⟨writer, hwriter, hmap⟩ := List.mem_flatMap.mp hwrite
      obtain ⟨other, hother, rfl⟩ := List.mem_map.mp hmap
      exact ⟨writer, hwriter, other, hother, hname, rfl⟩) (List.mem_map.mpr ⟨_, hwrite, rfl⟩)
  exact ⟨writer, hwriter, other, hother, hwritten, hlookup⟩

theorem exists_routeVhost (router : RouterConfig) (apiData : APIConfigData) :
    ∃ vhost, vhost ∈ routeVhosts router apiData := by
  obtain ⟨vhost, hvhost⟩ := List.exists_mem_of_ne_nil _ (mainVhosts_ne_nil router apiData)
  exact ⟨vhost, List.mem_append_left _ hvhost⟩

end RestAPITransformer

section Chains

open RestAPITransformer

/-- Every operation gets the policies that the API asks for if and only if the API-level policies of
one name agree, and so do operations of one route key. -/
theorem transform_user_policies_iff (t : RestAPITransformer) (cfg : StoredConfig) (api : RestAPI)
    (rdc : RuntimeDeployConfig) (hconfiguration : cfg.configuration = .restAPI api)
    (hok : t.transform cfg = .ok rdc) :
    (∀ operation ∈ api.spec.operations, ∀ vhost ∈ routeVhosts t.routerConfig api.spec,
        rdc.policyChains.lookup (t.routeKey api.spec operation vhost) =
          some { policies :=
            injectSystemPolicies (t.userPolicies api.spec operation) t.systemConfig }) ↔
      api.spec.operations = [] ∨
        t.NamesakesAgree api.spec.policies ∧ t.SharedKeysAgree api.spec := by
  rw [RestAPITransformer.transform, hconfiguration] at hok
  obtain ⟨mainUpstream, apiTimeouts, clusters, hsteps⟩ := transformSpec_steps hok
  rw [hsteps.policyChains_eq]
  constructor
  · intro hall
    refine or_iff_not_imp_left.mpr fun hoperations => ⟨?_, ?_⟩
    · obtain ⟨operation, hoperation⟩ := List.exists_mem_of_ne_nil _ hoperations
      obtain ⟨vhost, hvhost⟩ := exists_routeVhost t.routerConfig api.spec
      obtain ⟨writer, hwriter, other, hother, hkey, hlookup⟩ :=
        lookup_chainWrites hoperation hvhost
      have hchain := hall writer hwriter other hother
      rw [hkey, hlookup] at hchain
      exact (t.operationChain_eq_iff api.spec writer).mp (Option.some.inj hchain)
    · intro operation hoperation other hother vhost hvhost otherVhost hotherVhost hkey
      have hchain := hall operation hoperation vhost hvhost
      rw [hkey, hall other hother otherVhost hotherVhost, Option.some.injEq,
        PolicyChain.mk.injEq, (injectSystemPolicies_injective t.systemConfig).eq_iff] at hchain
      exact (List.append_cancel_left hchain).symm
  · rintro (hnil | ⟨hagree, hkeys⟩) operation hoperation vhost hvhost
    · rw [hnil] at hoperation
      cases hoperation
    · obtain ⟨writer, hwriter, other, hother, hkey, hlookup⟩ :=
        lookup_chainWrites hoperation hvhost
      rw [hlookup, (t.operationChain_eq_iff api.spec writer).mpr hagree, userPolicies, userPolicies,
        hkeys writer hwriter operation hoperation other hother vhost hvhost hkey]

/-! ## Two policies of one name -/

def setHeader (header : String) : Api.Policy :=
  { name := "set-headers", version := "v1", params := AList.insert "header" (.text header) ∅
    executionCondition := none }

def headersConfig (first second : String) : StoredConfig :=
  backendConfig "shop"
    (backendSpec "http://backend" [setHeader first, setHeader second] [getItems])

def setHeaderInstance (header : String) : Policy :=
  convertAPIPolicyToSDK (setHeader header) "api" "v1"

theorem equal_headers_kept :
    ∃ rdc, backendTransformer.transform (headersConfig "x" "x") = .ok rdc ∧
      rdc.policyChains.lookup "GET|/shop/items|*" =
        some { policies := [setHeaderInstance "x", setHeaderInstance "x"] } := by
  obtain ⟨rdc, htransform⟩ := exists_ok_of_isOk
    (by decide +kernel : (backendTransformer.transform (headersConfig "x" "x")).isOk = true)
  have htheorem := (transform_user_policies_iff backendTransformer (headersConfig "x" "x") _ rdc
    rfl htransform).mpr (.inr (by decide +kernel))
  have hchain := htheorem getItems List.mem_cons_self "*" (by decide +kernel)
  have hpolicies : injectSystemPolicies (backendTransformer.userPolicies
      (backendSpec "http://backend" [setHeader "x", setHeader "x"] [getItems]) getItems) none =
        [setHeaderInstance "x", setHeaderInstance "x"] := by decide +kernel
  exact ⟨rdc, htransform, hchain.trans (by rw [← hpolicies]; rfl)⟩

/-- Of two `set-headers` policies the second one is applied twice and the first one is lost. -/
theorem first_of_two_headers_lost :
    ∃ rdc, backendTransformer.transform (headersConfig "x" "y") = .ok rdc ∧
      rdc.policyChains.lookup "GET|/shop/items|*" =
        some { policies := [setHeaderInstance "y", setHeaderInstance "y"] } ∧
      backendTransformer.userPolicies
          (backendSpec "http://backend" [setHeader "x", setHeader "y"] [getItems]) getItems =
        [setHeaderInstance "x", setHeaderInstance "y"] ∧
      setHeaderInstance "x" ≠ setHeaderInstance "y" := by
  refine exists_ok_of_any (by decide +kernel) fun rdc _ _ => ?_
  exact ⟨by decide +kernel, by decide +kernel⟩

end Chains

end ApiPlatform.Controller.Transform
