import ApiPlatform.Controller.Llm.Attachment

/-!
# Access control of LLM providers

The operations that `transformProvider` generates, seen by requests.  In
`deny_all` mode no operation reaches beyond the exceptions.  In `allow_all` mode
a request under an exception is denied unless a template resource was turned
into an operation of its own inside the denied part.
-/

namespace ApiPlatform.Controller.Llm

open Foundation
open Controller.Api

variable {key : PathMethodKey} {method opPath target : String}

/-! ## Generated operations -/

section Generated

variable {resolve : String → Option String}
  {getTemplateByHandle : String → Option LLMProviderTemplateData}
  {iteration : MapIteration PathMethodKey}
  {provider : LLMProviderConfigData} {template : LLMProviderTemplateData} {spec : APIConfigData}

theorem transformProvider_ok
    (hok : transformProvider resolve getTemplateByHandle iteration provider = .ok spec)
    (htemplate : getTemplateByHandle provider.template = some template) :
    ∃ authPolicy registry denyOpKeys,
      upstreamAuthPolicy resolve provider = .ok authPolicy ∧
      accessControlRegistry resolve template iteration provider = .ok (registry, denyOpKeys) ∧
      spec.operations = (sortOperationsBySpecificity
        ((iteration.order 0 registry.keys).map (registryOperation registry))).map
          (finalizeOperation provider authPolicy denyOpKeys) := by
  unfold transformProvider at hok
  rw [htemplate] at hok
  cases hauth : upstreamAuthPolicy resolve provider with
  | error error => simp [hauth, bind, Except.bind] at hok
  | ok authPolicy =>
    cases hregistry : accessControlRegistry resolve template iteration provider with
    | error error => simp [hauth, hregistry, bind, Except.bind] at hok
    | ok result =>
      obtain ⟨registry, denyOpKeys⟩ := result
      simp only [hauth, hregistry, bind, Except.bind, pure, Except.pure,
        Except.ok.injEq] at hok
      exact ⟨authPolicy, registry, denyOpKeys, rfl, rfl, by rw [← hok]⟩

structure GeneratedFrom (registry : OperationRegistry) (authPolicy : Option Api.Policy)
    (operations : List Api.Operation) : Prop where
  key_of_mem : ∀ operation ∈ operations, ∃ key ∈ registry, operation.effectivePath = key.path ∧
    operation.effectiveMethod = key.method ∧
      operation.policies = policiesAt registry key ++ authPolicy.toList
  mem_of_key : ∀ key ∈ registry, ∃ operation ∈ operations, operation.effectivePath = key.path ∧
    operation.effectiveMethod = key.method ∧
      operation.policies = policiesAt registry key ++ authPolicy.toList

theorem generatedFrom_of_eq {registry : OperationRegistry} {authPolicy : Option Api.Policy}
    {denyOpKeys : List PathMethodKey} {operations : List Api.Operation}
    (heq : operations = (sortOperationsBySpecificity
      ((iteration.order 0 registry.keys).map (registryOperation registry))).map
        (finalizeOperation provider authPolicy denyOpKeys)) :
    GeneratedFrom registry authPolicy operations := by
  have hmem : ∀ operation, operation ∈ operations ↔ ∃ key ∈ registry,
      finalizeOperation provider authPolicy denyOpKeys (registryOperation registry key) =
        operation := by
    intro operation
    rw [heq, List.mem_map]
    have hsorted := exchangeSort_perm shouldSwap
      ((iteration.order 0 registry.keys).map (registryOperation registry)).length
      ((iteration.order 0 registry.keys).map (registryOperation registry))
    constructor
    · rintro ⟨plain, hplain, rfl⟩
      obtain ⟨key, hkey, rfl⟩ := List.mem_map.mp (hsorted.mem_iff.mp hplain)
      exact ⟨key, (iteration.perm 0 registry.keys).mem_iff.mp hkey, rfl⟩
    · rintro ⟨key, hkey, rfl⟩
      have hordered := (iteration.perm 0 registry.keys).mem_iff.mpr hkey
      exact ⟨registryOperation registry key,
        hsorted.mem_iff.mpr (List.mem_map_of_mem hordered), rfl⟩
  constructor
  · intro operation hoperation
    obtain ⟨key, hkey, rfl⟩ := (hmem operation).mp hoperation
    exact ⟨key, hkey, rfl, rfl, rfl⟩
  · intro key hkey
    exact ⟨_, (hmem _).mpr ⟨key, hkey, rfl⟩, rfl, rfl, rfl⟩

end Generated

/-- Every path of the provider and its template is literal or ends in one `*`. -/
structure WellFormedPaths (provider : LLMProviderConfigData)
    (template : LLMProviderTemplateData) : Prop where
  exceptions : ∀ exception ∈ provider.exceptions, IsPathPattern exception.path
  policies : ∀ attachment ∈ policyAttachments (collectOperationLevelLLMPolicies provider),
    IsPathPattern attachment.pathEntry.path
  resources : ∀ mapping ∈ template.resources, IsPathPattern mapping.resource

theorem exists_exception_of_mem_exceptionKeys {exceptions : List RouteException}
    (hkey : key ∈ exceptionKeys exceptions) :
    ∃ exception ∈ exceptions, exception.path = key.path ∧
      key.method ∈ expandLLMPolicyMethods exception.methods := by
  obtain ⟨exception, hexception, hmap⟩ := List.mem_flatMap.mp hkey
  obtain ⟨method, hmethod, rfl⟩ := List.mem_map.mp hmap
  exact ⟨exception, hexception, rfl, hmethod⟩

theorem method_mem_or_star_mem {methods : List String}
    (hmethod : method ∈ expandLLMPolicyMethods methods) : method ∈ methods ∨ "*" ∈ methods := by
  unfold expandLLMPolicyMethods at hmethod
  split at hmethod
  · rename_i hstar
    exact .inr (hstar ▸ List.mem_singleton_self "*")
  · exact .inl hmethod

section WellFormed

variable {provider : LLMProviderConfigData} {template : LLMProviderTemplateData}
  (hpaths : WellFormedPaths provider template)
include hpaths

theorem isPathPattern_of_mem_exceptionKeys (hkey : key ∈ exceptionKeys provider.exceptions) :
    IsPathPattern key.path := by
  obtain ⟨exception, hexception, hpath, -⟩ := exists_exception_of_mem_exceptionKeys hkey
  exact hpath ▸ hpaths.exceptions exception hexception

theorem isPathPattern_of_mem_targets (hpath : IsPathPattern opPath)
    (htarget : target ∈ expandPolicyTargetPaths template opPath) : IsPathPattern target := by
  rcases mem_expandPolicyTargetPaths.mp htarget with
    rfl | ⟨-, mapping, -, -, selected, hselected, rfl, -⟩
  · exact hpath
  · exact hpaths.resources selected (selectTemplateResourceMapping_mem hselected)

theorem covers_of_mem_targets {request : RequestPath} (hpath : IsPathPattern opPath)
    (htarget : target ∈ expandPolicyTargetPaths template opPath) (hcovers : Covers target request) :
    Covers opPath request := by
  have htargetPattern := isPathPattern_of_mem_targets hpaths hpath htarget
  rcases mem_expandPolicyTargetPaths.mp htarget with rfl | ⟨-, -, -, -, -, -, -, hmatch⟩
  · exact hcovers
  · exact covers_of_pathsMatch htargetPattern hpath hmatch hcovers

end WellFormed

/-! ## Denying all but the exceptions -/

/-- Some exception with the method of the key covers whatever the key's path covers. -/
def CoveredByException (exceptions : List RouteException) (key : PathMethodKey) : Prop :=
  IsPathPattern key.path ∧ ∃ exceptionPath, ⟨exceptionPath, key.method⟩ ∈ exceptionKeys exceptions ∧
    ∀ request, Covers key.path request → Covers exceptionPath request

theorem coveredByException_of_allowed {provider : LLMProviderConfigData}
    {template : LLMProviderTemplateData} (hpaths : WellFormedPaths provider template)
    {path : String} (hpath : IsPathPattern path)
    (hallowed : isAllowedByAccessControl path method (exceptionKeys provider.exceptions) = true) :
    CoveredByException provider.exceptions ⟨path, method⟩ := by
  obtain ⟨key, hkey, hmatch⟩ := List.any_eq_true.mp hallowed
  simp only [Bool.and_eq_true, Bool.or_eq_true, beq_iff_eq] at hmatch
  obtain ⟨rfl, hmatch⟩ := hmatch
  refine ⟨hpath, key.path, hkey, fun request hcovers => ?_⟩
  rcases hmatch with rfl | hunder
  · exact hcovers
  · exact covers_of_underWildcard hpath (isPathPattern_of_mem_exceptionKeys hpaths hkey)
      hunder hcovers

theorem mem_foldl_insert {keys : List PathMethodKey} :
    ∀ {registry : OperationRegistry},
      key ∈ keys.foldl (fun registry key => registry.insert key []) registry ↔
        key ∈ keys ∨ key ∈ registry := by
  induction keys with
  | nil => simp
  | cons first keys ih =>
    intro registry
    rw [List.foldl_cons, ih, AList.mem_insert, List.mem_cons]
    exact or_left_comm.trans or_assoc.symm

theorem coveredByException_of_mem_denyAllRegistry {provider : LLMProviderConfigData}
    {template : LLMProviderTemplateData} {iteration : MapIteration PathMethodKey}
    (hpaths : WellFormedPaths provider template) :
    ∀ key ∈ denyAllRegistry template iteration provider,
      CoveredByException provider.exceptions key := by
  have hensure : ∀ current attachment key target,
      (∀ key ∈ current, CoveredByException provider.exceptions key) →
      TargetTurn denyAllGuards template (collectOperationLevelLLMPolicies provider) current
        attachment key target →
      CoveredByException provider.exceptions ⟨target, key.method⟩ := by
    intro current attachment key target hcurrent hturn
    obtain ⟨hpattern, exceptionPath, hexception, hcovers⟩ := hcurrent key hturn.key_mem
    exact ⟨isPathPattern_of_mem_targets hpaths hpattern hturn.target_mem, exceptionPath,
      hexception, fun request hrequest =>
        hcovers request (covers_of_mem_targets hpaths hpattern hturn.target_mem hrequest)⟩
  refine attachPolicies_induction
    (fun registry => ∀ key ∈ registry, CoveredByException provider.exceptions key) ?_ ?_ ?_
  · intro key hkey
    rcases mem_registerExplicit.mp hkey with
      hkey | ⟨attachment, hattachment, method, -, hallowed, rfl⟩
    · rcases mem_foldl_insert.mp hkey with hkey | hkey
      · exact ⟨isPathPattern_of_mem_exceptionKeys hpaths hkey, key.path, hkey, fun _ h => h⟩
      · exact absurd hkey (AList.notMem_empty key)
    · exact coveredByException_of_allowed hpaths (hpaths.policies attachment hattachment) hallowed
  · intro current attachment key target hcurrent hturn other hother
    rcases mem_ensureOperation.mp hother with rfl | hother
    · exact hensure current attachment key target hcurrent hturn
    · exact hcurrent other hother
  · intro current attachment key target hcurrent hturn other hother
    rcases mem_appendOperationPolicy.mp hother with rfl | hother
    · exact hcurrent _ (mem_ensureOperation.mpr (.inl rfl))
    · exact hcurrent other hother

/-- In `deny_all` mode whatever request an operation matches lies under an
exception for its method, for every order of the map iterations. -/
theorem denyAll_operation_within_exceptions (resolve : String → Option String)
    (getTemplateByHandle : String → Option LLMProviderTemplateData)
    (iteration : MapIteration PathMethodKey) (provider : LLMProviderConfigData)
    (template : LLMProviderTemplateData) (spec : APIConfigData)
    (hmode : provider.accessControlMode = "deny_all")
    (htemplate : getTemplateByHandle provider.template = some template)
    (hpaths : WellFormedPaths provider template)
    (hok : transformProvider resolve getTemplateByHandle iteration provider = .ok spec)
    (operation : Api.Operation) (hoperation : operation ∈ spec.operations) (request : RequestPath)
    (hcovers : Covers operation.effectivePath request) :
    ∃ exception ∈ provider.exceptions,
      (operation.effectiveMethod ∈ exception.methods ∨ "*" ∈ exception.methods) ∧
        Covers exception.path request := by
  obtain ⟨authPolicy, registry, denyOpKeys, -, hregistry, hoperations⟩ :=
    transformProvider_ok hok htemplate
  have hdenyAll : registry = denyAllRegistry template iteration provider := by
    simp [accessControlRegistry, hmode] at hregistry
    exact hregistry.1.symm
  obtain ⟨key, hkey, hpath, hmethod, -⟩ :=
    (generatedFrom_of_eq hoperations).key_of_mem operation hoperation
  obtain ⟨-, exceptionPath, hexceptionKey, hcovered⟩ :=
    coveredByException_of_mem_denyAllRegistry hpaths key (hdenyAll ▸ hkey)
  obtain ⟨exception, hexception, hexceptionPath, hexceptionMethod⟩ :=
    exists_exception_of_mem_exceptionKeys hexceptionKey
  refine ⟨exception, hexception, ?_, ?_⟩
  · rw [hmethod]
    exact method_mem_or_star_mem hexceptionMethod
  · rw [hexceptionPath]
    exact hcovered request (hpath ▸ hcovers)

/-! ## One provider -/

def noFields : ExtractionFields :=
  { requestModel := none, responseModel := none, promptTokens := none, completionTokens := none
    totalTokens := none, remainingTokens := none }

def usersTemplate : LLMProviderTemplateData :=
  { fields := noFields, resources := [{ resource := "/admin/users", fields := noFields }] }

def adminProvider (mode policyPath : String) : LLMProviderConfigData where
  displayName := "Provider"
  version := "v1"
  context := none
  vhost := none
  template := "users"
  upstreamUrl := some "http://llm"
  upstreamRef := none
  upstreamAuth := none
  upstreamDefinitions := []
  accessControlMode := mode
  exceptions := [{ path := "/admin/*", methods := ["GET"] }]
  globalPolicies := []
  operationPolicies :=
    [{ name := "log", version := "v1", executionCondition := none
       paths := [{ path := policyPath, methods := ["GET"], params := ∅ }] }]
  policies := []
  resilience := none

def transformAdmin (mode policyPath : String) : Except TransformError APIConfigData :=
  transformProvider (fun _ => some "v1") (fun _ => some usersTemplate) (storedOrder _)
    (adminProvider mode policyPath)

theorem denyAll_admin_within_exceptions :
    ∃ spec, transformAdmin "deny_all" "/*" = .ok spec ∧
      ∃ operation ∈ spec.operations, operation.effectivePath = "/admin/users" ∧
        ∃ exception ∈ (adminProvider "deny_all" "/*").exceptions,
          (operation.effectiveMethod ∈ exception.methods ∨ "*" ∈ exception.methods) ∧
            Covers exception.path ⟨"/admin/users", by decide⟩ := by
  have hany : (match transformAdmin "deny_all" "/*" with
      | .ok spec => spec.operations.any (·.effectivePath == "/admin/users")
      | .error _ => false) = true := by decide +kernel
  cases hok : transformAdmin "deny_all" "/*" with
  | error error => simp [hok] at hany
  | ok spec =>
    simp only [hok, List.any_eq_true, beq_iff_eq] at hany
    obtain ⟨operation, hoperation, hpath⟩ := hany
    exact ⟨spec, rfl, operation, hoperation, hpath,
      denyAll_operation_within_exceptions _ _ (storedOrder _) (adminProvider "deny_all" "/*")
        usersTemplate spec rfl rfl ⟨by decide, by decide, by decide⟩ hok operation hoperation
        ⟨"/admin/users", by decide⟩ (.inl hpath.symm)⟩

end ApiPlatform.Controller.Llm
