import ApiPlatform.Controller.Transform.Tables

/-!
# The transformer registry

`pkg/transform/llm.go` and `pkg/transform/registry.go`: an LLM provider or proxy
is transformed through the REST API derived from it, every other kind directly.
Whatever the kind, a configuration that transforms has a route and a policy
chain for exactly the route keys of its REST API.
-/

namespace ApiPlatform.Controller.Transform

open Foundation
open Controller.Api

variable {cfg : StoredConfig} {rdc : RuntimeDeployConfig}

/-! ## LLM providers and proxies -/

structure LLMTransformer where
  restTransformer : RestAPITransformer
  derive : Configuration → Except String RestAPI
  getByKindAndHandle : String → String → Option StoredConfig

namespace LLMTransformer

def restAPI (t : LLMTransformer) (cfg : StoredConfig) : Except String RestAPI :=
  match cfg.configuration with
  | .restAPI existing => .ok existing
  | _ =>
    match cfg.sourceConfiguration with
    | .llmProvider _ _ | .llmProxy _ _ _ =>
      (t.derive cfg.sourceConfiguration).mapError ("LLM transformation failed: " ++ ·)
    | _ => .error "unsupported LLM source configuration type"

def extractLLMMetadata (t : LLMTransformer) (cfg : StoredConfig) : Option LLMMetadata :=
  match cfg.sourceConfiguration with
  | .llmProvider name spec => nonEmpty { templateHandle := spec.template, providerName := name }
  | .llmProxy _ providerId _ =>
    match t.getByKindAndHandle "LlmProvider" providerId with
    | none => some { templateHandle := "", providerName := "" }
    | some providerCfg =>
      match providerCfg.sourceConfiguration with
      | .llmProvider name spec =>
        nonEmpty { templateHandle := spec.template, providerName := name }
      | _ => none
  | _ => none
where
  nonEmpty (metadata : LLMMetadata) : Option LLMMetadata :=
    if metadata.templateHandle = "" ∧ metadata.providerName = "" then none else some metadata

def transform (t : LLMTransformer) (cfg : StoredConfig) : Except String RuntimeDeployConfig := do
  let restAPI ← t.restAPI cfg
  let rdc ← (t.restTransformer.transform
    { cfg with configuration := .restAPI restAPI, sensitiveValues := [] }).mapError
      ("RestAPI transformation for LLM failed: " ++ ·)
  pure
    { rdc with
      metadata := { rdc.metadata with kind := cfg.kind, llm := t.extractLLMMetadata cfg }
      sensitiveValues := cfg.sensitiveValues }

end LLMTransformer

/-! ## Dispatch by kind -/

structure Registry where
  restT : RestAPITransformer
  llmT : LLMTransformer

namespace Registry

def transform (registry : Registry) (cfg : StoredConfig) : Except String RuntimeDeployConfig :=
  if cfg.kind ∈ ["RestApi", "WebSubApi", "Mcp"] then registry.restT.transform cfg
  else if cfg.kind ∈ ["LlmProvider", "LlmProxy"] then registry.llmT.transform cfg
  else .error ("unsupported kind for runtime config: " ++ cfg.kind)

/-- The route keys of a stored configuration, as its API's contexts, operations
and virtual hosts determine them. -/
def routeKeys (registry : Registry) (cfg : StoredConfig) : List String :=
  if cfg.kind ∈ ["LlmProvider", "LlmProxy"] then
    match registry.llmT.restAPI cfg with
    | .ok api => registry.llmT.restTransformer.routeKeys api.spec
    | .error _ => []
  else
    match cfg.configuration with
    | .restAPI api => registry.restT.routeKeys api.spec
    | _ => []

end Registry

/-! ## What a successful transformation returns -/

/-- A runtime configuration carries the identity of the stored configuration and
has a route and a policy chain for exactly the given keys. -/
structure TransformedFrom (cfg : StoredConfig) (keys : List String)
    (rdc : RuntimeDeployConfig) : Prop where
  uuid_eq : rdc.metadata.uuid = cfg.uuid
  mem_routes : ∀ key, key ∈ rdc.routes ↔ key ∈ keys
  mem_policyChains : ∀ key, key ∈ rdc.policyChains ↔ key ∈ keys

theorem RestAPITransformer.transformSpec_ok {t : RestAPITransformer} {apiData : APIConfigData}
    (htransform : t.transformSpec cfg apiData = .ok rdc) :
    TransformedFrom cfg (t.routeKeys apiData) rdc := by
  obtain ⟨mainUpstream, apiTimeouts, clusters, hsteps⟩ := transformSpec_steps htransform
  have hwritten : ∀ key, key ∈ insertAll ∅ (t.routeWrites apiData mainUpstream apiTimeouts
      apiData.operations.zipIdx) ↔ key ∈ t.routeKeys apiData := by
    intro key
    rw [mem_insertAll, keys_routeWrites, or_iff_right (AList.notMem_empty key)]
  refine ⟨hsteps.uuid_eq, fun key => ?_, fun key => ?_⟩
  · cases hsteps.sandbox with
    | absent _ _ hroutes => rw [hroutes, hwritten]
    | present _ _ _ _ _ _ hroutes =>
      rw [hroutes, ← hwritten, ← AList.lookup_isSome, lookup_patchSandboxRoutes,
        ← AList.lookup_isSome]
      split
      · rw [Option.isSome_map]
      · rfl
  · rw [hsteps.policyChains_eq, mem_insertAll, keys_chainWrites,
      or_iff_right (AList.notMem_empty key)]

theorem RestAPITransformer.transform_ok {t : RestAPITransformer}
    (htransform : t.transform cfg = .ok rdc) :
    ∃ api, cfg.configuration = .restAPI api ∧ TransformedFrom cfg (t.routeKeys api.spec) rdc := by
  unfold transform at htransform
  split at htransform
  · rename_i api hconfiguration
    exact ⟨api, hconfiguration, transformSpec_ok htransform⟩
  · cases htransform

theorem LLMTransformer.transform_ok {t : LLMTransformer} (htransform : t.transform cfg = .ok rdc) :
    ∃ api, t.restAPI cfg = .ok api ∧
      TransformedFrom cfg (t.restTransformer.routeKeys api.spec) rdc := by
  unfold transform at htransform
  cases hapi : t.restAPI cfg with
  | error message => simp [hapi, bind, Except.bind] at htransform
  | ok api =>
    cases hrest : t.restTransformer.transform
        { cfg with configuration := .restAPI api, sensitiveValues := [] } with
    | error message => simp [hapi, hrest, bind, Except.bind, Except.mapError] at htransform
    | ok derived =>
      simp only [hapi, hrest, bind, Except.bind, Except.mapError, pure, Except.pure,
        Except.ok.injEq] at htransform
      obtain ⟨api', hconfiguration, hderived⟩ := RestAPITransformer.transform_ok hrest
      obtain rfl : api = api' := by simpa using hconfiguration
      refine ⟨api, rfl, ?_⟩
      rw [← htransform]
      exact ⟨hderived.uuid_eq, hderived.mem_routes, hderived.mem_policyChains⟩

theorem Registry.transform_ok {registry : Registry}
    (htransform : registry.transform cfg = .ok rdc) :
    TransformedFrom cfg (registry.routeKeys cfg) rdc := by
  unfold transform at htransform
  unfold routeKeys
  split at htransform
  · rename_i hkind
    have hllm : cfg.kind ∉ ["LlmProvider", "LlmProxy"] := by
      rcases List.mem_cons.mp hkind with heq | hkind
      · simp [heq]
      · rcases List.mem_cons.mp hkind with heq | hkind
        · simp [heq]
        · simp [List.mem_singleton.mp hkind]
    obtain ⟨api, hconfiguration, htransformed⟩ := RestAPITransformer.transform_ok htransform
    rw [if_neg hllm, hconfiguration]
    exact htransformed
  · split at htransform
    · rename_i hllm
      obtain ⟨api, hapi, htransformed⟩ := LLMTransformer.transform_ok htransform
      rw [if_pos hllm, hapi]
      exact htransformed
    · cases htransform

end ApiPlatform.Controller.Transform
